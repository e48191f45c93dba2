import ViewLayout.Value.Shown

/-!
# Writing JSON

`Json.write` writes a value as a JSON document of ASCII characters, indented by two blanks a level.
Days, moments, octets, sets and knots have no JSON form, nor have integers of too many digits. As
the name of a member a value is written as the text of its JSON form.
-/

namespace ViewLayout.Json

/-- Why a value has no JSON form. -/
inductive Unwritable
  | value (kind : String)
  | key (kind : String)
  | unshowable (cause : Unshowable)
  | circular
deriving DecidableEq

/-- The escape of a unit of sixteen bits. -/
def unitEscape (unit : Nat) : List Char :=
  '\\' :: 'u' :: Text.hexDigits 4 unit

/-- How a code point stands in a text. -/
def escapePoint (point : Nat) : List Char :=
  if point = '"'.toNat then ['\\', '"']
  else if point = '\\'.toNat then ['\\', '\\']
  else if point = '\n'.toNat then ['\\', 'n']
  else if point = '\r'.toNat then ['\\', 'r']
  else if point = '\t'.toNat then ['\\', 't']
  else if point = 0x0c then ['\\', 'f']
  else if point = 0x08 then ['\\', 'b']
  else if 0x20 ≤ point ∧ point < 0x7f then [Char.ofNat point]
  else if point < 0x10000 then unitEscape point
  else
    let above := point - 0x10000
    unitEscape (0xd800 + above / 0x400) ++ unitEscape (0xdc00 + above % 0x400)

/-- A text between quotation marks. -/
def writeText (text : String) : String :=
  String.ofList ('"' :: ((Text.codePoints text.toList).flatMap escapePoint ++ ['"']))

/-- How a number is written. -/
def writeNumber (x : Binary64) : String :=
  DecimalStyle.document.format Magnitude.shortestDigits x

/-- How an integer is written, if it has few enough digits. -/
def writeInteger (value : Int) : Except Unwritable String :=
  match integerText? value with
  | some digits => .ok digits
  | none => .error (.unshowable .integerTooLong)

/-- A value that is no collection and no text, if it has a JSON form. -/
def writeAtom? : Value → Option (Except Unwritable String)
  | .null => some (.ok "null")
  | .bool true => some (.ok "true")
  | .bool false => some (.ok "false")
  | .int value => some (writeInteger value)
  | .float value => some (.ok (writeNumber value))
  | _ => none

/-- The name of a member; a key that is no text is written as one. -/
def memberName (key : Value) : Except Unwritable String :=
  match key with
  | .text name => .ok name
  | _ => (writeAtom? key).getD (.error (.key key.kind))

/-- The break before a line, and its indentation. -/
def lineStart (level : Nat) : String :=
  String.ofList ('\n' :: List.replicate (2 * level) ' ')

/-- The parts of a collection one a line between its brackets, which stand alone if it is empty. -/
def enclose (level : Nat) (opening closing : String) (parts : List String) : String :=
  if parts.isEmpty then opening ++ closing
  else
    let inner := lineStart (level + 1)
    opening ++ inner ++ ("," ++ inner).intercalate parts ++ lineStart level ++ closing

mutual

/-- A value as it is written at a level of nesting. -/
def writeAt (level : Nat) : Value → Except Unwritable String
  | .text value => .ok (writeText value)
  | .list items => do
    let parts ← writeItems (level + 1) items
    .ok (enclose level "[" "]" parts)
  | .tuple items => do
    let parts ← writeItems (level + 1) items
    .ok (enclose level "[" "]" parts)
  | .mapping entries => do
    let parts ← writeMembers (level + 1) entries
    .ok (enclose level "\x7b" "\x7d" parts)
  | .knot _ _ => .error .circular
  | value => (writeAtom? value).getD (.error (.value value.kind))

/-- The items of a list, each as it is written. -/
def writeItems (level : Nat) : List Value → Except Unwritable (List String)
  | [] => .ok []
  | item :: rest => do
    let first ← writeAt level item
    let others ← writeItems level rest
    .ok (first :: others)

/-- The members of a mapping, each as it is written behind its name. -/
def writeMembers (level : Nat) : List (Value × Value) → Except Unwritable (List String)
  | [] => .ok []
  | (key, value) :: rest => do
    let name ← memberName key
    let first ← writeAt level value
    let others ← writeMembers level rest
    .ok ((writeText name ++ ": " ++ first) :: others)

end

/-- **The JSON document of a value.** -/
def write (value : Value) : Except Unwritable String :=
  writeAt 0 value

/-- What is said of a value that cannot be written. -/
def Unwritable.message : Unwritable → String
  | value kind => s!"Object of type {kind} is not JSON serializable"
  | key kind => s!"keys must be str, int, float, bool or None, not {kind}"
  | unshowable cause => cause.message
  | circular => "Circular reference detected"

end ViewLayout.Json
