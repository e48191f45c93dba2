import ViewLayout.Number.Numeral
import ViewLayout.Number.Shortest
import ViewLayout.Text.Quoted
import ViewLayout.Value.Basic

/-!
# Values in messages

How messages show a value: `Value.quoted?` writes it so that its kind can be seen, with texts in
quotes, and `Value.shown?` leaves the quotes of a bare text away. A collection that is met again
inside itself is written as dots between its brackets. An integer of more digits than may be written
keeps a value from being shown.
-/

namespace ViewLayout

/-- Why a value cannot be shown. -/
inductive Unshowable
  | integerTooLong
deriving DecidableEq

/-- What is said of a value that cannot be shown. -/
def Unshowable.message : Unshowable → String
  | integerTooLong =>
    "Exceeds the limit (4300 digits) for integer string conversion; " ++
      "use sys.set_int_max_str_digits() to increase the limit"

/-- An integer in digits, if they are not too many. -/
def integerText? (value : Int) : Option String :=
  if value.natAbs < Nat.pow 10 Numeral.integerDigitLimit then some (toString value) else none

/-- How an octet is shown. -/
def quoteOctet (mark : Char) (octet : UInt8) : List Char :=
  let n := octet.toNat
  if n < 0x7f then Text.quotePoint mark n else '\\' :: 'x' :: Text.hexDigits 2 n

/-- How octets are shown. -/
def quoteOctets (content : List UInt8) : String :=
  let mark := Text.quoteMark (content.map fun octet => Char.ofNat octet.toNat)
  String.ofList ('b' :: mark :: (content.flatMap (quoteOctet mark) ++ [mark]))

/-- A number of minutes as messages quote it: in days, and in seconds that are not negative. -/
def quoteDuration (minutes : Int) : String :=
  let days := minutes.fdiv 1440
  let seconds := minutes.fmod 1440 * 60
  let parts :=
    (if days = 0 then [] else [s!"days={days}"]) ++
      if seconds = 0 then [] else [s!"seconds={seconds}"]
  "datetime.timedelta(" ++ (if parts.isEmpty then "0" else ", ".intercalate parts) ++ ")"

/-- How a shift of minutes is shown. -/
def quoteOffset (offset : Int) : String :=
  if offset = 0 then "datetime.timezone.utc"
  else "datetime.timezone(" ++ quoteDuration offset ++ ")"

/-- How a moment is shown. -/
def quoteMoment (moment : Moment) : String :=
  let numbers :=
    [moment.date.year, moment.date.month, moment.date.day, moment.hour, moment.minute] ++
      if moment.microsecond ≠ 0 then [moment.second, moment.microsecond]
      else if moment.second ≠ 0 then [moment.second]
      else []
  let offset := (moment.offset.map fun offset => "tzinfo=" ++ quoteOffset offset).toList
  "datetime.datetime(" ++ ", ".intercalate (numbers.map toString ++ offset) ++ ")"

namespace Value

/-- What is written for a collection inside itself. -/
def dots : Value → String
  | list _ => "[...]"
  | tuple _ => "(...)"
  | set _ => "set(...)"
  | _ => "\x7b...\x7d"

/-- Parts between brackets. -/
def bracketed (parts : List String) : String :=
  "[" ++ ", ".intercalate parts ++ "]"

/-- The parts of a tuple between its brackets. A single part is followed by a comma. -/
def parenthesized : List String → String
  | [part] => "(" ++ part ++ ",)"
  | parts => "(" ++ ", ".intercalate parts ++ ")"

/-- The parts of a set or a mapping between its brackets. -/
def braced (parts : List String) : String :=
  "\x7b" ++ ", ".intercalate parts ++ "\x7d"

/-- The parts of a set, which has no brackets if it is empty. -/
def setText (parts : List String) : String :=
  if parts.isEmpty then "set()" else braced parts

/-- How the collections of a knot are written: each as a function of how those in it are. -/
abbrev CellForm : Type := (Nat → Option String) → Option String

/-- The text of a collection in a knot, inside the collections that are open around it. The first
argument bounds how many are. -/
def knotText? (cells : List Value) (forms : List CellForm) :
    Nat → List Nat → Nat → Option String
  | 0, _, _ => none
  | fuel + 1, opened, number =>
    if opened.contains number then some ((cells[number]?.map dots).getD "")
    else
      match forms[number]? with
      | some form => form (knotText? cells forms fuel (number :: opened))
      | none => none

mutual

/-- A value as messages quote it, where the collections of a knot around it are written as given. -/
def quotedIn : Value → CellForm
  | null, _ => some "None"
  | bool true, _ => some "True"
  | bool false, _ => some "False"
  | int value, _ => integerText? value
  | float value, _ => some value.toText
  | text value, _ => some (Text.quote value)
  | date value, _ => some s!"datetime.date({value.year}, {value.month}, {value.day})"
  | moment value, _ => some (quoteMoment value)
  | octets content, _ => some (quoteOctets content)
  | list items, around => (quotedItems items around).map bracketed
  | tuple items, around => (quotedItems items around).map parenthesized
  | set items, around => (quotedItems items around).map setText
  | mapping entries, around => (quotedEntries entries around).map braced
  | knot cells start, _ => knotText? cells (cellForms cells) (cells.length + 1) [] start
  | cell number, around => around number

/-- The items of a collection as messages quote them. -/
def quotedItems : List Value → (Nat → Option String) → Option (List String)
  | [], _ => some []
  | item :: rest, around => do
    let first ← quotedIn item around
    let others ← quotedItems rest around
    some (first :: others)

/-- The entries of a mapping as messages quote them. -/
def quotedEntries : List (Value × Value) → (Nat → Option String) → Option (List String)
  | [], _ => some []
  | (key, value) :: rest, around => do
    let name ← quotedIn key around
    let content ← quotedIn value around
    let others ← quotedEntries rest around
    some ((name ++ ": " ++ content) :: others)

/-- How the collections of a knot are written. -/
def cellForms : List Value → List CellForm
  | [] => []
  | value :: rest => (fun around => quotedIn value around) :: cellForms rest

end

/-- A value as messages quote it, if it can be shown. -/
def quoted? (value : Value) : Option String :=
  value.quotedIn fun _ => none

/-- A value as messages quote it, empty if it cannot be shown. -/
def quoted (value : Value) : String :=
  value.quoted?.getD ""

/-- A value as messages show it where it stands for itself, if it can be shown. -/
def shown? : Value → Option String
  | text value => some value
  | date value => some value.text
  | moment value => some value.text
  | value => value.quoted?

/-- A value as messages show it where it stands for itself, empty if it cannot be shown. -/
def shown (value : Value) : String :=
  value.shown?.getD ""

/-- Whether all integers in a value can be shown. -/
def isShowable (value : Value) : Bool :=
  value.quoted?.isSome

@[simp] theorem shown_text (content : String) : (text content).shown = content := rfl

@[simp] theorem isShowable_text (content : String) : (text content).isShowable = true := rfl

end Value

end ViewLayout
