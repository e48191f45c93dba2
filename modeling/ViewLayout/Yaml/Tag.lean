import ViewLayout.Yaml.Number
import ViewLayout.Yaml.Timestamp

/-!
# Tags of nodes

A tag says what kind of value a node has. A plain scalar without a tag gets one from its text by the
rules of YAML 1.1 (`Tag.ofPlain`): an exponent needs a sign and a point before it, and a line break
at the end of the text is passed over. The marks of tags, anchors and aliases have a tag of their
own, for which there is no value.
-/

namespace ViewLayout.Yaml

/-- The kind of value that a node has. -/
inductive Tag
  | null
  | bool
  | int
  | float
  | time
  | octets
  | string
  | merge
  | default
  | sequence
  | orderedMapping
  | pairs
  | set
  | mapping
  | unknown
deriving DecidableEq

namespace Tag

/-- What the tags of YAML's own kinds start with. -/
def standardPrefix : String := "tag:yaml.org,2002:"

/-- The tags of YAML's own kinds by their names. -/
def names : List (String × Tag) :=
  [("null", null), ("bool", bool), ("int", int), ("float", float), ("timestamp", time),
    ("binary", octets), ("str", string), ("merge", merge), ("value", default), ("seq", sequence),
    ("omap", orderedMapping), ("pairs", pairs), ("set", set), ("map", mapping)]

/-- The tag of a name. -/
def ofName (name : String) : Tag :=
  ((names.find? fun entry => standardPrefix ++ entry.1 = name).map Prod.snd).getD unknown

/-- Whether a character is an ASCII digit. -/
def isDigit (c : Char) : Bool :=
  '0' ≤ c && c ≤ '9'

/-- Whether the character is an ASCII digit or an underscore. -/
def isGroupChar (c : Char) : Bool :=
  isDigit c || c == '_'

/-- Whether the text is a digit of base 60: one or two digits below 60. -/
def isSixtieth : List Char → Bool
  | [a] => isDigit a
  | [a, b] => '0' ≤ a && a ≤ '5' && isDigit b
  | _ => false

/-- Whether the text has several parts of base 60, of which the first satisfies a condition. -/
def isSexagesimal (first : List Char → Bool) (text : List Char) : Bool :=
  match colonParts text with
  | part :: next :: parts => first part && (next :: parts).all isSixtieth
  | _ => false

/-- Whether the text starts with a digit from one to nine and goes on with digits. -/
def isDecimal : List Char → Bool
  | c :: rest => '1' ≤ c && c ≤ '9' && rest.all isGroupChar
  | [] => false

/-- Whether the text without its sign is an integer. -/
def isUnsignedInteger (text : List Char) : Bool :=
  match text with
  | '0' :: 'b' :: rest => !rest.isEmpty && rest.all fun c => c == '0' || c == '1' || c == '_'
  | '0' :: 'x' :: rest => !rest.isEmpty && rest.all fun c => (Text.hexValue? c).isSome || c == '_'
  | '0' :: rest => rest.all fun c => ('0' ≤ c && c ≤ '7') || c == '_'
  | _ => isDecimal text || isSexagesimal isDecimal text

/-- Whether the text is empty or an exponent with a sign. -/
def isExponent : List Char → Bool
  | [] => true
  | mark :: sign :: rest =>
    (mark == 'e' || mark == 'E') && (sign == '+' || sign == '-') && !rest.isEmpty &&
      rest.all isDigit
  | _ => false

/-- Whether the text starts with a digit and goes on with digits. -/
def isDigitGroup : List Char → Bool
  | c :: rest => isDigit c && rest.all isGroupChar
  | [] => false

/-- Whether the text is a number with a point. -/
def isFraction (text : List Char) : Bool :=
  let unsigned := afterSign text
  let whole := unsigned.takeWhile (· != '.')
  match unsigned.dropWhile (· != '.') with
  | '.' :: part =>
    let afterDigits := part.dropWhile isGroupChar
    if whole.isEmpty then
      (unsigned.length == text.length && part.head?.any isDigit && isExponent afterDigits) ||
        [".inf", ".Inf", ".INF"].contains (String.ofList unsigned) ||
        [".nan", ".NaN", ".NAN"].contains (String.ofList text)
    else
      (isDigitGroup whole && isExponent afterDigits) ||
        (isSexagesimal isDigitGroup whole && afterDigits.isEmpty)
  | _ => false

/-- The truth value that a word stands for. -/
def truthValue? (word : String) : Option Bool :=
  if ["yes", "Yes", "YES", "true", "True", "TRUE", "on", "On", "ON"].contains word then some true
  else if ["no", "No", "NO", "false", "False", "FALSE", "off", "Off", "OFF"].contains word then
    some false
  else none

/-- The words for null. -/
def nullWords : List String :=
  ["", "~", "null", "Null", "NULL"]

/-- The marks of tags, anchors and aliases. No plain scalar starts with them, but one in quotes that
is to be read like a plain one may. -/
def markWords : List String :=
  ["!", "&", "*"]

/-- The tag of a plain scalar with a text that does not end a line. -/
def ofLine (chars : List Char) : Tag :=
  let text := String.ofList chars
  if (truthValue? text).isSome then bool
  else if isFraction chars then float
  else if isUnsignedInteger (afterSign chars) then int
  else if text = "<<" then merge
  else if nullWords.contains text then null
  else if Timestamp.isPlain chars then time
  else if text = "=" then default
  else if markWords.contains text then unknown
  else string

/-- The text without one line break at its end. -/
def dropBreak (chars : List Char) : List Char :=
  if chars.getLast? = some '\n' then chars.dropLast else chars

/-- The tag of a plain scalar, by its text. -/
def ofPlain (text : String) : Tag :=
  if text = "\n" then string else ofLine (dropBreak text.toList)

end Tag

end ViewLayout.Yaml
