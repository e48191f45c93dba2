import ViewLayout.Value.Shown

/-!
# Faults of YAML texts

Why a YAML text gives no value. A `Problem` is a breach of the syntax or of the rules for anchors,
tags and keys; an `Unreadable` scalar has the syntax of its kind and yet no value.
-/

namespace ViewLayout.Yaml

/-- A breach of the rules of YAML. -/
inductive Problem
  | unprintableCharacter
  | strayCharacter
  | missingColon
  | misplacedEntry
  | misplacedKey
  | misplacedValue
  | badDirective
  | badAnchorName
  | badTag
  | badBlockHeader
  | badEscape
  | openQuote
  | documentMarkInQuote
  | unexpectedToken
  | unknownTagHandle
  | unknownAlias
  | repeatedAnchor
  | severalDocuments
  | unknownTag
  | unhashableKey
  | badMerge
  | wrongShape
  | badOctets
deriving DecidableEq

/-- What is said of a problem. -/
def Problem.description : Problem → String
  | unprintableCharacter => "special characters are not allowed"
  | strayCharacter => "found a character that cannot start any token"
  | missingColon => "could not find an expected colon"
  | misplacedEntry => "sequence entries are not allowed here"
  | misplacedKey => "mapping keys are not allowed here"
  | misplacedValue => "mapping values are not allowed here"
  | badDirective => "found a malformed directive"
  | badAnchorName => "found a malformed anchor or alias"
  | badTag => "found a malformed tag"
  | badBlockHeader => "found a malformed block scalar header"
  | badEscape => "found an unknown escape"
  | openQuote => "found the end of the text inside quotes"
  | documentMarkInQuote => "found a document mark inside quotes"
  | unexpectedToken => "found an unexpected token"
  | unknownTagHandle => "found an undefined tag handle"
  | unknownAlias => "found an undefined alias"
  | repeatedAnchor => "found a repeated anchor"
  | severalDocuments => "expected a single document"
  | unknownTag => "could not determine the kind of a tag"
  | unhashableKey => "found a collection as a key"
  | badMerge => "expected a mapping or a list of mappings for merging"
  | wrongShape => "expected a node of the shape that its tag has"
  | badOctets => "could not decode octets"

/-- Why a scalar of a valid form has no value. -/
inductive Unreadable
  | integerTooLong (digits : Nat)
  | notInteger (base : Nat) (quoted : String)
  | notNumber (quoted : String)
  | scaleTooLarge
  | notTruthValue (quoted : String)
  | notTime
  | timeInMapping
  | emptyNumber
  | yearOutOfRange (year : Nat)
  | monthOutOfRange
  | dayOutOfRange
  | hourOutOfRange
  | minuteOutOfRange
  | secondOutOfRange
  | offsetOutOfRange (minutes : Int)
  | noSuchCharacter
  | characterTooLarge
deriving DecidableEq

/-- Why a YAML text gives no value. -/
inductive Fault
  | problem (problem : Problem)
  | unreadable (cause : Unreadable)
deriving DecidableEq

/-- A reader of YAML texts: a text has a value, or there is a reason why it gives none. -/
abbrev Reader : Type := String → Except Fault Value

/-- The message for an integer of too many digits. -/
def integerTooLongMessage (digits : Nat) : String :=
  s!"Exceeds the limit (4300 digits) for integer string conversion: value has {digits} digits; " ++
    "use sys.set_int_max_str_digits() to increase the limit"

/-- What is said of a shift of a day or more. -/
def offsetOutOfRangeMessage (minutes : Int) : String :=
  "offset must be a timedelta strictly between -timedelta(hours=24) and timedelta(hours=24), " ++
    "not " ++ quoteDuration minutes ++ "."

/-- What is said of a scalar without a value. -/
def Unreadable.message : Unreadable → String
  | integerTooLong digits => integerTooLongMessage digits
  | notInteger base quoted => s!"invalid literal for int() with base {base}: {quoted}"
  | notNumber quoted => s!"could not convert string to float: {quoted}"
  | scaleTooLarge => "int too large to convert to float"
  | notTruthValue quoted => quoted
  | notTime => "'NoneType' object has no attribute 'groupdict'"
  | timeInMapping => "expected string or bytes-like object, got 'list'"
  | emptyNumber => "string index out of range"
  | yearOutOfRange year => s!"year {year} is out of range"
  | monthOutOfRange => "month must be in 1..12"
  | dayOutOfRange => "day is out of range for month"
  | hourOutOfRange => "hour must be in 0..23"
  | minuteOutOfRange => "minute must be in 0..59"
  | secondOutOfRange => "second must be in 0..59"
  | offsetOutOfRange minutes => offsetOutOfRangeMessage minutes
  | noSuchCharacter => "chr() arg not in range(0x110000)"
  | characterTooLarge => "Python int too large to convert to C int"

end ViewLayout.Yaml
