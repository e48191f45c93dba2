import ViewLayout.Number.Numeral
import ViewLayout.Text.Quoted
import ViewLayout.Value.Basic
import ViewLayout.Yaml.Fault

/-!
# Numbers in YAML

The integers and numbers of YAML 1.1: `010` is octal, `0x1F` hexadecimal, `0b11` binary, and parts
between colons are digits of base 60. Underscores may stand anywhere. A scalar that is tagged as a
number may have forms that no scalar without a tag has, such as blanks around the digits.
-/

namespace ViewLayout.Yaml

/-- A text without its sign. -/
def afterSign : List Char → List Char
  | '-' :: rest => rest
  | '+' :: rest => rest
  | text => text

/-- The parts of a text between its colons. -/
def colonParts : List Char → List (List Char)
  | [] => [[]]
  | c :: rest =>
    if c == ':' then [] :: colonParts rest
    else
      match colonParts rest with
      | part :: parts => (c :: part) :: parts
      | [] => [[c]]

/-- The value of a digit, in any script or as a letter. -/
def digitValue? (c : Char) : Option Nat :=
  (Text.decimalValue? c).or (Text.hexValue? c)

/-- Whether a character marks a base after a zero. -/
def isBaseMark (base : Nat) (c : Char) : Bool :=
  (base == 2 && (c == 'b' || c == 'B')) || (base == 8 && (c == 'o' || c == 'O')) ||
    (base == 16 && (c == 'x' || c == 'X'))

/-- The text after a zero and the mark of the base, if it starts with them. -/
def afterBaseMark (base : Nat) : List Char → List Char
  | zero :: mark :: rest =>
    if Text.decimalValue? zero == some 0 && isBaseMark base mark then rest else zero :: mark :: rest
  | text => text

/-- How much of a quoted text the message of a bad integer shows. -/
def shownLength : Nat := 200

/-- The fault of a text that is no integer in a base. -/
def notInteger (base : Nat) (text : List Char) : Fault :=
  let quoted := (Text.quote (String.ofList text)).toList.take shownLength
  .unreadable (.notInteger base (String.ofList quoted))

/-- The integer that a text without underscores writes in a base. Blanks may stand around it and a
sign and the mark of the base before it. -/
def integerIn (base : Nat) (text : List Char) : Except Fault Int :=
  let signed := Numeral.trimNumeral text
  let unsigned := afterBaseMark base (afterSign signed)
  let isDigit (c : Char) : Bool := (digitValue? c).any (· < base)
  let digits := unsigned.takeWhile isDigit
  if base = 10 ∧ Numeral.integerDigitLimit < digits.length then
    .error (.unreadable (.integerTooLong digits.length))
  else if digits.isEmpty || digits.length < unsigned.length then .error (notInteger base text)
  else
    let size : Int := (Text.ofDigits base (digits.filterMap digitValue?) : Nat)
    .ok (if signed.head? = some '-' then -size else size)

/-- The number whose digits in base 60 are given, the most significant first. -/
def ofSixtieths (parts : List Int) : Int :=
  parts.foldl (fun total part => total * 60 + part) 0

/-- The integer that a scalar writes. -/
def readInteger (text : List Char) : Except Fault Value := do
  let bare := text.filter (· != '_')
  if bare.isEmpty then .error (.unreadable .emptyNumber)
  let unsigned := afterSign bare
  let size ←
    match unsigned with
    | [] => .error (.unreadable .emptyNumber)
    | ['0'] => .ok 0
    | '0' :: 'b' :: rest => integerIn 2 rest
    | '0' :: 'x' :: rest => integerIn 16 rest
    | '0' :: _ => integerIn 8 unsigned
    | _ => do
      if unsigned.contains ':' then
        let parts ← (colonParts unsigned).mapM (integerIn 10)
        .ok (ofSixtieths parts)
      else integerIn 10 unsigned
  .ok (.int (if bare.head? = some '-' then -size else size))

/-- Whether a scalar, in letters of lower case, is the word for what is not a number. -/
def isNanWord (text : List Char) : Bool :=
  afterSign (text.filter (· != '_')) == ".nan".toList

/-- The number that an unsigned part of a scalar writes. -/
def numberIn (part : List Char) : Except Fault Binary64 :=
  match Numeral.readNumeral? part with
  | some value => .ok value
  | none => .error (.unreadable (.notNumber (Text.quote (String.ofList part))))

/-- The sum of the parts of a number in base 60, from the last one on, each rounded as it is
added. The powers of 60 have to be in the range of numbers. -/
def sumSixtieths : Nat → Binary64 → List Binary64 → Except Fault Binary64
  | _, total, [] => .ok total
  | scale, total, part :: parts =>
    match Binary64.ofInt? scale with
    | none => .error (.unreadable .scaleTooLarge)
    | some factor => sumSixtieths (scale * 60) (total.plus (part.times factor)) parts

/-- The number that a scalar writes, in letters of lower case. -/
def readNumber (text : List Char) : Except Fault Value := do
  let bare := text.filter (· != '_')
  if bare.isEmpty then .error (.unreadable .emptyNumber)
  let unsigned := afterSign bare
  let isNegative := bare.head? = some '-'
  if unsigned = ".inf".toList then .ok (.float (.number isNegative .infinity))
  else if isNanWord text then .ok (.float .nan)
  else do
    let size ←
      if unsigned.contains ':' then do
        let parts ← (colonParts unsigned).mapM numberIn
        sumSixtieths 1 .zero parts.reverse
      else numberIn unsigned
    .ok (.float (if isNegative then size.negate else size))

end ViewLayout.Yaml
