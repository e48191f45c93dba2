import ViewLayout.Number.Binary64
import ViewLayout.Text.Blank
import ViewLayout.Text.Digit

/-!
# Numerals

Reading numbers from text. A numeral may use the decimal digits of any script, and an underscore may
stand between two digits. `readNumber?` reads decimal fractions with an exponent and the words for
infinity and for no number; `readInteger?` reads integers of at most `integerDigitLimit` digits.
-/

namespace ViewLayout.Numeral

open Text

/-- The most digits an integer may be written with. -/
def integerDigitLimit : Nat := 4300

/-- A character of a numeral: a digit by its value, or any other character. -/
inductive Glyph
  | digit (value : Nat)
  | other (char : Char)
deriving DecidableEq

/-- The glyph that a character is. -/
def Glyph.ofChar (c : Char) : Glyph :=
  match decimalValue? c with
  | some value => .digit value
  | none => .other c

/-- The glyphs without the underscores between digits; none if an underscore stands elsewhere. -/
def joinGroups : List Glyph → Option (List Glyph)
  | [] => some []
  | .other '_' :: _ => none
  | .digit a :: .other '_' :: .digit b :: rest =>
    (joinGroups (.digit b :: rest)).map (.digit a :: ·)
  | glyph :: rest => (joinGroups rest).map (glyph :: ·)

/-- The values of the digits that the glyphs start with, and the glyphs after them. -/
def takeDigits : List Glyph → List Nat × List Glyph
  | .digit value :: rest =>
    let (values, after) := takeDigits rest
    (value :: values, after)
  | glyphs => ([], glyphs)

/-- A sign, if there is one: whether it is a minus, and what follows. -/
def takeSign : List Glyph → Bool × List Glyph
  | .other '-' :: rest => (true, rest)
  | .other '+' :: rest => (false, rest)
  | glyphs => (false, glyphs)

/-- The power of ten that ends a numeral, which is zero where nothing is written. -/
def readPower? : List Glyph → Option Int
  | [] => some 0
  | .other mark :: rest =>
    if mark = 'e' ∨ mark = 'E' then
      let (negative, unsigned) := takeSign rest
      match takeDigits unsigned with
      | ([], _) => none
      | (_, _ :: _) => none
      | (digits, []) =>
        let power : Int := (ofDigits 10 digits : Nat)
        some (if negative then -power else power)
    else none
  | .digit _ :: _ => none

/-- The words for numbers that no digits write, in lower case. -/
def wordValue? (negative : Bool) (word : String) : Option Binary64 :=
  if word = "inf" ∨ word = "infinity" then some (.number negative .infinity)
  else if word = "nan" then some .nan
  else none

/-- The text of glyphs that are no digits, in lower case. -/
def wordOf (glyphs : List Glyph) : Option String :=
  (glyphs.mapM fun (glyph : Glyph) =>
    match glyph with
    | .digit _ => none
    | .other c => some c.toLower).map String.ofList

/-- The unsigned part of a numeral: digits with at most one point among them, then a power. -/
def readUnsigned? (negative : Bool) (glyphs : List Glyph) : Option Binary64 :=
  let (whole, afterWhole) := takeDigits glyphs
  let (part, afterPart) :=
    match afterWhole with
    | .other '.' :: rest => takeDigits rest
    | _ => ([], afterWhole)
  if whole.isEmpty && part.isEmpty then none
  else (readPower? afterPart).map fun power =>
    .ofDecimal negative (ofDigits 10 (whole ++ part)) (power - (part.length : Int))

/-- The blanks that may stand around a numeral, which the information separators are not. -/
def isNumeralBlank (c : Char) : Bool :=
  isBlank c && !(28 ≤ c.toNat && c.toNat ≤ 31)

/-- The text without the blanks around a numeral. -/
def trimNumeral (text : List Char) : List Char :=
  ((text.dropWhile isNumeralBlank).reverse.dropWhile isNumeralBlank).reverse

/-- The number that a numeral writes, with blanks around it ignored. -/
def readNumeral? (text : List Char) : Option Binary64 := do
  let glyphs ← joinGroups ((trimNumeral text).map Glyph.ofChar)
  let (negative, unsigned) := takeSign glyphs
  match wordOf unsigned >>= wordValue? negative with
  | some value => some value
  | none => readUnsigned? negative unsigned

/-- The number that a text writes, with white space around it ignored. -/
def readNumber? (text : List Char) : Option Binary64 :=
  readNumeral? (trim text)

/-- The integer that a text writes; none if it has more than `integerDigitLimit` digits. -/
def readInteger? (text : List Char) : Option Int := do
  let glyphs ← joinGroups ((trimNumeral text).map Glyph.ofChar)
  let (negative, unsigned) := takeSign glyphs
  match takeDigits unsigned with
  | ([], _) => none
  | (_, _ :: _) => none
  | (digits, []) =>
    if integerDigitLimit < digits.length then none
    else
      let value : Int := (ofDigits 10 digits : Nat)
      some (if negative then -value else value)

end ViewLayout.Numeral
