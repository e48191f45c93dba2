import ViewLayout.Number.Binary64

/-!
# Decimal texts of numbers

Writing binary64 numbers. `shortestDigits` looks for the least number of significant digits with
which a decimal reads back as the number, and among those for the decimal nearest to it;
`roundedDigits` keeps a fixed number of significant digits. `DecimalStyle` says how digits are laid
out.
-/

namespace ViewLayout

/-- A positive decimal `coefficient · 10 ^ power`. -/
structure Decimal where
  coefficient : Nat
  power : Int
deriving DecidableEq

namespace Decimal

/-- The decimal without trailing zeros in its coefficient, of which `fuel` bounds the number. -/
def trimZeros : Nat → Decimal → Decimal
  | 0, decimal => decimal
  | fuel + 1, decimal =>
    if decimal.coefficient % 10 = 0 ∧ decimal.coefficient ≠ 0 then
      trimZeros fuel ⟨decimal.coefficient / 10, decimal.power + 1⟩
    else decimal

/-- The digits of the coefficient. -/
def digits (decimal : Decimal) : List Char :=
  Nat.toDigits 10 decimal.coefficient

/-- The power of ten that the first digit stands for. -/
def leadingPower (decimal : Decimal) : Int :=
  decimal.power + (decimal.digits.length : Int) - 1

end Decimal

namespace Magnitude

/-- Whether the fraction `n / d` is at least `10 ^ power`. -/
def reachesPower (n d : Nat) (power : Int) : Bool :=
  let fraction := scaledFraction 10 n d power
  decide (fraction.2 ≤ fraction.1)

/-- The greatest power of ten that is at most a positive fraction. -/
def leadingPower (n d : Nat) : Int :=
  let binary : Int := (n.log2 : Int) - (d.log2 : Int)
  let estimate := binary * 30103 / 100000
  if reachesPower n d (estimate + 1) then estimate + 1
  else if reachesPower n d estimate then estimate
  else if reachesPower n d (estimate - 1) then estimate - 1
  else estimate - 2

/-- The decimal of `count` significant digits nearest to a positive finite magnitude, a half going
to the even one. -/
def roundedDigits (count : Nat) (magnitude : Magnitude) : Decimal :=
  let ratio := magnitude.toRatio
  let power := leadingPower ratio.1 ratio.2 - (count : Int) + 1
  let fraction := scaledFraction 10 ratio.1 ratio.2 power
  (⟨roundedQuotient fraction.1 fraction.2, power⟩ : Decimal).trimZeros (count + 1)

/-- Whether a decimal reads back as the magnitude. -/
def isReadFrom (magnitude : Magnitude) (decimal : Decimal) : Bool :=
  decide (Binary64.ofDecimal false decimal.coefficient decimal.power = .number false magnitude)

/-- A decimal of `count` significant digits that reads back as the magnitude, the nearer one if both
neighbours of the magnitude do. -/
def digitsOfLength? (magnitude : Magnitude) (count : Nat) : Option Decimal :=
  let ratio := magnitude.toRatio
  let power := leadingPower ratio.1 ratio.2 - (count : Int) + 1
  let fraction := scaledFraction 10 ratio.1 ratio.2 power
  let below : Decimal := ⟨fraction.1 / fraction.2, power⟩
  let above : Decimal := ⟨fraction.1 / fraction.2 + 1, power⟩
  match magnitude.isReadFrom below, magnitude.isReadFrom above with
  | false, false => none
  | true, false => some below
  | false, true => some above
  | true, true => some ⟨roundedQuotient fraction.1 fraction.2, power⟩

/-- **The shortest decimal that reads back as a positive finite magnitude.** Seventeen digits always
do. -/
def shortestDigits (magnitude : Magnitude) : Decimal :=
  (((List.range 17).findSome? fun count => magnitude.digitsOfLength? (count + 1)).getD
    (magnitude.roundedDigits 17)).trimZeros 18

end Magnitude

/-- How the digits of a number are laid out. -/
structure DecimalStyle where
  /-- Numbers from this power of ten on are written with an exponent. -/
  exponentFrom : Int
  /-- Whether an integral number keeps a point and a zero after it. -/
  keepsPoint : Bool
  /-- The word for an infinity. -/
  infinity : String
  /-- The word for no number. -/
  nan : String

namespace DecimalStyle

/-- The style of numbers shown as values. -/
def plain : DecimalStyle := ⟨16, true, "inf", "nan"⟩

/-- The style of numbers shown with six significant digits. -/
def general : DecimalStyle := ⟨6, false, "inf", "nan"⟩

/-- The style of numbers in documents. -/
def document : DecimalStyle := ⟨16, true, "Infinity", "NaN"⟩

/-- The digits behind the point, with the point if there are any. -/
def fractionPart (digits : List Char) : List Char :=
  if digits.isEmpty then [] else '.' :: digits

/-- The exponent as a sign and at least two digits. -/
def exponentPart (power : Int) : List Char :=
  let digits := Nat.toDigits 10 power.natAbs
  'e' :: (if power < 0 then '-' else '+') :: (if digits.length < 2 then '0' :: digits else digits)

/-- A positive decimal in this style: positional from `10 ^ -4` up to `exponentFrom`. -/
def layOut (style : DecimalStyle) (decimal : Decimal) : List Char :=
  let digits := decimal.digits
  let power := decimal.leadingPower
  if -4 ≤ power ∧ power < style.exponentFrom then
    if power < 0 then
      '0' :: '.' :: (List.replicate ((-power).toNat - 1) '0' ++ digits)
    else
      let width := power.toNat + 1
      let whole := digits.take width ++ List.replicate (width - digits.length) '0'
      let part := digits.drop width
      whole ++ (if part.isEmpty && style.keepsPoint then ['.', '0'] else fractionPart part)
  else
    digits.take 1 ++ fractionPart (digits.drop 1) ++ exponentPart power

/-- The text of a number whose positive finite magnitudes have the decimals `decimalOf`. -/
def format (style : DecimalStyle) (decimalOf : Magnitude → Decimal) : Binary64 → String
  | .nan => style.nan
  | .number negative magnitude =>
    let sign := if negative then "-" else ""
    if !magnitude.isFinite then sign ++ style.infinity
    else if magnitude.bits = 0 then sign ++ (if style.keepsPoint then "0.0" else "0")
    else sign ++ String.ofList (style.layOut (decimalOf magnitude))

end DecimalStyle

namespace Binary64

/-- The shortest text that reads back as the number. -/
def toText (x : Binary64) : String :=
  DecimalStyle.plain.format Magnitude.shortestDigits x

/-- The number to six significant digits. -/
def toGeneralText (x : Binary64) : String :=
  DecimalStyle.general.format (Magnitude.roundedDigits 6) x

end Binary64

end ViewLayout
