/-!
# Binary64 numbers

The numbers that layouts compute with, as exact bit patterns instead of machine floats. A magnitude
is the lower 63 bits of the interchange format; patterns are ordered as the numbers they stand for,
so comparing is comparing naturals. `Magnitude.ofRatio` rounds an exact quotient to the nearest
magnitude, a half going to the even one, and every operation that can round goes through it.
-/

namespace ViewLayout

/-- The bit pattern of an infinite magnitude, the largest of all. -/
abbrev infinityBits : Nat := 0x7ff0000000000000

/-- An unsigned binary64 number, as the lower 63 bits of its interchange format. -/
structure Magnitude where
  bits : Nat
  le_infinity : bits ≤ infinityBits := by decide
deriving DecidableEq

namespace Magnitude

/-- The least magnitude. -/
def zero : Magnitude where bits := 0

/-- The greatest magnitude, which no finite number has. -/
def infinity : Magnitude where bits := infinityBits

/-- The magnitude with the given pattern, or infinity for a larger one. -/
def ofBits (bits : Nat) : Magnitude where
  bits := min bits infinityBits
  le_infinity := Nat.min_le_right _ _

/-- Whether a magnitude is below infinity. -/
def isFinite (magnitude : Magnitude) : Bool :=
  decide (magnitude.bits < infinityBits)

/-- Whether the magnitude has no leading bit of its own. -/
def isSubnormal (magnitude : Magnitude) : Bool :=
  decide (magnitude.bits < Nat.pow 2 52)

/-- The integer `m` with which a finite magnitude is `m · 2 ^ exponent`. -/
def significand (magnitude : Magnitude) : Nat :=
  if magnitude.isSubnormal then magnitude.bits
  else Nat.pow 2 52 + magnitude.bits % Nat.pow 2 52

/-- The power of two that a finite magnitude's significand is multiplied by. -/
def exponent (magnitude : Magnitude) : Int :=
  if magnitude.isSubnormal then -1074 else (magnitude.bits / Nat.pow 2 52 : Nat) - 1075

end Magnitude

/-- The quotient rounded to the nearest natural, a half going to the even one. -/
def roundedQuotient (dividend divisor : Nat) : Nat :=
  let whole := dividend / divisor
  let remainder := dividend % divisor
  if 2 * remainder < divisor then whole
  else if divisor < 2 * remainder then whole + 1
  else whole + whole % 2

/-- The fraction `n / d` divided by `base ^ power`, as numerator and denominator. -/
def scaledFraction (base n d : Nat) (power : Int) : Nat × Nat :=
  if 0 ≤ power then (n, d * base.pow power.toNat) else (n * base.pow (-power).toNat, d)

namespace Magnitude

/-- **The magnitude nearest to `n / d`**, a half going to the even pattern and anything that rounds
to `2 ^ 1024` or more being infinite. -/
def ofRatio (n d : Nat) : Magnitude :=
  if n = 0 then zero else
    let estimate : Int := (n.log2 : Int) - (d.log2 : Int) - 52
    let probe := scaledFraction 2 n d estimate
    let power := max (if probe.1 / probe.2 < Nat.pow 2 52 then estimate - 1 else estimate) (-1074)
    let fraction := scaledFraction 2 n d power
    ofBits ((power + 1074).toNat * Nat.pow 2 52 + roundedQuotient fraction.1 fraction.2)

/-- A finite magnitude as numerator and denominator. -/
def toRatio (magnitude : Magnitude) : Nat × Nat :=
  scaledFraction 2 magnitude.significand 1 (-magnitude.exponent)

end Magnitude

/-- A binary64 number. All patterns that are no number are one value. -/
inductive Binary64
  | nan
  | number (negative : Bool) (magnitude : Magnitude)
deriving DecidableEq

namespace Binary64

/-- Zero without a sign. -/
def zero : Binary64 := .number false .zero

/-- Whether the value is a number below infinity. -/
def isFinite : Binary64 → Bool
  | nan => false
  | number _ magnitude => magnitude.isFinite

/-- Whether a number is a zero of either sign. -/
def isZero : Binary64 → Bool
  | nan => false
  | number _ magnitude => magnitude.bits == 0

/-- The number of the other sign. -/
def negate : Binary64 → Binary64
  | nan => nan
  | number negative magnitude => number (!negative) magnitude

/-- The pattern with its sign, in which order is the order of the numbers and both zeros are one. -/
def rank? : Binary64 → Option Int
  | nan => none
  | number true magnitude => some (-(magnitude.bits : Int))
  | number false magnitude => some magnitude.bits

/-- Whether the first number is at most the second. -/
def atMost (x y : Binary64) : Bool :=
  match x.rank?, y.rank? with
  | some a, some b => decide (a ≤ b)
  | _, _ => false

/-- Whether a number is below zero. -/
def isNegative (x : Binary64) : Bool :=
  x.rank?.any (· < 0)

/-- One divided by the number. A zero, which no caller divides by, would give an infinity. -/
def reciprocal : Binary64 → Binary64
  | nan => nan
  | number negative magnitude =>
    if !magnitude.isFinite then number negative .zero
    else if magnitude.bits = 0 then number negative .infinity
    else
      let ratio := magnitude.toRatio
      number negative (.ofRatio ratio.2 ratio.1)

/-- The nearest number to an integer; none if that would be infinite. -/
def ofInt? (i : Int) : Option Binary64 :=
  let magnitude := Magnitude.ofRatio i.natAbs 1
  if magnitude.isFinite then some (number (decide (i < 0)) magnitude) else none

/-- The integer that a finite number is equal to, if there is one. -/
def toInt? : Binary64 → Option Int
  | nan => none
  | number negative magnitude =>
    if !magnitude.isFinite then none
    else
      let ratio := magnitude.toRatio
      if ratio.1 % ratio.2 = 0 then
        some (if negative then -((ratio.1 / ratio.2 : Nat) : Int) else (ratio.1 / ratio.2 : Nat))
      else none

/-- The number nearest to `coefficient · 10 ^ power`. Powers that leave the range by far are not
raised: the largest number is below `10 ^ 309` and half the least one above `10 ^ -325`. -/
def ofDecimal (negative : Bool) (coefficient : Nat) (power : Int) : Binary64 :=
  if coefficient = 0 then number negative .zero
  else
    let width : Int := ((coefficient.log2 * 30103 / 100000 : Nat) : Int)
    if 400 < width + power then number negative .infinity
    else if width + power < -400 then number negative .zero
    else
      let fraction := scaledFraction 10 coefficient 1 (-power)
      number negative (.ofRatio fraction.1 fraction.2)

/-- The sum of two numbers. A sum that vanishes is positive unless both numbers are negative
zeros. -/
def plus : Binary64 → Binary64 → Binary64
  | number signX x, number signY y =>
    if x.isFinite && y.isFinite then
      let a := x.toRatio
      let b := y.toRatio
      let first : Int := ((a.1 * b.2 : Nat) : Int) * if signX then -1 else 1
      let second : Int := ((b.1 * a.2 : Nat) : Int) * if signY then -1 else 1
      let sum := first + second
      if sum = 0 then number (signX && signY && x.bits == 0) .zero
      else number (decide (sum < 0)) (.ofRatio sum.natAbs (a.2 * b.2))
    else if x.isFinite then number signY .infinity
    else if y.isFinite || signX == signY then number signX .infinity
    else nan
  | _, _ => nan

/-- The product of two numbers. -/
def times : Binary64 → Binary64 → Binary64
  | number signX x, number signY y =>
    let negative := signX != signY
    if x.isFinite && y.isFinite then
      let a := x.toRatio
      let b := y.toRatio
      number negative (.ofRatio (a.1 * b.1) (a.2 * b.2))
    else if x.bits = 0 ∨ y.bits = 0 then nan
    else number negative .infinity
  | _, _ => nan

/-- The 64 bits of a number. -/
def toBits : Binary64 → Nat
  | nan => 0x7ff8000000000000
  | number negative magnitude => magnitude.bits + if negative then Nat.pow 2 63 else 0

@[simp] theorem isFinite_negate (x : Binary64) : x.negate.isFinite = x.isFinite := by
  cases x <;> rfl

@[simp] theorem negate_negate (x : Binary64) : x.negate.negate = x := by
  cases x with
  | nan => rfl
  | number negative magnitude => simp [negate]

@[simp] theorem isZero_negate (x : Binary64) : x.negate.isZero = x.isZero := by
  cases x <;> rfl

end Binary64

end ViewLayout
