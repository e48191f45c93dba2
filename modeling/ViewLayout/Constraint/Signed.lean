import ViewLayout.Number.Binary64

/-!
# Signed constants and multipliers

The numbers of a directive with what is to be done to them: a constant may be negated always or from
the side of the attribute, and a multiplier may divide instead. A multiplier that divides is never
zero.
-/

namespace ViewLayout

/-- What becomes of a constant. Inset and offset depend on the attribute that is constrained. -/
inductive ConstantSign
  | positive
  | negative
  | inset
  | offset
deriving DecidableEq

namespace ConstantSign

/-- How a sign is written. -/
def name : ConstantSign → String
  | positive => "positive"
  | negative => "negative"
  | inset => "inset"
  | offset => "offset"

/-- The sign of a name. -/
def ofName? (name : String) : Option ConstantSign :=
  [positive, negative, inset, offset].find? (·.name == name)

theorem ofName?_name (sign : ConstantSign) : ofName? sign.name = some sign := by
  cases sign <;> decide

end ConstantSign

/-- Whether a multiplier multiplies or divides. -/
inductive MultiplierSign
  | multiply
  | divide
deriving DecidableEq

namespace MultiplierSign

/-- How a sign is written. -/
def name : MultiplierSign → String
  | multiply => "multiply"
  | divide => "divide"

/-- The sign of a name. -/
def ofName? (name : String) : Option MultiplierSign :=
  [multiply, divide].find? (·.name == name)

theorem ofName?_name (sign : MultiplierSign) : ofName? sign.name = some sign := by
  cases sign <;> decide

end MultiplierSign

/-- A constant with its sign. -/
structure SignedConstant where
  value : Binary64
  sign : ConstantSign := .positive
deriving DecidableEq

/-- A multiplier with its sign. A divisor is not zero. -/
structure SignedMultiplier where
  value : Binary64
  sign : MultiplierSign := .multiply
  divisor_ne_zero : sign = .divide → value.isZero = false := by decide
deriving DecidableEq

namespace SignedConstant

/-- The constant of a directive that gives none. -/
def standard : SignedConstant := ⟨.zero, .positive⟩

end SignedConstant

namespace SignedMultiplier

/-- The factor that changes nothing. -/
def one : Binary64 := .ofDecimal false 1 0

/-- The multiplier of a directive that gives none. -/
def standard : SignedMultiplier where
  value := one

/-- The multiplier of a value and a sign, unless it divides by zero. -/
def make? (value : Binary64) (sign : MultiplierSign) : Option SignedMultiplier :=
  if divides : sign = .divide ∧ value.isZero = true then none
  else
    some
      { value, sign
        divisor_ne_zero := fun divide => Bool.eq_false_iff.2 fun zero => divides ⟨divide, zero⟩ }

/-- Why there is no multiplier that divides by zero. -/
def zeroDivisorMessage : String := "Cannot divide by a zero multiplier"

/-- The factor that a multiplier comes to. -/
def resolved (multiplier : SignedMultiplier) : Binary64 :=
  match multiplier.sign with
  | .multiply => multiplier.value
  | .divide => multiplier.value.reciprocal

/-- Only a division by zero gives no multiplier. -/
theorem make?_eq_none_iff (value : Binary64) (sign : MultiplierSign) :
    make? value sign = none ↔ sign = .divide ∧ value.isZero = true := by
  unfold make?
  split <;> simp_all

/-- A multiplier keeps the value and the sign it is made of. -/
theorem make?_eq_some {value : Binary64} {sign : MultiplierSign} {multiplier : SignedMultiplier}
    (made : make? value sign = some multiplier) :
    multiplier.value = value ∧ multiplier.sign = sign := by
  unfold make? at made
  split at made
  · simp at made
  · cases made
    exact ⟨rfl, rfl⟩

end SignedMultiplier

end ViewLayout
