import ViewLayout.Constraint.Attribute
import ViewLayout.Constraint.Relation
import ViewLayout.Constraint.Signed
import ViewLayout.Constraint.SizeClass
import ViewLayout.Forest.Basic

/-!
# Contexts and constraints

A context is what a directive gives for one attribute of one view; it says which view the attribute
is compared with and what the numbers come to. A size without a given view is compared with a
constant, and any other attribute without a given view with the parent. A `Spec` is the finished
constraint.
-/

namespace ViewLayout

/-- What a directive gives for one attribute of a view. -/
structure Context where
  target : ViewId
  leftAttribute : Attribute
  relation : Relation
  givenView : Option ViewId
  givenAttribute : Option Attribute
  givenConstant : SignedConstant
  givenMultiplier : SignedMultiplier
  /-- Whether a size is compared with a constant even if a view is given. -/
  ignoresGivenView : Bool := false

namespace Context

/-- Whether the attribute is a size that is compared with a constant. -/
def isConstantSize (context : Context) : Bool :=
  context.leftAttribute.isSize && (context.givenView.isNone || context.ignoresGivenView)

/-- The attribute that the target is compared with; a constant size has none. -/
def rightAttribute (context : Context) : Option Attribute :=
  if context.isConstantSize then some .noAttribute else context.givenAttribute

/-- The view that the attribute is compared with. -/
def comparableView (context : Context) (forest : Forest) : Option ViewId :=
  if context.isConstantSize then none
  else
    match context.givenView with
    | some view => some view
    | none =>
      if context.rightAttribute = some .noAttribute then none else forest.parent? context.target

/-- Whether the constant counts against the axis. -/
def negatesConstant (context : Context) : Bool :=
  match context.givenConstant.sign with
  | .positive => false
  | .negative => true
  | .inset => context.leftAttribute.negatesInset
  | .offset => context.leftAttribute.negatesOffset

/-- What the constant comes to. -/
def constant (context : Context) : Binary64 :=
  if context.negatesConstant then context.givenConstant.value.negate
  else context.givenConstant.value

/-- What the multiplier comes to. -/
def multiplier (context : Context) : Binary64 :=
  context.givenMultiplier.resolved

end Context

/-- A finished constraint between an attribute of a view and what it is compared with. -/
structure Spec where
  target : ViewId
  leftAttribute : Attribute
  relation : Relation
  comparableView : Option ViewId
  rightAttribute : Option Attribute
  constant : Binary64
  multiplier : Binary64
  priority : Option Binary64 := none
  identifier : Option String := none
  sizeClasses : SizeClasses := {}
deriving DecidableEq

/-- The attribute on the right, which is the one on the left unless it is fixed. -/
def Spec.effectiveRightAttribute (spec : Spec) : Attribute :=
  spec.rightAttribute.getD spec.leftAttribute

end ViewLayout
