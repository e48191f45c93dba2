/-!
# Relations

How the two sides of a constraint are related.
-/

namespace ViewLayout

/-- How the left side of a constraint is related to the right side. -/
inductive Relation
  | equal
  | greaterOrEqual
  | lessOrEqual
deriving DecidableEq

namespace Relation

/-- How a relation is written. -/
def name : Relation → String
  | equal => "equal"
  | greaterOrEqual => "greaterOrEqual"
  | lessOrEqual => "lessOrEqual"

/-- The relation of a name. -/
def ofName? (name : String) : Option Relation :=
  [equal, greaterOrEqual, lessOrEqual].find? (·.name == name)

/-- The relation that a directive means by a sign or a word. -/
def ofKey? (key : String) : Option Relation :=
  match key with
  | "==" => some equal
  | ">=" => some greaterOrEqual
  | "<=" => some lessOrEqual
  | "equal" => some equal
  | "gte" => some greaterOrEqual
  | "lte" => some lessOrEqual
  | _ => none

end Relation

end ViewLayout
