/-!
# Size classes

A constraint can be meant for compact or regular environments only, horizontally and vertically.
-/

namespace ViewLayout

/-- How much room there is in one direction. -/
inductive SizeClass
  | unspecified
  | compact
  | regular
deriving DecidableEq

namespace SizeClass

/-- How a size class is written. -/
def name : SizeClass → String
  | unspecified => "unspecified"
  | compact => "compact"
  | regular => "regular"

/-- The size class of a name. -/
def ofName? (name : String) : Option SizeClass :=
  [unspecified, compact, regular].find? (·.name == name)

/-- Whether a constraint for the first class holds in an environment of the second one; unspecified
fits every class. -/
def admits (required current : SizeClass) : Bool :=
  required == unspecified || current == unspecified || required == current

end SizeClass

/-- The ways in which directives and configurations write a size class. -/
inductive SizeClassKey
  | c
  | compact
  | r
  | regular
  | any
deriving DecidableEq

namespace SizeClassKey

/-- How a key is written. -/
def text : SizeClassKey → String
  | c => "c"
  | compact => "compact"
  | r => "r"
  | regular => "regular"
  | any => "any"

/-- All keys, in the order in which messages list them. -/
def all : List SizeClassKey := [c, compact, r, regular, any]

/-- The key that a text is. -/
def ofText? (text : String) : Option SizeClassKey :=
  all.find? (·.text == text)

/-- The size class that a key stands for. -/
def sizeClass : SizeClassKey → SizeClass
  | c => .compact
  | compact => .compact
  | r => .regular
  | regular => .regular
  | any => .unspecified

end SizeClassKey

/-- The size class that a directive means by a text. -/
def SizeClass.ofKey? (key : String) : Option SizeClass :=
  (SizeClassKey.ofText? key).map SizeClassKey.sizeClass

/-- Size classes in both directions: of a constraint, or of the environment. -/
structure SizeClasses where
  horizontal : SizeClass := .unspecified
  vertical : SizeClass := .unspecified
deriving DecidableEq

/-- Whether a constraint for these classes holds in an environment. -/
def SizeClasses.admits (required current : SizeClasses) : Bool :=
  required.horizontal.admits current.horizontal && required.vertical.admits current.vertical

end ViewLayout
