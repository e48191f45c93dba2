/-!
# Layout attributes

The edges, sizes and centres of a view that constraints relate, with the names that directives give
them. Some names stand for several attributes at once. An inset or offset constant is read from the
side of the attribute, so that attributes fall into classes by whether such a constant changes sign.
-/

namespace ViewLayout

/-- An edge, a size or a centre of a view. `noAttribute` stands on the right of a constraint against
a constant. -/
inductive Attribute
  | noAttribute
  | leading
  | trailing
  | top
  | bottom
  | width
  | height
  | centerX
  | centerY
  | firstBaseline
  | lastBaseline
  | leadingMargin
  | trailingMargin
  | topMargin
  | bottomMargin
  | centerXWithinMargins
  | centerYWithinMargins
deriving DecidableEq

namespace Attribute

/-- How an attribute is written. -/
def name : Attribute → String
  | noAttribute => "none"
  | leading => "leading"
  | trailing => "trailing"
  | top => "top"
  | bottom => "bottom"
  | width => "width"
  | height => "height"
  | centerX => "centerX"
  | centerY => "centerY"
  | firstBaseline => "firstBaseline"
  | lastBaseline => "lastBaseline"
  | leadingMargin => "leadingMargin"
  | trailingMargin => "trailingMargin"
  | topMargin => "topMargin"
  | bottomMargin => "bottomMargin"
  | centerXWithinMargins => "centerXWithinMargins"
  | centerYWithinMargins => "centerYWithinMargins"

/-- All attributes. -/
def all : List Attribute :=
  [noAttribute, leading, trailing, top, bottom, width, height, centerX, centerY, firstBaseline,
    lastBaseline, leadingMargin, trailingMargin, topMargin, bottomMargin, centerXWithinMargins,
    centerYWithinMargins]

/-- The attribute of a name. -/
def ofName? (name : String) : Option Attribute :=
  all.find? (·.name == name)

/-- The attribute that a directive names: left and right are other names for leading and trailing,
and `noAttribute` cannot be named. -/
def ofKey? (key : String) : Option Attribute :=
  match key with
  | "left" => some leading
  | "right" => some trailing
  | "leftMargin" => some leadingMargin
  | "rightMargin" => some trailingMargin
  | _ => (ofName? key).filter (· != noAttribute)

/-- The attributes that one name stands for together. -/
def compound? (key : String) : Option (List Attribute) :=
  match key with
  | "edges" => some [leading, top, trailing, bottom]
  | "center" => some [centerX, centerY]
  | "size" => some [width, height]
  | "margins" => some [leadingMargin, topMargin, trailingMargin, bottomMargin]
  | _ => none

/-- The attributes that a directive means by a name; an unknown one means none. -/
def expand (key : String) : List Attribute :=
  match ofKey? key with
  | some attr => [attr]
  | none => (compound? key).getD []

/-- Whether the attribute is a size, which can be constrained without another view. -/
def isSize : Attribute → Bool
  | width => true
  | height => true
  | _ => false

/-- Whether an inset constant changes its sign for the attribute. -/
def negatesInset : Attribute → Bool
  | trailing => true
  | bottom => true
  | width => true
  | height => true
  | trailingMargin => true
  | _ => false

/-- Whether an offset constant changes its sign for the attribute. -/
def negatesOffset : Attribute → Bool
  | leading => true
  | top => true
  | width => true
  | height => true
  | _ => false

theorem ofName?_name (attr : Attribute) : ofName? attr.name = some attr := by
  cases attr <;> decide

/-- Every attribute but `noAttribute` can be named by its own name. -/
theorem ofKey?_name {attr : Attribute} (named : attr ≠ noAttribute) :
    ofKey? attr.name = some attr := by
  cases attr <;> first | contradiction | decide

end Attribute

end ViewLayout
