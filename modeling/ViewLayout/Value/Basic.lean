import ViewLayout.Number.Binary64
import ViewLayout.Value.Calendar

/-!
# Document values

The values that layout documents and configurations are written in: null, truth values, integers of
any size, numbers, texts, days, moments, octets, and collections. A mapping keeps the order of its
entries, and its keys are compared by `Value.sameKey`, in which numbers of different kinds that are
equal are one key. Collections that contain themselves or each other are knots. `items?` and
`entries?` read a collection whether it is part of a knot or not, and `putEntry` and `lookup?` are a
mapping's writing and reading.
-/

namespace ViewLayout

/-- A value of a document. -/
inductive Value
  | null
  | bool (value : Bool)
  | int (value : Int)
  | float (value : Binary64)
  | text (value : String)
  | date (value : Date)
  | moment (value : Moment)
  | octets (content : List UInt8)
  | list (items : List Value)
  | tuple (items : List Value)
  | set (items : List Value)
  | mapping (entries : List (Value × Value))
  /-- One of several collections that contain each other, by its number among them. -/
  | knot (cells : List Value) (start : Nat)
  /-- Inside the collections of a knot: the one with a number. -/
  | cell (number : Nat)

namespace Value

/-- The value that says nothing stands for any other. -/
instance : Inhabited Value := ⟨null⟩

/-- A part of a collection in a knot, which stands for itself outside the knot. -/
def untie (cells : List Value) : Value → Value
  | cell number => knot cells number
  | value => value

/-- A value of which the outermost collection is no part of a knot; collections inside may be. -/
def uncover : Value → Value
  | knot cells start =>
    match cells[start]? with
    | some (list items) => list (items.map (untie cells))
    | some (tuple items) => tuple (items.map (untie cells))
    | some (mapping entries) =>
      mapping (entries.map fun entry => (entry.1, untie cells entry.2))
    | some (set items) => set items
    | _ => null
  | value => value

/-- How many collections are tied to a value. -/
def knotSize : Value → Nat
  | knot cells _ => cells.length
  | _ => 0

/-- The items of a list. -/
def items? (value : Value) : Option (List Value) :=
  match value.uncover with
  | list items => some items
  | _ => none

/-- The entries of a mapping. -/
def entries? (value : Value) : Option (List (Value × Value)) :=
  match value.uncover with
  | mapping entries => some entries
  | _ => none

/-- How messages call the kind of a value. -/
def kind (value : Value) : String :=
  match value.uncover with
  | bool _ => "bool"
  | int _ => "int"
  | float _ => "float"
  | text _ => "str"
  | date _ => "date"
  | moment _ => "datetime"
  | octets _ => "bytes"
  | list _ => "list"
  | tuple _ => "tuple"
  | set _ => "set"
  | mapping _ => "dict"
  | _ => "NoneType"

/-- Whether a value counts as true: empty ones, zeros, null and false do not. -/
def isTruthy (value : Value) : Bool :=
  match value.uncover with
  | bool value => value
  | int value => value != 0
  | float value => !value.isZero
  | text value => value != ""
  | date _ => true
  | moment _ => true
  | octets content => !content.isEmpty
  | list items => !items.isEmpty
  | tuple items => !items.isEmpty
  | set items => !items.isEmpty
  | mapping entries => !entries.isEmpty
  | _ => false

/-- Whether a value can be a key: collections cannot. -/
def isKey (value : Value) : Bool :=
  match value.uncover with
  | list _ => false
  | tuple _ => false
  | set _ => false
  | mapping _ => false
  | _ => true

/-- The integer that a value counts as among keys. -/
def integerKey? : Value → Option Int
  | bool value => some value.toNat
  | int value => some value
  | float value => value.toInt?
  | _ => none

/-- Whether two values are the same key. Truth values count as 0 and 1, and numbers that are equal
are one key whatever their kind. -/
def sameKey (x y : Value) : Bool :=
  match x.integerKey?, y.integerKey? with
  | some a, some b => a == b
  | none, none =>
    match x, y with
    | null, null => true
    | float a, float b => decide (a = b)
    | text a, text b => a == b
    | date a, date b => decide (a = b)
    | moment a, moment b => a.isSame b
    | octets a, octets b => a == b
    | _, _ => false
  | _, _ => false

/-- The entries with a value under a key. A key that is there keeps its place and its first form. -/
def putEntry : List (Value × Value) → Value → Value → List (Value × Value)
  | [], key, new => [(key, new)]
  | (name, value) :: rest, key, new =>
    if name.sameKey key then (name, new) :: rest else (name, value) :: putEntry rest key new

/-- The value of the first entry with a name. -/
def lookup? : List (Value × Value) → String → Option Value
  | [], _ => none
  | (text name, value) :: rest, wanted =>
    if name = wanted then some value else lookup? rest wanted
  | _ :: rest, wanted => lookup? rest wanted

/-- The value that entries hold under a name, or null. -/
def lookupD (entries : List (Value × Value)) (name : String) : Value :=
  (lookup? entries name).getD null

/-- The text that a value is. -/
def text? : Value → Option String
  | text value => some value
  | _ => none

/-- The items of a list that is no part of a knot. -/
@[simp] theorem items?_list (items : List Value) : (list items).items? = some items := rfl

/-- The entries of a mapping that is no part of a knot. -/
@[simp] theorem entries?_mapping (entries : List (Value × Value)) :
    (mapping entries).entries? = some entries := rfl

end Value

end ViewLayout
