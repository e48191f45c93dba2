import ViewLayout.Value.Basic

/-!
# Tying values

A value is put together from collections by number, which hold each other as `Value.cell`s.
`Value.tie` replaces every cell by its collection. Collections that do not contain themselves become
plain values, in which a collection that is used twice is shared; the others form one knot.
-/

namespace ViewLayout.Value

/-- Plain values by number, as far as they are known. -/
abbrev Settled : Type := Array (Option Value)

/-- The plain value of a part of a collection, if it is known. -/
def settledPart? (settled : Settled) : Value → Option Value
  | cell number => (settled[number]?).join
  | value => some value

/-- The plain value of a collection, if those of its parts are known. -/
def settledCollection? (settled : Settled) : Value → Option Value
  | list items => (items.mapM (settledPart? settled)).map list
  | tuple items => (items.mapM (settledPart? settled)).map tuple
  | mapping entries =>
    (entries.mapM fun entry =>
      (settledPart? settled entry.2).map fun value => (entry.1, value)).map mapping
  | value => some value

/-- Looks the collections through from the last to the first, for those whose parts are known. -/
def settleOnce (cells : Array Value) (settled : Settled) : Settled :=
  (List.range cells.size).foldr
    (fun number settled =>
      match (settled[number]?).join, cells[number]? with
      | none, some collection => settled.set! number (settledCollection? settled collection)
      | _, _ => settled)
    settled

/-- Of how many collections the plain value is known. -/
def settledCount (settled : Settled) : Nat :=
  (settled.toList.filter Option.isSome).length

/-- Looks the collections through as long as that makes more of them known. -/
def settleAll (cells : Array Value) : Nat → Settled → Settled
  | 0, settled => settled
  | rounds + 1, settled =>
    let next := settleOnce cells settled
    if settledCount next = settledCount settled then settled else settleAll cells rounds next

/-- A part of a collection, which stays a cell if it has no plain value. -/
def settledPart (settled : Settled) (value : Value) : Value :=
  (settledPart? settled value).getD value

/-- A collection of a knot, with the plain values of its parts. -/
def knotCell (settled : Settled) : Value → Value
  | list items => list (items.map (settledPart settled))
  | tuple items => tuple (items.map (settledPart settled))
  | mapping entries => mapping (entries.map fun entry => (entry.1, settledPart settled entry.2))
  | value => value

/-- The value in which every cell is its collection. -/
def tie (cells : Array Value) (value : Value) : Value :=
  match value with
  | cell number =>
    let settled := settleAll cells cells.size (Array.replicate cells.size none)
    match settledPart? settled value with
    | some plain => plain
    | none => knot (cells.toList.map (knotCell settled)) number
  | plain => plain

end ViewLayout.Value
