import ViewLayout.Value.Basic

/-!
# The arrangement of sets

A set has no order of its own and is shown as a table of slots holds it. A number, and a moment
whose offset is known, goes to the slot that its code gives; if that is taken, it goes to one of the
slots next to it or further on by a fixed walk. A set that holds other items is shown as it was
written.
`arrange` gives the order of a set that is filled at once, and `rearrange` that of a copy, whose
table grows while it is filled. `arrange_perm` and `rearrange_perm` say that no item is lost or
doubled.
-/

namespace ViewLayout.Arrangement

/-- The bits of the prime of which numbers leave residues. Its powers of two repeat after them. -/
def residueBits : Nat := 61

/-- The residue of a magnitude. That of infinity is fixed. -/
def magnitudeResidue (magnitude : Magnitude) : Nat :=
  if magnitude.isFinite then
    magnitude.significand * Nat.pow 2 (magnitude.exponent % residueBits).toNat %
      (Nat.pow 2 residueBits - 1)
  else 314159

/-- The residue of a number with its sign, where two takes the place of one below zero. -/
def signedResidue (negative : Bool) (residue : Nat) : Int :=
  if negative then (if residue = 1 then -2 else -residue) else residue

/-- Codes have this many values. -/
def codeRange : Nat := Nat.pow 2 64

/-- A code with its higher 33 bits below its lower 31. -/
def turned (code : Nat) : Nat :=
  code * Nat.pow 2 31 % codeRange + code / Nat.pow 2 33

/-- The factors that mix a code, and the code to start from. -/
def mixingFactors : Nat × Nat × Nat :=
  (14029467366897019727, 11400714785074694791, 2870177450012600261)

/-- The code of several numbers in their order. -/
def mixed (parts : List Nat) : Nat :=
  let (before, after, start) := mixingFactors
  let code := parts.foldl (fun code part =>
    turned ((code + part * before) % codeRange) * after % codeRange) start
  (code + (parts.length ^^^ start ^^^ 3527539)) % codeRange

/-- The code of a moment: of its day, second and microsecond by universal time. -/
def momentCode (moment : Moment) : Nat :=
  let minutes := moment.minutes.toNat
  mixed [minutes / 1440, minutes % 1440 * 60 + moment.second, moment.microsecond]

/-- The code of a value, if it is a number or a moment of a known offset; numbers of different kinds
that are equal have the same. -/
def code? : Value → Option Int
  | .bool value => some value.toNat
  | .int value =>
    some (signedResidue (decide (value < 0)) (value.natAbs % (Nat.pow 2 residueBits - 1)))
  | .float (.number negative magnitude) =>
    some (signedResidue negative (magnitudeResidue magnitude))
  | .moment value => value.offset.map fun _ => (momentCode value : Int)
  | _ => none

/-- The number of slots that is a power of two above the given number, and at least eight. -/
def slotsAbove (least : Nat) : Nat :=
  max 8 (Nat.pow 2 (least.log2 + 1))

/-- The number of slots for items that are put there at once: more than twice as many unless they
are few. -/
def slotCount (items : Nat) : Nat :=
  if items < 5 then 8 else slotsAbove (2 * items)

/-- How many slots next to one are tried as well. -/
def neighbours : Nat := 9

/-- The slots that are tried together: one and those next to it, if all of them are there. -/
def slotsAt (count slot : Nat) : List Nat :=
  if slot + neighbours < count then (List.range (neighbours + 1)).map (slot + ·) else [slot]

/-- The first free slot on the walk from a slot. Each step brings in five more bits of the code. -/
def freeSlot (count : Nat) (taken : List Nat) : Nat → Nat → Nat → Nat
  | 0, slot, _ => slot
  | steps + 1, slot, bits =>
    match (slotsAt count slot).find? fun candidate => !taken.contains candidate with
    | some free => free
    | none =>
      let left := bits / 32
      freeSlot count taken steps ((slot * 5 + 1 + left) % count) left

/-- An item with its code, in a slot. -/
abbrev Placed : Type := Nat × Int × Value

/-- The slot of an item, where some slots are taken. -/
def slotOf (count : Nat) (taken : List Nat) (item : Int × Value) : Nat :=
  let bits := (item.1 % codeRange).toNat
  freeSlot count taken (count + 64) (bits % count) bits

/-- The slots of items with their codes, where some slots are taken. -/
def spread (count : Nat) : List Nat → List (Int × Value) → List Placed
  | _, [] => []
  | taken, item :: rest =>
    let slot := slotOf count taken item
    (slot, item) :: spread count (slot :: taken) rest

/-- Items in the order of their slots. -/
def inSlotOrder (placed : List Placed) : List (Int × Value) :=
  (placed.mergeSort fun first second => decide (first.1 ≤ second.1)).map Prod.snd

/-- The items of a set in the order in which it is shown. -/
def arrange (items : List Value) : List Value :=
  match items.mapM code? with
  | none => items
  | some codes =>
    (inSlotOrder (spread (slotCount items.length) [] (codes.zip items))).map Prod.snd

/-- The table after an item was put into it. If three fifths of it are taken, the items move to one
that has more than four slots for each of them, or two if they are very many. -/
def settle (count : Nat) (placed : List Placed) : Nat × List Placed :=
  if 5 * placed.length < 3 * (count - 1) then (count, placed)
  else
    let wider := slotsAbove ((if 50000 < placed.length then 2 else 4) * placed.length)
    (wider, spread wider [] (inSlotOrder placed))

/-- The order of items that are put into a table one by one. -/
def fill (count : Nat) (placed : List Placed) : List (Int × Value) → List (Int × Value)
  | [] => inSlotOrder placed
  | item :: rest =>
    let table := settle count ((slotOf count (placed.map Prod.fst) item, item) :: placed)
    fill table.1 table.2 rest

/-- The items of a copy of a set in the order in which it is shown. -/
def rearrange (items : List Value) : List Value :=
  match items.mapM code? with
  | none => items
  | some codes => (fill 8 [] (codes.zip items)).map Prod.snd

/-- Spreading changes the places of items only. -/
theorem map_snd_spread (count : Nat) (taken : List Nat) (items : List (Int × Value)) :
    (spread count taken items).map Prod.snd = items := by
  induction items generalizing taken with
  | nil => rfl
  | cons entry rest inner => simp [spread, inner]

/-- Slots are put in order without loss. -/
theorem inSlotOrder_perm (placed : List Placed) :
    (inSlotOrder placed).Perm (placed.map Prod.snd) :=
  (List.mergeSort_perm _ _).map Prod.snd

/-- Items settle without loss. -/
theorem map_snd_settle_perm (count : Nat) (placed : List Placed) :
    ((settle count placed).2.map Prod.snd).Perm (placed.map Prod.snd) := by
  unfold settle
  split
  · exact List.Perm.refl _
  · simpa only [map_snd_spread] using inSlotOrder_perm placed

/-- A table is filled without loss. -/
theorem fill_perm (count : Nat) (placed : List Placed) (items : List (Int × Value)) :
    (fill count placed items).Perm (placed.map Prod.snd ++ items) := by
  induction items generalizing count placed with
  | nil => simpa [fill] using inSlotOrder_perm placed
  | cons item rest inner =>
    refine (inner _ _).trans (((map_snd_settle_perm _ _).append_right rest).trans ?_)
    simpa using List.perm_middle.symm

theorem length_of_mapM_code? {items : List Value} {codes : List Int}
    (found : items.mapM code? = some codes) : codes.length = items.length := by
  induction items generalizing codes with
  | nil =>
    obtain rfl : [] = codes := by simpa using found
    rfl
  | cons item rest inner =>
    simp only [List.mapM_cons, Option.pure_def, Option.bind_eq_bind, Option.bind_eq_some_iff,
      Option.some.injEq] at found
    obtain ⟨first, _, others, inRest, rfl⟩ := found
    simp [inner inRest]

/-- Codes beside their items leave the items. -/
theorem map_snd_zip_codes {items : List Value} {codes : List Int}
    (found : items.mapM code? = some codes) : (codes.zip items).map Prod.snd = items :=
  List.map_snd_zip (Nat.le_of_eq (length_of_mapM_code? found).symm)

/-- **Arranging a set keeps its items.** -/
theorem arrange_perm (items : List Value) : (arrange items).Perm items := by
  unfold arrange
  split
  · exact List.Perm.refl items
  · next codes found =>
    refine ((inSlotOrder_perm _).map Prod.snd).trans ?_
    rw [map_snd_spread, map_snd_zip_codes found]

/-- A copy of a set has its items. -/
theorem rearrange_perm (items : List Value) : (rearrange items).Perm items := by
  unfold rearrange
  split
  · exact List.Perm.refl items
  · next codes found =>
    refine ((fill_perm 8 [] _).map Prod.snd).trans ?_
    rw [List.map_nil, List.nil_append, map_snd_zip_codes found]

mutual

/-- A copy of a value, in which every set is filled anew. -/
def copied : Value → Value
  | .list items => .list (copiedItems items)
  | .tuple items => .tuple (copiedItems items)
  | .set items => .set (rearrange items)
  | .mapping entries => .mapping (copiedEntries entries)
  | .knot cells start => .knot (copiedItems cells) start
  | value => value

/-- Copies of the items of a collection. -/
def copiedItems : List Value → List Value
  | [] => []
  | item :: rest => copied item :: copiedItems rest

/-- Copies of the entries of a mapping, whose keys are no collections. -/
def copiedEntries : List (Value × Value) → List (Value × Value)
  | [] => []
  | (key, value) :: rest => (key, copied value) :: copiedEntries rest

end

end ViewLayout.Arrangement
