import Mathlib.Data.List.Perm.Subperm
import ViewLayout.Value.Shown

/-!
# Values that can be shown

The one thing that keeps a value from being shown is an integer of too many digits.
`Value.Writable` says that there is none, wherever in a value, and `isShowable_of_writable` that
such a value can be shown, also if collections in it contain themselves. What such a value holds is
writable as well.
-/

namespace ViewLayout.Value

mutual

/-- Every integer in a value has few enough digits to be written. The value may stand in one of
several collections that contain each other, of which there are `count`. -/
def WritableIn (count : Nat) : Value → Prop
  | int value => value.natAbs < Nat.pow 10 Numeral.integerDigitLimit
  | list items => AllWritable 0 items
  | tuple items => AllWritable 0 items
  | set items => AllWritable 0 items
  | mapping entries => EntriesWritable 0 entries
  | knot cells start => start < cells.length ∧ CellsWritable cells.length cells
  | cell number => number < count
  | null | bool _ | float _ | text _ | date _ | moment _ | octets _ => True

/-- The items of a collection are writable. -/
def AllWritable (count : Nat) : List Value → Prop
  | [] => True
  | item :: rest => item.WritableIn count ∧ AllWritable count rest

/-- Only the values of entries are other collections, and not their keys. -/
def EntriesWritable (count : Nat) : List (Value × Value) → Prop
  | [] => True
  | (key, value) :: rest =>
    key.WritableIn 0 ∧ value.WritableIn count ∧ EntriesWritable count rest

/-- The collections that contain each other are writable. -/
def CellsWritable (count : Nat) : List Value → Prop
  | [] => True
  | list items :: rest => AllWritable count items ∧ CellsWritable count rest
  | tuple items :: rest => AllWritable count items ∧ CellsWritable count rest
  | set items :: rest => AllWritable 0 items ∧ CellsWritable count rest
  | mapping entries :: rest => EntriesWritable count entries ∧ CellsWritable count rest
  | _ :: _ => False

end

/-- Every integer in a value has few enough digits to be written. -/
def Writable (value : Value) : Prop :=
  value.WritableIn 0

variable {count : Nat} {items cells : List Value} {entries : List (Value × Value)} {value : Value}

theorem allWritable_iff : AllWritable count items ↔ ∀ item ∈ items, item.WritableIn count := by
  induction items with
  | nil => simp [AllWritable]
  | cons item rest inner => simp [AllWritable, inner]

theorem entriesWritable_iff :
    EntriesWritable count entries ↔
      ∀ entry ∈ entries, entry.1.Writable ∧ entry.2.WritableIn count := by
  induction entries with
  | nil => simp [EntriesWritable]
  | cons entry rest inner => simp [EntriesWritable, inner, Writable, and_assoc]

/-- Each cell is shown as its collection is. -/
theorem cellForms_eq_map (cells : List Value) : cellForms cells = cells.map quotedIn := by
  induction cells with
  | nil => rfl
  | cons cell rest inner => rw [cellForms, inner, List.map_cons]

/-- The collections of a knot can be shown, inside those that are open around them. -/
theorem isSome_knotText? {forms : List CellForm} (same : forms.length = cells.length)
    (forming : ∀ form ∈ forms, ∀ around : Nat → Option String,
      (∀ number < cells.length, (around number).isSome) → (form around).isSome) :
    ∀ (fuel : Nat) (opened : List Nat) (number : Nat), number < cells.length → opened.Nodup →
      (∀ other ∈ opened, other < cells.length) → cells.length < fuel + opened.length →
      (knotText? cells forms fuel opened number).isSome := by
  intro fuel
  induction fuel with
  | zero =>
    -- There are no more open collections than collections.
    intro opened _ _ distinct inside enough
    have within : opened ⊆ List.range cells.length := fun other member =>
      List.mem_range.2 (inside other member)
    have bound := (distinct.subperm within).length_le
    rw [List.length_range] at bound
    omega
  | succ fuel inner =>
    intro opened number inRange distinct inside enough
    unfold knotText?
    by_cases again : opened.contains number
    · rw [if_pos again]
      rfl
    · rw [if_neg again, List.getElem?_eq_getElem (same ▸ inRange)]
      refine forming _ (List.getElem_mem _) _ fun other otherInRange => ?_
      refine inner (number :: opened) other otherInRange ?_ ?_ ?_
      · exact List.nodup_cons.2 ⟨by simpa using again, distinct⟩
      · exact List.forall_mem_cons.2 ⟨inRange, inside⟩
      · rw [List.length_cons]
        omega

mutual

/-- A value without an integer of too many digits can be written, if what stands around it
can. -/
theorem isSome_quotedIn {count : Nat} {around : Nat → Option String}
    (written : ∀ number < count, (around number).isSome) : ∀ value : Value,
    value.WritableIn count → (quotedIn value around).isSome
  | null, _ | bool true, _ | bool false, _ | float _, _ | text _, _ | date _, _ | moment _, _
  | octets _, _ => rfl
  | int value, few => by
    rw [WritableIn] at few
    rw [quotedIn, integerText?, if_pos few]
    rfl
  | list items, all | tuple items, all | set items, all => by
    rw [WritableIn] at all
    rw [quotedIn, Option.isSome_map]
    exact isSome_quotedItems (fun _ none => absurd none (Nat.not_lt_zero _)) items all
  | mapping entries, all => by
    rw [WritableIn] at all
    rw [quotedIn, Option.isSome_map]
    exact isSome_quotedEntries (fun _ none => absurd none (Nat.not_lt_zero _)) entries all
  | knot cells start, writable => by
    rw [WritableIn] at writable
    rw [quotedIn]
    refine isSome_knotText? (by rw [cellForms_eq_map, List.length_map]) ?_ _ _ _ writable.1
      List.nodup_nil (fun _ none => absurd none List.not_mem_nil) (by simp)
    intro form member around written
    rw [cellForms_eq_map] at member
    obtain ⟨cell, listed, rfl⟩ := List.mem_map.1 member
    exact isSome_quotedIn_of_mem cells writable.2 cell listed written
  | cell number, inside => written number (by rwa [WritableIn] at inside)

/-- Writable items can be shown. -/
theorem isSome_quotedItems {count : Nat} {around : Nat → Option String}
    (written : ∀ number < count, (around number).isSome) : ∀ items : List Value,
    AllWritable count items → (quotedItems items around).isSome
  | [], _ => rfl
  | item :: rest, all => by
    rw [AllWritable] at all
    obtain ⟨first, same⟩ := Option.isSome_iff_exists.1 (isSome_quotedIn written item all.1)
    obtain ⟨others, rests⟩ := Option.isSome_iff_exists.1 (isSome_quotedItems written rest all.2)
    rw [quotedItems, same, rests]
    rfl

/-- Writable entries can be shown. -/
theorem isSome_quotedEntries {count : Nat} {around : Nat → Option String}
    (written : ∀ number < count, (around number).isSome) : ∀ entries : List (Value × Value),
    EntriesWritable count entries → (quotedEntries entries around).isSome
  | [], _ => rfl
  | (key, value) :: rest, all => by
    rw [EntriesWritable] at all
    obtain ⟨name, named⟩ := Option.isSome_iff_exists.1
      (isSome_quotedIn (fun _ none => absurd none (Nat.not_lt_zero _)) key all.1)
    obtain ⟨content, same⟩ := Option.isSome_iff_exists.1 (isSome_quotedIn written value all.2.1)
    obtain ⟨others, rests⟩ := Option.isSome_iff_exists.1
      (isSome_quotedEntries written rest all.2.2)
    rw [quotedEntries, named, same, rests]
    rfl

/-- A collection of a knot can be written, if what it contains can. -/
theorem isSome_quotedIn_of_mem {count : Nat} : ∀ cells : List Value, CellsWritable count cells →
    ∀ cell ∈ cells, ∀ {around : Nat → Option String},
      (∀ number < count, (around number).isSome) → (quotedIn cell around).isSome
  | list items :: rest, writable, other, member, around, written
  | tuple items :: rest, writable, other, member, around, written => by
    rw [CellsWritable] at writable
    rcases List.mem_cons.1 member with rfl | later
    · rw [quotedIn, Option.isSome_map]
      exact isSome_quotedItems written items writable.1
    · exact isSome_quotedIn_of_mem rest writable.2 other later written
  | set items :: rest, writable, other, member, around, written => by
    rw [CellsWritable] at writable
    rcases List.mem_cons.1 member with rfl | later
    · rw [quotedIn, Option.isSome_map]
      exact isSome_quotedItems (fun _ none => absurd none (Nat.not_lt_zero _)) items writable.1
    · exact isSome_quotedIn_of_mem rest writable.2 other later written
  | mapping entries :: rest, writable, other, member, around, written => by
    rw [CellsWritable] at writable
    rcases List.mem_cons.1 member with rfl | later
    · rw [quotedIn, Option.isSome_map]
      exact isSome_quotedEntries written entries writable.1
    · exact isSome_quotedIn_of_mem rest writable.2 other later written

end

/-- **A writable value can be shown.** -/
theorem Writable.isShowable (writable : value.Writable) : value.isShowable = true :=
  isSome_quotedIn (fun _ none => absurd none (Nat.not_lt_zero _)) value writable

/-- A writable value is shown. -/
theorem Writable.shown? (writable : value.Writable) : value.shown? = some value.shown := by
  have quoted : value.quoted?.isSome := writable.isShowable
  obtain ⟨content, same⟩ : ∃ content, value.shown? = some content := by
    unfold Value.shown?
    split
    · exact ⟨_, rfl⟩
    · exact ⟨_, rfl⟩
    · exact ⟨_, rfl⟩
    · exact Option.isSome_iff_exists.1 quoted
  rw [shown, same, Option.getD_some]

/-- A part of a collection in a knot is writable where it stands for itself. -/
theorem WritableIn.untie (writable : value.WritableIn cells.length)
    (around : CellsWritable cells.length cells) : (value.untie cells).Writable := by
  cases value with
  | cell number =>
    rw [WritableIn] at writable
    rw [Value.untie, Writable, WritableIn]
    exact ⟨writable, around⟩
  | null | bool | float | text | date | moment | octets =>
    simp only [Value.untie, Writable, WritableIn]
  | int | list | tuple | set | mapping | knot =>
    simpa only [Value.untie, Writable, WritableIn] using writable

/-- A collection among writable ones is writable. -/
theorem CellsWritable.of_mem (writable : CellsWritable count cells) {cell : Value}
    (member : cell ∈ cells) : CellsWritable count [cell] := by
  induction cells with
  | nil => cases member
  | cons first rest inner =>
    have split : CellsWritable count [first] ∧ CellsWritable count rest := by
      cases first <;> simp_all [CellsWritable]
    rcases List.mem_cons.1 member with rfl | later
    · exact split.1
    · exact inner split.2 later

/-- A writable value is writable when its outermost collection is laid open. -/
theorem Writable.uncover (writable : value.Writable) : value.uncover.Writable := by
  cases value with
  | knot cells start =>
    rw [Writable, WritableIn] at writable
    obtain ⟨inside, all⟩ := writable
    have one := all.of_mem (List.getElem_mem inside)
    rw [Value.uncover, List.getElem?_eq_getElem inside]
    generalize cells[start] = cell at one
    cases cell with
    | list items | tuple items =>
      rw [CellsWritable, allWritable_iff] at one
      rw [Writable, WritableIn, allWritable_iff]
      exact List.forall_mem_map.2 fun item member => (one.1 item member).untie all
    | set items =>
      rw [CellsWritable] at one
      exact one.1
    | mapping entries =>
      rw [CellsWritable, entriesWritable_iff] at one
      rw [Writable, WritableIn, entriesWritable_iff]
      exact List.forall_mem_map.2 fun entry member =>
        ⟨(one.1 entry member).1, (one.1 entry member).2.untie all⟩
    | _ => trivial
  | _ => exact writable

/-- The items of a writable list are writable. -/
theorem Writable.items? (writable : value.Writable) (listed : value.items? = some items) :
    ∀ item ∈ items, item.Writable := by
  have opened := writable.uncover
  unfold Value.items? at listed
  split at listed
  · next same =>
    cases listed
    rw [same, Writable, WritableIn] at opened
    exact allWritable_iff.1 opened
  · cases listed

/-- The entries of a writable mapping are writable. -/
theorem Writable.entries? (writable : value.Writable) (mapped : value.entries? = some entries) :
    ∀ entry ∈ entries, entry.1.Writable ∧ entry.2.Writable := by
  have opened := writable.uncover
  unfold Value.entries? at mapped
  split at mapped
  · next same =>
    cases mapped
    rw [same, Writable, WritableIn] at opened
    exact entriesWritable_iff.1 opened
  · cases mapped

/-- The first entry with a name is found, and what is behind it is not looked at. -/
theorem lookup?_cons (key value : Value) (rest : List (Value × Value)) (wanted : String) :
    lookup? ((key, value) :: rest) wanted =
      if key.text? = some wanted then some value else lookup? rest wanted := by
  cases key <;> simp [lookup?, text?]

/-- What writable entries hold under a name is writable. -/
theorem writable_lookupD (name : String)
    (writable : ∀ entry ∈ entries, entry.1.Writable ∧ entry.2.Writable) :
    (lookupD entries name).Writable := by
  unfold lookupD
  induction entries with
  | nil => trivial
  | cons entry rest inner =>
    rw [lookup?_cons]
    split
    · exact (writable _ List.mem_cons_self).2
    · exact inner fun entry member => writable entry (List.mem_cons_of_mem _ member)

end ViewLayout.Value
