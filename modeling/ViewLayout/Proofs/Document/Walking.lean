import Mathlib.Logic.Function.Iterate
import ViewLayout.Proofs.Document.Addresses

/-!
# Walks turn by turn

A walk goes through a tree of descriptions with a stack of the trees that are still to come. Each
turn lists the root of the tree on top and puts its subviews in its place, the first one on top.
`lists_turns` says what any stack leads to, and `walk_preordered` that the walk of a tree stops and
lists each description once: parents before their subviews, subviews in order, and every subtree
without a gap.
-/

namespace ViewLayout.Description

/-- A walk lists as many as are pending. -/
theorem length_walkFrom (pending : List Placed) :
    (walkFrom pending).length = pendingCount pending := by
  fun_induction walkFrom pending with
  | case1 => rfl
  | case2 parent description rest inner =>
    rw [List.length_cons, inner, pendingCount_append, pendingCount_placedSubviews, pendingCount,
      count_eq, Nat.add_right_comm]

/-- A walk ends where nothing is pending. -/
theorem walkFrom_eq_nil_iff {pending : List Placed} : walkFrom pending = [] ↔ pending = [] := by
  cases pending with
  | nil => simp [walkFrom]
  | cons placed rest =>
    obtain ⟨parent, description⟩ := placed
    simp [walkFrom]

/-- A walk under way: what it listed so far, and the stack of trees with the top at its end. -/
structure Walk where
  listed : List Placed := []
  stack : List Placed

namespace Walk

/-- The walk of a tree before its first turn. -/
def start (description : Description) : Walk :=
  { stack := [(none, description)] }

/-- One turn of a walk. The subviews are stacked from the last to the first. -/
def turn (walk : Walk) : Walk :=
  match walk.stack.getLast? with
  | none => walk
  | some placed =>
    { listed := walk.listed ++ [placed]
      stack := walk.stack.dropLast ++ placed.2.placedSubviews.reverse }

/-- What the trees on the stack come to, from the top on. -/
def ahead (walk : Walk) : List Placed :=
  walkFrom walk.stack.reverse

/-- At the start the whole walk is ahead. -/
theorem ahead_start (description : Description) : (start description).ahead = description.walk :=
  rfl

variable (walk : Walk)

theorem ahead_eq_nil_iff : walk.ahead = [] ↔ walk.stack = [] := by
  rw [ahead, walkFrom_eq_nil_iff, List.reverse_eq_nil_iff]

/-- A turn takes the first of what is ahead, and leaves the others there. -/
theorem lists_turn :
    walk.turn.listed = walk.listed ++ walk.ahead.take 1 ∧ walk.turn.ahead = walk.ahead.drop 1 := by
  obtain ⟨listed, stack⟩ := walk
  rcases List.eq_nil_or_concat stack with rfl | ⟨below, placed, rfl⟩
  · simp [turn, ahead, walkFrom]
  · have next : ({ listed, stack := below.concat placed } : Walk).ahead =
        placed :: walkFrom (placed.2.placedSubviews ++ below.reverse) := by
      rw [ahead, List.concat_eq_append, List.reverse_append, List.reverse_singleton,
        List.singleton_append, walkFrom]
    rw [next]
    simp [turn, ahead]

/-- What a walk lists in some turns is the first of what was ahead, a description a turn. -/
theorem lists_turns (turns : Nat) :
    (turn^[turns] walk).listed = walk.listed ++ walk.ahead.take turns ∧
      (turn^[turns] walk).ahead = walk.ahead.drop turns := by
  induction turns with
  | zero => simp
  | succ turns inner =>
    obtain ⟨listed, left⟩ := inner
    obtain ⟨more, rest⟩ := lists_turn (turn^[turns] walk)
    rw [Function.iterate_succ_apply', more, rest, listed, left]
    exact ⟨by rw [List.append_assoc, List.take_add], List.drop_drop⟩

/-- A walk stops after as many turns as there are descriptions on its stack, and not before. -/
theorem stack_turns_eq_nil_iff (turns : Nat) :
    (turn^[turns] walk).stack = [] ↔ pendingCount walk.stack.reverse ≤ turns := by
  rw [← ahead_eq_nil_iff, (lists_turns walk turns).2, List.drop_eq_nil_iff, ahead, length_walkFrom]

end Walk

/-- A tree of descriptions is walked in preorder. -/
structure Preordered (description : Description) : Prop where
  /-- The recursive listing of a tree: its root, then the listings of its subviews in order. -/
  unfolds : ∀ parent node, listing parent node =
    (parent, node) :: node.subviews.flatMap (listing (some node))
  /-- The walk lists what the recursion lists. -/
  recurs : description.walk = description.listing none
  /-- The stack is empty after a turn for every description, and not before. -/
  stops : ∀ turns, (Walk.turn^[turns] (.start description)).stack = [] ↔ description.count ≤ turns
  /-- Turn by turn, the walk is listed. -/
  lists : ∀ turns,
    (Walk.turn^[turns] (.start description)).listed = description.walk.take turns
  /-- What is listed stands at the addresses of the tree, with the description right above it. -/
  placed : description.walk.map some = description.addresses.map (description.placedAt? none)
  /-- Every description of the tree is listed once. -/
  once : description.addresses.Nodup ∧
    ∀ address, address ∈ description.addresses ↔ (description.at? address).isSome
  /-- A description is listed before all that are below it. -/
  parentsFirst : ∀ address position rest,
    (description.at? (address ++ position :: rest)).isSome →
      [address, address ++ position :: rest].Sublist description.addresses
  /-- A subview is listed, with all that are below it, before the later ones. -/
  inOrder : ∀ address position rest later others, position < later →
    (description.at? (address ++ position :: rest)).isSome →
    (description.at? (address ++ later :: others)).isSome →
      [address ++ position :: rest, address ++ later :: others].Sublist description.addresses
  /-- A subtree is listed without a gap, as it is listed by itself below its parent. -/
  contiguous : ∀ address above node, description.placedAt? none address = some (above, node) →
    ∃ before after, description.addresses = before ++ node.addresses.map (address ++ ·) ++ after ∧
      (description.walk.drop before.length).take node.count = node.listing above

/-- **The walk of every tree of descriptions is its recursive preorder.** -/
theorem walk_preordered (description : Description) : description.Preordered where
  unfolds parent node := by rw [listing_eq, listingAll_eq_flatMap]
  recurs := walk_eq description
  stops turns := by
    rw [Walk.stack_turns_eq_nil_iff]
    simp [Walk.start, pendingCount]
  lists turns := by
    rw [(Walk.lists_turns _ turns).1, Walk.ahead_start]
    rfl
  placed := by rw [walk_eq, map_some_listing]
  once := ⟨nodup_addresses description, fun _ => mem_addresses_iff⟩
  parentsFirst address position rest below := by
    have above := below
    rw [at?_append] at above
    refine sublist_addresses (Option.isSome_of_isSome_bind above) below ?_
    have less := (append_lt_append_iff address).2 (List.nil_lt_cons position rest)
    rwa [List.append_nil] at less
  inOrder address position rest later others less first second :=
    sublist_addresses first second
      ((append_lt_append_iff address).2 (List.cons_lt_cons_iff.2 (.inl less)))
  contiguous address above node stands := by
    rw [walk_eq]
    exact exists_listing_eq stands

end ViewLayout.Description
