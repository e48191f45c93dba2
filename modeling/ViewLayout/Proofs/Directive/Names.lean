import Mathlib.Data.List.Flatten
import Mathlib.Tactic.ByContra
import ViewLayout.Directive.Reading

/-!
# Names in a text

The names of a text are its longest runs of characters that do not separate. `lists_iff` says that
they are the runs of the text that are not empty. With more separators a text has the names of its
names, and `flatMap_names_eq_iff` says when this changes nothing of what the names mean, where a
name with a separator in it means nothing.
-/

namespace ViewLayout

namespace Reading

/-- The names of a text, in order: its longest runs of characters that do not separate. -/
inductive Lists (separates : Char → Bool) : List (List Char) → List Char → Prop
  | gap {gap : List Char} (apart : ∀ c ∈ gap, separates c = true) : Lists separates [] gap
  | name {gap name rest : List Char} {names : List (List Char)}
      (apart : ∀ c ∈ gap, separates c = true) (nonempty : name ≠ [])
      (whole : ∀ c ∈ name, separates c = false) (ends : ∀ c ∈ rest.head?, separates c = true)
      (later : Lists separates names rest) :
      Lists separates (name :: names) (gap ++ (name ++ rest))

/-- A name stands in a text between separators, or at the ends of the text. -/
structure Stands (separates : Char → Bool) (before name after : List Char) : Prop where
  nonempty : name ≠ []
  whole : ∀ c ∈ name, separates c = false
  starts : ∀ c ∈ before.getLast?, separates c = true
  ends : ∀ c ∈ after.head?, separates c = true

/-- The runs of a text that are not empty. -/
def names (separates : Char → Bool) (text : List Char) : List (List Char) :=
  (runs separates text).filter (!·.isEmpty)

section Names

variable {separates : Char → Bool} {text first second gap name before after rest : List Char}
  {words : List (List Char)} {c : Char}

/-- There is one run at least. -/
theorem runs_ne_nil (separates : Char → Bool) (text : List Char) : runs separates text ≠ [] := by
  cases text with
  | nil => exact List.cons_ne_nil _ _
  | cons c rest =>
    unfold runs
    split
    · exact List.cons_ne_nil _ _
    · split <;> exact List.cons_ne_nil _ _

/-- A text is split at a separator into the runs before it and those after it. -/
theorem runs_append {separates : Char → Bool} (first second : List Char) {separator : Char}
    (separator_ends : separates separator = true) :
    runs separates (first ++ separator :: second) =
      runs separates first ++ runs separates second := by
  induction first with
  | nil => simp only [List.nil_append, runs, separator_ends, ↓reduceIte, List.cons_append]
  | cons c rest inner =>
    simp only [List.cons_append, runs, inner]
    split
    · rfl
    · cases before : runs separates rest with
      | nil => exact absurd before (runs_ne_nil separates rest)
      | cons run others => rfl

/-- A text without separators is one run. -/
theorem runs_of_whole (whole : ∀ c ∈ name, separates c = false) : runs separates name = [name] := by
  induction name with
  | nil => rfl
  | cons c rest inner =>
    obtain ⟨own, others⟩ := List.forall_mem_cons.1 whole
    simp only [runs, own, Bool.false_eq_true, ↓reduceIte, inner others]

/-- A text without separators is one name, unless it is empty. -/
theorem names_of_whole (nonempty : name ≠ []) (whole : ∀ c ∈ name, separates c = false) :
    names separates name = [name] := by
  rw [names, runs_of_whole whole]
  cases name with
  | nil => contradiction
  | cons c rest => rfl

/-- The names around a separator are found apart. -/
theorem names_append_cons (first second : List Char) (own : separates c = true) :
    names separates (first ++ c :: second) = names separates first ++ names separates second := by
  rw [names, runs_append first second own, List.filter_append]
  rfl

/-- Separators belong to no name. -/
theorem names_append_of_apart (apart : ∀ c ∈ gap, separates c = true) (text : List Char) :
    names separates (gap ++ text) = names separates text := by
  induction gap with
  | nil => rfl
  | cons c others inner =>
    obtain ⟨own, later⟩ := List.forall_mem_cons.1 apart
    exact (names_append_cons [] (others ++ text) own).trans (inner later)

/-- A text is cut before a separator. -/
theorem names_append (first : List Char) (ends : ∀ c ∈ second.head?, separates c = true) :
    names separates (first ++ second) = names separates first ++ names separates second := by
  cases second with
  | nil => rw [List.append_nil, show names separates [] = [] from rfl, List.append_nil]
  | cons c rest =>
    have own : separates c = true := ends c rfl
    rw [names_append_cons first rest own]
    exact congrArg (_ ++ ·) (names_append_cons [] rest own).symm

/-- The names of a text are those that it lists. -/
theorem Lists.names_eq (lists : Lists separates words text) : names separates text = words := by
  induction lists with
  | @gap gap apart =>
    rw [← List.append_nil gap, names_append_of_apart apart]
    rfl
  | name apart nonempty whole ends later inner =>
    rw [names_append_of_apart apart, names_append _ ends, names_of_whole nonempty whole, inner]
    rfl

/-- A separator in front changes nothing. -/
theorem Lists.cons_separator (own : separates c = true) (lists : Lists separates words text) :
    Lists separates words (c :: text) := by
  have all {gap : List Char} (apart : ∀ d ∈ gap, separates d = true) :
      ∀ d ∈ c :: gap, separates d = true := List.forall_mem_cons.2 ⟨own, apart⟩
  cases lists with
  | gap apart => exact .gap (all apart)
  | name apart nonempty whole ends later => exact .name (all apart) nonempty whole ends later

/-- A text starts with what does not separate, up to a separator or the end. -/
theorem exists_back (separates : Char → Bool) (text : List Char) :
    ∃ front back, text = front ++ back ∧ (∀ c ∈ front, separates c = false) ∧
      ∀ c ∈ back.head?, separates c = true := by
  induction text with
  | nil => exact ⟨[], [], rfl, by simp, by simp⟩
  | cons c rest inner =>
    cases own : separates c with
    | true => exact ⟨[], c :: rest, rfl, by simp, by simpa using own⟩
    | false =>
      obtain ⟨front, back, rfl, whole, ends⟩ := inner
      exact ⟨c :: front, back, rfl, List.forall_mem_cons.2 ⟨own, whole⟩, ends⟩

/-- A text ends with what does not separate, after a separator or from the start. -/
theorem exists_front (separates : Char → Bool) (text : List Char) :
    ∃ front back, text = front ++ back ∧ (∀ c ∈ back, separates c = false) ∧
      ∀ c ∈ front.getLast?, separates c = true := by
  obtain ⟨back, front, reversed, whole, starts⟩ := exists_back separates text.reverse
  refine ⟨front.reverse, back.reverse, ?_, by simpa using whole, by simpa using starts⟩
  rw [← List.reverse_append, ← reversed, List.reverse_reverse]

/-- Every text has its names. -/
theorem exists_lists (separates : Char → Bool) :
    ∀ text : List Char, ∃ words, Lists separates words text
  | [] => ⟨[], .gap (by simp)⟩
  | c :: rest => by
    cases own : separates c with
    | true =>
      obtain ⟨words, lists⟩ := exists_lists separates rest
      exact ⟨words, lists.cons_separator own⟩
    | false =>
      obtain ⟨front, back, cut, whole, ends⟩ := exists_back separates rest
      obtain ⟨words, lists⟩ := exists_lists separates back
      refine ⟨(c :: front) :: words, ?_⟩
      rw [show c :: rest = [] ++ ((c :: front) ++ back) from congrArg (c :: ·) cut]
      exact .name (by simp) (List.cons_ne_nil c front) (List.forall_mem_cons.2 ⟨own, whole⟩) ends
        lists
termination_by text => text.length
decreasing_by
  · rw [cut, List.length_cons, List.length_append]
    omega
  · exact Nat.lt_succ_self _

/-- **The names of a text are its runs that are not empty.** -/
theorem lists_iff : Lists separates words text ↔ names separates text = words := by
  refine ⟨Lists.names_eq, ?_⟩
  rintro rfl
  obtain ⟨words, lists⟩ := exists_lists separates text
  rwa [lists.names_eq]

/-- A name of a text stands in it somewhere. -/
theorem Lists.exists_stands (lists : Lists separates words text) (member : name ∈ words) :
    ∃ before after, text = before ++ (name ++ after) ∧ Stands separates before name after := by
  induction lists with
  | gap apart => contradiction
  | @name gap first rest words apart nonempty whole ends later inner =>
    rcases List.mem_cons.1 member with rfl | member
    · exact ⟨gap, rest, rfl, nonempty, whole,
        fun c last => apart c (List.mem_of_mem_getLast? last), ends⟩
    · obtain ⟨before, after, rfl, stands⟩ := inner member
      refine ⟨gap ++ (first ++ before), after, by simp only [List.append_assoc],
        stands.nonempty, stands.whole, ?_, stands.ends⟩
      cases before with
      | cons c others => simpa [List.getLast?_append] using stands.starts
      | nil =>
        -- the name would go on from the one before it
        obtain ⟨c, others, rfl⟩ := List.exists_cons_of_ne_nil stands.nonempty
        have broken := ends c rfl
        rw [stands.whole c List.mem_cons_self] at broken
        contradiction

/-- What stands in a text as a name is one of its names. -/
theorem Stands.mem_names (stands : Stands separates before name after) :
    name ∈ names separates (before ++ (name ++ after)) := by
  have own : name ∈ names separates (name ++ after) := by
    rw [names_append name stands.ends, names_of_whole stands.nonempty stands.whole]
    exact List.mem_append_left _ List.mem_cons_self
  rcases List.eq_nil_or_concat before with rfl | ⟨front, c, rfl⟩
  · exact own
  · have separator : separates c = true := stands.starts c (by simp)
    rw [List.concat_eq_append, List.append_assoc, List.singleton_append,
      names_append_cons _ _ separator]
    exact List.mem_append_right _ own

end Names

section Refined

variable {coarse fine separates : Char → Bool}
  {before name after front left right back run text : List Char}

/-- Lists of parts are equal exactly if their parts are, where each part is in the other. -/
theorem flatMap_eq_flatMap_iff {α β : Type} {items : List α} {first second : α → List β}
    (below : ∀ item ∈ items, (first item).Sublist (second item)) :
    items.flatMap first = items.flatMap second ↔ ∀ item ∈ items, first item = second item := by
  induction items with
  | nil => simp
  | cons item rest inner =>
    obtain ⟨own, others⟩ := List.forall_mem_cons.1 below
    rw [List.flatMap_cons, List.flatMap_cons, List.forall_mem_cons, ← inner others]
    constructor
    · intro same
      have shorter := (List.Sublist.flatMap_right rest others).length_le
      have lengths := congrArg List.length same
      rw [List.length_append, List.length_append] at lengths
      exact List.append_inj same (Nat.le_antisymm own.length_le (by omega))
    · rintro ⟨head, tail⟩
      rw [head, tail]

/-- Names between more separators are the names of names between fewer. -/
theorem names_refine (contained : ∀ c, coarse c = true → fine c = true) (text : List Char) :
    names fine text = (names coarse text).flatMap (names fine) := by
  obtain ⟨words, lists⟩ := exists_lists coarse text
  rw [lists.names_eq]
  induction lists with
  | @gap gap apart =>
    rw [← List.append_nil gap, names_append_of_apart fun c member => contained c (apart c member)]
    rfl
  | name apart nonempty whole ends later inner =>
    rw [names_append_of_apart fun c member => contained c (apart c member),
      names_append _ fun c member => contained c (ends c member), inner, List.flatMap_cons]

/-- A name that stands in a text stands in a part of it that holds it. -/
theorem Stands.narrow (stands : Stands separates (front ++ left) name (right ++ back)) :
    Stands separates left name right := by
  refine ⟨stands.nonempty, stands.whole, ?_, ?_⟩
  · intro c last
    exact stands.starts c (by simp [List.getLast?_append, Option.mem_def.1 last])
  · intro c first
    exact stands.ends c (by simp [List.head?_append, Option.mem_def.1 first])

/-- A name that stands in a text without separators is the whole text. -/
theorem Stands.alone (stands : Stands separates left name right)
    (whole : ∀ c ∈ left ++ (name ++ right), separates c = false) : left = [] ∧ right = [] := by
  constructor
  · rcases List.eq_nil_or_concat left with rfl | ⟨front, c, rfl⟩
    · rfl
    · have separator : separates c = true := stands.starts c (by simp)
      rw [whole c (by simp)] at separator
      contradiction
  · cases right with
    | nil => rfl
    | cons c back =>
      have separator : separates c = true := stands.ends c rfl
      rw [whole c (by simp)] at separator
      contradiction

/-- A name stands in a longer one if that has fewer separators. -/
theorem Stands.exists_run (contained : ∀ c, coarse c = true → fine c = true)
    (stands : Stands fine before name after) :
    ∃ front left right back, before = front ++ left ∧ after = right ++ back ∧
      Stands coarse front (left ++ (name ++ right)) back ∧ Stands fine left name right := by
  obtain ⟨front, left, rfl, wholeLeft, starts⟩ := exists_front coarse before
  obtain ⟨right, back, rfl, wholeRight, ends⟩ := exists_back coarse after
  have whole : ∀ c ∈ name, coarse c = false := by
    intro c member
    cases separator : coarse c with
    | false => rfl
    | true => exact (contained c separator).symm.trans (stands.whole c member)
  refine ⟨front, left, right, back, rfl, rfl, ⟨?_, ?_, starts, ends⟩, stands.narrow⟩
  · simp [stands.nonempty]
  · intro c member
    rcases List.mem_append.1 member with member | member
    · exact wholeLeft c member
    · exact (List.mem_append.1 member).elim (whole c) (wholeRight c)

/-- What stands as a name in a name between fewer separators stands so in the text. -/
theorem Stands.within (contained : ∀ c, coarse c = true → fine c = true)
    (outer : Stands coarse front (left ++ (name ++ right)) back)
    (inner : Stands fine left name right) : Stands fine (front ++ left) name (right ++ back) := by
  refine ⟨inner.nonempty, inner.whole, ?_, ?_⟩
  · intro c last
    rw [List.getLast?_append] at last
    rcases Option.or_eq_some_iff.1 last with own | ⟨_, own⟩
    · exact inner.starts c own
    · exact contained c (outer.starts c own)
  · intro c first
    rw [List.head?_append] at first
    rcases Option.or_eq_some_iff.1 first with own | ⟨_, own⟩
    · exact inner.ends c own
    · exact contained c (outer.ends c own)

section Meaning

variable {α : Type} {meant : List Char → List α}
  (contained : ∀ c, coarse c = true → fine c = true)
  (known : ∀ name, meant name ≠ [] → ∀ c ∈ name, fine c = false)
include known

/-- A run with a finer break in it means nothing. -/
theorem meant_eq_nil (broken : ¬∀ c ∈ run, fine c = false) : meant run = [] := by
  by_contra means
  exact broken (known run means)

/-- A name means no more than the names in it between more separators. -/
theorem sublist_flatMap_names (nonempty : run ≠ []) :
    (meant run).Sublist ((names fine run).flatMap meant) := by
  by_cases whole : ∀ c ∈ run, fine c = false
  · have same : (names fine run).flatMap meant = meant run := by
      rw [names_of_whole nonempty whole, List.flatMap_singleton]
    exact same.symm ▸ List.Sublist.refl (meant run)
  · rw [meant_eq_nil known whole]
    exact List.nil_sublist _

include contained

/-- What coarse names mean is part of what fine names mean. -/
theorem flatMap_names_sublist (text : List Char) :
    ((names coarse text).flatMap meant).Sublist ((names fine text).flatMap meant) := by
  rw [names_refine contained text, List.flatMap_assoc]
  refine List.Sublist.flatMap_right _ fun run member => sublist_flatMap_names known ?_
  obtain ⟨_, _, _, stands⟩ := (lists_iff.2 rfl).exists_stands member
  exact stands.nonempty

/-- Fewer separators lose no meaning exactly if every name that means something stands between
them. -/
theorem flatMap_names_eq_iff (text : List Char) :
    (names coarse text).flatMap meant = (names fine text).flatMap meant ↔
      ∀ before name after, text = before ++ (name ++ after) → Stands fine before name after →
        meant name ≠ [] → Stands coarse before name after := by
  have below : ∀ run ∈ names coarse text,
      (meant run).Sublist ((names fine run).flatMap meant) := by
    intro run member
    obtain ⟨_, _, _, stands⟩ := (lists_iff.2 rfl).exists_stands member
    exact sublist_flatMap_names known stands.nonempty
  rw [names_refine contained text, List.flatMap_assoc, flatMap_eq_flatMap_iff below]
  constructor
  · rintro same before name after rfl stands means
    obtain ⟨front, left, right, back, rfl, rfl, outer, inner⟩ := stands.exists_run contained
    have member : left ++ (name ++ right) ∈
        names coarse (front ++ left ++ (name ++ (right ++ back))) := by
      simpa only [List.append_assoc] using outer.mem_names
    have whole : ∀ c ∈ left ++ (name ++ right), fine c = false := by
      refine known _ ?_
      rw [same _ member]
      exact fun nothing => means (List.flatMap_eq_nil_iff.1 nothing name inner.mem_names)
    obtain ⟨rfl, rfl⟩ := inner.alone whole
    simpa using outer
  · intro stand run member
    obtain ⟨front, back, rfl, outer⟩ := (lists_iff.2 rfl).exists_stands member
    by_cases whole : ∀ c ∈ run, fine c = false
    · rw [names_of_whole outer.nonempty whole, List.flatMap_singleton]
    · -- a run with a separator in it means nothing, so its names must not either
      rw [meant_eq_nil known whole, eq_comm, List.flatMap_eq_nil_iff]
      intro name piece
      by_contra means
      obtain ⟨left, right, rfl, inner⟩ := (lists_iff.2 rfl).exists_stands piece
      have stands := stand (front ++ left) name (right ++ back) (by simp only [List.append_assoc])
        (outer.within contained inner) means
      obtain ⟨rfl, rfl⟩ := stands.narrow.alone outer.whole
      exact whole (by simpa using inner.whole)

end Meaning

end Refined

end Reading

end ViewLayout
