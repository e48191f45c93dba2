import ViewLayout.Table

/-!
# Putting many entries

Entries that are put into a table one after the other leave each name with the last of its values,
so that putting them again changes nothing.
-/

namespace ViewLayout

namespace Table

variable {α : Type}

/-- The last entry of a name among entries. -/
def last? (entries : Table α) (name : String) : Option α :=
  (entries.filter (·.1 == name)).getLast?.map Prod.snd

/-- The last value of a name is in the rest, or is the first. -/
theorem last?_cons (entry : String × α) (rest : Table α) (name : String) :
    last? (entry :: rest) name =
      (rest.last? name).or (if entry.1 = name then some entry.2 else none) := by
  unfold last?
  by_cases same : entry.1 = name
  · cases later : (rest.filter (·.1 == name)).getLast? <;>
      simp [same, List.getLast?_cons, later]
  · simp [same]

/-- A name has a last value exactly if it is there. -/
theorem isSome_last?_iff {entries : Table α} {name : String} :
    (entries.last? name).isSome = true ↔ name ∈ entries.names := by
  simp [last?, names]

/-- The last value of a name stands under it. -/
theorem mem_of_last? {entries : Table α} {name : String} {value : α}
    (found : entries.last? name = some value) : (name, value) ∈ entries := by
  obtain ⟨entry, last, rfl⟩ := Option.map_eq_some_iff.1 found
  obtain ⟨listed, named⟩ := List.mem_filter.1 (List.mem_of_getLast? last)
  rw [← beq_iff_eq.1 named]
  exact listed

/-- An entry is the last one of its name if all names are different. -/
theorem last?_of_mem {entries : Table α} (distinct : entries.names.Nodup) {name : String}
    {value : α} (listed : (name, value) ∈ entries) :
    entries.last? name = some value := by
  induction entries with
  | nil => cases listed
  | cons entry rest inner =>
    have split : entry.1 ∉ names rest ∧ (names rest).Nodup := List.nodup_cons.1 distinct
    rw [last?_cons]
    rcases List.mem_cons.1 listed with rfl | later
    · have none : last? rest name = none :=
        Option.not_isSome_iff_eq_none.1 ((not_congr isSome_last?_iff).2 split.1)
      rw [none, if_pos rfl, Option.none_or]
    · rw [inner split.2 later, Option.some_or]

/-- **A name that entries are put under means the last of them.** -/
theorem get?_putAll (table entries : Table α) (name : String) :
    (table.putAll entries).get? name = (entries.last? name).or (table.get? name) := by
  induction entries generalizing table with
  | nil => simp [putAll, last?]
  | cons entry rest inner =>
    have first : table.putAll (entry :: rest) = (table.put entry.1 entry.2).putAll rest := rfl
    rw [first, inner, last?_cons, get?_put, Option.or_assoc]
    by_cases same : entry.1 = name <;> simp [same]

/-- Entries are put in one after the other. -/
theorem putAll_append (table first second : Table α) :
    table.putAll (first ++ second) = (table.putAll first).putAll second :=
  List.foldl_append ..

/-- Entries with different names are a table as they stand. -/
theorem putAll_nil {entries : Table α} (distinct : entries.names.Nodup) :
    putAll [] entries = entries := by
  have whole : (names ([] : Table α) ++ entries.names).Nodup := distinct
  rw [putAll_eq_append whole, List.nil_append]

theorem names_append (first second : Table α) :
    names (first ++ second) = first.names ++ second.names :=
  List.map_append

theorem has_iff {table : Table α} {name : String} : table.has name = true ↔ name ∈ table.names := by
  constructor
  · intro known
    obtain ⟨value, found⟩ := Option.isSome_iff_exists.1 known
    exact mem_names_of_get? found
  · intro member
    induction table with
    | nil => cases member
    | cons entry rest inner =>
      by_cases same : entry.1 = name
      · simp [has, get?, same]
      · have later : name ∈ names rest := by
          rcases List.mem_cons.1 member with here | later
          · exact absurd here.symm same
          · exact later
        simpa [has, get?, same] using inner later

/-- The names after putting entries in are those of both. -/
theorem mem_names_putAll {table entries : Table α} {name : String} :
    name ∈ (table.putAll entries).names ↔ name ∈ table.names ++ entries.names := by
  induction entries generalizing table with
  | nil => simp [putAll, names]
  | cons entry rest inner =>
    have first : table.putAll (entry :: rest) = (table.put entry.1 entry.2).putAll rest := rfl
    rw [first, inner, names_put]
    split
    · next known =>
      have names : names (entry :: rest) = entry.1 :: names rest := rfl
      rw [names, List.mem_append, List.mem_append, List.mem_cons]
      constructor
      · exact Or.imp_right .inr
      · rintro (before | rfl | later)
        · exact .inl before
        · exact .inl known
        · exact .inr later
    · simp [names]

/-- What stands before the first entry of a name does not matter for it. -/
theorem get?_append_of_not_mem {before : Table α} {name : String} (fresh : name ∉ before.names)
    (after : Table α) : get? (before ++ after) name = after.get? name := by
  induction before with
  | nil => rfl
  | cons entry rest inner =>
    obtain ⟨other, later⟩ := not_or.1 (mt List.mem_cons.2 fresh)
    rw [List.cons_append, get?, if_neg (Ne.symm other), inner later]

/-- A name that is not in front is put behind. -/
theorem put_append_of_not_mem {before : Table α} {name : String} (fresh : name ∉ before.names)
    (after : Table α) (new : α) :
    put (before ++ after) name new = before ++ after.put name new := by
  induction before with
  | nil => rfl
  | cons entry rest inner =>
    obtain ⟨other, later⟩ := not_or.1 (mt List.mem_cons.2 fresh)
    rw [List.cons_append, put, if_neg (Ne.symm other), inner later, List.cons_append]

/-- Putting the value in again that is there changes nothing. -/
theorem put_of_get? {table : Table α} {name : String} {value : α}
    (found : table.get? name = some value) : table.put name value = table := by
  fun_induction get? table name with
  | case1 => cases found
  | case2 => simp_all [put]
  | case3 other held rest wanted different inner => simp [put, different, inner found]

/-- The second value replaces the first. -/
theorem put_put (table : Table α) (name : String) (first second : α) :
    (table.put name first).put name second = table.put name second := by
  fun_induction put table name first with
  | case1 => simp [put]
  | case2 => simp [put]
  | case3 other held rest key new different inner => simp [put, different, inner]

/-- Putting one name and then another one that is there already is the same the other way round. -/
theorem put_comm {table : Table α} {name other : String} (different : name ≠ other)
    (known : other ∈ table.names) (first second : α) :
    (table.put name first).put other second = (table.put other second).put name first := by
  induction table with
  | nil => cases known
  | cons entry rest inner =>
    by_cases here : entry.1 = name
    · subst here
      simp [put, different]
    · by_cases there : entry.1 = other
      · subst there
        simp [put, different.symm]
      · have later : other ∈ names rest := by
          rcases List.mem_cons.1 known with same | later
          · exact absurd same.symm there
          · exact later
        simp [put, here, there, inner later]

/-- A name need not be put before entries that have it too. -/
theorem putAll_put {table entries : Table α} {name : String} (again : name ∈ entries.names)
    (known : ∀ other ∈ entries.names, other ∈ table.names) (value : α) :
    (table.put name value).putAll entries = table.putAll entries := by
  induction entries generalizing table with
  | nil => cases again
  | cons entry rest inner =>
    have first (table : Table α) :
        table.putAll (entry :: rest) = (table.put entry.1 entry.2).putAll rest := rfl
    rw [first, first]
    by_cases same : entry.1 = name
    · rw [same, put_put]
    · have later : name ∈ names rest := by
        rcases List.mem_cons.1 again with here | later
        · exact absurd here.symm same
        · exact later
      have there := known entry.1 List.mem_cons_self
      rw [put_comm (Ne.symm same) there]
      refine inner later fun other member => ?_
      rw [names_put, if_pos there]
      exact known other (List.mem_cons_of_mem _ member)

/-- Entries that a table has already change nothing. -/
theorem putAll_eq_self {table entries : Table α}
    (known : ∀ name ∈ entries.names, table.get? name = entries.last? name) :
    table.putAll entries = table := by
  induction entries with
  | nil => rfl
  | cons entry rest inner =>
    have first : table.putAll (entry :: rest) = (table.put entry.1 entry.2).putAll rest := rfl
    have later : ∀ name ∈ names rest, table.get? name = last? rest name := by
      intro name member
      obtain ⟨value, held⟩ := Option.isSome_iff_exists.1 (isSome_last?_iff.2 member)
      rw [known name (List.mem_cons_of_mem _ member), last?_cons, held, Option.some_or]
    rw [first]
    by_cases again : entry.1 ∈ names rest
    · rw [putAll_put again fun other member => ?_, inner later]
      obtain ⟨value, held⟩ := Option.isSome_iff_exists.1 (isSome_last?_iff.2 member)
      exact mem_names_of_get? ((later other member).trans held)
    · have none : last? rest entry.1 = none :=
        Option.not_isSome_iff_eq_none.1 ((not_congr isSome_last?_iff).2 again)
      have here : table.get? entry.1 = some entry.2 := by
        rw [known _ List.mem_cons_self, last?_cons, none, if_pos rfl, Option.none_or]
      rw [put_of_get? here, inner later]

/-- Putting entries again changes nothing. -/
theorem putAll_putAll (table entries : Table α) :
    (table.putAll entries).putAll entries = table.putAll entries := by
  refine putAll_eq_self fun name member => ?_
  obtain ⟨value, held⟩ := Option.isSome_iff_exists.1 (isSome_last?_iff.2 member)
  rw [get?_putAll, held, Option.some_or]

end Table

end ViewLayout
