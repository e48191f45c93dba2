/-!
# Tables

Values by name, in the order in which the names were first put. Putting a name again replaces its
value and keeps its place.
-/

namespace ViewLayout

/-- Values by name, in the order in which the names were first put. -/
abbrev Table (α : Type) : Type := List (String × α)

namespace Table

variable {α : Type}

/-- The value at a name. -/
def get? : Table α → String → Option α
  | [], _ => none
  | (name, value) :: rest, wanted => if name = wanted then some value else get? rest wanted

/-- The table with a value under a name, in the place of the name's earlier value if it has one. -/
def put : Table α → String → α → Table α
  | [], key, new => [(key, new)]
  | (name, value) :: rest, key, new =>
    if name = key then (name, new) :: rest else (name, value) :: put rest key new

/-- Whether a name has a value. -/
def has (table : Table α) (name : String) : Bool :=
  (table.get? name).isSome

/-- The table with all entries of another one put into it in their order. -/
def putAll (table entries : Table α) : Table α :=
  entries.foldl (fun grown entry => grown.put entry.1 entry.2) table

/-- The names that have a value, in their order. -/
def names (table : Table α) : List String :=
  table.map Prod.fst

/-- The last value put under a name is the one found. -/
theorem get?_put (table : Table α) (key : String) (new : α) (wanted : String) :
    (table.put key new).get? wanted = if key = wanted then some new else table.get? wanted := by
  fun_induction put table key new with
  | case1 key new => simp [get?]
  | case2 value rest key new => by_cases same : key = wanted <;> simp [get?, same]
  | case3 name value rest key new other inner =>
    by_cases same : key = wanted
    · subst same
      simp [get?, other, inner]
    · by_cases hit : name = wanted <;> simp [get?, same, hit, inner]

/-- A name is in the table after putting exactly if it is the one put or was there before. -/
theorem has_put (table : Table α) (key : String) (new : α) (wanted : String) :
    (table.put key new).has wanted = (key == wanted || table.has wanted) := by
  by_cases same : key = wanted <;> simp [has, get?_put, same]

/-- Putting keeps the order of the names and adds a new one at the end. -/
theorem names_put (table : Table α) (key : String) (new : α) :
    (table.put key new).names =
      if key ∈ table.names then table.names else table.names ++ [key] := by
  fun_induction put table key new with
  | case1 => simp [names]
  | case2 => simp [names]
  | case3 name value rest key new other inner =>
    simp only [names, List.map_cons, List.mem_cons] at inner ⊢
    rw [inner]
    by_cases member : key ∈ rest.map Prod.fst <;> simp [member, Ne.symm other]

/-- A name that is not there yet goes to the end. -/
theorem put_eq_append {table : Table α} {key : String} (fresh : key ∉ table.names) (new : α) :
    table.put key new = table ++ [(key, new)] := by
  fun_induction put table key new with
  | case1 => rfl
  | case2 => simp [names] at fresh
  | case3 name value rest key new other inner =>
    rw [inner fun member => fresh (List.mem_cons_of_mem _ member), List.cons_append]

/-- Entries whose names are all new and different go to the end of a table. -/
theorem putAll_eq_append {table entries : Table α}
    (distinct : (table.names ++ entries.names).Nodup) :
    table.putAll entries = table ++ entries := by
  induction entries generalizing table with
  | nil => exact (List.append_nil table).symm
  | cons entry rest inner =>
    have split : (table.names ++ [entry.1] ++ names rest).Nodup := by
      rwa [List.append_assoc]
    have fresh : entry.1 ∉ table.names := fun member =>
      (List.nodup_append.1 (List.nodup_append.1 split).1).2.2 _ member _ List.mem_cons_self rfl
    have grown : (table ++ [entry]).putAll rest = table ++ [entry] ++ rest := by
      apply inner
      rw [names, List.map_append]
      exact split
    rw [putAll, List.foldl_cons, put_eq_append fresh]
    exact grown.trans (List.append_assoc ..)

/-- What is found under a name stands there. -/
theorem mem_of_get? {table : Table α} {name : String} {value : α}
    (found : table.get? name = some value) : (name, value) ∈ table := by
  fun_induction get? table name with
  | case1 => simp at found
  | case2 => simp_all
  | case3 other held rest wanted different inner =>
    exact List.mem_cons_of_mem _ (inner found)

/-- A name that a table holds something under is one of its names. -/
theorem mem_names_of_get? {table : Table α} {name : String} {value : α}
    (found : table.get? name = some value) : name ∈ table.names :=
  List.mem_map_of_mem (mem_of_get? found)

end Table

end ViewLayout
