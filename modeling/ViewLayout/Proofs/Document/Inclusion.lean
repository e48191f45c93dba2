import Mathlib.Data.List.Chain
import ViewLayout.Proofs.Document.Unfolding

/-!
# Templates that include each other

Templates and what they include are a graph, in which there may be cycles, and names that no
template has. `Template.Expands` is the expansion rule by rule, so that a derivation is a run that
has come to its end, and `Template.Way` follows a run to one of the names that it meets.
`expand_exact` says that each run ends and that it reports just the cycles and the missing templates
that can be reached.
-/

namespace ViewLayout.Template

/-- Runs of the expansion, with what they give and what they report. -/
inductive Expands (templates : Table Description) :
    List String → List String → List Directive → List Diagnostic → Prop
  | done {seen : List String} : Expands templates seen [] [] []
  | itself {seen rest : List String} {name : String} {others : List Directive}
    {later : List Diagnostic} (onWay : name ∈ seen)
    (further : Expands templates seen rest others later) :
    Expands templates seen (name :: rest) others (.templateIncludesItself name :: later)
  | unknown {seen rest : List String} {name : String} {others : List Directive}
    {later : List Diagnostic} (fresh : name ∉ seen) (absent : templates.get? name = none)
    (further : Expands templates seen rest others later) :
    Expands templates seen (name :: rest) others (.templateUnknown name :: later)
  | known {seen rest : List String} {name : String} {template : Description}
    {included others : List Directive} {told later : List Diagnostic} (fresh : name ∉ seen)
    (found : templates.get? name = some template)
    (inner : Expands templates (name :: seen) template.templates included told)
    (further : Expands templates seen rest others later) :
    Expands templates seen (name :: rest) (included ++ template.constraints ++ others)
      (told ++ later)

variable {templates : Table Description} {seen names rest path : List String} {name goal : String}
  {diagnostic : Diagnostic}

/-- The expansion is a run. -/
theorem expands_expand (templates : Table Description) (seen names : List String) :
    Expands templates seen names (expand templates seen names).value
      (expand templates seen names).diagnostics := by
  induction seen, names using expand.induct templates with
  | case1 seen =>
    rw [expand_nil]
    exact .done
  | case2 seen name rest onWay later =>
    rw [expand_cons_of_mem onWay]
    exact .itself onWay later
  | case3 seen name rest fresh absent later =>
    rw [expand_cons_of_unknown fresh absent]
    exact .unknown fresh absent later
  | case4 seen name rest fresh template found later inner =>
    rw [expand_cons fresh found]
    exact .known fresh found inner later

/-- Each run is the expansion, so that there is just one from each start. -/
theorem Expands.eq_expand {directives : List Directive} {told : List Diagnostic}
    (run : Expands templates seen names directives told) :
    expand templates seen names = ⟨directives, told⟩ := by
  induction run with
  | done => exact expand_nil templates _
  | itself onWay _ later => rw [expand_cons_of_mem onWay, later]
  | unknown fresh absent _ later => rw [expand_cons_of_unknown fresh absent, later]
  | known fresh found _ _ inner later => rw [expand_cons fresh found, inner, later]

/-- Expansion reports what is wrong with the first name before what is wrong with the others. -/
theorem diagnostics_expand_cons (name : String) (rest : List String) :
    (expand templates seen (name :: rest)).diagnostics =
      (expand templates seen [name]).diagnostics ++ (expand templates seen rest).diagnostics := by
  by_cases onWay : name ∈ seen
  · rw [expand_cons_of_mem onWay, expand_cons_of_mem onWay, expand_nil]
    rfl
  · cases found : templates.get? name with
    | none =>
      rw [expand_cons_of_unknown onWay found, expand_cons_of_unknown onWay found, expand_nil]
      rfl
    | some template =>
      simp [expand_cons onWay found, expand_nil]

/-- What is wrong is told name by name. -/
theorem diagnostics_expand (templates : Table Description) (seen names : List String) :
    (expand templates seen names).diagnostics =
      names.flatMap fun name => (expand templates seen [name]).diagnostics := by
  induction names with
  | nil => rw [expand_nil, List.flatMap_nil]
  | cons name rest later => rw [diagnostics_expand_cons, later, List.flatMap_cons]

/-- How a run comes to a name: by templates that are not on the way yet, each of which includes
the next one. -/
inductive Way (templates : Table Description) :
    List String → List String → List String → String → Prop
  | here {seen names : List String} {goal : String} (member : goal ∈ names) :
    Way templates seen names [] goal
  | through {seen names path : List String} {name goal : String} {template : Description}
    (member : name ∈ names) (fresh : name ∉ seen) (found : templates.get? name = some template)
    (further : Way templates (name :: seen) template.templates path goal) :
    Way templates seen names (name :: path) goal

/-- What is reported of a name that a run comes to, by the templates on the way. -/
inductive Refused (templates : Table Description) (onWay : List String) (name : String) :
    Diagnostic → Prop
  | itself (member : name ∈ onWay) : Refused templates onWay name (.templateIncludesItself name)
  | unknown (fresh : name ∉ onWay) (absent : templates.get? name = none) :
    Refused templates onWay name (.templateUnknown name)

/-- A way from fewer names is one from more. -/
theorem Way.mono (way : Way templates seen rest path goal) (within : ∀ name ∈ rest, name ∈ names) :
    Way templates seen names path goal := by
  cases way with
  | here member => exact .here (within _ member)
  | through member fresh found further => exact .through (within _ member) fresh found further

/-- A refusal is among the diagnostics. -/
theorem Refused.mem_expand {onWay : List String}
    (refused : Refused templates onWay name diagnostic) :
    diagnostic ∈ (expand templates onWay [name]).diagnostics := by
  cases refused with
  | itself member => simp [expand_cons_of_mem member]
  | unknown fresh absent => simp [expand_cons_of_unknown fresh absent]

/-- A run reports what is wrong with the names that it comes to, and nothing else. -/
theorem mem_diagnostics_expand_iff :
    diagnostic ∈ (expand templates seen names).diagnostics ↔
      ∃ path goal, Way templates seen names path goal ∧
        Refused templates (path.reverse ++ seen) goal diagnostic := by
  constructor
  · intro member
    have run := expands_expand templates seen names
    generalize (expand templates seen names).value = directives at run
    generalize (expand templates seen names).diagnostics = told at run member
    have later {seen rest : List String} {name : String} (shorter : ∃ path goal,
        Way templates seen rest path goal ∧
          Refused templates (path.reverse ++ seen) goal diagnostic) :
        ∃ path goal, Way templates seen (name :: rest) path goal ∧
          Refused templates (path.reverse ++ seen) goal diagnostic := by
      obtain ⟨path, goal, way, refused⟩ := shorter
      exact ⟨path, goal, way.mono fun _ => List.mem_cons_of_mem _, refused⟩
    induction run with
    | done => cases member
    | @itself _ _ name _ _ onWay _ inner =>
      rcases List.mem_cons.1 member with rfl | after
      · exact ⟨[], name, .here List.mem_cons_self, .itself onWay⟩
      · exact later (inner after)
    | @unknown _ _ name _ _ fresh absent _ inner =>
      rcases List.mem_cons.1 member with rfl | after
      · exact ⟨[], name, .here List.mem_cons_self, .unknown fresh absent⟩
      · exact later (inner after)
    | @known _ _ name _ _ _ _ _ fresh found _ _ inside inner =>
      rcases List.mem_append.1 member with before | after
      · obtain ⟨path, goal, way, refused⟩ := inside before
        refine ⟨name :: path, goal, .through List.mem_cons_self fresh found way, ?_⟩
        rwa [List.reverse_cons, List.append_assoc]
      · exact later (inner after)
  · rintro ⟨path, goal, way, refused⟩
    induction way with
    | here member =>
      rw [diagnostics_expand]
      exact List.mem_flatMap.2 ⟨_, member, refused.mem_expand⟩
    | through member fresh found _ inner =>
      rw [List.reverse_cons, List.append_assoc] at refused
      rw [diagnostics_expand]
      refine List.mem_flatMap.2 ⟨_, member, ?_⟩
      rw [expand_cons fresh found]
      exact List.mem_append_left _ (inner refused)

/-- A run comes to a name along a chain of inclusions on which no template comes twice. -/
theorem way_iff :
    Way templates seen names path goal ↔
      (∀ first ∈ (path ++ [goal]).head?, first ∈ names) ∧
        (path ++ [goal]).IsChain (Includes templates) ∧ path.Nodup ∧
          ∀ name ∈ path, name ∉ seen := by
  constructor
  · intro way
    induction way with
    | here member => simpa using member
    | through member fresh found _ inner =>
      obtain ⟨starts, chain, distinct, apart⟩ := inner
      refine ⟨by simpa using member, ?_, ?_, ?_⟩
      · exact chain.cons fun next first => ⟨_, found, starts next first⟩
      · exact List.nodup_cons.2 ⟨fun again => apart _ again List.mem_cons_self, distinct⟩
      · intro other listed
        rcases List.mem_cons.1 listed with rfl | later
        · exact fresh
        · exact fun before => apart other later (List.mem_cons_of_mem _ before)
  · rintro ⟨starts, chain, distinct, apart⟩
    induction path generalizing seen names with
    | nil => exact .here (by simpa using starts)
    | cons name rest inner =>
      obtain ⟨next, chain⟩ := List.isChain_cons.1 chain
      obtain ⟨fresh, distinct⟩ := List.nodup_cons.1 distinct
      obtain ⟨first, firstIs⟩ : ∃ first, (rest ++ [goal]).head? = some first :=
        Option.isSome_iff_exists.1 (by simp)
      obtain ⟨template, found, included⟩ := next first firstIs
      refine .through (by simpa using starts) (apart name List.mem_cons_self) found ?_
      refine inner ?_ chain distinct fun other listed => ?_
      · intro other same
        cases firstIs.symm.trans same
        exact included
      · rw [List.mem_cons, not_or]
        exact ⟨fun same => fresh (same ▸ listed), apart other (List.mem_cons_of_mem _ listed)⟩

/-- A name can be reached from names by templates that include each other. -/
def Reaches (templates : Table Description) (names : List String) (goal : String) : Prop :=
  ∃ name ∈ names, Relation.ReflTransGen (Includes templates) name goal

/-- Where a way leads can be reached. -/
theorem Way.reaches (way : Way templates seen names path goal) : Reaches templates names goal := by
  induction way with
  | here member => exact ⟨_, member, .refl⟩
  | through member _ found _ inner =>
    obtain ⟨next, included, steps⟩ := inner
    exact ⟨_, member, .head ⟨_, found, included⟩ steps⟩

/-- What can be reached can be reached by a chain in which no name comes twice. -/
theorem exists_nodup_chain {relation : String → String → Prop} {first last : String}
    (steps : Relation.ReflTransGen relation first last) :
    ∃ path, (path ++ [last]).head? = some first ∧ (path ++ [last]).IsChain relation ∧
      (path ++ [last]).Nodup := by
  induction steps using Relation.ReflTransGen.head_induction_on with
  | refl => exact ⟨[], rfl, by simp, by simp⟩
  | @head first second step _ inner =>
    obtain ⟨path, starts, chain, distinct⟩ := inner
    by_cases again : first ∈ path ++ [last]
    · -- The chain has come back to its start, and what lies between is left out.
      rcases List.mem_append.1 again with before | atEnd
      · obtain ⟨left, right, rfl⟩ := List.append_of_mem before
        rw [List.append_assoc] at chain distinct
        exact ⟨first :: right, rfl, chain.right_of_append,
          distinct.sublist (List.sublist_append_right ..)⟩
      · obtain rfl := List.mem_singleton.1 atEnd
        exact ⟨[], rfl, by simp, by simp⟩
    · refine ⟨first :: path, rfl, ?_, List.nodup_cons.2 ⟨again, distinct⟩⟩
      refine chain.cons fun next isNext => ?_
      cases starts.symm.trans isNext
      exact step

/-- What can be reached is come to by a run. -/
theorem Reaches.exists_way (reaches : Reaches templates names goal) :
    ∃ path, Way templates [] names path goal ∧ goal ∉ path := by
  obtain ⟨name, member, steps⟩ := reaches
  obtain ⟨path, starts, chain, distinct⟩ := exists_nodup_chain steps
  obtain ⟨distinct, _, apart⟩ := List.nodup_append.1 distinct
  refine ⟨path, way_iff.2 ⟨?_, chain, distinct, fun _ _ => List.not_mem_nil⟩, fun again =>
    apart goal again goal List.mem_cons_self rfl⟩
  intro first isFirst
  cases starts.symm.trans isFirst
  exact member

/-- A list in which something comes twice has a beginning without repetition that is followed by one
of its members. -/
theorem exists_first_repetition {list : List String} (repeats : ¬ list.Nodup) :
    ∃ before again after, list = before ++ again :: after ∧ before.Nodup ∧ again ∈ before := by
  induction list using List.reverseRecOn with
  | nil => exact absurd List.nodup_nil repeats
  | append_singleton before last inner =>
    by_cases distinct : before.Nodup
    · refine ⟨before, last, [], rfl, distinct, ?_⟩
      by_contra fresh
      exact repeats (List.nodup_append.2 ⟨distinct, by simp, by
        intro name member other atEnd same
        rw [List.mem_singleton.1 atEnd] at same
        exact fresh (same ▸ member)⟩)
    · obtain ⟨before', again, after, rfl, distinct', member⟩ := inner distinct
      exact ⟨before', again, after ++ [last], by simp, distinct', member⟩

/-- A run comes again to a template on its way exactly if a cycle can be reached. -/
theorem exists_way_again_iff :
    (∃ path goal, Way templates [] names path goal ∧ goal ∈ path) ↔
      ∃ goal, Reaches templates names goal ∧ Relation.TransGen (Includes templates) goal goal := by
  constructor
  · rintro ⟨path, goal, way, again⟩
    refine ⟨goal, way.reaches, ?_⟩
    obtain ⟨_, chain, _⟩ := way_iff.1 way
    obtain ⟨before, after, rfl⟩ := List.append_of_mem again
    rw [List.append_assoc, List.cons_append] at chain
    -- The goal stands before itself on a chain.
    obtain ⟨next, later⟩ := List.isChain_cons.1 chain.right_of_append
    obtain ⟨first, isFirst⟩ : ∃ first, (after ++ [goal]).head? = some first :=
      Option.isSome_iff_exists.1 (by simp)
    obtain ⟨tail, split⟩ : ∃ tail, after ++ [goal] = first :: tail :=
      List.head?_eq_some_iff.1 isFirst
    refine .head' (next first isFirst) ?_
    have steps := List.relationReflTransGen_of_exists_isChain_cons tail (split ▸ later) rfl
    simpa [← split] using steps
  · rintro ⟨goal, ⟨name, member, steps⟩, cycle⟩
    obtain ⟨toGoal, starts, chain, _⟩ := exists_nodup_chain steps
    obtain ⟨second, step, back⟩ := Relation.TransGen.head'_iff.1 cycle
    obtain ⟨around, startsAround, chainAround, _⟩ := exists_nodup_chain back
    -- The chain to the goal and once around the cycle meets the goal twice.
    have whole : (toGoal ++ [goal] ++ (around ++ [goal])).IsChain (Includes templates) := by
      refine chain.append chainAround fun last isLast next isNext => ?_
      rw [List.getLast?_concat, Option.mem_some_iff] at isLast
      cases startsAround.symm.trans isNext
      exact isLast ▸ step
    have twice : ¬ (toGoal ++ [goal] ++ (around ++ [goal])).Nodup := by
      intro distinct
      exact (List.nodup_append.1 distinct).2.2 goal (by simp) goal (by simp) rfl
    obtain ⟨path, again, after, split, distinct, meets⟩ := exists_first_repetition twice
    rw [split] at whole
    refine ⟨path, again, way_iff.2 ⟨?_, ?_, distinct, fun _ _ => List.not_mem_nil⟩, meets⟩
    · intro first isFirst
      have same : (toGoal ++ [goal] ++ (around ++ [goal])).head? = some first := by
        rw [split, ← List.singleton_append, ← List.append_assoc, List.head?_append]
        simp [Option.mem_def.1 isFirst]
      rw [List.head?_append, starts] at same
      cases same
      exact member
    · rw [← List.singleton_append, ← List.append_assoc] at whole
      exact whole.left_of_append

/-- A way of inclusions that starts at one of the names, and on which no name comes twice. -/
structure IsPath (templates : Table Description) (names path : List String) : Prop where
  starts : ∀ first ∈ path.head?, first ∈ names
  chain : path.IsChain (Includes templates)
  distinct : path.Nodup

/-- A run comes again to a template on its way where a path is followed by one of its names. -/
theorem way_again_iff :
    Way templates [] names path goal ∧ goal ∈ path ↔
      IsPath templates names path ∧ goal ∈ path ∧
        ∃ last ∈ path.getLast?, Includes templates last goal := by
  rw [way_iff, List.isChain_append]
  constructor
  · rintro ⟨⟨starts, ⟨chain, _, next⟩, distinct, _⟩, again⟩
    obtain ⟨last, isLast⟩ := Option.isSome_iff_exists.1
      (List.getLast?_isSome.2 (List.ne_nil_of_mem again))
    refine ⟨⟨fun first isFirst => starts first ?_, chain, distinct⟩, again, last, isLast,
      next last isLast goal rfl⟩
    rw [List.head?_append, isFirst]
    rfl
  · rintro ⟨⟨starts, chain, distinct⟩, again, last, isLast, included⟩
    refine ⟨⟨fun first isFirst => starts first ?_, ⟨chain, .singleton _, ?_⟩, distinct,
      fun _ _ => List.not_mem_nil⟩, again⟩
    · obtain ⟨start, isStart⟩ := Option.isSome_iff_exists.1
        (List.isSome_head?.2 (List.ne_nil_of_mem again))
      rw [List.head?_append, isStart] at isFirst
      rw [isStart]
      exact isFirst
    · intro other isOther next isNext
      cases isLast.symm.trans isOther
      cases isNext
      exact included

/-- A template is told to include itself exactly if a way leads back to it. -/
theorem templateIncludesItself_mem_iff :
    .templateIncludesItself goal ∈ (expand templates [] names).diagnostics ↔
      ∃ path, Way templates [] names path goal ∧ goal ∈ path := by
  rw [mem_diagnostics_expand_iff]
  constructor
  · rintro ⟨path, _, way, refused⟩
    cases refused with
    | itself member => exact ⟨path, way, by simpa using member⟩
  · rintro ⟨path, way, again⟩
    exact ⟨path, goal, way, .itself (by simpa using again)⟩

/-- A template is told to be unknown exactly if it can be reached and is not there. -/
theorem templateUnknown_mem_iff :
    .templateUnknown goal ∈ (expand templates [] names).diagnostics ↔
      Reaches templates names goal ∧ templates.get? goal = none := by
  rw [mem_diagnostics_expand_iff]
  constructor
  · rintro ⟨path, _, way, refused⟩
    cases refused with
    | unknown _ absent => exact ⟨way.reaches, absent⟩
  · rintro ⟨reaches, absent⟩
    obtain ⟨path, way, fresh⟩ := reaches.exists_way
    exact ⟨path, goal, way, .unknown (by simpa using fresh) absent⟩

/-- What the expansion of names reports, where each name stands for a template. -/
structure ReportsExactly (templates : Table Description) (names : List String) : Prop where
  /-- There is one run, which is the expansion. -/
  ends : ∀ directives told, Expands templates [] names directives told ↔
    expand templates [] names = ⟨directives, told⟩
  /-- A template is told to include itself exactly if it follows a path that it is on. -/
  itself : ∀ name, .templateIncludesItself name ∈ (expand templates [] names).diagnostics ↔
    ∃ path, IsPath templates names path ∧ name ∈ path ∧
      ∃ last ∈ path.getLast?, Includes templates last name
  /-- Some template is told to include itself exactly if a cycle can be reached. -/
  cycle : (∃ name, .templateIncludesItself name ∈ (expand templates [] names).diagnostics) ↔
    ∃ name, Reaches templates names name ∧ Relation.TransGen (Includes templates) name name
  /-- The names that are told to be unknown are those that can be reached and are no template's. -/
  unknown : ∀ name, .templateUnknown name ∈ (expand templates [] names).diagnostics ↔
    Reaches templates names name ∧ templates.get? name = none
  /-- Nothing else is told. -/
  only : ∀ diagnostic ∈ (expand templates [] names).diagnostics, ∃ name,
    diagnostic = .templateIncludesItself name ∨ diagnostic = .templateUnknown name
  /-- Nothing is told where all templates are known and none is on a cycle, however often one of
  them is included. -/
  quiet : (expand templates [] names).diagnostics = [] ↔ Grounded templates names

/-- **Each expansion ends, and what it reports is exact.** -/
theorem expand_exact (templates : Table Description) (names : List String) :
    ReportsExactly templates names := by
  have cycle : (∃ name, .templateIncludesItself name ∈ (expand templates [] names).diagnostics) ↔
      ∃ name, Reaches templates names name ∧
        Relation.TransGen (Includes templates) name name := by
    rw [← exists_way_again_iff, exists_comm]
    exact exists_congr fun name => templateIncludesItself_mem_iff
  exact {
    ends := by
      intro directives told
      refine ⟨Expands.eq_expand, fun same => ?_⟩
      have run := expands_expand templates [] names
      rwa [same] at run
    itself := by
      intro name
      rw [templateIncludesItself_mem_iff]
      exact exists_congr fun path => way_again_iff
    cycle
    unknown := fun name => templateUnknown_mem_iff
    only := told_expand templates [] names
    quiet := by
      constructor
      · intro quiet name member reached steps
        constructor
        · by_contra absent
          have told := templateUnknown_mem_iff.2
            ⟨⟨name, member, steps⟩, Option.not_isSome_iff_eq_none.1 absent⟩
          rw [quiet] at told
          cases told
        · intro around
          obtain ⟨other, told⟩ := cycle.2 ⟨reached, ⟨name, member, steps⟩, around⟩
          rw [quiet] at told
          cases told
      · intro grounded
        exact (expand_of_fresh grounded fun _ _ _ _ => List.not_mem_nil).1 }

end ViewLayout.Template
