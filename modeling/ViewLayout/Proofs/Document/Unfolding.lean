import Mathlib.Logic.Relation
import ViewLayout.Pass.Templates
import ViewLayout.Proofs.Document.Preorder

/-!
# Unfolding templates

`Template.Unfolds` relates names of templates to the constraints that they stand for: for each name
those of the templates that the template includes, then its own, as often as it is reached. Where
all templates that are reached are known and none includes itself, the expansion gives just that,
and its record of the templates on the way makes no difference.
-/

namespace ViewLayout

namespace Template

/-- A template is among those that another one includes. -/
def Includes (templates : Table Description) (name inner : String) : Prop :=
  ∃ template, templates.get? name = some template ∧ inner ∈ template.templates

/-- All templates that are reached from names are known, and none of them includes itself. -/
def Grounded (templates : Table Description) (names : List String) : Prop :=
  ∀ name ∈ names, ∀ reached, Relation.ReflTransGen (Includes templates) name reached →
    (templates.get? reached).isSome ∧ ¬ Relation.TransGen (Includes templates) reached reached

/-- Templates are grounded where they include only known ones of a lower rank. -/
theorem grounded_of_rank {templates : Table Description} {names : List String}
    (rank : String → Nat)
    (descends : ∀ entry ∈ templates, ∀ inner ∈ entry.2.templates,
      (templates.get? inner).isSome ∧ rank inner < rank entry.1)
    (known : ∀ name ∈ names, (templates.get? name).isSome) : Grounded templates names := by
  have step : ∀ {name inner}, Includes templates name inner →
      (templates.get? inner).isSome ∧ rank inner < rank name := by
    rintro name inner ⟨template, found, member⟩
    exact descends _ (Table.mem_of_get? found) inner member
  have lower : ∀ {name reached}, Relation.TransGen (Includes templates) name reached →
      rank reached < rank name := by
    intro name reached path
    induction path with
    | single includes => exact (step includes).2
    | tail _ includes inner => exact Nat.lt_trans (step includes).2 inner
  intro name member reached path
  refine ⟨?_, fun cycle => Nat.lt_irrefl _ (lower cycle)⟩
  rcases Relation.ReflTransGen.cases_tail path with rfl | ⟨last, _, includes⟩
  · exact known _ member
  · exact (step includes).1

/-- The constraints that names of templates stand for. -/
inductive Unfolds (templates : Table Description) : List String → List Directive → Prop
  | nil : Unfolds templates [] []
  | cons {name : String} {rest : List String} {template : Description}
    {included others : List Directive} (known : templates.get? name = some template)
    (inner : Unfolds templates template.templates included)
    (later : Unfolds templates rest others) :
    Unfolds templates (name :: rest) (included ++ template.constraints ++ others)

variable {templates : Table Description} {names : List String} {directives others : List Directive}

/-- Names unfold to one list of directives. -/
theorem Unfolds.unique (unfolds : Unfolds templates names directives)
    (again : Unfolds templates names others) : others = directives := by
  induction unfolds generalizing others with
  | nil =>
    cases again
    rfl
  | cons known _ _ innerEq laterEq =>
    cases again with
    | cons known' inner later =>
      cases known.symm.trans known'
      rw [innerEq inner, laterEq later]

/-- No names give no directives. -/
theorem expand_nil (templates : Table Description) (seen : List String) :
    expand templates seen [] = ⟨[], []⟩ := by
  rw [expand]
  rfl

/-- A template that is on the way already is left out. -/
theorem expand_cons_of_mem {seen : List String} {name : String} (onWay : name ∈ seen)
    (rest : List String) :
    expand templates seen (name :: rest) =
      ⟨(expand templates seen rest).value,
        .templateIncludesItself name :: (expand templates seen rest).diagnostics⟩ := by
  rw [expand, dif_pos onWay]
  simp [bind, Reported.andThen, pure, Reported.clean, Reported.withReport]

/-- A name that no template has is left out. -/
theorem expand_cons_of_unknown {seen : List String} {name : String} (fresh : name ∉ seen)
    (absent : templates.get? name = none) (rest : List String) :
    expand templates seen (name :: rest) =
      ⟨(expand templates seen rest).value,
        .templateUnknown name :: (expand templates seen rest).diagnostics⟩ := by
  rw [expand, dif_neg fresh]
  split
  · simp [bind, Reported.andThen, pure, Reported.clean, Reported.withReport]
  · next found =>
    rw [absent] at found
    contradiction

/-- A known template that is not on the way yet is expanded before the others. -/
theorem expand_cons {seen : List String} {name : String} {template : Description}
    (fresh : name ∉ seen) (known : templates.get? name = some template) (rest : List String) :
    expand templates seen (name :: rest) =
      ⟨(expand templates (name :: seen) template.templates).value ++ template.constraints ++
          (expand templates seen rest).value,
        (expand templates (name :: seen) template.templates).diagnostics ++
          (expand templates seen rest).diagnostics⟩ := by
  rw [expand, dif_neg fresh]
  split
  · next unknown =>
    rw [known] at unknown
    contradiction
  · next found =>
    cases known.symm.trans found
    simp [bind, Reported.andThen, pure, Reported.clean]

/-- All that an expansion reports is about templates that include themselves or are unknown. -/
theorem told_expand (templates : Table Description) (seen names : List String) :
    ∀ diagnostic ∈ (expand templates seen names).diagnostics, ∃ name,
      diagnostic = .templateIncludesItself name ∨ diagnostic = .templateUnknown name := by
  induction seen, names using expand.induct templates with
  | case1 seen => simp [expand_nil]
  | case2 seen name rest onWay later =>
    rw [expand_cons_of_mem onWay]
    simpa using later
  | case3 seen name rest fresh unknown later =>
    rw [expand_cons_of_unknown fresh unknown]
    simpa using later
  | case4 seen name rest fresh template known later inner =>
    rw [expand_cons fresh known]
    intro diagnostic member
    rcases List.mem_append.1 member with included | other
    · exact inner diagnostic included
    · exact later diagnostic other

/-- Where nothing is reached that is on the way already, expansion reports nothing and unfolds. -/
theorem expand_of_fresh {seen : List String} (grounded : Grounded templates names)
    (fresh : ∀ name ∈ names, ∀ reached,
      Relation.ReflTransGen (Includes templates) name reached → reached ∉ seen) :
    (expand templates seen names).diagnostics = [] ∧
      Unfolds templates names (expand templates seen names).value := by
  induction seen, names using expand.induct templates with
  | case1 seen =>
    rw [expand]
    exact ⟨rfl, .nil⟩
  | case2 seen name rest member => exact absurd member (fresh name List.mem_cons_self name .refl)
  | case3 seen name rest _ unknown =>
    have known := (grounded name List.mem_cons_self name .refl).1
    rw [unknown] at known
    contradiction
  | case4 seen name rest absent template known later inner =>
    have within : ∀ other ∈ template.templates, ∀ reached,
        Relation.ReflTransGen (Includes templates) other reached →
          Relation.TransGen (Includes templates) name reached :=
      fun other member reached path => .head' ⟨template, known, member⟩ path
    obtain ⟨clean, unfolds⟩ := inner
      (fun other member reached path =>
        grounded name List.mem_cons_self reached (within other member reached path).to_reflTransGen)
      (by
        intro other member reached path onWay
        rcases List.mem_cons.1 onWay with rfl | before
        · -- The template would include itself.
          exact (grounded reached List.mem_cons_self reached .refl).2
            (within other member reached path)
        · exact fresh name List.mem_cons_self reached
            (within other member reached path).to_reflTransGen before)
    obtain ⟨cleanRest, unfoldsRest⟩ := later
      (fun other member => grounded other (List.mem_cons_of_mem _ member))
      (fun other member => fresh other (List.mem_cons_of_mem _ member))
    rw [expand_cons absent known, clean, cleanRest]
    exact ⟨rfl, .cons known unfolds unfoldsRest⟩

/-- **The expansion of names is what they unfold to.** -/
theorem expand_of_grounded (grounded : Grounded templates names)
    (unfolds : Unfolds templates names directives) :
    expand templates [] names = ⟨directives, []⟩ := by
  obtain ⟨clean, same⟩ := expand_of_fresh grounded fun _ _ _ _ => List.not_mem_nil
  rw [← unfolds.unique same, ← clean]

/-- Names that are grounded unfold. -/
theorem exists_unfolds (grounded : Grounded templates names) :
    ∃ directives, Unfolds templates names directives :=
  ⟨_, (expand_of_fresh grounded fun _ _ _ _ => List.not_mem_nil).2⟩

end Template

namespace Description

mutual

/-- A description with all templates inlined: each view has no templates, and before its own
constraints those that its templates stand for. -/
inductive Inlines (templates : Table Description) : Description → Description → Prop
  | intro {description : Description} {directives : List Directive} {subviews : List Description}
    (unfolds : Template.Unfolds templates description.templates directives)
    (below : InlinesAll templates description.subviews subviews) :
    Inlines templates description
      { description with
        constraints := directives ++ description.constraints
        templates := []
        subviews }

/-- Each of some descriptions is inlined. -/
inductive InlinesAll (templates : Table Description) : List Description → List Description → Prop
  | nil : InlinesAll templates [] []
  | cons {description inlined : Description} {rest others : List Description}
    (first : Inlines templates description inlined) (later : InlinesAll templates rest others) :
    InlinesAll templates (description :: rest) (inlined :: others)

end

variable {templates : Table Description}

/-- Inlining keeps what decides where a view is. -/
theorem Inlines.same {description inlined : Description}
    (inlines : Inlines templates description inlined) :
    inlined.isNew = description.isNew ∧ inlined.name = description.name ∧
      inlined.superclass = description.superclass := by
  cases inlines
  exact ⟨rfl, rfl, rfl⟩

mutual

/-- A description is inlined in one way. -/
theorem Inlines.unique : ∀ {description inlined other : Description},
    Inlines templates description inlined → Inlines templates description other → other = inlined
  | _, _, _, .intro unfolds below, .intro unfolds' below' => by
    rw [unfolds.unique unfolds', InlinesAll.unique below below']

/-- Descriptions are inlined in one way. -/
theorem InlinesAll.unique : ∀ {descriptions inlined others : List Description},
    InlinesAll templates descriptions inlined → InlinesAll templates descriptions others →
      others = inlined
  | _, _, _, .nil, .nil => rfl
  | _, _, _, .cons first later, .cons first' later' => by
    rw [Inlines.unique first first', InlinesAll.unique later later']

end

mutual

/-- All templates can be inlined where each view reaches only known ones and no cycle. -/
theorem exists_inlines (parent : Option Description) : ∀ description : Description,
    (∀ placed ∈ description.listing parent, Template.Grounded templates placed.2.templates) →
      ∃ inlined, Inlines templates description inlined
  | ⟨name, isNew, superclass, constraints, properties, zIndex, taken, subviews⟩, grounded => by
    rw [listing] at grounded
    obtain ⟨directives, unfolds⟩ := Template.exists_unfolds (grounded _ List.mem_cons_self)
    obtain ⟨inlined, below⟩ := exists_inlinesAll _ subviews fun placed member =>
      grounded placed (List.mem_cons_of_mem _ member)
    exact ⟨_, .intro unfolds below⟩

/-- Descriptions whose templates are grounded can be inlined. -/
theorem exists_inlinesAll (parent : Option Description) : ∀ descriptions : List Description,
    (∀ placed ∈ listingAll parent descriptions, Template.Grounded templates placed.2.templates) →
      ∃ inlined, InlinesAll templates descriptions inlined
  | [], _ => ⟨[], .nil⟩
  | description :: rest, grounded => by
    rw [listingAll] at grounded
    obtain ⟨inlined, first⟩ := exists_inlines parent description fun placed member =>
      grounded placed (List.mem_append_left _ member)
    obtain ⟨others, later⟩ := exists_inlinesAll parent rest fun placed member =>
      grounded placed (List.mem_append_right _ member)
    exact ⟨_, .cons first later⟩

end

end Description

end ViewLayout
