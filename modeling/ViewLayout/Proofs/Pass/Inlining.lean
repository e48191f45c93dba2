import ViewLayout.Proofs.Document.Unfolding
import ViewLayout.Proofs.Pass.Deletion

/-!
# Inlining templates

A document can be rewritten so that its views take nothing from templates: where all templates that
are reached are known and none includes itself, a pass cannot tell the document from the one in
which each view has the constraints of its templates, unfolded, before its own.
-/

namespace ViewLayout

open Description

/-- What was built has the same tasks, view by view. -/
structure SameAgenda (templates : Table Description) (built others : List (Description × ViewId)) :
    Prop where
  length : built.length = others.length
  agenda : agenda templates built = agenda templates others

namespace SameAgenda

variable {templates : Table Description} {built others more rest : List (Description × ViewId)}

/-- Views with the same agendas, one after the other. -/
theorem append (first : SameAgenda templates built others)
    (second : SameAgenda templates more rest) :
    SameAgenda templates (built ++ more) (others ++ rest) where
  length := by rw [List.length_append, List.length_append, first.length, second.length]
  agenda := by
    have before := first.agenda
    have after := second.agenda
    unfold ViewLayout.agenda at before after ⊢
    rw [List.map_append, List.map_append, List.flatMap_append, List.flatMap_append, before, after]

/-- A view has the same tasks when its templates are unfolded. -/
theorem of_unfolds {description inlined : Description} {directives : List Directive}
    (grounded : Template.Grounded templates description.templates)
    (unfolds : Template.Unfolds templates description.templates directives)
    (taken : inlined.templates = [])
    (constraints : inlined.constraints = directives ++ description.constraints) (id : ViewId) :
    SameAgenda templates [(description, id)] [(inlined, id)] where
  length := rfl
  agenda := by
    have whole := Template.expand_of_grounded grounded unfolds
    simp only [ViewLayout.agenda, List.map_cons, List.map_nil, List.flatMap_cons,
      List.flatMap_nil, Order.tasks, Order.directives, Order.of, whole, taken, constraints,
      Template.expand_nil, List.nil_append]

end SameAgenda

namespace Building

variable {templates : Table Description}

/-- Actions that do the same, one after the other. -/
theorem Twins.comp {action other later after : Building → Building}
    (first : Twins (SameAgenda templates) action other)
    (second : Twins (SameAgenda templates) later after) :
    Twins (SameAgenda templates) (fun start => later (action start))
      (fun start => after (other start)) := by
  intro building
  obtain ⟨middle, added, others, appends, appendsOther, same⟩ := first building
  obtain ⟨next, more, rest, appendsLater, appendsAfter, sameLater⟩ := second middle
  exact ⟨next, _, _, appends.comp appendsLater, appendsOther.comp appendsAfter,
    same.append sameLater⟩

mutual

/-- A description with all templates inlined is built in the same way, with the same tasks. -/
theorem twins_buildUnder (above : Option Description) : ∀ {description inlined : Description},
    (∀ placed ∈ description.listing above, Template.Grounded templates placed.2.templates) →
      Inlines templates description inlined → ∀ id,
        Twins (SameAgenda templates) (buildUnder id description) (buildUnder id inlined)
  | description, _, grounded, @Inlines.intro _ _ directives subviews unfolds below, id => by
    have settled : Twins (SameAgenda templates) (settle · description id) (settle ·
        { description with
          constraints := directives ++ description.constraints
          templates := []
          subviews } id) := by
      intro building
      exact ⟨building.settle description id, _, _, fun _ => rfl, fun _ => rfl,
        .of_unfolds (grounded (above, description) (by rw [listing_eq]; exact List.mem_cons_self))
          unfolds rfl rfl id⟩
    exact settled.comp (twins_buildAll (some description)
      (fun placed member =>
        grounded placed (by rw [listing_eq]; exact List.mem_cons_of_mem _ member)) below id)

/-- Inlined subviews are built as the others. -/
theorem twins_buildAll (above : Option Description) : ∀ {descriptions inlined : List Description},
    (∀ placed ∈ listingAll above descriptions, Template.Grounded templates placed.2.templates) →
      InlinesAll templates descriptions inlined → ∀ parent,
        Twins (SameAgenda templates) (buildAll parent descriptions) (buildAll parent inlined)
  | _, _, _, .nil, parent => by
    intro building
    have same : Appends (buildAll parent []) building building [] := by
      intro built
      rw [buildAll, List.append_nil]
    exact ⟨building, [], [], same, same, rfl, rfl⟩
  | description :: rest, inlined :: others, grounded, .cons first later, parent => by
    obtain ⟨isNew, name, superclass⟩ := first.same
    have one : Twins (SameAgenda templates) (build parent description) (build parent inlined) :=
      Twins.build ⟨rfl, rfl⟩ isNew name superclass
        (twins_buildUnder above (fun placed member =>
          grounded placed (by rw [listingAll]; exact List.mem_append_left _ member)) first) parent
    have remaining := twins_buildAll above (fun placed member =>
      grounded placed (by rw [listingAll]; exact List.mem_append_right _ member)) later parent
    have unrolled : ∀ (description : Description) (rest : List Description),
        buildAll parent (description :: rest) =
          fun start => buildAll parent rest (build parent description start) := by
      intro description rest
      funext start
      rw [buildAll]
    rw [unrolled, unrolled]
    exact one.comp remaining

end

end Building

namespace Pass

variable {settings : Settings} {document : Document} {root : ViewId} {scene : Scene}

/-- Inlining its templates changes nothing of what a document compiles to. -/
theorem compile_eq_of_inlines {inlined : Description}
    (grounded : ∀ placed ∈ document.root.walk,
      Template.Grounded document.templates placed.2.templates)
    (inlines : Inlines document.templates document.root inlined) :
    compile settings { document with root := inlined } root scene =
      compile settings document root scene := by
  rw [walk_eq] at grounded
  obtain ⟨next, added, others, appends, appendsInlined, same⟩ :=
    Building.twins_buildUnder none grounded inlines root
      { scene := { scene with index := scene.index.put (scene.forest.nameOf root) root } }
  have whole : hierarchy document root scene = { next with built := added } := appends []
  have less : hierarchy { document with root := inlined } root scene =
      { next with built := others } := appendsInlined []
  have sameTasks : tasks { document with root := inlined } root scene =
      tasks document root scene := by
    rw [tasks, tasks, less, whole]
    exact same.agenda.symm
  have sameStart : started settings { document with root := inlined } root scene =
      started settings document root scene := by
    rw [started, started, less, whole]
  have sameCount : (hierarchy { document with root := inlined } root scene).built.length =
      (hierarchy document root scene).built.length := by
    rw [less, whole]
    exact same.length.symm
  rw [compile_eq_close, compile_eq_close, sameTasks, sameStart, sameCount]

/-- **A document whose views reach only known templates, and no cycle of them, can be inlined in one
way**, and a pass cannot tell both apart: it gives the same constraints and diagnostics and leaves
the same scene with the same records. -/
theorem compile_inlines (document : Document)
    (grounded : ∀ placed ∈ document.root.walk,
      Template.Grounded document.templates placed.2.templates) :
    ∃ inlined, (∀ other, Inlines document.templates document.root other ↔ other = inlined) ∧
      ∀ settings root scene, compile settings { document with root := inlined } root scene =
        compile settings document root scene := by
  have listed := grounded
  rw [walk_eq] at listed
  obtain ⟨inlined, inlines⟩ := exists_inlines none document.root listed
  refine ⟨inlined, fun other => ⟨inlines.unique, ?_⟩, fun settings root scene =>
    compile_eq_of_inlines grounded inlines⟩
  rintro rfl
  exact inlines

/-- A window with two templates that include the same one. -/
def sharing : Document where
  root :=
    { name := "window"
      constraints := [⟨"top", .shorthand "0", .log⟩]
      templates := ["left", "right"] }
  templates :=
    [("base", { name := "base", constraints := [⟨"width", .shorthand "10", .log⟩] }),
      ("left",
        { name := "left", constraints := [⟨"left", .shorthand "0", .log⟩], templates := ["base"] }),
      ("right",
        { name := "right"
          constraints := [⟨"right", .shorthand "0", .log⟩]
          templates := ["base"] })]

/-- The constraints of the template that both include come twice. -/
theorem compile_inlines_sharing :
    ∃ inlined, inlined.templates = [] ∧
      inlined.constraints.map Directive.lhs = ["width", "left", "width", "right", "top"] ∧
      ∀ settings root scene, compile settings { sharing with root := inlined } root scene =
        compile settings sharing root scene := by
  have descends : ∀ entry ∈ sharing.templates, ∀ inner ∈ entry.2.templates,
      (sharing.templates.get? inner).isSome ∧
        (if inner = "base" then 0 else 1) < (if entry.1 = "base" then 0 else 1) := by
    decide
  have grounded : ∀ placed ∈ sharing.root.walk,
      Template.Grounded sharing.templates placed.2.templates := by
    intro placed member
    refine Template.grounded_of_rank _ descends ?_
    rw [walk_eq] at member
    obtain rfl : placed = (none, sharing.root) := List.mem_singleton.1 member
    decide
  obtain ⟨inlined, only, same⟩ := compile_inlines sharing grounded
  have unfolds : Template.Unfolds sharing.templates ["left", "right"] _ :=
    .cons rfl (.cons rfl .nil .nil) (.cons rfl (.cons rfl .nil .nil) .nil)
  obtain rfl := (only _).1 (.intro unfolds .nil)
  exact ⟨_, rfl, by decide, same⟩

end Pass

end ViewLayout
