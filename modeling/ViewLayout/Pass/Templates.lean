import ViewLayout.Document.Basic

/-!
# Template expansion

The constraints that views take from templates. A template may include others, whose constraints
come before its own; one that includes itself along the way is reported there and left out. The
expansion ends because each inclusion leaves fewer templates that are not on the way.
-/

namespace ViewLayout.Template

/-- How many templates are not on the way. -/
def unseenCount (templates : Table Description) (seen : List String) : Nat :=
  templates.names.countP (· ∉ seen)

/-- Going into a template that is not on the way leaves fewer. -/
theorem unseenCount_cons_lt {templates : Table Description} {seen : List String} {name : String}
    (member : name ∈ templates.names) (fresh : name ∉ seen) :
    unseenCount templates (name :: seen) < unseenCount templates seen := by
  have fewer : ∀ names : List String,
      names.countP (· ∉ name :: seen) ≤ names.countP (· ∉ seen) := by
    intro names
    refine List.countP_mono_left fun other _ kept => ?_
    simp only [List.mem_cons, not_or, decide_eq_true_eq] at kept ⊢
    exact kept.2
  unfold unseenCount
  generalize templates.names = names at member
  induction names with
  | nil => simp at member
  | cons first rest inner =>
    rw [List.countP_cons, List.countP_cons]
    rcases List.mem_cons.1 member with rfl | later
    · have below := fewer rest
      simp only [List.mem_cons] at below
      simp only [List.mem_cons, true_or, not_true_eq_false, decide_false, Bool.false_eq_true,
        ↓reduceIte, fresh, not_false_eq_true, decide_true]
      omega
    · have below := inner later
      have here := fewer [first]
      simp only [List.countP_cons, List.countP_nil] at here
      omega

/-- **The constraints of templates by name**, after those that the templates include. The templates
on the way so far are `seen`. -/
def expand (templates : Table Description) (seen : List String) :
    List String → Reported (List Directive)
  | [] => .clean []
  | name :: rest => do
    let own ←
      if _ : name ∈ seen then .withReport [] (.templateIncludesItself name)
      else
        match _ : templates.get? name with
        | none => .withReport [] (.templateUnknown name)
        | some template => do
          let included ← expand templates (name :: seen) template.templates
          pure (included ++ template.constraints)
    let others ← expand templates seen rest
    return own ++ others
termination_by names => (unseenCount templates seen, names.length)
decreasing_by
  · exact Prod.Lex.right _ (Nat.lt_succ_self _)
  · exact Prod.Lex.left _ _
      (unseenCount_cons_lt (Table.mem_names_of_get? (by assumption)) (by assumption))

end ViewLayout.Template
