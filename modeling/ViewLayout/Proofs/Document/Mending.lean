import ViewLayout.Document.Read
import ViewLayout.Proofs.Value.Writable

/-!
# Mending views

A view may hold pieces of a wrong shape. `Description.flaws` lists those that are met when the view
is read, and `Flaw.diagnostic` says what each costs. `Description.mend` is the view without them, at
every depth; nothing inside a flawed piece is looked at.
-/

namespace ViewLayout

/-- A piece of a view that has a wrong shape. -/
inductive Flaw
  /-- An entry among the subviews that is no mapping, or whose id has no name. -/
  | subview (id : String) (data : Value)
  | subviews (name : String) (block : Value)
  | constraints (block : Value)
  /-- An argument of a constraint that is neither text nor mapping, or whose left side is no
  text. -/
  | argument (lhs rhs : Value)
  | properties (block : Value)
  | zIndex (value : Value)

/-- What a flaw costs. -/
def Flaw.diagnostic : Flaw → Diagnostic
  | subview id (.mapping _) => .viewWithoutName id
  | subview id data => .viewNotMapping id data.kind
  | subviews name _ => .subviewsNotMapping name
  | constraints block => .constraintsNotMapping block.kind
  | argument (.text lhs) rhs => .constraintNotReadable lhs rhs
  | argument lhs _ => .constraintKeyNotText lhs
  | properties block => .propertiesNotMapping block.kind
  | zIndex value => .invalidZIndex value

namespace Description

/-- Whether an argument of a constraint is no directive: its left side is no text, or it is neither
a text nor a mapping. -/
def isFlawedArgument (lhs rhs : Value) : Bool :=
  lhs.text?.isNone || (rhs.text?.isNone && rhs.entries?.isNone)

/-- The flawed arguments of a constraint, which has one or a list of them. -/
def argumentFlaws (lhs rhs : Value) : List Flaw :=
  ((rhs.items?.getD [rhs]).filter (isFlawedArgument lhs)).map (.argument lhs)

/-- A constraint without its flawed arguments. -/
def mendConstraint (lhs rhs : Value) : Option Value :=
  match rhs.items? with
  | some items => some (.list (items.filter fun item => !isFlawedArgument lhs item))
  | none => if isFlawedArgument lhs rhs then none else some rhs

/-- The entries of a block of constraints without flawed arguments. -/
def mendConstraintEntries (entries : List (Value × Value)) : List (Value × Value) :=
  entries.filterMap fun entry => (mendConstraint entry.1 entry.2).map fun rhs => (entry.1, rhs)

/-- The flaws of a block of constraints. -/
def constraintsFlaws (block : Value) : List Flaw :=
  match block with
  | .null => []
  | _ =>
    match block.entries? with
    | some entries => entries.flatMap fun entry => argumentFlaws entry.1 entry.2
    | none => [.constraints block]

/-- A block of constraints without its flaws; none if it is no mapping. -/
def mendConstraints (block : Value) : Option Value :=
  match block with
  | .null => some .null
  | _ => block.entries?.map fun entries => .mapping (mendConstraintEntries entries)

/-- The flaw of a block of properties that is no mapping. -/
def propertiesFlaws (block : Value) : List Flaw :=
  match block with
  | .null => []
  | _ => if block.entries?.isSome then [] else [.properties block]

/-- A block of properties, unless it is flawed. -/
def mendProperties (block : Value) : Option Value :=
  match block with
  | .null => some .null
  | _ => if block.entries?.isSome then some block else none

/-- The flaw of a z-index that is no integer. -/
def zIndexFlaws (value : Value) : List Flaw :=
  if (zIndexOf? value).isSome then [] else [.zIndex value]

/-- A z-index, unless it is flawed. -/
def mendZIndex (value : Value) : Option Value :=
  if (zIndexOf? value).isSome then some value else none

/-- A field of a view without its flaws, if it is not the subviews. -/
def mendField (name : Option String) (value : Value) : Option Value :=
  match name with
  | some "constraints" => mendConstraints value
  | some "properties" => mendProperties value
  | some "z-index" => mendZIndex value
  | _ => some value

/-- The entries without those that stand under one key. -/
def without (key : Value) (entries : List (Value × Value)) : List (Value × Value) :=
  entries.filter fun entry => entry.1.text? != key.text?

mutual

/-- The flaws of a view with a name, in the order in which they are met. -/
def flaws (id : String) : Value → List Flaw
  | .mapping entries =>
    subviewsFlaws (ViewLabel.ofId id).name entries ++
      (constraintsFlaws (Value.lookupD entries "constraints") ++
        (propertiesFlaws (Value.lookupD entries "properties") ++
          zIndexFlaws (Value.lookupD entries "z-index")))
  | _ => []

/-- The flaws of the subviews among the entries of a view. -/
def subviewsFlaws (name : String) : List (Value × Value) → List Flaw
  | [] => []
  | (key, value) :: rest =>
    if key.text? = some subviewsName then
      match value with
      | .mapping entries => subviewFlaws entries
      | .null => []
      | _ => [.subviews name value]
    else subviewsFlaws name rest

/-- The flaws of the entries among subviews. In one that is flawed nothing else is looked at. -/
def subviewFlaws : List (Value × Value) → List Flaw
  | [] => []
  | (id, data) :: rest =>
    match data with
    | .mapping entries =>
      if (ViewLabel.ofId id.shown).name = "" then
        .subview id.shown (.mapping entries) :: subviewFlaws rest
      else flaws id.shown data ++ subviewFlaws rest
    | _ => .subview id.shown data :: subviewFlaws rest

end

mutual

/-- A view without its flaws. -/
def mend : Value → Value
  | .mapping entries => .mapping (mendFields entries)
  | view => view

/-- The fields of a view without their flaws. A field that is flawed as a whole is removed. -/
def mendFields : List (Value × Value) → List (Value × Value)
  | [] => []
  | (key, value) :: rest =>
    if key.text? = some subviewsName then
      match value with
      | .mapping entries => (key, .mapping (mendSubviews entries)) :: mendFields rest
      | .null => (key, .null) :: mendFields rest
      | _ => without key (mendFields rest)
    else
      match mendField key.text? value with
      | some kept => (key, kept) :: mendFields rest
      | none => without key (mendFields rest)

/-- The entries among subviews that have a name and are mappings, without the flaws in them. -/
def mendSubviews : List (Value × Value) → List (Value × Value)
  | [] => []
  | (id, data) :: rest =>
    match data with
    | .mapping _ =>
      if (ViewLabel.ofId id.shown).name = "" then mendSubviews rest
      else (id, mend data) :: mendSubviews rest
    | _ => mendSubviews rest

end

/-- The arguments of a mended constraint are those that are not flawed. -/
theorem arguments_of_mendConstraint {lhs rhs kept : Value}
    (mended : mendConstraint lhs rhs = some kept) :
    kept.items?.getD [kept] =
      (rhs.items?.getD [rhs]).filter fun item => !isFlawedArgument lhs item := by
  unfold mendConstraint at mended
  split at mended
  · next items listed =>
    cases mended
    rw [listed]
    rfl
  · next single =>
    split at mended
    · cases mended
    · next sound =>
      cases mended
      simp [single, sound]

/-- A constraint is removed if all of its arguments are flawed. -/
theorem arguments_of_mendConstraint_eq_none {lhs rhs : Value}
    (removed : mendConstraint lhs rhs = none) :
    ((rhs.items?.getD [rhs]).filter fun item => !isFlawedArgument lhs item) = [] := by
  unfold mendConstraint at removed
  split at removed
  · cases removed
  · next single =>
    split at removed
    · next flawed => simp [single, flawed]
    · cases removed

variable {key value : Value} {entries rest : List (Value × Value)} {wanted : String}

/-- Leaving a key out takes away what stands under it and nothing else. -/
theorem lookup?_without :
    Value.lookup? (without key entries) wanted =
      if key.text? = some wanted then none else Value.lookup? entries wanted := by
  induction entries with
  | nil => simp [without, Value.lookup?]
  | cons entry rest inner =>
    obtain ⟨name, value⟩ := entry
    unfold without at inner ⊢
    by_cases same : name.text? = key.text?
    · rw [List.filter_cons_of_neg (by simp [same]), inner, Value.lookup?_cons, same]
      split <;> rfl
    · rw [List.filter_cons_of_pos (by simp [same]), Value.lookup?_cons, Value.lookup?_cons, inner]
      grind

/-- A field of a mended view is the mended field, if it is not the subviews. -/
theorem lookup?_mendFields (other : wanted ≠ subviewsName) :
    Value.lookup? (mendFields entries) wanted =
      (Value.lookup? entries wanted).bind (mendField (some wanted)) := by
  induction entries with
  | nil => rfl
  | cons entry rest inner =>
    obtain ⟨key, value⟩ := entry
    rw [Value.lookup?_cons]
    unfold mendFields
    split
    -- The subviews are another field, whether they are kept or not.
    · next views =>
      have differs : key.text? ≠ some wanted := fun same =>
        other (Option.some.inj (same.symm.trans views))
      split <;> simp [Value.lookup?_cons, lookup?_without, differs, inner]
    · split
      · next kept mended =>
        rw [Value.lookup?_cons, inner]
        split
        · next same => rw [← same, Option.bind_some, mended]
        · rfl
      · next removed =>
        rw [lookup?_without, inner]
        split
        · next same => rw [← same, Option.bind_some, removed]
        · rfl

/-- A field of the mended view is the mended field. -/
theorem lookupD_mendFields (entries : List (Value × Value)) (wanted : String)
    (other : wanted ≠ subviewsName)
    (missing : mendField (some wanted) .null = some .null) :
    Value.lookupD (mendFields entries) wanted =
      (mendField (some wanted) (Value.lookupD entries wanted)).getD .null := by
  unfold Value.lookupD
  rw [lookup?_mendFields other]
  cases Value.lookup? entries wanted with
  | none => rw [Option.getD_none, missing]; rfl
  | some value => rfl

/-- No argument of a mended constraint is flawed. -/
theorem argumentFlaws_mend {lhs rhs kept : Value} (mended : mendConstraint lhs rhs = some kept) :
    argumentFlaws lhs kept = [] := by
  unfold argumentFlaws
  rw [arguments_of_mendConstraint mended, List.filter_filter]
  simp

/-- Mended constraints have no flaws. -/
theorem constraintsFlaws_mend (block : Value) :
    constraintsFlaws ((mendConstraints block).getD .null) = [] := by
  unfold mendConstraints
  split
  · rfl
  · cases block.entries? with
    | none => rfl
    | some entries =>
      refine List.flatMap_eq_nil_iff.2 fun entry member => ?_
      obtain ⟨⟨lhs, rhs⟩, -, found⟩ := List.mem_filterMap.1 member
      obtain ⟨kept, mended, rfl⟩ := Option.map_eq_some_iff.1 found
      exact argumentFlaws_mend mended

/-- Mended properties have no flaws. -/
theorem propertiesFlaws_mend (block : Value) :
    propertiesFlaws ((mendProperties block).getD .null) = [] := by
  unfold mendProperties
  split
  · rfl
  · split
    · next mapped => cases block <;> simp_all [propertiesFlaws]
    · rfl

/-- A mended z-index has no flaws. -/
theorem zIndexFlaws_mend (value : Value) : zIndexFlaws ((mendZIndex value).getD .null) = [] := by
  unfold mendZIndex
  split
  · next given => simp [zIndexFlaws, given]
  · rfl

/-- The flaws of subviews are those of what stands under their key. -/
theorem subviewsFlaws_eq (name : String) (entries : List (Value × Value)) :
    subviewsFlaws name entries =
      match Value.lookup? entries subviewsName with
      | some (.mapping subviews) => subviewFlaws subviews
      | some .null | none => []
      | some block => [.subviews name block] := by
  induction entries with
  | nil => rfl
  | cons entry rest inner =>
    obtain ⟨key, value⟩ := entry
    rw [Value.lookup?_cons]
    unfold subviewsFlaws
    split
    · cases value <;> rfl
    · exact inner

mutual

/-- A mended view has no flaws. -/
theorem flaws_mend : ∀ (view : Value) (id : String), flaws id (mend view) = []
  | .mapping entries, id => by
    have field := lookupD_mendFields entries
    rw [mend, flaws, field "constraints" (by decide) rfl, field "properties" (by decide) rfl,
      field "z-index" (by decide) rfl, subviewsFlaws_mend entries]
    exact congrArg₂ (· ++ ·) (constraintsFlaws_mend _)
      (congrArg₂ (· ++ ·) (propertiesFlaws_mend _) (zIndexFlaws_mend _))
  | .null, _ | .bool _, _ | .int _, _ | .float _, _ | .text _, _ | .date _, _ | .moment _, _
  | .octets _, _ | .list _, _ | .tuple _, _ | .set _, _ | .knot _ _, _ | .cell _, _ => rfl

/-- The mended fields of a view hold no flaws of subviews. -/
theorem subviewsFlaws_mend : ∀ (entries : List (Value × Value)) (name : String),
    subviewsFlaws name (mendFields entries) = []
  | [], _ => rfl
  | (key, value) :: rest, name => by
    have later := subviewsFlaws_mend rest name
    unfold mendFields
    by_cases views : key.text? = some subviewsName
    · rw [if_pos views]
      cases value with
      | mapping subviews => simpa [subviewsFlaws, views] using subviewFlaws_mend subviews
      | null => simp [subviewsFlaws, views]
      | _ => simp [subviewsFlaws_eq, lookup?_without, views]
    · rw [if_neg views]
      split
      · simpa [subviewsFlaws_eq, Value.lookup?_cons, views] using later
      · simpa [subviewsFlaws_eq, lookup?_without, views] using later

/-- Mended subviews have no flaws. -/
theorem subviewFlaws_mend : ∀ entries : List (Value × Value),
    subviewFlaws (mendSubviews entries) = []
  | [] => rfl
  | (id, data) :: rest => by
    have later := subviewFlaws_mend rest
    cases data with
    | mapping entries =>
      by_cases nameless : (ViewLabel.ofId id.shown).name = ""
      · rw [mendSubviews, if_pos nameless]
        exact later
      · rw [mendSubviews, if_neg nameless, mend, subviewFlaws, if_neg nameless, later,
          List.append_nil]
        exact flaws_mend (.mapping entries) id.shown
    | _ => exact later

end

end Description

end ViewLayout
