import ViewLayout.Proofs.Constraint.Scripts

/-!
# Sessions with a model

A model is used again and again, to ask for fields and to establish its directive for targets.
`Consults` describes what a part of that comes to: a field is read if it was not remembered, is
remembered then, and is warned of at most when it is read. Parts follow each other, and so
`Model.session_readOnce` says of a whole session that every field is read at most once.
-/

namespace ViewLayout

/-- The field that a step warns of. -/
def Step.subject? : Step → Option Field
  | .notice told => told.diagnostic.field?
  | .spec _ => none

/-- All fields of the directive can be read: what it gives for numbers is no integer too large,
and can be shown in messages. That is so if all integers in the payload are within the range of
numbers, which is far below the limit on their digits. -/
structure Directive.Legible (directive : Directive) : Prop where
  showable : directive.Showable
  fits : ∀ field, ¬ directive.Overflows field

/-- Each field of a legible directive can be read. -/
theorem Directive.Legible.read {directive : Directive} (legible : directive.Legible)
    (field : Field) : ∃ reported, directive.read field = .ok reported := by
  cases given : directive.read field with
  | ok reported => exact ⟨reported, rfl⟩
  | error fault =>
    exact absurd ((Directive.read_eq_error_iff legible.showable).1 given).2 (legible.fits field)

/-- A directive whose numbers are texts is legible. -/
theorem Directive.Legible.of_texts {directive : Directive}
    (texts : ∀ (numberField : NumberField) value,
      numberField.given? directive.payload = some value → ∃ text, value = .text text) :
    directive.Legible := by
  refine ⟨fun numberField value found => ?_, ?_⟩
  · obtain ⟨text, rfl⟩ := texts numberField value found
    exact Value.isShowable_text text
  · rintro field ⟨numberField, value, _, found, integer, same, _⟩
    obtain ⟨text, rfl⟩ := texts numberField value found
    cases same

/-- A query came to the directive's answer, which is remembered, or the field cannot be read. -/
inductive Query.Settled (directive : Directive) (after : Model) (query : Query) : Prop
  | answered (same : query.answer = .ok (directive.answer query.field))
    (remembered : after.memory query.field ≠ none)
  | unread {fault : FieldError} (same : query.answer = .error fault)
    (fails : directive.read query.field = .error fault)

/-- Where a step comes from: a warning from a field that was read, and any other step from what
may be told when fields were asked for. -/
inductive Step.Arises (sink : Sink) (may : List Field → Step → Prop) (after : Model)
    (readings : List Field) : Step → Prop
  | read {field : Field} {warning : Diagnostic} (reads : field ∈ readings)
    (about : warning.field? = some field) : Arises sink may after readings (.notice ⟨sink, warning⟩)
  | told {asked : List Field} {item : Step} (allowed : may asked item)
    (remembered : ∀ field ∈ asked, after.memory field ≠ none) : Arises sink may after readings item

/-- What a model of a directive was asked, the fields that were read for that, and the steps that
were told meanwhile. -/
structure Consults (directive : Directive) (sink : Sink) (may : List Field → Step → Prop)
    (before after : Model) (queries : List Query) (readings : List Field) (steps : List Step) :
    Prop where
  recalls : after.Recalls directive sink
  own : after.ownSink = before.ownSink
  kept : ∀ field, before.memory field ≠ none → after.memory field ≠ none
  learned : ∀ field, after.memory field ≠ none → before.memory field ≠ none ∨ field ∈ readings
  settled : ∀ query ∈ queries, query.Settled directive after
  asked : ∀ field ∈ readings, ∃ query ∈ queries, query.field = field
  fresh : ∀ field ∈ readings, before.memory field = none
  once : readings.Nodup
  warned : (steps.filterMap Step.subject?).Sublist readings
  arises : ∀ step ∈ steps, step.Arises sink may after readings

section Parts

variable {directive : Directive} {sink : Sink} {may : List Field → Step → Prop}
  {before middle after : Model} {queries later : List Query} {readings further : List Field}
  {steps following : List Step}

/-- What is settled stays so as long as nothing is forgotten. -/
theorem Query.Settled.keep {query : Query} (settled : query.Settled directive middle)
    (kept : ∀ field, middle.memory field ≠ none → after.memory field ≠ none) :
    query.Settled directive after := by
  cases settled with
  | answered same remembered => exact .answered same (kept _ remembered)
  | unread same fails => exact .unread same fails

/-- A query that was answered is remembered. -/
theorem Query.Settled.remembered {query : Query} (settled : query.Settled directive after)
    {answer : query.field.Answer} (found : query.answer = .ok answer) :
    after.memory query.field ≠ none := by
  cases settled with
  | answered _ remembered => exact remembered
  | unread same _ =>
    rw [found] at same
    cases same

/-- A settled query was answered with what the directive says. -/
theorem Query.Settled.answer_eq {query : Query} (settled : query.Settled directive after)
    (legible : directive.Legible) : query.answer = .ok (directive.answer query.field) := by
  cases settled with
  | answered same _ => exact same
  | unread _ fails =>
    obtain ⟨reported, read⟩ := legible.read query.field
    cases read.symm.trans fails

/-- A step arises as before if nothing is forgotten and no reading is taken back. -/
theorem Step.Arises.keep {step : Step} (arises : step.Arises sink may middle readings)
    (kept : ∀ field, middle.memory field ≠ none → after.memory field ≠ none)
    (within : readings ⊆ further) : step.Arises sink may after further := by
  cases arises with
  | read reads about => exact .read (within reads) about
  | told allowed remembered =>
    exact .told allowed fun field member => kept field (remembered field member)

namespace Consults

/-- No query, no reading and no step. -/
theorem nil (recalls : before.Recalls directive sink) :
    Consults directive sink may before before [] [] [] where
  recalls := recalls
  own := rfl
  kept := fun _ remembered => remembered
  learned := fun _ remembered => .inl remembered
  settled := fun _ member => absurd member List.not_mem_nil
  asked := fun _ member => absurd member List.not_mem_nil
  fresh := fun _ member => absurd member List.not_mem_nil
  once := List.nodup_nil
  warned := List.Sublist.refl []
  arises := fun _ member => absurd member List.not_mem_nil

/-- A step that is no warning of a field reads nothing. -/
theorem tell (recalls : before.Recalls directive sink) {asked : List Field} {item : Step}
    (allowed : may asked item) (remembered : ∀ field ∈ asked, before.memory field ≠ none)
    (quiet : item.subject? = none) :
    Consults directive sink may before before [] [] [item] where
  recalls := recalls
  own := rfl
  kept := fun _ remembered => remembered
  learned := fun _ remembered => .inl remembered
  settled := fun _ member => absurd member List.not_mem_nil
  asked := fun _ member => absurd member List.not_mem_nil
  fresh := fun _ member => absurd member List.not_mem_nil
  once := List.nodup_nil
  warned := by
    rw [List.filterMap_cons, quiet]
    exact List.Sublist.refl []
  arises := fun _ member => List.mem_singleton.1 member ▸ .told allowed remembered

/-- What follows reads only what was not read before, if all that was asked for before was
answered. -/
theorem append (first : Consults directive sink may before middle queries readings steps)
    (second : Consults directive sink may middle after later further following)
    (answered : ∀ query ∈ queries, ∃ answer, query.answer = .ok answer) :
    Consults directive sink may before after (queries ++ later) (readings ++ further)
      (steps ++ following) where
  recalls := second.recalls
  own := second.own.trans first.own
  kept := fun field remembered => second.kept field (first.kept field remembered)
  learned := by
    intro field remembered
    rw [List.mem_append]
    rcases second.learned field remembered with known | reads
    · exact (first.learned field known).imp_right .inl
    · exact .inr (.inr reads)
  settled := by
    intro query member
    rcases List.mem_append.1 member with member | member
    · exact (first.settled query member).keep second.kept
    · exact second.settled query member
  asked := by
    intro field member
    rcases List.mem_append.1 member with member | member
    · obtain ⟨query, own, same⟩ := first.asked field member
      exact ⟨query, List.mem_append_left _ own, same⟩
    · obtain ⟨query, own, same⟩ := second.asked field member
      exact ⟨query, List.mem_append_right _ own, same⟩
  fresh := by
    intro field member
    rcases List.mem_append.1 member with member | member
    · exact first.fresh field member
    · exact Decidable.byContradiction fun kept => first.kept field kept (second.fresh field member)
  once := by
    refine first.once.append second.once fun field reads again => ?_
    obtain ⟨query, asked, rfl⟩ := first.asked field reads
    obtain ⟨answer, found⟩ := answered query asked
    exact (first.settled query asked).remembered found (second.fresh _ again)
  warned := by
    rw [List.filterMap_append]
    exact first.warned.append second.warned
  arises := by
    intro step member
    rcases List.mem_append.1 member with member | member
    · exact (first.arises step member).keep second.kept (List.subset_append_left _ _)
    · exact (second.arises step member).keep (fun _ remembered => remembered)
        (List.subset_append_right _ _)

/-- What is allowed may be widened. -/
theorem weaken {might : List Field → Step → Prop}
    (consults : Consults directive sink may before after queries readings steps)
    (weaker : ∀ asked item, may asked item → might asked item) :
    Consults directive sink might before after queries readings steps where
  recalls := consults.recalls
  own := consults.own
  kept := consults.kept
  learned := consults.learned
  settled := consults.settled
  asked := consults.asked
  fresh := consults.fresh
  once := consults.once
  warned := consults.warned
  arises := by
    intro step member
    cases consults.arises step member with
    | read reads about => exact .read reads about
    | told allowed remembered => exact .told (weaker _ _ allowed) remembered

variable {inquiry : Inquiry Step} {field : Field}

/-- A query for a field that is remembered, for which nothing is read. -/
theorem of_remembered (recalls : inquiry.model.Recalls directive sink)
    (settled : (inquiry.query field).Settled directive inquiry.model) :
    Consults directive sink may inquiry.model inquiry.model [inquiry.query field] [] [] where
  recalls := recalls
  own := rfl
  kept := fun _ remembered => remembered
  learned := fun _ remembered => .inl remembered
  settled := fun _ member => List.mem_singleton.1 member ▸ settled
  asked := fun _ member => absurd member List.not_mem_nil
  fresh := fun _ member => absurd member List.not_mem_nil
  once := List.nodup_nil
  warned := List.Sublist.refl []
  arises := fun _ member => absurd member List.not_mem_nil

/-- A query for which the directive is read in vain. -/
theorem of_unread (recalls : inquiry.model.Recalls directive sink)
    (absent : inquiry.model.memory field = none)
    (settled : (inquiry.query field).Settled directive inquiry.model) :
    Consults directive sink may inquiry.model inquiry.model [inquiry.query field] [field] [] where
  recalls := recalls
  own := rfl
  kept := fun _ remembered => remembered
  learned := fun _ remembered => .inl remembered
  settled := fun _ member => List.mem_singleton.1 member ▸ settled
  asked := fun _ member => ⟨_, List.mem_cons_self, (List.mem_singleton.1 member).symm⟩
  fresh := fun _ member => List.mem_singleton.1 member ▸ absent
  once := List.nodup_singleton field
  warned := List.nil_sublist _
  arises := fun _ member => absurd member List.not_mem_nil

/-- A query for which the directive is read. -/
theorem of_read {reported : Reported (Option field.Content)}
    (recalls : inquiry.model.Recalls directive sink) (absent : inquiry.model.memory field = none)
    (read : directive.read field = .ok reported) :
    Consults directive sink may inquiry.model
      { inquiry.model with
        memory := inquiry.model.memory.remember field (directive.answer field) }
      [inquiry.query field] [field]
      (reported.diagnostics.map fun diagnostic => Step.notice ⟨sink, diagnostic⟩) where
  recalls := recalls.remember field
  own := rfl
  kept := by
    intro other kept
    by_cases same : field = other
    · subst same
      exact absurd absent kept
    · change inquiry.model.memory.remember field _ other ≠ none
      rwa [Memory.remember_of_ne _ same]
  learned := by
    intro other remembered
    by_cases same : field = other
    · exact .inr (same ▸ List.mem_singleton_self field)
    · change inquiry.model.memory.remember field _ other ≠ none at remembered
      rw [Memory.remember_of_ne _ same] at remembered
      exact .inl remembered
  settled := by
    intro query member
    rw [List.mem_singleton.1 member]
    refine .answered ?_ ?_
    · rw [Inquiry.query, Ask.runFrom_ask_of_read absent (recalls.directive_eq ▸ read),
        Directive.answer, read]
    · change inquiry.model.memory.remember field _ field ≠ none
      rw [Memory.remember_self]
      exact Option.some_ne_none _
  asked := fun _ member => ⟨_, List.mem_cons_self, (List.mem_singleton.1 member).symm⟩
  fresh := fun _ member => List.mem_singleton.1 member ▸ absent
  once := List.nodup_singleton field
  warned := by
    rcases Directive.tellsOnce_read read with none | ⟨warning, only, about⟩
    · rw [none]
      exact List.nil_sublist _
    · simp [only, Step.subject?, about]
  arises := by
    intro step member
    obtain ⟨warning, given, rfl⟩ := List.mem_map.1 member
    refine .read (List.mem_singleton_self field) ?_
    rcases Directive.tellsOnce_read read with none | ⟨other, only, about⟩
    · exact absurd (none ▸ given) List.not_mem_nil
    · rw [only] at given
      exact List.mem_singleton.1 given ▸ about

end Consults

/-- What an inquiry goes through as it is asked queries. -/
def Inquiry.Consults (directive : Directive) (sink : Sink) (may : List Field → Step → Prop)
    (inquiry after : Inquiry Step) (queries : List Query) : Prop :=
  ∃ steps readings, after.told = steps.reverse ++ inquiry.told ∧
    after.readings = readings.reverse ++ inquiry.readings ∧
      ViewLayout.Consults directive sink may inquiry.model after.model queries readings steps

/-- What is told and read in an inquiry from its start is what was told and read meanwhile. -/
theorem Inquiry.Consults.of_start {inquiry : Inquiry Step}
    (consults : Inquiry.Consults directive sink may { model := before } inquiry queries) :
    ViewLayout.Consults directive sink may before inquiry.model queries inquiry.readings.reverse
      inquiry.told.reverse := by
  obtain ⟨steps, readings, told, read, consults⟩ := consults
  rw [List.append_nil] at told read
  rwa [told, read, List.reverse_reverse, List.reverse_reverse]

/-- One query reads a field that is not remembered, and warns of it at most once. -/
theorem Inquiry.consults_query (may : List Field → Step → Prop) {inquiry : Inquiry Step}
    (recalls : inquiry.model.Recalls directive sink) (field : Field) :
    inquiry.Consults directive sink may (Ask.runFrom (Model.ask field) inquiry).2
      [inquiry.query field] := by
  cases remembered : inquiry.model.memory field with
  | some answer =>
    have ran := Ask.runFrom_ask_of_remembered remembered
    have settled : (inquiry.query field).Settled directive inquiry.model := by
      refine .answered ?_ (remembered ▸ Option.some_ne_none answer)
      rw [Inquiry.query, ran]
      exact congrArg Except.ok (recalls.memory field answer remembered)
    rw [ran]
    exact ⟨[], [], rfl, rfl, .of_remembered recalls settled⟩
  | none =>
    cases read : directive.read field with
    | error fault =>
      have ran := Ask.runFrom_ask_of_unread remembered (recalls.directive_eq ▸ read)
      have settled : (inquiry.query field).Settled directive inquiry.model := by
        refine .unread ?_ read
        rw [Inquiry.query, ran]
      rw [ran]
      exact ⟨[], [field], rfl, rfl, .of_unread recalls remembered settled⟩
    | ok reported =>
      have answered : field.answer reported.value = directive.answer field := by
        rw [Directive.answer, read]
      rw [Ask.runFrom_ask_of_read remembered (recalls.directive_eq ▸ read), answered,
        recalls.sink_eq]
      exact ⟨_, [field], rfl, rfl, .of_read recalls remembered read⟩

/-- A script that is played reads every field at most once, and all that is told meanwhile is
warnings of these fields and what the script may tell. -/
theorem Script.consults {α : Type} {script : Script α} {asked : List Field}
    {inquiry : Inquiry Step} (tells : script.Tells directive may asked)
    (quiet : ∀ asked item, may asked item → item.subject? = none)
    (recalls : inquiry.model.Recalls directive sink)
    (remembered : ∀ field ∈ asked, inquiry.model.memory field ≠ none) :
    inquiry.Consults directive sink may (Ask.runFrom script.play inquiry).2
      (script.queries inquiry) := by
  induction script generalizing asked inquiry with
  | done value => exact ⟨[], [], rfl, rfl, .nil recalls⟩
  | tell item next inner =>
    obtain ⟨allowed, rest⟩ := tells
    have here := Consults.tell recalls allowed remembered (quiet asked item allowed)
    have later : Inquiry.Consults directive sink may
        { inquiry with told := item :: inquiry.told } _ _ := inner rest recalls remembered
    obtain ⟨steps, readings, told, read, consults⟩ := later
    refine ⟨item :: steps, readings, ?_, read,
      here.append consults fun _ none => absurd none List.not_mem_nil⟩
    rw [List.reverse_cons, List.append_assoc]
    exact told
  | ask field next inner =>
    obtain ⟨steps, readings, told, read, here⟩ := Inquiry.consults_query may recalls field
    have settled := here.settled _ List.mem_cons_self
    rw [play, queries, Ask.runFrom_bind]
    cases ran : Ask.runFrom (Model.ask field) inquiry with
    | mk result middle =>
      have found : (inquiry.query field).answer = result := congrArg Prod.fst ran
      rw [ran] at told read here settled
      cases result with
      | error fault => exact ⟨steps, readings, told, read, here⟩
      | ok answer =>
        have same : answer = directive.answer field := by
          cases settled with
          | answered same _ => exact Except.ok.inj (found.symm.trans same)
          | unread failed _ => cases found.symm.trans failed
        subst same
        have known : ∀ other ∈ field :: asked, middle.model.memory other ≠ none := by
          intro other member
          rcases List.mem_cons.1 member with rfl | member
          · exact settled.remembered found
          · exact here.kept other (remembered other member)
        obtain ⟨following, further, toldLater, readLater, consults⟩ :=
          inner _ tells here.recalls known
        refine ⟨steps ++ following, readings ++ further, ?_, ?_, here.append consults ?_⟩
        · rw [toldLater, told, List.reverse_append, List.append_assoc]
        · rw [readLater, read, List.reverse_append, List.append_assoc]
        · intro query member
          rw [List.mem_singleton.1 member]
          exact ⟨_, found⟩

end Parts

/-- One use of a model: it is asked for a field, or establishes its directive for a target. -/
inductive Use
  | ask (field : Field)
  | establish (scope : Scope) (target : ViewId) (sink : Option Sink)

/-- What came of one use of a model: the model after it, what it was asked, which fields its
directive was read for, and what was told. -/
structure Upshot where
  use : Use
  model : Model
  queries : List Query
  readings : List Field
  steps : List Step

/-- A model is used once. -/
def Model.perform (model : Model) (use : Use) : Upshot :=
  match use with
  | .ask field =>
    let (_, inquiry) := (Model.ask field).runFrom { model }
    { use
      model := inquiry.model
      steps := inquiry.told.reverse
      readings := inquiry.readings.reverse
      queries := [Inquiry.query { model } field] }
  | .establish scope target sink =>
    let established := model.establish scope target sink
    { use
      model := established.model
      steps := established.steps
      readings := established.readings
      queries := (Script.establish scope (model.errorSink sink) target).queries { model } }

/-- A model is used again and again. -/
def Model.session (model : Model) : List Use → List Upshot
  | [] => []
  | use :: rest => model.perform use :: (model.perform use).model.session rest

/-- What may be told in one use of a model, besides warnings. -/
def Use.MayTell (directive : Directive) (ownSink : Option Sink) (use : Use) (asked : List Field)
    (item : Step) : Prop :=
  match use with
  | .ask _ => False
  | .establish scope target sink =>
    scope.MayTell (Sink.firstOrLog sink ownSink) target directive asked item

/-- An error that a use of a model tells, as there is cause for it. -/
inductive Use.Errs (ownSink : Option Sink) : Use → Notice → Prop
  | establish {scope : Scope} {target : ViewId} {sink : Option Sink} {diagnostic : Diagnostic}
    (faults : scope.Faults target diagnostic) :
    Errs ownSink (.establish scope target sink) ⟨Sink.firstOrLog sink ownSink, diagnostic⟩

/-- Every field of a directive is read at most once while a model is used again and again. -/
structure Directive.ReadOnce (directive : Directive) (ownSink : Option Sink)
    (session : List Upshot) : Prop where
  /-- The directive is read for every field at most once. -/
  once : (session.flatMap Upshot.readings).Nodup
  /-- Whatever the model comes to remember was read. -/
  learned : ∀ upshot ∈ session, ∀ field, upshot.model.memory field ≠ none →
    field ∈ session.flatMap Upshot.readings
  /-- A field is answered with the same value every time. -/
  same : ∀ upshot ∈ session, ∀ query ∈ upshot.queries,
    query.answer = .ok (directive.answer query.field)
  /-- Every field is warned of at most once. -/
  warned : ∀ field,
    (session.flatMap Upshot.steps).countP (fun step => step.subject? == some field) ≤ 1
  /-- All that is told is warnings of fields that are read, and errors. -/
  told : ∀ upshot ∈ session, ∀ notice, .notice notice ∈ upshot.steps →
    (∃ field ∈ upshot.readings, notice.diagnostic.field? = some field) ∨
      upshot.use.Errs ownSink notice
  /-- After a constraint was told, nothing is read and only errors are told. -/
  quiet : session.Pairwise fun earlier later => (∃ spec, .spec spec ∈ earlier.steps) →
    later.readings = [] ∧
      ∀ notice, .notice notice ∈ later.steps → later.use.Errs ownSink notice

/-- What a use may tell by itself is no warning of a field. -/
theorem Use.subject?_of_mayTell {directive : Directive} {ownSink : Option Sink} {use : Use}
    {asked : List Field} {item : Step} (allowed : use.MayTell directive ownSink asked item) :
    item.subject? = none := by
  cases use with
  | ask field => exact allowed.elim
  | establish scope target sink =>
    cases allowed with
    | spec all => rfl
    | fault faults => cases faults <;> rfl

/-- A notice that a use may tell by itself is an error. -/
theorem Use.errs_of_mayTell {directive : Directive} {ownSink : Option Sink} {use : Use}
    {asked : List Field} {notice : Notice}
    (allowed : use.MayTell directive ownSink asked (.notice notice)) : use.Errs ownSink notice := by
  cases use with
  | ask field => exact allowed.elim
  | establish scope target sink =>
    cases allowed with
    | fault faults => exact .establish faults

namespace Model

variable {model : Model} {directive : Directive} {sink : Sink}

/-- An upshot belongs to its use. -/
theorem use_perform (model : Model) (use : Use) : (model.perform use).use = use := by
  cases use <;> rfl

/-- The steps of a use that establishes are those of the establishment. -/
theorem steps_perform_establish (model : Model) (scope : Scope) (target : ViewId)
    (sink : Option Sink) :
    (model.perform (.establish scope target sink)).steps =
      (model.establish scope target sink).steps :=
  rfl

/-- What one use of a model comes to. -/
theorem consults_perform (recalls : model.Recalls directive sink) (use : Use) :
    Consults directive sink (use.MayTell directive model.ownSink) model (model.perform use).model
      (model.perform use).queries (model.perform use).readings (model.perform use).steps := by
  have start : ({ model } : Inquiry Step).model.Recalls directive sink := recalls
  cases use with
  | ask field => exact (Inquiry.consults_query _ start field).of_start
  | establish scope target errors =>
    have tells : (Script.establish scope (model.errorSink errors) target).Tells directive
        (Use.MayTell directive model.ownSink (.establish scope target errors)) [] :=
      Script.tells_establish scope (model.errorSink errors) target directive
    have started := Script.consults tells (fun _ _ => Use.subject?_of_mayTell) start
      fun _ none => absurd none List.not_mem_nil
    rw [Script.play_establish] at started
    exact started.of_start

variable {ownSink : Option Sink}

/-- A whole session with a model, if all fields can be read. -/
theorem consults_session (legible : directive.Legible) (recalls : model.Recalls directive sink)
    (uses : List Use) :
    ∃ after, Consults directive sink (fun _ _ => True) model after
      ((model.session uses).flatMap Upshot.queries)
      ((model.session uses).flatMap Upshot.readings)
      ((model.session uses).flatMap Upshot.steps) := by
  induction uses generalizing model with
  | nil => exact ⟨model, .nil recalls⟩
  | cons use rest inner =>
    have first := consults_perform recalls use
    obtain ⟨after, later⟩ := inner first.recalls
    exact ⟨after, (first.weaken fun _ _ _ => trivial).append later fun query member =>
      ⟨_, (first.settled query member).answer_eq legible⟩⟩

/-- What a model remembers in a session it has remembered before, or it was read. -/
theorem learned_of_mem_session (recalls : model.Recalls directive sink) {uses : List Use}
    {upshot : Upshot} (member : upshot ∈ model.session uses) {field : Field}
    (remembered : upshot.model.memory field ≠ none) :
    model.memory field ≠ none ∨
      field ∈ (model.session uses).flatMap Upshot.readings := by
  induction uses generalizing model with
  | nil => exact absurd member List.not_mem_nil
  | cons use rest inner =>
    have first := consults_perform recalls use
    have sooner (known : (model.perform use).model.memory field ≠ none) :=
      first.learned field known
    rw [session, List.flatMap_cons, List.mem_append]
    rcases List.mem_cons.1 member with rfl | later
    · exact (sooner remembered).imp_right .inl
    · rcases inner first.recalls later with known | reads
      · exact (sooner known).imp_right .inl
      · exact .inr (.inr reads)

/-- What each use of a model comes to all uses in a session come to, if the model stays fit for
it. -/
theorem forall_mem_session {stays : Model → Prop} {holds : Upshot → Prop}
    (keeps : ∀ model use, stays model → stays (model.perform use).model)
    (each : ∀ model use, stays model → holds (model.perform use)) (start : stays model)
    (uses : List Use) : ∀ upshot ∈ model.session uses, holds upshot := by
  induction uses generalizing model with
  | nil => exact fun _ member => absurd member List.not_mem_nil
  | cons use rest inner =>
    exact List.forall_mem_cons.2 ⟨each model use start, inner (keeps model use start)⟩

/-- A model of a directive that has a sink of its own, or none. -/
structure Owned (directive : Directive) (ownSink : Option Sink) (model : Model) : Prop where
  recalls : model.Recalls directive (ownSink.getD directive.sink)
  own : model.ownSink = ownSink

/-- A model starts with its directive and its sink. -/
theorem Owned.start (directive : Directive) (ownSink : Option Sink) :
    Owned directive ownSink { directive, ownSink } :=
  ⟨⟨rfl, rfl, fun _ _ remembered => nomatch remembered⟩, rfl⟩

/-- No use takes the directive or the sink away. -/
theorem Owned.perform (owned : Owned directive ownSink model) (use : Use) :
    Owned directive ownSink (model.perform use).model :=
  have consults := consults_perform owned.recalls use
  ⟨consults.recalls, consults.own.trans owned.own⟩

/-- When all fields are remembered, nothing is read and only errors are told. -/
theorem quiet_of_complete (owned : Owned directive ownSink model)
    (complete : ∀ field, model.memory field ≠ none) (use : Use) :
    (model.perform use).readings = [] ∧
      ∀ notice, .notice notice ∈ (model.perform use).steps →
        (model.perform use).use.Errs ownSink notice := by
  have consults := consults_perform owned.recalls use
  have unread : (model.perform use).readings = [] :=
    List.eq_nil_iff_forall_not_mem.2 fun field reads => complete field (consults.fresh field reads)
  refine ⟨unread, fun notice told => ?_⟩
  cases consults.arises _ told with
  | read reads _ => exact absurd (unread ▸ reads) List.not_mem_nil
  | told allowed _ =>
    rw [use_perform, ← owned.own]
    exact Use.errs_of_mayTell allowed

/-- When a constraint was told, all fields are remembered. -/
theorem complete_of_spec (owned : Owned directive ownSink model) {use : Use} {spec : Spec}
    (told : .spec spec ∈ (model.perform use).steps) (field : Field) :
    (model.perform use).model.memory field ≠ none := by
  cases (consults_perform owned.recalls use).arises _ told with
  | told allowed remembered =>
    cases use with
    | ask other => exact allowed.elim
    | establish scope target errors =>
      cases allowed with
      | spec all => exact remembered field (all field)

/-- Once all fields are remembered, nothing is read and nothing but errors is told. -/
theorem session_quiet_of_complete (owned : Owned directive ownSink model)
    (complete : ∀ field, model.memory field ≠ none) (uses : List Use) :
    ∀ upshot ∈ model.session uses, upshot.readings = [] ∧
      ∀ notice, .notice notice ∈ upshot.steps → upshot.use.Errs ownSink notice := by
  have keeps (model : Model) (use : Use)
      (fit : Owned directive ownSink model ∧ ∀ field, model.memory field ≠ none) :
      Owned directive ownSink (model.perform use).model ∧
        ∀ field, (model.perform use).model.memory field ≠ none :=
    ⟨fit.1.perform use, fun field =>
      (consults_perform fit.1.recalls use).kept field (fit.2 field)⟩
  exact forall_mem_session keeps (fun model use fit => quiet_of_complete fit.1 fit.2 use)
    ⟨owned, complete⟩ uses

/-- After a spec nothing is read and nothing but errors is told. -/
theorem session_quiet (owned : Owned directive ownSink model) (uses : List Use) :
    (model.session uses).Pairwise fun earlier later => (∃ spec, .spec spec ∈ earlier.steps) →
      later.readings = [] ∧
        ∀ notice, .notice notice ∈ later.steps → later.use.Errs ownSink notice := by
  induction uses generalizing model with
  | nil => exact List.Pairwise.nil
  | cons use rest inner =>
    refine List.pairwise_cons.2 ⟨?_, inner (owned.perform use)⟩
    rintro later member ⟨spec, told⟩
    exact session_quiet_of_complete (owned.perform use) (complete_of_spec owned told) rest later
      member

/-- **Every field of a directive is read at most once**, however a model is used: fields are asked
for and the directive is established, in any order, for any targets and wherever it is resolved. A
field is answered with one value and warned of at most once, and after a constraint was told nothing
is warned of any more. -/
theorem session_readOnce (legible : directive.Legible) (ownSink : Option Sink) (uses : List Use) :
    directive.ReadOnce ownSink (({ directive, ownSink } : Model).session uses) := by
  have start := Owned.start directive ownSink
  have keeps (model : Model) (use : Use) (owned : Owned directive ownSink model) :=
    owned.perform use
  obtain ⟨after, consults⟩ := consults_session legible start.recalls uses
  refine ⟨consults.once, ?_, ?_, fun field => ?_, ?_, session_quiet start uses⟩
  · intro upshot member field remembered
    have known := learned_of_mem_session start.recalls member remembered
    exact known.resolve_left fun before => before rfl
  · refine forall_mem_session keeps (fun model use owned query asked => ?_) start uses
    exact ((consults_perform owned.recalls use).settled query asked).answer_eq legible
  · have once := List.nodup_iff_count_le_one.1 (consults.warned.nodup consults.once) field
    rwa [List.count_filterMap] at once
  · refine forall_mem_session keeps (fun model use owned notice told => ?_) start uses
    cases (consults_perform owned.recalls use).arises _ told with
    | read reads about => exact .inl ⟨_, reads, about⟩
    | told allowed _ =>
      rw [use_perform, ← owned.own]
      exact .inr (Use.errs_of_mayTell allowed)

end Model

/-- A window without other views. -/
def Scope.window : Scope where
  forest := { views := [{ name := "window" }] }
  index := []

namespace Directive

/-- A width that is no number, with a priority that is out of range. -/
def unmeasured : Directive :=
  ⟨"width", .verbose [(.text "constant", .text "wide"), (.text "priority", .text "2000")], .log⟩

/-- The priority of such a width is asked for, and then it is established twice: its constant is
warned of once. -/
theorem unmeasured_readOnce :
    let uses := [.ask .priority, .establish .window 0 none, .establish .window 0 none]
    let session := ({ directive := unmeasured } : Model).session uses
    unmeasured.Legible ∧ unmeasured.ReadOnce none session ∧
      (session.flatMap Upshot.steps).countP (fun step => step.subject? == some .constant) = 1 := by
  have texts : ∀ (numberField : NumberField) value,
      numberField.given? unmeasured.payload = some value → ∃ text, value = .text text := by
    intro numberField value found
    cases numberField with
    | constant => exact ⟨_, (Option.some.inj found).symm⟩
    | multiplier => cases found
    | priority => exact ⟨_, (Option.some.inj found).symm⟩
  have legible := Directive.Legible.of_texts texts
  exact ⟨legible, Model.session_readOnce legible none _, by decide +kernel⟩

end Directive

end ViewLayout
