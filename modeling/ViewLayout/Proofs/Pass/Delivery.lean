import Mathlib.Data.List.Nodup
import ViewLayout.Proofs.Pass.Tolerance

/-!
# Delivery of diagnostics

A pass tells all that it finds wrong to a sink of its own, which hands it on to the sink of the
settings. `inbox` is what comes in at a sink, as often as it does. `Outcome.HandsOn` says who gets
what is told: nothing is lost, doubled or reordered on the way, and nothing comes in at a sink that
it is not handed on to. The exception is a sink of the settings that counts as false. Nothing comes
in there, and all of it in the log. `Delivers` and `DeliversSource` say so of a pass and of a source
that is read first, and that what is told is what the layout has.
-/

namespace ViewLayout

namespace Sink

/-- All that receive what is told to a sink: the sink, and those that it hands it on to. -/
def recipients : Sink → List Sink
  | .collecting keeper forward => .collecting keeper forward :: forward.recipients
  | .collector number isTruthy => [.collector number isTruthy]
  | .log => [.log]

/-- Whether a sink is there before a compilation: none of it is what a compilation makes. -/
def isGiven : Sink → Bool
  | .collecting (.caller _ _) forward => forward.isGiven
  | .collecting .source _ => false
  | .collecting .pass _ => false
  | .collector _ _ => true
  | .log => true

variable {sink goal : Sink} {keeper : Keeper}

/-- The recipients of a sink are those that it reaches. -/
theorem mem_recipients_iff : goal ∈ sink.recipients ↔ sink.reaches goal = true := by
  induction sink with
  | collecting keeper forward inner =>
    rw [recipients, List.mem_cons, inner, reaches, Bool.or_eq_true, decide_eq_true_eq]
    exact or_congr_left eq_comm
  | collector number isTruthy =>
    exact List.mem_singleton.trans (eq_comm.trans decide_eq_true_iff.symm)
  | log => exact List.mem_singleton.trans (eq_comm.trans decide_eq_true_iff.symm)

/-- What a sink reaches is no larger than it. -/
theorem sizeOf_le_of_reaches (reached : sink.reaches goal = true) : sizeOf goal ≤ sizeOf sink := by
  induction sink with
  | collecting keeper forward inner =>
    rw [reaches, Bool.or_eq_true, decide_eq_true_eq] at reached
    rcases reached with rfl | later
    · exact Nat.le_refl _
    · have below := inner later
      simp only [collecting.sizeOf_spec]
      omega
  | collector number isTruthy =>
    exact Nat.le_of_eq (congrArg sizeOf (of_decide_eq_true reached).symm)
  | log => exact Nat.le_of_eq (congrArg sizeOf (of_decide_eq_true reached).symm)

/-- Nothing gets back to a collector from the sink that it hands on to. -/
theorem not_reaches_collecting (keeper : Keeper) (sink : Sink) :
    sink.reaches (.collecting keeper sink) = false := by
  refine Bool.eq_false_iff.2 fun reached => ?_
  have below := sizeOf_le_of_reaches reached
  simp only [collecting.sizeOf_spec] at below
  omega

/-- No sink receives the same twice. -/
theorem nodup_recipients (sink : Sink) : sink.recipients.Nodup := by
  induction sink with
  | collecting keeper forward inner =>
    refine List.nodup_cons.2 ⟨fun member => ?_, inner⟩
    rw [mem_recipients_iff, not_reaches_collecting] at member
    contradiction
  | collector number isTruthy => exact List.nodup_singleton _
  | log => exact List.nodup_singleton _

/-- What a sink reaches hands nothing back to it. -/
theorem not_reaches_of_reaches (reached : goal.reaches sink = true) (other : goal ≠ sink) :
    sink.reaches goal = false := by
  cases goal with
  | collecting keeper forward =>
    rw [reaches, Bool.or_eq_true, decide_eq_true_eq] at reached
    refine Bool.eq_false_iff.2 fun back => ?_
    have below := sizeOf_le_of_reaches (reached.resolve_left other)
    have above := sizeOf_le_of_reaches back
    simp only [collecting.sizeOf_spec] at above
    omega
  | collector number isTruthy => exact absurd (of_decide_eq_true reached) other
  | log => exact absurd (of_decide_eq_true reached) other

/-- A sink that counts as true is told itself, and one that counts as false is not. -/
theorem reaches_orLog (sink : Sink) : sink.orLog.reaches sink = sink.isTruthy := by
  unfold orLog
  split
  · next truthy => rw [reaches_self, truthy]
  · next falsy =>
    rw [Bool.eq_false_iff.2 falsy]
    refine decide_eq_false fun same => falsy ?_
    rw [← same]
    rfl

/-- A collector hands on what it gets. -/
theorem reaches_collecting (keeper : Keeper) (reached : sink.reaches goal = true) :
    (collecting keeper sink).reaches goal = true := by
  rw [reaches, reached, Bool.or_true]

/-- A collector reaches what it is not itself through the sink that it hands on to. -/
theorem reaches_collecting_of_ne (other : Sink.collecting keeper sink ≠ goal) :
    (Sink.collecting keeper sink).reaches goal = sink.reaches goal := by
  rw [reaches, decide_eq_false other, Bool.false_or]

/-- If only a sink that counts as true is told, a collector that counts as true changes nothing of
that. -/
theorem reaches_collecting_own (truthy : keeper.isTruthy = true)
    (reached : goal.reaches sink = sink.isTruthy) :
    (collecting keeper goal).reaches sink = sink.isTruthy := by
  cases counts : sink.isTruthy with
  | true => exact reaches_collecting keeper (reached.trans counts)
  | false =>
    rw [reaches_collecting_of_ne, reached, counts]
    rintro rfl
    exact Bool.noConfusion (counts.symm.trans truthy)

end Sink

namespace Settings

variable {other : Sink}

/-- The sink of a pass hands on to that of the settings exactly if that counts as true. -/
theorem reaches_passSink_own (settings : Settings) :
    settings.passSink.reaches settings.sink = settings.sink.isTruthy :=
  Sink.reaches_collecting_own rfl settings.sink.reaches_orLog

theorem reaches_sourceSink_own (settings : Settings) :
    settings.sourceSink.reaches settings.sink = settings.sink.isTruthy :=
  Sink.reaches_collecting_own rfl settings.sink.reaches_orLog

/-- Who is there before is told of a pass by the sink in use alone. -/
theorem reaches_passSink (settings : Settings) (given : other.isGiven = true) :
    settings.passSink.reaches other = settings.sink.orLog.reaches other :=
  Sink.reaches_collecting_of_ne fun same => by
    rw [← same] at given
    contradiction

/-- Who is there before is told of a source by the sink in use alone. -/
theorem reaches_sourceSink (settings : Settings) (given : other.isGiven = true) :
    settings.sourceSink.reaches other = settings.sink.orLog.reaches other :=
  Sink.reaches_collecting_of_ne fun same => by
    rw [← same] at given
    contradiction

/-- The sink of the pass over a source hands on as that of the source does. -/
theorem reaches_inSource_passSink (settings : Settings) (given : other.isGiven = true) :
    settings.inSource.passSink.reaches other = settings.sourceSink.reaches other :=
  settings.inSource.reaches_passSink given

end Settings

/-- What comes in at a sink of notices that are told one after the other: a diagnostic for each
time that one gets to it. -/
def inbox (goal : Sink) (notices : List Notice) : List Diagnostic :=
  notices.flatMap fun notice =>
    List.replicate (notice.sink.recipients.count goal) notice.diagnostic

/-- What a sink receives comes in once. -/
theorem inbox_eq_received (goal : Sink) (notices : List Notice) :
    inbox goal notices = received goal notices := by
  induction notices with
  | nil => rfl
  | cons notice rest inner =>
    rw [inbox, List.flatMap_cons, received, List.filterMap_cons]
    change _ ++ inbox goal rest = _
    rw [inner]
    by_cases reached : notice.sink.reaches goal = true
    · have once := List.count_eq_one_of_mem notice.sink.nodup_recipients
        (Sink.mem_recipients_iff.2 reached)
      rw [once, if_pos reached]
      rfl
    · have never := List.count_eq_zero_of_not_mem (mt Sink.mem_recipients_iff.1 reached)
      rw [never, if_neg reached]
      rfl

namespace Outcome

variable {ε : Type} {outcome : Outcome ε} {goal : Sink} {reaches : Bool}

/-- The diagnostics that are told on the way to an outcome, to whomever. -/
def told (outcome : Outcome ε) : List Diagnostic :=
  (noticesOf outcome.events).map Notice.diagnostic

/-- What comes in at a sink on the way to an outcome. -/
def inbox (outcome : Outcome ε) (goal : Sink) : List Diagnostic :=
  ViewLayout.inbox goal (noticesOf outcome.events)

/-- All or nothing comes in of notices that all get to a sink or all do not. -/
theorem inbox_eq_ite
    (reached : ∀ notice ∈ noticesOf outcome.events, notice.sink.reaches goal = reaches) :
    outcome.inbox goal = if reaches then outcome.told else [] := by
  rw [inbox, inbox_eq_received]
  cases reaches with
  | true => exact Pass.received_eq_map reached
  | false =>
    refine List.filterMap_eq_nil_iff.2 fun notice member => ?_
    rw [reached notice member, if_neg Bool.false_ne_true]

/-- What is all or nothing is all exactly if nothing is held back, or if there is nothing. -/
theorem inbox_eq_told_iff (received : outcome.inbox goal = if reaches then outcome.told else []) :
    outcome.inbox goal = outcome.told ↔ reaches = true ∨ outcome.told = [] := by
  rw [received]
  cases reaches with
  | true => exact iff_of_true rfl (.inl rfl)
  | false => exact eq_comm.trans (or_iff_right Bool.false_ne_true).symm

/-- What is told from reading on is what was reported while reading, and then the rest. -/
theorem told_ofReading (outcome : Outcome PassError) (sink : Sink) (reported : List Diagnostic) :
    (outcome.ofReading sink reported).told = reported ++ outcome.told := by
  rw [told, ofReading, Pass.noticesOf_append, Pass.noticesOf_reported, List.map_append,
    List.map_map]
  exact congrArg (· ++ _) (List.map_id _)

/-- How all that is told on the way to an outcome is handed on. -/
structure HandsOn (settings : Settings) (outcome : Outcome ε) : Prop where
  /-- The sink of the settings receives all of it, in that order and whatever comes of it, if it
  counts as true, and else nothing. -/
  received : outcome.inbox settings.sink = if settings.sink.isTruthy then outcome.told else []
  /-- So it receives just that exactly if it counts as true or there is nothing to receive. -/
  exactly : outcome.inbox settings.sink = outcome.told ↔
    settings.sink.isTruthy = true ∨ outcome.told = []
  /-- The log receives all of it in the place of a sink that counts as false. -/
  logged : settings.sink.isTruthy = false → outcome.inbox .log = outcome.told
  /-- Any sink that is there before, such as one that a document was read for, receives all of it
  if the sink in use is that one or hands on to it, and else nothing. -/
  others : ∀ other, other.isGiven = true →
    outcome.inbox other = if settings.sink.orLog.reaches other then outcome.told else []
  /-- So one that itself hands on to the sink in use receives nothing. -/
  forwarding : ∀ other, other.isGiven = true → other.reaches settings.sink.orLog = true →
    other ≠ settings.sink.orLog → outcome.inbox other = []

/-- What is told to sinks that hand on as the sink in use does is handed on. -/
theorem handsOn_of_reaches {settings : Settings}
    (own : ∀ notice ∈ noticesOf outcome.events,
      notice.sink.reaches settings.sink = settings.sink.isTruthy)
    (given : ∀ other, other.isGiven = true → ∀ notice ∈ noticesOf outcome.events,
      notice.sink.reaches other = settings.sink.orLog.reaches other) :
    HandsOn settings outcome where
  received := inbox_eq_ite own
  exactly := inbox_eq_told_iff (inbox_eq_ite own)
  logged := by
    intro falsy
    have reached := given .log rfl
    rw [Sink.orLog, falsy] at reached
    exact inbox_eq_ite reached
  others := fun other before => inbox_eq_ite (given other before)
  forwarding := by
    intro other before forwards apart
    have unreached := given other before
    rw [Sink.not_reaches_of_reaches forwards apart] at unreached
    exact inbox_eq_ite unreached

end Outcome

namespace Pass

variable {settings : Settings} {document : Document} {root : ViewId} {scene : Scene}

/-- A compilation tells nothing but to its sink, whether it returns or not. -/
theorem sink_eq_of_mem_compile (settings : Settings) (document : Document) (root : ViewId)
    (scene : Scene) :
    ∀ notice ∈ noticesOf (compile settings document root scene).events,
      notice.sink = settings.passSink := by
  intro notice member
  rcases mem_noticesOf_compile member with ⟨sunk, _⟩ | ⟨task, _, told⟩
  · exact sunk
  · exact sink_eq_of_mem_steps told

/-- How a pass delivers what it finds wrong. -/
structure Delivers (settings : Settings) (document : Document) (root : ViewId) (scene : Scene) :
    Prop where
  /-- All is told to the sink of the pass. -/
  told : ∀ notice ∈ noticesOf (compile settings document root scene).events,
    notice.sink = settings.passSink
  /-- That sink hands it on. -/
  handsOn : (compile settings document root scene).HandsOn settings
  /-- It is what the layout has. -/
  layout : ∀ layout, (compile settings document root scene).result = .ok layout →
    (compile settings document root scene).told = layout.diagnostics
  /-- Numbers are read only in the pass, and what is wrong with them is received as well. -/
  numbers : ∀ layout, (compile settings document root scene).result = .ok layout →
    ∀ target directive, Given document root scene target directive → directive.Showable →
      ∀ numberField warning,
        NumberField.field numberField ∈
            (scope settings document root scene).asked target directive →
          numberField.Unusable directive.payload warning →
            warning ∈ (compile settings document root scene).inbox settings.sink.orLog

/-- A compilation that returns tells the diagnostics of its layout. -/
theorem diagnostics_of_compile {layout : Layout}
    (returned : (compile settings document root scene).result = .ok layout) :
    (compile settings document root scene).told = layout.diagnostics := by
  rw [Outcome.told, eq_layoutOf_of_compile returned, compile_eq_ending (done_of_compile returned),
    ending, noticesOf_compiled, noticesOf_append, noticesOf_reported, noticesOf_told,
    List.map_append, List.map_map, layoutOf]
  exact congrArg (· ++ _) (List.map_id _)

theorem delivers (settings : Settings) (document : Document) (root : ViewId) (scene : Scene) :
    Delivers settings document root scene where
  told := sink_eq_of_mem_compile settings document root scene
  handsOn := by
    refine Outcome.handsOn_of_reaches ?_ fun other before => ?_
    · intro notice member
      rw [sink_eq_of_mem_compile _ _ _ _ notice member, settings.reaches_passSink_own]
    · intro notice member
      rw [sink_eq_of_mem_compile _ _ _ _ notice member, settings.reaches_passSink before]
  layout := fun _ returned => diagnostics_of_compile returned
  numbers := by
    intro layout returned target directive given showable numberField warning asked unusable
    have reached : ∀ notice ∈ noticesOf (compile settings document root scene).events,
        notice.sink.reaches settings.sink.orLog = true := by
      intro notice member
      rw [sink_eq_of_mem_compile _ _ _ _ notice member]
      exact Sink.reaches_collecting .pass settings.sink.orLog.reaches_self
    rw [Outcome.inbox_eq_ite reached, if_pos rfl, diagnostics_of_compile returned]
    exact (warned_of_unusable returned given showable asked unusable).1

end Pass

/-- How a source that is read and compiled delivers what is found wrong. -/
structure DeliversSource (settings : Settings) (source : Value) (root : ViewId) (scene : Scene) :
    Prop where
  /-- All that is told is handed on, while the source is read and in the pass. -/
  handsOn : (compileSource settings source root scene).HandsOn settings
  /-- It is what the layout has: the diagnostics of reading, those of the hierarchy, and those of
  each view's templates and directives. -/
  received : ∀ layout, (compileSource settings source root scene).result = .ok layout →
    (compileSource settings source root scene).told = layout.diagnostics ∧
      ∃ document, (settings.read source).value = .ok document ∧
        layout.diagnostics =
          (settings.read source).diagnostics ++
            ((Pass.hierarchy document root { scene with index := [] }).diagnostics ++
              (Pass.hierarchy document root { scene with index := [] }).built.flatMap fun entry =>
                (Template.expand document.templates [] entry.1.templates).diagnostics ++
                  ((Order.of entry).directives document.templates).flatMap
                    ((Pass.scope settings document root
                      { scene with index := [] }).diagnosticsOf entry.2))
  /-- Of a source that cannot be read, it is what was reported until then. -/
  unread : ∀ fault, (settings.read source).value = .error fault →
    (compileSource settings source root scene).result = .error (.document fault) ∧
      (compileSource settings source root scene).told = (settings.read source).diagnostics

/-- All that is told of a source is told to its own sink, or to that of the pass. -/
theorem sink_of_mem_compileSource (settings : Settings) (source : Value) (root : ViewId)
    (scene : Scene) :
    ∀ notice ∈ noticesOf (compileSource settings source root scene).events,
      notice.sink = settings.sourceSink ∨ notice.sink = settings.inSource.passSink := by
  have reading : ∀ diagnostics : List Diagnostic, ∀ notice ∈ noticesOf
      (diagnostics.map fun diagnostic => .reported ⟨settings.sourceSink, diagnostic⟩),
      notice.sink = settings.sourceSink := by
    intro diagnostics notice member
    rw [Pass.noticesOf_reported] at member
    obtain ⟨_, _, rfl⟩ := List.mem_map.1 member
    rfl
  intro notice member
  cases read : (settings.read source).value with
  | error fault =>
    rw [compileSource_of_unread read] at member
    exact .inl (reading _ notice member)
  | ok document =>
    rw [compileSource_of_read read, Outcome.ofReading, Pass.noticesOf_append] at member
    rcases List.mem_append.1 member with earlier | later
    · exact .inl (reading _ notice earlier)
    · exact .inr (Pass.sink_eq_of_mem_compile _ _ _ _ notice later)

theorem deliversSource (settings : Settings) (source : Value) (root : ViewId) (scene : Scene) :
    DeliversSource settings source root scene where
  handsOn := by
    refine Outcome.handsOn_of_reaches ?_ fun other before => ?_
    · intro notice member
      rcases sink_of_mem_compileSource settings source root scene notice member with own | inner
      · rw [own, settings.reaches_sourceSink_own]
      · rw [inner]
        exact Sink.reaches_collecting_own rfl settings.reaches_sourceSink_own
    · intro notice member
      rcases sink_of_mem_compileSource settings source root scene notice member with own | inner
      · rw [own, settings.reaches_sourceSink before]
      · rw [inner, settings.reaches_inSource_passSink before, settings.reaches_sourceSink before]
  received := by
    intro layout returned
    obtain ⟨document, inner, read, ended, _⟩ := pass_of_compileSource returned
    have same : (compileSource settings source root scene).told = layout.diagnostics := by
      rw [result_of_read read ended] at returned
      cases returned
      exact (Pass.received_eq_map fun notice member => by
        rcases sink_of_mem_compileSource settings source root scene notice member with own | inner
        · rw [own, Sink.reaches_self]
        · rw [inner]
          exact Sink.reaches_collecting .pass settings.sourceSink.reaches_self).symm
    refine ⟨same, document, read, ?_⟩
    rw [← same, compileSource_of_read read, Outcome.told_ofReading,
      Pass.diagnostics_of_compile ended, Pass.eq_layoutOf_of_compile ended, Pass.layoutOf,
      Pass.diagnostics_steps]
    -- the sink is no part of what directives are resolved in
    rfl
  unread := by
    intro fault unread
    rw [Outcome.told, compileSource_of_unread unread, Pass.noticesOf_reported, List.map_map]
    exact ⟨rfl, List.map_id _⟩

/-- **Every diagnostic is delivered once**: those of a source from reading on, and those of a pass
to nobody but its own sink and those that it hands on to. A sink of the settings that counts as
false is not among these. -/
theorem compile_delivers (settings : Settings) (source : Value) (document : Document)
    (root : ViewId) (scene : Scene) :
    DeliversSource settings source root scene ∧ Pass.Delivers settings document root scene :=
  ⟨deliversSource settings source root scene, Pass.delivers settings document root scene⟩

/-- A view whose width is no number. -/
def unmeasuredSource : Value :=
  .mapping
    [(.text "constraints",
      .mapping
        [(.null, .text "+8"), (.text "width", .mapping [(.text "constant", .text "wide")])])]

/-- What is read from that source for a sink. -/
def unmeasured (sink : Sink) : Document where
  root :=
    { name := "root"
      constraints := [⟨"width", .verbose [(.text "constant", .text "wide")], sink⟩] }

/-- A caller's collector that hands on to another one. -/
def relay : Sink := .collecting (.caller 1) (.collector 2)

/-- The sink that the source is read for is told of the key, and the sink that it is compiled for of
the width: also if the first one hands on to the second one. -/
theorem compile_delivers_unmeasured :
    (Document.read relay unmeasuredSource).value = .ok (unmeasured relay) ∧
      (Document.read relay unmeasuredSource).diagnostics = [.constraintKeyNotText .null] ∧
      (Pass.compile { sink := .collector 2 } (unmeasured relay) 0 Pass.oneView).inbox relay = [] ∧
      (Pass.compile { sink := .collector 2 } (unmeasured relay) 0 Pass.oneView).inbox
        (.collector 2) = [.invalidNumber "constant" (.text "wide")] := by
  have delivers := (compile_delivers { sink := .collector 2 } unmeasuredSource (unmeasured relay) 0
    Pass.oneView).2
  have done : Pass.Done { sink := .collector 2 } (unmeasured relay) 0 Pass.oneView := by
    refine Pass.done_of_leaf rfl rfl fun directive own => ?_
    rw [List.mem_singleton.1 own]
    decide
  have quiet : (Template.expand [] [] []).diagnostics = [] := by
    simp [Template.expand, Reported.clean]
  refine ⟨rfl, rfl, delivers.handsOn.forwarding _ rfl (by decide) (by decide), ?_⟩
  refine (delivers.handsOn.received.trans (if_pos rfl)).trans ?_
  rw [delivers.layout _ (congrArg Outcome.result (Pass.compile_eq_ending done)),
    Pass.layoutOf, Pass.diagnostics_steps, Pass.built_of_leaf rfl, List.flatMap_singleton,
    Pass.directives_of_templates_eq_nil rfl]
  exact congrArg (· ++ _) quiet

/-- A layout whose constraints are no mapping. -/
def listedSource : Value :=
  .mapping [(.text "constraints", .list [])]

/-- What is read from that source. -/
def unlisted : Document where
  root := { name := "root" }

/-- A sink that counts as false receives nothing, though the layout is returned with a
diagnostic. The log receives it. -/
theorem compileSource_unheard :
    let compiled := compileSource { sink := .collector 3 false } listedSource 0 Pass.oneView
    (∃ layout, compiled.result = .ok layout ∧
      layout.diagnostics = [.constraintsNotMapping "list"]) ∧
      compiled.inbox (.collector 3 false) = [] ∧
      compiled.inbox .log = [.constraintsNotMapping "list"] := by
  intro compiled
  have delivers := deliversSource { sink := .collector 3 false } listedSource 0 Pass.oneView
  have read : (Settings.read { sink := .collector 3 false } listedSource).value =
      .ok unlisted := rfl
  have done : Pass.Done (Settings.inSource { sink := .collector 3 false }) unlisted 0
      { Pass.oneView with index := [] } :=
    Pass.done_of_leaf rfl rfl fun _ own => absurd own List.not_mem_nil
  have returned := result_of_read read (congrArg Outcome.result (Pass.compile_eq_ending done))
  obtain ⟨same, document, again, parts⟩ := delivers.received _ returned
  obtain rfl := Except.ok.inj (read.symm.trans again)
  have quiet : (Template.expand [] [] []).diagnostics = [] := by
    simp [Template.expand, Reported.clean]
  rw [Pass.built_of_leaf rfl, List.flatMap_singleton,
    Pass.directives_of_templates_eq_nil rfl] at parts
  have told := parts.trans (congrArg ([.constraintsNotMapping "list"] ++ · ++ []) quiet)
  exact ⟨⟨_, returned, told⟩, delivers.handsOn.received,
    (delivers.handsOn.logged rfl).trans (same.trans told)⟩

end ViewLayout
