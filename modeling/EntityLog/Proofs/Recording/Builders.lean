import EntityLog.Proofs.Recording.Failures

namespace EntityLog

namespace FieldStep

def field : FieldStep → ComponentIdentifier
  | value field _ | typedValue field _ _ | attempt field _ | data field _ => field

def componentType : FieldStep → Option ComponentType
  | typedValue _ type _ => some type
  | value _ _ | attempt _ _ | data _ _ => none

def content : FieldStep → Value
  | value _ v | typedValue _ _ v | attempt _ v => v
  | data _ array => .array array

def defers : FieldStep → Bool
  | value _ _ | typedValue _ _ _ => true
  | attempt _ _ | data _ _ => false

end FieldStep

/-- A step, and the state of the types that it is taken in: others may pin types between two steps. -/
structure FieldCall where
  step : FieldStep
  types : TypingState

namespace DynamicFields

def after (f : DynamicFields) (c : FieldCall) : Except (Failure DynamicError) DynamicFields :=
  (Typing.exec (f.step c.step) c.types).1

def take (f : DynamicFields) (calls : List FieldCall) : Except (Failure DynamicError) DynamicFields :=
  calls.foldlM after f

def outcome (f : DynamicFields) (c : FieldCall) :
    Except (Failure DynamicError) (Option ComponentBatch) :=
  (Typing.exec (DynamicBatch.ofValue (f.descriptor c.step.field c.step.componentType) c.step.content
    f.dropsUntyped) c.types).1.map DynamicBatch.batch

def batch? (f : DynamicFields) (c : FieldCall) : Option ComponentBatch :=
  match f.outcome c with
  | .ok b => b
  | .error _ => none

def error? (f : DynamicFields) (c : FieldCall) : Option DynamicError :=
  match f.outcome c with
  | .error (.error cause) => some cause
  | _ => none

/-- Only a failure that is kept for later goes through. -/
def GoesThrough (f : DynamicFields) (c : FieldCall) : Prop :=
  ∀ failure, f.outcome c = .error failure → c.step.defers ∧ ∃ cause, failure = .error cause

variable {f g : DynamicFields} {c : FieldCall}

theorem outcome_eq (f : DynamicFields) (c : FieldCall) :
    f.outcome c = (Typing.exec (typedArray (f.descriptor c.step.field c.step.componentType)
      c.step.content f.dropsUntyped) c.types).1.map fun array =>
        (DynamicBatch.mk (f.descriptor c.step.field c.step.componentType) array).batch := by
  simp only [outcome, DynamicBatch.ofValue, Typing.exec_bind]
  rcases Typing.exec _ c.types with ⟨result, after⟩
  cases result <;> rfl

theorem after_eq (f : DynamicFields) (c : FieldCall) :
    f.after c =
      match f.outcome c with
      | .ok b => .ok (b.elim f f.put)
      | .error (.error cause) =>
        if c.step.defers then .ok { f with errors := f.errors ++ [cause] }
        else .error (.error cause)
      | .error (.fault fault) => .error (.fault fault) := by
  obtain ⟨step, s⟩ := c
  rw [outcome_eq, after]
  cases step with
  | value field v | typedValue field type v =>
    simp only [step, add, Typing.exec_tryCatch, exec_attempt, FieldStep.field, FieldStep.content,
      FieldStep.componentType]
    rcases Typing.exec (typedArray _ v f.dropsUntyped) s with ⟨result, after⟩
    cases result with
    | ok array => rfl
    | error failure => cases failure <;> rfl
  | attempt field v =>
    simp only [step, exec_attempt, FieldStep.field, FieldStep.content, FieldStep.componentType]
    rcases Typing.exec (typedArray _ v f.dropsUntyped) s with ⟨result, after⟩
    cases result with
    | ok array => rfl
    | error failure => cases failure <;> rfl
  | data field array => rfl

theorem descriptor_of_batch? {b : ComponentBatch} (h : f.batch? c = some b) :
    b.descriptor = f.descriptor c.step.field c.step.componentType := by
  rw [batch?, outcome_eq] at h
  generalize (Typing.exec (typedArray (f.descriptor c.step.field c.step.componentType)
    c.step.content f.dropsUntyped) c.types).1 = result at h
  cases result with
  | ok array =>
    cases array with
    | none => cases h
    | some array => cases h; rfl
  | error failure => cases h

theorem error?_eq_none (through : f.GoesThrough c) (strict : ¬c.step.defers) :
    f.error? c = none := by
  rw [error?]
  split
  case h_1 cause failed => exact absurd (through _ failed).1 strict
  case h_2 => rfl

def next (f : DynamicFields) (c : FieldCall) : DynamicFields where
  archetype := f.archetype
  dropsUntyped := f.dropsUntyped
  batches := (f.batch? c).elim f.batches fun b => f.batches.put b.component b
  errors := f.errors ++ (f.error? c).toList

theorem after_eq_ok : f.after c = .ok g ↔ f.GoesThrough c ∧ f.next c = g := by
  rw [after_eq, GoesThrough, next, batch?, error?]
  cases f.outcome c with
  | ok b => cases b <;> simp [put, ComponentBatch.component]
  | error failure =>
    cases failure with
    | error cause => cases c.step.defers <;> simp
    | fault fault => simp

def nextAll (f : DynamicFields) (calls : List FieldCall) : DynamicFields where
  archetype := f.archetype
  dropsUntyped := f.dropsUntyped
  batches := (calls.filterMap f.batch?).foldl (fun batches b => batches.put b.component b) f.batches
  errors := f.errors ++ calls.filterMap f.error?

theorem nextAll_cons (f : DynamicFields) (c : FieldCall) (calls : List FieldCall) :
    f.nextAll (c :: calls) = (f.next c).nextAll calls := by
  have batches : (f.next c).batch? = f.batch? := rfl
  have errors : (f.next c).error? = f.error? := rfl
  rw [nextAll, nextAll, batches, errors]
  cases batch : f.batch? c <;> cases error : f.error? c <;> simp [next, batch, error]

theorem take_cons {calls : List FieldCall} :
    f.take (c :: calls) = .ok g ↔ f.GoesThrough c ∧ (f.next c).take calls = .ok g := by
  rw [take, List.foldlM_cons, bind_eq_ok]
  simp only [after_eq_ok, and_assoc, exists_and_left, exists_eq_left']
  rfl

theorem take_eq_ok {calls : List FieldCall} :
    f.take calls = .ok g ↔ (∀ c ∈ calls, f.GoesThrough c) ∧ f.nextAll calls = g := by
  induction calls generalizing f with
  | nil =>
    have none : f.nextAll [] = f := by simp [nextAll]
    rw [take, List.foldlM_nil, pure_eq_ok, none]
    exact (and_iff_right nofun).symm
  | cons c calls ih =>
    have same : (f.next c).GoesThrough = f.GoesThrough := rfl
    rw [take_cons, ih, List.forall_mem_cons, and_assoc, nextAll_cons, same]

def left (f : DynamicFields) (c : FieldCall) : TypingState :=
  (Typing.exec (f.step c.step) c.types).2

/-- Steps in turn, the first one in a state of the types, each other one in what the step before it
left; and what the last one leaves. -/
def turns (f : DynamicFields) (s : TypingState) : List FieldStep → List FieldCall × TypingState
  | [] => ([], s)
  | step :: steps =>
    let rest := (f.next ⟨step, s⟩).turns (f.left ⟨step, s⟩) steps
    (⟨step, s⟩ :: rest.1, rest.2)

theorem map_step_turns (f : DynamicFields) (s : TypingState) (steps : List FieldStep) :
    (f.turns s steps).1.map FieldCall.step = steps := by
  induction steps generalizing f s with
  | nil => rfl
  | cons step steps ih => exact congrArg (step :: ·) (ih ..)

theorem build_cons {step : FieldStep} {steps : List FieldStep} {s after : TypingState} :
    Typing.exec (f.build (step :: steps)) s = (.ok g, after) ↔
      f.GoesThrough ⟨step, s⟩ ∧
        Typing.exec ((f.next ⟨step, s⟩).build steps) (f.left ⟨step, s⟩) = (.ok g, after) := by
  have goes : f.after ⟨step, s⟩ = .ok (f.next ⟨step, s⟩) ↔ f.GoesThrough ⟨step, s⟩ := by
    rw [after_eq_ok, and_iff_left rfl]
  rw [build, List.foldlM_cons, Typing.exec_bind, ← goes]
  rcases ran : Typing.exec (f.step step) s with ⟨result, between⟩
  have result_eq : f.after ⟨step, s⟩ = result := congrArg Prod.fst ran
  have left_eq : f.left ⟨step, s⟩ = between := congrArg Prod.snd ran
  rw [result_eq, left_eq]
  cases result with
  | error failure => exact iff_of_false (fun done => nomatch done) fun done => nomatch done.1
  | ok next =>
    obtain rfl := (after_eq_ok.1 result_eq).2
    exact (and_iff_right rfl).symm

theorem build_eq_ok {steps : List FieldStep} {s after : TypingState} :
    Typing.exec (f.build steps) s = (.ok g, after) ↔
      f.take (f.turns s steps).1 = .ok g ∧ (f.turns s steps).2 = after := by
  induction steps generalizing f s with
  | nil =>
    rw [build, List.foldlM_nil, Typing.exec_pure, Prod.mk.injEq]
    rfl
  | cons step steps ih => rw [build_cons, ih, turns, take_cons, and_assoc]

end DynamicFields

namespace ComponentBatch

def lastOf (batches : List ComponentBatch) (k : ComponentIdentifier) : Option ComponentBatch :=
  (batches.filter (·.component = k)).getLast?

theorem lastOf_cases {batches : List ComponentBatch} {k : ComponentIdentifier}
    (known : k ∈ batches.map component) :
    ∃ b ∈ batches, lastOf batches k = some b ∧ b.component = k := by
  obtain ⟨first, member, same⟩ := List.mem_map.1 known
  have own : first ∈ batches.filter (·.component = k) :=
    List.mem_filter.2 ⟨member, decide_eq_true same⟩
  have some := List.ne_nil_of_mem own
  obtain ⟨inside, is⟩ := List.mem_filter.1 (List.getLast_mem some)
  exact ⟨_, inside, List.getLast?_eq_some_getLast some, of_decide_eq_true is⟩

end ComponentBatch

namespace DynamicFields

open ComponentBatch

variable {f g : DynamicFields} {c : FieldCall}

theorem keys_nextAll (empty : f.batches = []) (calls : List FieldCall) :
    (f.nextAll calls).batches.keys = ((calls.filterMap f.batch?).map component).eraseDups := by
  rw [nextAll, empty]
  exact Entries.keys_foldl_put component _

theorem map_some_batches (empty : f.batches = []) (calls : List FieldCall) :
    (f.nextAll calls).batches.values.map some =
      ((calls.filterMap f.batch?).map component).eraseDups.map (lastOf (calls.filterMap f.batch?)) := by
  have keys := keys_nextAll empty calls
  have distinct : (f.nextAll calls).batches.keys.Nodup := keys ▸ nodup_eraseDups _
  rw [Entries.map_some_values distinct, keys, nextAll, empty]
  exact List.map_congr_left fun k _ => Entries.get?_foldl_put component k _

theorem mem_of_mem_batches (empty : f.batches = []) {calls : List FieldCall} {b : ComponentBatch}
    (member : b ∈ (f.nextAll calls).batches.values) : b ∈ calls.filterMap f.batch? := by
  have found : some b ∈ (f.nextAll calls).batches.values.map some := List.mem_map_of_mem member
  rw [map_some_batches empty] at found
  obtain ⟨k, known, is⟩ := List.mem_map.1 found
  obtain ⟨last, inside, same, _⟩ := lastOf_cases (List.mem_eraseDups.1 known)
  cases same.symm.trans is
  exact inside

theorem map_component_batches (empty : f.batches = []) (calls : List FieldCall) :
    (f.nextAll calls).batches.values.map component =
      ((calls.filterMap f.batch?).map component).eraseDups := by
  apply List.map_injective_iff.2 (Option.some_injective _)
  calc ((f.nextAll calls).batches.values.map component).map some
      = ((f.nextAll calls).batches.values.map some).map (Option.map component) := by
        rw [List.map_map, List.map_map]
        rfl
    _ = ((calls.filterMap f.batch?).map component).eraseDups.map
          fun k => (lastOf (calls.filterMap f.batch?) k).map component := by
        rw [map_some_batches empty, List.map_map]
        rfl
    _ = ((calls.filterMap f.batch?).map component).eraseDups.map some := by
        refine List.map_congr_left fun k known => ?_
        obtain ⟨b, _, last, same⟩ := lastOf_cases (List.mem_eraseDups.1 known)
        rw [last, Option.map_some, same]

def failureTexts (f : DynamicFields) : List String :=
  f.errors.map fun cause => (RecordingError.serialization (.conversion cause.message)).message

theorem exec_logFields (distinct : (f.batches.values.map component).Nodup) {r : Recorder}
    {options : LogOptions} (clean : r.policy options.strict = true → f.errors = [])
    (path : EntityPath) (t : Trail) :
    (Call.logBundle path (.fields f) options).exec r t = (.ok (), {
      tick := t.tick + f.failureTexts.length + if options.isStatic then 0 else 1
      sent := t.sent ++ r.warnings t.tick f.failureTexts ++
        Call.rowMessages path options (options.time r (t.tick + f.failureTexts.length))
          f.batches.values
      notes := t.notes ++ f.failureTexts.map (⟨.warn, ·⟩) }) := by
  have repeats : laterOccurrences f.batches.values = [] := laterOccurrences_eq_nil distinct
  have quiet : r.policy options.strict = true → (Bundle.fields f).errors = [] := by
    intro strict
    rw [Bundle.errors, clean strict, List.map_nil]
  have texts : Call.warningTexts path [.bundle (.fields f)] = f.failureTexts := by
    simp [Call.warningTexts, RowPart.errors, RowPart.batches, Bundle.errors, Bundle.batches, repeats,
      failureTexts]
  rw [Call.exec_logBundle quiet, Call.rowTrail, texts]
  simp [RowPart.batches, Bundle.batches, Bundle.errors, Bundle.notes, repeats, failureTexts]

/-- Logged by themselves, the fields are warned of for each value that they left out, or refused for
one under the strict policy. There is no other warning, and all batches are sent. -/
structure LogsQuietly (f : DynamicFields) (r : Recorder) (types : Option TypeRegistry)
    (path : EntityPath) (options : LogOptions) : Prop where
  refused : r.policy options.strict = true → f.errors ≠ [] → ∃ cause,
    (Stream.mk (some r) types).run (Call.logBundle path (.fields f) options) =
      (.error (.serialization cause), ⟨some r, types⟩, [])
  sent : (r.policy options.strict = true → f.errors = []) → ∃ after,
    (Stream.mk (some r) types).run (Call.logBundle path (.fields f) options) =
      (.ok (), ⟨some after, types⟩, f.failureTexts.map (⟨.warn, ·⟩)) ∧
    after.sink.held = r.sink.held ++ r.warnings r.tick f.failureTexts ++
      Call.rowMessages path options (options.time r (r.tick + f.failureTexts.length))
        (Bundle.fields f).batches

theorem logsQuietly (distinct : (f.batches.values.map component).Nodup) (r : Recorder)
    (types : Option TypeRegistry) (path : EntityPath) (options : LogOptions) :
    f.LogsQuietly r types path options where
  refused := by
    intro strict failed
    obtain ⟨first, rest, errors⟩ := List.exists_cons_of_ne_nil failed
    have told : (Bundle.fields f).errors =
        .conversion first.message :: rest.map fun cause => .conversion cause.message := by
      rw [Bundle.errors, errors, List.map_cons]
    have stopped := Call.exec_logBundle_error strict told path { tick := r.tick }
    exact ⟨.conversion first.message, Stream.run_eq_of_unchanged stopped⟩
  sent := by
    intro clean
    have done := exec_logFields distinct clean path { tick := r.tick }
    refine ⟨_, @Stream.run_eq ⟨some r, types⟩ r rfl _ _ _ done, ?_⟩
    exact (List.append_assoc _ _ _).symm

/-- To build fields is to take their steps in turn, from none at all, as long as every step goes
through. Whatever the types at each step, the batches are told by what the steps gave: of each
component the last batch, in the order of the first ones, under the archetype of the fields and the
component type of its step. A step that gives none leaves them as they are. Failures are kept in
their order, and nothing else is warned of when the fields are logged by themselves. -/
theorem last_batches_stay (archetype : Option ArchetypeName) (dropsUntyped : Bool) :
    let empty : DynamicFields := { archetype, dropsUntyped }
    (∀ steps s, (empty.turns s steps).1.map FieldCall.step = steps ∧
      ∀ f after, Typing.exec (empty.build steps) s = (.ok f, after) ↔
        empty.take (empty.turns s steps).1 = .ok f ∧ (empty.turns s steps).2 = after) ∧
    ∀ calls : List FieldCall,
      ((∃ f, empty.take calls = .ok f) ↔ ∀ c ∈ calls, empty.GoesThrough c) ∧
      ∀ f, empty.take calls = .ok f →
        let produced := calls.filterMap empty.batch?
        (Bundle.fields f).batches.map some =
          (produced.map component).eraseDups.map (lastOf produced) ∧
        (∀ b ∈ (Bundle.fields f).batches, ∃ c ∈ calls, empty.batch? c = some b ∧ b.descriptor =
          { archetype, component := c.step.field, componentType := c.step.componentType }) ∧
        (∀ c g, empty.batch? c = none → f.after c = .ok g →
          (Bundle.fields g).batches = (Bundle.fields f).batches) ∧
        f.errors = (calls.filter (·.step.defers)).filterMap empty.error? ∧
        ∀ r types path options, f.LogsQuietly r types path options := by
  intro empty
  refine ⟨fun steps s => ⟨map_step_turns empty s steps, fun _ _ => build_eq_ok⟩,
    fun calls => ⟨?taken, fun f taken => ?_⟩⟩
  case taken =>
    simp only [take_eq_ok, exists_and_left, exists_eq', and_true]
  obtain ⟨each, rfl⟩ := take_eq_ok.1 taken
  refine ⟨map_some_batches rfl calls, ?origin, ?kept, ?errors, logsQuietly ?distinct⟩
  case origin =>
    intro b member
    obtain ⟨c, inside, given⟩ := List.mem_filterMap.1 (mem_of_mem_batches rfl member)
    exact ⟨c, inside, given, descriptor_of_batch? given⟩
  case kept =>
    intro c g none done
    obtain ⟨_, rfl⟩ := after_eq_ok.1 done
    have same : (empty.nextAll calls).batch? c = empty.batch? c := rfl
    rw [Bundle.batches, Bundle.batches, next, same, none, Option.elim_none]
  case errors =>
    rw [nextAll, List.nil_append, List.filterMap_filter]
    refine List.filterMap_congr fun c member => ?_
    split
    case isTrue => rfl
    case isFalse strict => exact error?_eq_none (each c member) strict
  case distinct =>
    rw [map_component_batches rfl]
    exact nodup_eraseDups _

theorem last_batches_stay_override :
    let one : TypedArray := .flat (.integers .int64 [some 1])
    let two : TypedArray := .flat (.integers .uint64 [some 2])
    let steps : List FieldStep := [.value "size" (.int 1), .data "mass" one,
      .typedValue "size" "Meters" (.uint 2), .value "size" (.text "wide"), .value "color" .null]
    ∃ f after, Typing.exec (build {} steps) { registry := .empty } = (.ok f, after) ∧
      (Bundle.fields f).batches.map some =
        [some { array := two, descriptor := { component := "size", componentType := some "Meters" } },
          some { array := one, descriptor := { component := "mass" } }] := by
  intro one two steps
  let turns := turns {} { registry := .empty } steps
  obtain ⟨built, told⟩ := last_batches_stay none true
  obtain ⟨f, taken⟩ : ∃ f, take {} turns.1 = .ok f := ⟨_, by with_unfolding_all rfl⟩
  obtain ⟨batches, -⟩ := (told turns.1).2 f taken
  exact ⟨f, turns.2, ((built steps _).2 f turns.2).2 ⟨taken, rfl⟩,
    batches.trans (by with_unfolding_all rfl)⟩

end DynamicFields

end EntityLog
