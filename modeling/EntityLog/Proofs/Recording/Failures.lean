import EntityLog.Proofs.Dynamic.Pins
import EntityLog.Proofs.Recording.Policies

namespace EntityLog

theorem Typing.exec_tryCatch {α : Type} (steps : Typing α)
    (handler : Failure DynamicError → Typing α) (s : TypingState) :
    exec (tryCatch steps handler) s =
      match exec steps s with
      | (.ok a, s) => (.ok a, s)
      | (.error failure, s) => exec (handler failure) s := by
  rcases done : exec steps s with ⟨result, after⟩
  cases result with
  | ok a => exact run_run_tryCatch_ok done handler
  | error failure => exact run_run_tryCatch_error done handler

namespace DynamicFields

def refusal? (f : DynamicFields) (d : ComponentDescriptor) (value : Value) (s : TypingState) :
    Option DynamicError :=
  match (Typing.exec (typedArray d value f.dropsUntyped) s).1 with
  | .error (.error cause) => some cause
  | _ => none

def stepRefusal? (f : DynamicFields) (s : TypingState) : FieldStep → Option DynamicError
  | .value field value | .attempt field value => f.refusal? (f.descriptor field none) value s
  | .typedValue field type value => f.refusal? (f.descriptor field (some type)) value s
  | .data _ _ => none

variable {f g : DynamicFields} {d : ComponentDescriptor} {value : Value} {s after : TypingState}

theorem exec_attempt (f : DynamicFields) (d : ComponentDescriptor) (value : Value)
    (s : TypingState) :
    Typing.exec (f.attempt d value) s =
      match Typing.exec (typedArray d value f.dropsUntyped) s with
      | (.ok array, s) => (.ok ((DynamicBatch.mk d array).batch.elim f f.put), s)
      | (.error failure, s) => (.error failure, s) := by
  simp only [attempt, DynamicBatch.ofValue, Typing.exec_bind]
  rcases Typing.exec (typedArray d value f.dropsUntyped) s with ⟨result, after⟩
  cases result with
  | ok array => rfl
  | error failure => rfl

theorem errors_elim (f : DynamicFields) (b : Option ComponentBatch) :
    (b.elim f f.put).errors = f.errors := by
  cases b with
  | none => rfl
  | some b => rfl

theorem errors_attempt (done : Typing.exec (f.attempt d value) s = (.ok g, after)) :
    g.errors = f.errors ++ (f.refusal? d value s).toList := by
  rcases typed : Typing.exec (typedArray d value f.dropsUntyped) s with ⟨result, between⟩
  rw [exec_attempt, typed] at done
  rw [refusal?, typed]
  cases result with
  | ok array =>
    cases done
    exact (errors_elim f _).trans (List.append_nil _).symm
  | error failure => cases done

theorem errors_add (done : Typing.exec (f.add d value) s = (.ok g, after)) :
    g.errors = f.errors ++ (f.refusal? d value s).toList := by
  rcases typed : Typing.exec (typedArray d value f.dropsUntyped) s with ⟨result, between⟩
  rw [add, Typing.exec_tryCatch, exec_attempt, typed] at done
  rw [refusal?, typed]
  cases result with
  | ok array =>
    cases done
    exact (errors_elim f _).trans (List.append_nil _).symm
  | error failure =>
    cases failure with
    | fault fault => cases done
    | error cause => cases done; rfl

theorem errors_step {field : FieldStep} (done : Typing.exec (f.step field) s = (.ok g, after)) :
    g.errors = f.errors ++ (f.stepRefusal? s field).toList := by
  cases field with
  | value field value => exact errors_add done
  | typedValue field type value => exact errors_add done
  | attempt field value => exact errors_attempt done
  | data field array =>
    cases done
    exact (List.append_nil _).symm

inductive Made : DynamicFields → List DynamicError → Prop
  | empty (archetype : Option ArchetypeName) (dropsUntyped : Bool) : Made { archetype, dropsUntyped } []
  | step {f g : DynamicFields} {causes : List DynamicError} {field : FieldStep}
      {s after : TypingState} : Made f causes → Typing.exec (f.step field) s = (.ok g, after) →
      Made g (causes ++ (f.stepRefusal? s field).toList)

theorem Made.errors {causes : List DynamicError} (made : f.Made causes) : f.errors = causes := by
  induction made with
  | empty _ _ => rfl
  | step _ done ih => rw [errors_step done, ih]

end DynamicFields

def ComponentSource.failure? (s : ComponentSource) : Option SerializationError :=
  match s.serialize with
  | .ok _ => none
  | .error cause => some cause

namespace Bundle

mutual

def sources : Bundle → List ComponentSource
  | source s => [s]
  | all items => allSources items
  | _ => []

def allSources : List Bundle → List ComponentSource
  | [] => []
  | b :: bs => b.sources ++ allSources bs

end

/-- A bundle made in one of the ways there are, with the failures of the fields that it leaves out. -/
inductive Made : Bundle → List SerializationError → Prop
  | batch (b : ComponentBatch) : Made (.batch b) []
  | source (s : ComponentSource) : Made (.source s) s.failure?.toList
  | dynamic {d : ComponentDescriptor} {value : Value} {dropsUntyped : Bool} {b : DynamicBatch}
      {s after : TypingState} :
      Typing.exec (DynamicBatch.ofValue d value dropsUntyped) s = (.ok b, after) → Made (.dynamic b) []
  | fields {f : DynamicFields} {causes : List DynamicError} : f.Made causes →
      Made (.fields f) (causes.map fun cause => .conversion cause.message)
  | text (t : TextLog) : Made t.bundle []
  | nil : Made (.all []) []
  | cons {b : Bundle} {bs : List Bundle} {failures later : List SerializationError} :
      Made b failures → Made (.all bs) later → Made (.all (b :: bs)) (failures ++ later)

variable {b : Bundle} {failures : List SerializationError}

theorem Made.sublist (made : b.Made failures) : b.errors.Sublist failures := by
  induction made with
  | batch _ => exact List.Sublist.refl _
  | source s => exact List.nil_sublist _
  | dynamic _ => exact List.Sublist.refl _
  | fields made => rw [Bundle.errors, made.errors]
  | text _ => exact List.Sublist.refl _
  | nil => exact List.Sublist.refl _
  | cons _ _ first later => exact first.append later

theorem Made.errors_eq_iff (made : b.Made failures) :
    b.errors = failures ↔ ∀ s ∈ b.sources, s.failure? = none := by
  induction made with
  | batch _ => simp [Bundle.errors, sources]
  | source s =>
    rw [Bundle.errors, sources, List.forall_mem_singleton, eq_comm]
    exact Option.toList_eq_nil_iff
  | dynamic _ => simp [Bundle.errors, sources]
  | fields made => simp [Bundle.errors, sources, made.errors]
  | text t => simp [TextLog.bundle, Bundle.errors, sources]
  | nil => simp [Bundle.errors, allErrors, sources, allSources]
  | @cons b bs failures later first rest ih ih' =>
    have whole : b.errors ++ (all bs).errors = failures ++ later ↔
        b.errors = failures ∧ (all bs).errors = later := by
      constructor
      · intro same
        -- Neither part tells of more than what failed in it, and so they are equal part by part.
        have lengths := congrArg List.length same
        rw [List.length_append, List.length_append] at lengths
        have told := first.sublist.length_le
        have told' := rest.sublist.length_le
        exact List.append_inj same (by omega)
      · rintro ⟨rfl, rfl⟩
        rfl
    have errors : (all (b :: bs)).errors = b.errors ++ (all bs).errors := rfl
    have sources : (all (b :: bs)).sources = b.sources ++ (all bs).sources := rfl
    rw [errors, sources, List.forall_mem_append, whole, ih, ih']

inductive LoggedBy (b : Bundle) (options : LogOptions) : Call Unit → Prop
  | alone (path : EntityPath) : LoggedBy b options (Call.logBundle path b options)
  | part (path : EntityPath) {parts : List RowPart} : .bundle b ∈ parts →
      LoggedBy b options (Call.logParts path parts options)

namespace LoggedBy

variable {r : Recorder} {options : LogOptions} {call : Call Unit}

theorem errors_flatMap {parts : List RowPart} (member : .bundle b ∈ parts)
    {cause : SerializationError} (told : cause ∈ b.errors) : cause ∈ parts.flatMap RowPart.errors :=
  List.mem_flatMap.2 ⟨.bundle b, member, told⟩

theorem exec_strict (logs : LoggedBy b options call) (policy : r.policy options.strict = true)
    (told : b.errors ≠ []) (t : Trail) :
    ∃ cause notes, call.exec r t = (.error (.serialization cause), { t with notes }) := by
  cases logs with
  | alone path =>
    obtain ⟨first, rest, errors⟩ := List.exists_cons_of_ne_nil told
    exact ⟨first, t.notes, Call.exec_logBundle_error policy errors path t⟩
  | @part path parts member =>
    obtain ⟨first, inside⟩ := List.exists_mem_of_ne_nil _ told
    have all := List.ne_nil_of_mem (errors_flatMap member inside)
    obtain ⟨first, rest, errors⟩ := List.exists_cons_of_ne_nil all
    exact ⟨first, _, Call.exec_logParts_error policy errors path t⟩

theorem exec_lenient (logs : LoggedBy b options call) (policy : r.policy options.strict = false)
    (t : Trail) :
    ∃ after rows, call.exec r t = (.ok (), after) ∧ after.sent = t.sent ++ rows ∧
      ∀ cause ∈ b.errors, ∃ tick,
        r.warning tick (RecordingError.serialization cause).message ∈ rows := by
  have lenient {errors : List SerializationError} : r.policy options.strict = true → errors = [] := by
    rw [policy]
    exact fun strict => absurd strict (by decide)
  have warned {path : EntityPath} {parts : List RowPart} (member : .bundle b ∈ parts)
      {cause : SerializationError} (told : cause ∈ b.errors) :
      (RecordingError.serialization cause).message ∈ Call.warningTexts path parts :=
    List.mem_append_left _ (List.mem_map_of_mem (errors_flatMap member told))
  cases logs with
  | alone path =>
    refine ⟨_, _, Call.exec_logBundle lenient path t, List.append_assoc _ _ _, ?_⟩
    intro cause told
    obtain ⟨tick, row⟩ := Recorder.mem_warnings (warned List.mem_cons_self told) t.tick
    exact ⟨tick, List.mem_append_left _ row⟩
  | @part path parts member =>
    refine ⟨_, _, Call.exec_logParts lenient path t, List.append_assoc _ _ _, ?_⟩
    intro cause told
    obtain ⟨tick, row⟩ := Recorder.mem_warnings (warned member told) t.tick
    exact ⟨tick, List.mem_append_left _ row⟩

end LoggedBy

/-- A bundle tells of every field that failed exactly if no field that brings its own data did. Then
a failure ends a strict call that logs the bundle before anything is sent, and each is warned of by a
lenient one. -/
theorem errors_of_made (made : b.Made failures) :
    (b.errors = failures ↔ ∀ s ∈ b.sources, s.failure? = none) ∧
    ((∀ s ∈ b.sources, s.failure? = none) → failures ≠ [] →
      ∀ (r : Recorder) (types : Option TypeRegistry) (options : LogOptions) (call : Call Unit),
        b.LoggedBy options call →
        (r.policy options.strict = true → ∃ cause notes,
          (Stream.mk (some r) types).run call =
            (.error (.serialization cause), ⟨some r, types⟩, notes)) ∧
        (r.policy options.strict = false → ∃ after rows notes,
          (Stream.mk (some r) types).run call = (.ok (), ⟨some after, types⟩, notes) ∧
          after.sink.held = r.sink.held ++ rows ∧
          ∀ cause ∈ failures, ∃ tick,
            r.warning tick (RecordingError.serialization cause).message ∈ rows)) := by
  refine ⟨made.errors_eq_iff, fun sound failed r types options call logs => ⟨?strict, ?lenient⟩⟩
  case strict =>
    intro policy
    have told : b.errors ≠ [] := by rwa [made.errors_eq_iff.2 sound]
    obtain ⟨cause, notes, stopped⟩ := logs.exec_strict policy told { tick := r.tick }
    exact ⟨cause, notes, Stream.run_eq_of_unchanged stopped⟩
  case lenient =>
    intro policy
    obtain ⟨t, rows, done, sent, warned⟩ := logs.exec_lenient policy { tick := r.tick }
    refine ⟨_, rows, _, @Stream.run_eq ⟨some r, types⟩ r rfl _ _ _ done, ?_, ?_⟩
    · exact congrArg (r.sink.held ++ ·) sent
    · rwa [← made.errors_eq_iff.2 sound]

theorem errors_of_made_untyped :
    let r : Recorder := ⟨"arm", true, [], 5, .empty, fun _ => 0, ⟨.memory, [], 0⟩⟩
    let cause : DynamicError := .untyped (.partialOf "speed")
    let b : Bundle := .all [.source ⟨.partialOf "pose", .ok (.flat (.nulls 2))⟩,
      .all [.fields { dropsUntyped := false, errors := [cause] }]]
    b.Made [.conversion cause.message] ∧
      ∃ told notes, (Stream.mk (some r) none).run (Call.logBundle ⟨["arm"]⟩ b {}) =
        (.error (.serialization told), ⟨some r, none⟩, notes) := by
  intro r cause b
  have fields : DynamicFields.Made { dropsUntyped := false, errors := [cause] } [cause] :=
    @DynamicFields.Made.step _ _ [] (.value "speed" .null) { registry := .empty } _
      (.empty none false) rfl
  have made : b.Made [.conversion cause.message] :=
    .cons (.source _) (.cons (.cons (.fields fields) .nil) .nil)
  have sound : ∀ s ∈ b.sources, s.failure? = none := List.forall_mem_singleton.2 rfl
  exact ⟨made, ((errors_of_made made).2 sound (List.cons_ne_nil _ _) r none {} _
    (.alone ⟨["arm"]⟩)).1 rfl⟩

/-- Of the failure of a field that brings its own data nothing is told, not even to a strict call. -/
theorem made_of_failing_source :
    let cause : SerializationError := .notImplemented "Speed" "no unit"
    let b : Bundle := .source ⟨.partialOf "speed", .error cause⟩
    let r (strict : Bool) : Recorder := ⟨"arm", strict, [], 5, .empty, fun _ => 0, ⟨.memory, [], 0⟩⟩
    let logged (strict : Bool) :=
      (Stream.mk (some (r strict)) none).run (Call.logBundle ⟨["arm"]⟩ b {})
    b.Made [cause] ∧ b.batches = [] ∧ b.errors = [] ∧ (logged true).1 = .ok () ∧
      (logged false).2.1.arrived = [] :=
  ⟨.source _, rfl, rfl, rfl, rfl⟩

end Bundle

end EntityLog
