import EntityLog.Proofs.Recording.Policies
import EntityLog.Recording.Table

/-!
Calls as scripts. Whatever a call does to its trail, it does in stages: it complains, it sends rows
with one time, it sends columns. A script is played from a tick on, up to the first complaint that
the policy makes the end of the call.
-/

namespace EntityLog

inductive Stage
  | complain (complaint : Complaint)
  | rows (path : EntityPath) (options : LogOptions) (row : MergedRow)
  | columns (columns : Columns)

inductive Role
  | warning
  | splat
  | instanced
  | columns
  deriving DecidableEq

structure Emission where
  role : Role
  message : Message

namespace Stage

def failure? (strict : Bool) : Stage → Option RecordingError
  | complain (.failure cause) => if strict then some cause else none
  | complain (.usage _) | rows .. | columns _ => none

def emit (r : Recorder) (tick : Nat) : Stage → List Emission
  | complain complaint => [⟨.warning, r.warning tick complaint.text⟩]
  | rows path options row =>
    (Message.rows path (options.time r tick) options.isStatic row.splats).map (⟨.splat, ·⟩) ++
      (Message.rows path (options.time r tick) options.isStatic row.instanced).map (⟨.instanced, ·⟩)
  | columns c => [⟨.columns, .columns c⟩]

def nextTick (tick : Nat) : Stage → Nat
  | complain _ => tick + 1
  | rows _ options _ => if options.isStatic then tick else tick + 1
  | columns _ => tick

end Stage

structure Performance where
  emissions : List Emission
  tick : Nat
  result : Except RecordingError Unit

def Performance.after (p : Performance) (earlier : List Emission) : Performance :=
  { p with emissions := earlier ++ p.emissions }

def perform (r : Recorder) (strict : Bool) (tick : Nat) : List Stage → Performance
  | [] => ⟨[], tick, .ok ()⟩
  | stage :: script =>
    match stage.failure? strict with
    | some cause => ⟨[], tick, .error cause⟩
    | none => (perform r strict (stage.nextTick tick) script).after (stage.emit r tick)

section

variable {r : Recorder} {strict : Bool} {tick : Nat} {stage : Stage} {script later : List Stage}

theorem perform_failure {cause : RecordingError} (failure : stage.failure? strict = some cause) :
    perform r strict tick (stage :: script) = ⟨[], tick, .error cause⟩ := by
  rw [perform, failure]

theorem perform_cons (mild : stage.failure? strict = none) :
    perform r strict tick (stage :: script) =
      (perform r strict (stage.nextTick tick) script).after (stage.emit r tick) := by
  rw [perform, mild]

theorem perform_append (r : Recorder) (strict : Bool) (tick : Nat) (script later : List Stage) :
    perform r strict tick (script ++ later) =
      match perform r strict tick script with
      | ⟨emissions, tick, .ok ()⟩ => (perform r strict tick later).after emissions
      | ⟨emissions, tick, .error cause⟩ => ⟨emissions, tick, .error cause⟩ := by
  induction script generalizing tick with
  | nil => rfl
  | cons stage script ih =>
    cases failure : stage.failure? strict with
    | some cause => rw [List.cons_append, perform_failure failure, perform_failure failure]
    | none =>
      rw [List.cons_append, perform_cons failure, perform_cons failure, ih]
      rcases perform r strict (stage.nextTick tick) script with ⟨emissions, tick, result⟩
      cases result with
      | ok _ => simp [Performance.after, List.append_assoc]
      | error cause => rfl

/-- The call does to each trail what playing the script comes to; notes are left open. -/
def Call.Plays (call : Call Unit) (r : Recorder) (strict : Bool) (script : List Stage) : Prop :=
  ∀ t, ∃ notes, call.exec r t = ((perform r strict t.tick script).result, {
    tick := (perform r strict t.tick script).tick
    sent := t.sent ++ (perform r strict t.tick script).emissions.map Emission.message
    notes })

namespace Call.Plays

variable {call : Call Unit}

theorem pure : Plays (pure ()) r strict [] :=
  fun t => ⟨t.notes, by simp [perform]⟩

theorem note (notes : List Note) : Plays (note notes) r strict [] :=
  fun t => ⟨t.notes ++ notes, by simp [perform]⟩

theorem read {next : Recorder → Call Unit} (plays : Plays (next r) r strict script) :
    Plays (read >>= next) r strict script := by
  intro t
  rw [exec_bind, exec_read]
  exact plays t

theorem bind {next : Call Unit} (first : Plays call r strict script)
    (second : Plays next r strict later) :
    Plays (call >>= fun _ => next) r strict (script ++ later) := by
  intro t
  obtain ⟨notes, done⟩ := first t
  rw [exec_bind, done, perform_append]
  rcases perform r strict t.tick script with ⟨emissions, tick, result⟩
  cases result with
  | error cause => exact ⟨notes, rfl⟩
  | ok _ =>
    obtain ⟨notes, done⟩ := second { tick, sent := t.sent ++ emissions.map Emission.message, notes }
    exact ⟨notes, done.trans (by simp [Performance.after, List.append_assoc])⟩

theorem warn (text : String) : Plays (warn text) r strict [.complain (.usage text)] :=
  fun t => ⟨_, (exec_warn text r t).trans rfl⟩

theorem report (complaints : List Complaint) :
    Plays (report strict complaints) r strict (complaints.map .complain) := by
  induction complaints with
  | nil => exact .pure
  | cons complaint complaints ih =>
    cases complaint with
    | usage text => exact (warn text).bind ih
    | failure cause =>
      cases strict with
      | false =>
        have warned : Plays (Call.warn cause.message) r false [.complain (.failure cause)] :=
          fun t => ⟨_, (exec_warn cause.message r t).trans rfl⟩
        exact warned.bind ih
      | true =>
        intro t
        exact ⟨t.notes, by simp [Call.report, exec_bind, perform, Stage.failure?]⟩

theorem forM {α : Type} {items : List α} {call : α → Call Unit} {script : α → List Stage}
    (each : ∀ item, Plays (call item) r strict (script item)) :
    Plays (items.forM call) r strict (items.flatMap script) := by
  induction items with
  | nil => exact .pure
  | cons item items ih => exact (each item).bind ih

theorem columns (c : Columns) : Plays (send (.columns c)) r strict [.columns c] :=
  fun t => ⟨t.notes, rfl⟩

theorem rows (path : EntityPath) (options : LogOptions) (row : MergedRow) :
    Plays (do
      let time ← if options.isStatic then Pure.pure .empty else stamp
      sendRow path time options.isStatic row.splats
      sendRow path time options.isStatic row.instanced) r strict [.rows path options row] := by
  intro t
  refine ⟨t.notes, ?_⟩
  have messages (time : TimePoint) (isStatic : Bool) (role : Role)
      (components : Entries ComponentDescriptor TypedArray) :
      ((Message.rows path time isStatic components).map (Emission.mk role)).map Emission.message =
        Message.rows path time isStatic components := by
    simp [Function.comp_def]
  obtain ⟨isStatic, instances, own⟩ := options
  cases isStatic with
  | true =>
    simp [exec_bind, perform, Performance.after, Stage.failure?, Stage.emit, Stage.nextTick,
      LogOptions.time, messages]
  | false =>
    simp [exec_bind, perform, Performance.after, Stage.failure?, Stage.emit, Stage.nextTick,
      LogOptions.time, messages]

end Call.Plays

end

inductive RecordingCall
  | bundle (path : EntityPath) (bundle : Bundle) (options : LogOptions)
  | batches (path : EntityPath) (batches : List ComponentBatch) (options : LogOptions)
  | parts (path : EntityPath) (parts : List RowPart) (options : LogOptions)
  | columns (path : EntityPath) (times : List TimeColumn) (inputs : List ColumnInput)
      (strict : Option Bool)
  | table (table : Table) (strict : Option Bool)

namespace RecordingCall

def steps : RecordingCall → Call Unit
  | bundle path b options => Call.logBundle path b options
  | batches path bs options => Call.logBatches path bs options
  | parts path ps options => Call.logParts path ps options
  | columns path times inputs strict => Call.sendColumns path times inputs strict
  | table t strict => Call.sendTable t strict

def strict : RecordingCall → Option Bool
  | bundle _ _ options | batches _ _ options | parts _ _ options => options.strict
  | columns _ _ _ strict | table _ strict => strict

def stamps : RecordingCall → Bool
  | bundle _ _ options | batches _ _ options | parts _ _ options => !options.isStatic
  | columns .. | table .. => false

def rowScript (path : EntityPath) (parts : List RowPart) (options : LogOptions) : List Stage :=
  (Call.rowComplaints path parts).map .complain ++
    [.rows path options (.ofBatches (parts.flatMap RowPart.batches) options.instances)]

def columnsScript (path : EntityPath) (s : Submission) : List Stage :=
  s.complaints.map .complain ++
    if s.components.isEmpty then [] else [.columns ⟨path, s.timelines, s.components⟩]

def script : RecordingCall → List Stage
  | bundle path b options => rowScript path [.bundle b] options
  | batches path bs options => rowScript path [.raw (bs.map some)] options
  | parts path ps options => rowScript path ps options
  | columns path times inputs _ => columnsScript path (.ofInputs path times inputs)
  | table t _ =>
    let g := Regrouping.ofTable t
    g.complaints.map .complain ++
      g.entities.flatMap fun (path, e) => columnsScript path (.ofInputs path g.times e.inputs)

variable {r : Recorder}

theorem rowComplaints_eq (path : EntityPath) (parts : List RowPart) (instances : Option Nat) :
    ((parts.flatMap RowPart.errors).map fun cause => .failure (.serialization cause)) ++
        (MergedRow.ofBatches (parts.flatMap RowPart.batches) instances).repeats.map
          (repeatedInRow path) =
      Call.rowComplaints path parts := by
  rw [MergedRow.ofBatches_eq, List.map_map]
  rfl

theorem plays_logParts (path : EntityPath) (parts : List RowPart) (options : LogOptions) :
    (Call.logParts path parts options).Plays r (r.policy options.strict)
      (rowScript path parts options) := by
  have complaints := @Call.Plays.report r (r.policy options.strict) (Call.rowComplaints path parts)
  rw [← rowComplaints_eq path parts options.instances] at complaints
  rw [rowScript, ← rowComplaints_eq path parts options.instances]
  exact (Call.Plays.note _).bind (.read (complaints.bind (.rows path options _)))

theorem rowScript_bundle (path : EntityPath) (b : Bundle) (options : LogOptions) :
    rowScript path [.bundle b] options =
      (b.errors.map fun cause => .failure (.serialization cause)).map .complain ++
        rowScript path [.raw (b.batches.map some)] options := by
  simp [rowScript, Call.rowComplaints, RowPart.errors, RowPart.batches]

theorem plays_sendColumns (path : EntityPath) (times : List TimeColumn)
    (inputs : List ColumnInput) (strict : Option Bool) :
    (Call.sendColumns path times inputs strict).Plays r (r.policy strict)
      (columnsScript path (.ofInputs path times inputs)) := by
  refine .read ((Call.Plays.report _).bind ?_)
  split
  case isTrue => exact .note _
  case isFalse => exact .columns _

theorem plays_steps (c : RecordingCall) : c.steps.Plays r (r.policy c.strict) c.script := by
  cases c with
  | bundle path b options =>
    rw [script, rowScript_bundle]
    exact .read ((Call.Plays.report _).bind
      ((Call.Plays.note b.notes).bind (plays_logParts path _ options)))
  | batches path bs options => exact plays_logParts path _ options
  | parts path ps options => exact plays_logParts path ps options
  | columns path times inputs strict => exact plays_sendColumns path times inputs strict
  | table t strict =>
    refine .read ((Call.Plays.report _).bind (Call.Plays.forM ?_))
    exact fun (path, e) => plays_sendColumns path _ e.inputs strict

end RecordingCall

end EntityLog
