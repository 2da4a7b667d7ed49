import EntityLog.Proofs.Results
import EntityLog.Recording.Stream
import Mathlib.Algebra.Ring.Nat

namespace EntityLog

namespace Call

variable {α β : Type}

def exec (call : Call α) (r : Recorder) (t : Trail) : Except RecordingError α × Trail :=
  (call.run r).run.run t

@[simp] theorem exec_pure (a : α) (r : Recorder) (t : Trail) :
    exec (pure a) r t = (.ok a, t) := rfl

@[simp] theorem exec_throw (cause : RecordingError) (r : Recorder) (t : Trail) :
    exec (throw cause : Call α) r t = (.error cause, t) := rfl

theorem exec_bind (call : Call α) (next : α → Call β) (r : Recorder) (t : Trail) :
    exec (call >>= next) r t =
      match exec call r t with
      | (.ok a, t) => exec (next a) r t
      | (.error cause, t) => (.error cause, t) := by
  rcases done : exec call r t with ⟨result, after⟩
  rw [exec, ReaderT.run_bind]
  cases result with
  | ok a => exact run_run_bind_ok done _
  | error cause => exact run_run_bind_error done _

@[simp] theorem exec_read (r : Recorder) (t : Trail) : exec read r t = (.ok r, t) := rfl

@[simp] theorem exec_note (notes : List Note) (r : Recorder) (t : Trail) :
    exec (note notes) r t = (.ok (), { t with notes := t.notes ++ notes }) := rfl

@[simp] theorem exec_send (message : Message) (r : Recorder) (t : Trail) :
    exec (send message) r t = (.ok (), { t with sent := t.sent ++ [message] }) := rfl

@[simp] theorem exec_stamp (r : Recorder) (t : Trail) :
    exec stamp r t = (.ok (r.stamp t.tick), { t with tick := t.tick + 1 }) := rfl

end Call

namespace Recorder

def warning (r : Recorder) (tick : Nat) (text : String) : Message :=
  .row {
    path := warningsPath
    time := r.stamp tick
    isStatic := false
    components := (TextLog.warn text).batches.map fun b => (b.descriptor, b.array) }

def warnings (r : Recorder) (tick : Nat) (texts : List String) : List Message :=
  texts.mapIdx fun i text => r.warning (tick + i) text

@[simp] theorem warnings_nil (r : Recorder) (tick : Nat) : r.warnings tick [] = [] := rfl

@[simp] theorem warnings_cons (r : Recorder) (tick : Nat) (text : String) (texts : List String) :
    r.warnings tick (text :: texts) = r.warning tick text :: r.warnings (tick + 1) texts := by
  simp [warnings, List.mapIdx_cons, Nat.add_comm, Nat.add_left_comm]

theorem warnings_append (r : Recorder) (tick : Nat) (texts later : List String) :
    r.warnings tick (texts ++ later) =
      r.warnings tick texts ++ r.warnings (tick + texts.length) later := by
  induction texts generalizing tick with
  | nil => rfl
  | cons text texts ih =>
    rw [List.cons_append, warnings_cons, ih, warnings_cons, List.cons_append, List.length_cons,
      Nat.add_assoc, Nat.add_comm 1]

theorem mem_warnings {r : Recorder} {texts : List String} {text : String} (member : text ∈ texts)
    (tick : Nat) : ∃ own, r.warning own text ∈ r.warnings tick texts := by
  obtain ⟨i, bound, rfl⟩ := List.mem_iff_getElem.1 member
  exact ⟨tick + i, List.mem_mapIdx.2 ⟨i, bound, rfl⟩⟩

end Recorder

def Trail.warned (t : Trail) (r : Recorder) (texts : List String) : Trail where
  tick := t.tick + texts.length
  sent := t.sent ++ r.warnings t.tick texts
  notes := t.notes ++ texts.map (⟨.warn, ·⟩)

@[simp] theorem Trail.warned_nil (t : Trail) (r : Recorder) : t.warned r [] = t := by
  simp [warned]

@[simp] theorem Trail.warned_warned (t : Trail) (r : Recorder) (text : String)
    (texts : List String) : (t.warned r [text]).warned r texts = t.warned r (text :: texts) := by
  simp [warned, Nat.add_comm, Nat.add_left_comm]

def Complaint.text : Complaint → String
  | usage text => text
  | failure cause => cause.message

def Complaint.IsFailure : Complaint → Prop
  | usage _ => False
  | failure _ => True

theorem Complaint.first_failure (complaints : List Complaint) :
    (∀ complaint ∈ complaints, ¬complaint.IsFailure) ∨
      ∃ before cause later, complaints = before ++ .failure cause :: later ∧
        ∀ complaint ∈ before, ¬complaint.IsFailure := by
  induction complaints with
  | nil => exact .inl fun _ none => absurd none List.not_mem_nil
  | cons complaint complaints ih =>
    cases complaint with
    | failure cause =>
      exact .inr ⟨[], cause, complaints, rfl, fun _ none => absurd none List.not_mem_nil⟩
    | usage text =>
      rcases ih with mild | ⟨before, cause, later, rfl, mild⟩
      · exact .inl (List.forall_mem_cons.2 ⟨id, mild⟩)
      · exact .inr ⟨.usage text :: before, cause, later, rfl, List.forall_mem_cons.2 ⟨id, mild⟩⟩

theorem Complaint.mild_or_failure (strict : Bool) (complaints : List Complaint) :
    (strict = true → ∀ complaint ∈ complaints, ¬complaint.IsFailure) ∨
      strict = true ∧ ∃ before cause later, complaints = before ++ .failure cause :: later ∧
        ∀ complaint ∈ before, ¬complaint.IsFailure := by
  cases strict with
  | false => exact .inl fun strict => absurd strict (by decide)
  | true => exact (first_failure complaints).imp (fun mild _ => mild) (⟨rfl, ·⟩)

namespace Call

@[simp] theorem exec_warn (text : String) (r : Recorder) (t : Trail) :
    exec (warn text) r t = (.ok (), t.warned r [text]) := by
  simp only [warn, exec_bind, exec_note, exec_stamp, exec_send]
  rfl

theorem exec_report {strict : Bool} {complaints : List Complaint}
    (mild : strict = true → ∀ complaint ∈ complaints, ¬complaint.IsFailure) (r : Recorder)
    (t : Trail) :
    exec (report strict complaints) r t = (.ok (), t.warned r (complaints.map Complaint.text)) := by
  induction complaints generalizing t with
  | nil => simp [report]
  | cons complaint complaints ih =>
    have rest := ih fun s later member => mild s later (List.mem_cons_of_mem _ member)
    cases complaint with
    | usage text => simp [report, exec_bind, rest, Complaint.text]
    | failure cause =>
      cases strict with
      | true => exact absurd trivial (mild rfl _ List.mem_cons_self)
      | false => simp [report, exec_bind, rest, Complaint.text]

theorem exec_report_failure {before later : List Complaint} {cause : RecordingError}
    (mild : ∀ complaint ∈ before, ¬complaint.IsFailure) (r : Recorder) (t : Trail) :
    exec (report true (before ++ .failure cause :: later)) r t =
      (.error cause, t.warned r (before.map Complaint.text)) := by
  induction before generalizing t with
  | nil => simp [report, exec_bind]
  | cons complaint before ih =>
    have rest := ih fun later member => mild later (List.mem_cons_of_mem _ member)
    cases complaint with
    | usage text => simp [report, exec_bind, rest, Complaint.text]
    | failure cause => exact absurd trivial (mild _ List.mem_cons_self)

end Call

theorem Recorder.run_eq {r : Recorder} {call : Call Unit} {result : Except RecordingError Unit}
    {t : Trail} (done : call.exec r { tick := r.tick } = (result, t)) :
    r.run call = (result, { r with tick := t.tick }.send t.sent, t.notes) := by
  have ran : (call.run r).run.run { tick := r.tick } = (result, t) := done
  simp only [run, ran]

theorem Stream.run_eq {s : Stream} {r : Recorder} (enabled : s.recorder = some r) {call : Call Unit}
    {result : Except RecordingError Unit} {t : Trail}
    (done : call.exec r { tick := r.tick } = (result, t)) :
    s.run call =
      (result, { s with recorder := some ({ r with tick := t.tick }.send t.sent) }, t.notes) := by
  rw [run, enabled]
  simp only [Recorder.run_eq done]

theorem Stream.run_eq_of_unchanged {r : Recorder} {types : Option TypeRegistry} {call : Call Unit}
    {result : Except RecordingError Unit} {notes : List Note}
    (done : call.exec r { tick := r.tick } = (result, { tick := r.tick, notes })) :
    (Stream.mk (some r) types).run call = (result, ⟨some r, types⟩, notes) := by
  refine (@run_eq ⟨some r, types⟩ r rfl _ _ _ done).trans ?_
  simp [Recorder.send, Sink.send]

end EntityLog
