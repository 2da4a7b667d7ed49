import EntityLog.Proofs.Recording.Merging
import EntityLog.Proofs.Recording.RowCounts

namespace EntityLog

namespace Submission

variable {path : EntityPath} {s : Submission}

def FailsOrRepeats (path : EntityPath) (s : Submission) : Prop :=
  ∀ complaint ∈ s.complaints, complaint.IsFailure ∨ ∃ column, complaint = repeated path column

theorem complaints_fit {after : Submission} {column : ColumnName} {length : Nat}
    (h : s.fit column length = .ok after) : after.complaints = s.complaints := by
  unfold fit at h
  split at h
  case h_1 => cases h; rfl
  case h_2 =>
    split at h
    case isTrue => cases h; rfl
    case isFalse => cases h

namespace FailsOrRepeats

theorem fail (all : FailsOrRepeats path s) (cause : SubmissionError) :
    FailsOrRepeats path (s.fail cause) :=
  List.forall_mem_append.2 ⟨all, List.forall_mem_singleton.2 (.inl trivial)⟩

theorem repeated (all : FailsOrRepeats path s) (column : ColumnName) :
    FailsOrRepeats path (s.complain (repeated path column)) :=
  List.forall_mem_append.2 ⟨all, List.forall_mem_singleton.2 (.inr ⟨column, rfl⟩)⟩

theorem addTime (all : FailsOrRepeats path s) (c : TimeColumn) :
    FailsOrRepeats path (addTime path s c) := by
  rcases addTime_cases path s c with ⟨_, _, same⟩ | ⟨cause, _, same⟩ | ⟨after, _, tried, same⟩
  · exact same ▸ all.repeated _
  · exact same ▸ all.fail cause
  · rw [same]
    exact complaints_fit tried ▸ all

theorem addLists (all : FailsOrRepeats path s) (d : ComponentDescriptor) (lists : TypedArray) :
    FailsOrRepeats path (addLists path s d lists) := by
  rcases addLists_cases path s d lists with ⟨_, _, same⟩ | ⟨cause, _, same⟩ | ⟨after, _, tried, same⟩
  · exact same ▸ all.repeated _
  · exact same ▸ all.fail cause
  · rw [same]
    exact complaints_fit tried ▸ all

theorem addInput (all : FailsOrRepeats path s) (input : ColumnInput) :
    FailsOrRepeats path (addInput path s input) := by
  rcases addInput_cases path s input with ⟨_, _, same⟩ | ⟨e, _, same⟩ | ⟨cause, _, _, same⟩
  · exact same.symm ▸ all
  · exact same ▸ all.addLists e.1 e.2
  · exact same ▸ all.fail cause

theorem addIndicator (all : FailsOrRepeats path s) (archetype : ArchetypeName) :
    FailsOrRepeats path (addIndicator path s archetype) := by
  unfold Submission.addIndicator
  dsimp only
  split
  · exact all.repeated _
  · exact all

end FailsOrRepeats

theorem failsOrRepeats_ofInputs (path : EntityPath) (times : List TimeColumn)
    (inputs : List ColumnInput) : FailsOrRepeats path (ofInputs path times inputs) :=
  ofInputs_induction (fun _ none => absurd none List.not_mem_nil)
    (fun _ c all _ => all.addTime c) (fun _ input all _ => all.addInput input)
    fun _ archetype all => all.addIndicator archetype

end Submission

namespace Call

open ComponentBatch

def rowComplaints (path : EntityPath) (parts : List RowPart) : List Complaint :=
  ((parts.flatMap RowPart.errors).map fun cause => .failure (.serialization cause)) ++
    (laterOccurrences (parts.flatMap RowPart.batches)).map fun b => repeatedInRow path b.component

theorem map_text_rowComplaints (path : EntityPath) (parts : List RowPart) :
    (rowComplaints path parts).map Complaint.text = warningTexts path parts := by
  simp [rowComplaints, warningTexts, Complaint.text, Function.comp_def]

theorem errors_eq_nil_of_mild {path : EntityPath} {parts : List RowPart}
    (mild : ∀ complaint ∈ rowComplaints path parts, ¬complaint.IsFailure) :
    parts.flatMap RowPart.errors = [] := by
  cases errors : parts.flatMap RowPart.errors with
  | nil => rfl
  | cons first rest =>
    rw [rowComplaints, errors] at mild
    exact absurd trivial (mild _ List.mem_cons_self)

theorem errors_of_rowComplaints {path : EntityPath} {parts : List RowPart}
    {before later : List Complaint} {cause : RecordingError}
    (split : rowComplaints path parts = before ++ .failure cause :: later)
    (mild : ∀ complaint ∈ before, ¬complaint.IsFailure) :
    before = [] ∧ ∃ first rest, parts.flatMap RowPart.errors = first :: rest ∧
      cause = .serialization first := by
  cases errors : parts.flatMap RowPart.errors with
  | nil =>
    have member : .failure cause ∈ rowComplaints path parts := by simp [split]
    simp [rowComplaints, errors, repeatedInRow] at member
  | cons first rest =>
    rw [rowComplaints, errors] at split
    cases before with
    | nil =>
      cases (List.cons.inj split).1
      exact ⟨rfl, first, rest, rfl, rfl⟩
    | cons complaint before =>
      have here : .failure (.serialization first) = complaint := (List.cons.inj split).1
      have failed : complaint.IsFailure := here ▸ trivial
      exact absurd failed (mild complaint List.mem_cons_self)

theorem exec_logParts_error {r : Recorder} {parts : List RowPart} {options : LogOptions}
    {first : SerializationError} {rest : List SerializationError}
    (policy : r.policy options.strict = true)
    (errors : parts.flatMap RowPart.errors = first :: rest) (path : EntityPath) (t : Trail) :
    exec (logParts path parts options) r t =
      (.error (.serialization first), { t with notes := t.notes ++ parts.flatMap RowPart.notes }) := by
  simp [logParts, exec_bind, policy, errors, report]

theorem exec_logBundle_error {r : Recorder} {bundle : Bundle} {options : LogOptions}
    {first : SerializationError} {rest : List SerializationError}
    (policy : r.policy options.strict = true) (errors : bundle.errors = first :: rest)
    (path : EntityPath) (t : Trail) :
    exec (logBundle path bundle options) r t = (.error (.serialization first), t) := by
  simp [logBundle, exec_bind, policy, errors, report]

def rowTrail (r : Recorder) (path : EntityPath) (parts : List RowPart) (options : LogOptions)
    (notes : List Note) (t : Trail) : Trail where
  tick := t.tick + (warningTexts path parts).length + if options.isStatic then 0 else 1
  sent := t.sent ++ r.warnings t.tick (warningTexts path parts) ++
    rowMessages path options (options.time r (t.tick + (warningTexts path parts).length))
      (parts.flatMap RowPart.batches)
  notes

theorem exec_logBundle {r : Recorder} {bundle : Bundle} {options : LogOptions}
    (clean : r.policy options.strict = true → bundle.errors = []) (path : EntityPath) (t : Trail) :
    exec (logBundle path bundle options) r t =
      (.ok (), rowTrail r path [.bundle bundle] options
        (t.notes ++ (bundle.errors.map fun cause =>
            ⟨.warn, (RecordingError.serialization cause).message⟩) ++ bundle.notes ++
          (laterOccurrences bundle.batches).map fun b =>
            ⟨.warn, (repeatedInRow path b.component).text⟩) t) := by
  have mild : r.policy options.strict = true →
      ∀ complaint ∈ bundle.errors.map fun cause => Complaint.failure (.serialization cause),
        ¬complaint.IsFailure := by
    intro strict complaint member
    rw [clean strict] at member
    exact absurd member List.not_mem_nil
  have rows (t : Trail) :=
    @exec_logParts r [.raw (bundle.batches.map some)] options (fun _ => rfl) path t
  have batches : [RowPart.raw (bundle.batches.map some)].flatMap RowPart.batches = bundle.batches := by
    simp [RowPart.batches]
  simp only [logBundle, logBatches, exec_bind, exec_read, exec_report mild, exec_note, rows,
    Trail.warned, batches, warningTexts, rowTrail]
  simp [RowPart.errors, RowPart.notes, RowPart.batches, Recorder.warnings_append, Complaint.text,
    Function.comp_def, Nat.add_assoc]

end Call

inductive LogCall
  | bundle (path : EntityPath) (bundle : Bundle) (options : LogOptions)
  | batches (path : EntityPath) (batches : List ComponentBatch) (options : LogOptions)
  | parts (path : EntityPath) (parts : List RowPart) (options : LogOptions)
  | columns (path : EntityPath) (times : List TimeColumn) (inputs : List ColumnInput)

namespace LogCall

def under (strict : Bool) : LogCall → Call Unit
  | bundle path b options => Call.logBundle path b { options with strict := some strict }
  | batches path bs options => Call.logBatches path bs { options with strict := some strict }
  | parts path ps options => Call.logParts path ps { options with strict := some strict }
  | columns path times inputs => Call.sendColumns path times inputs (some strict)

def complaints : LogCall → List Complaint
  | bundle path b _ => Call.rowComplaints path [.bundle b]
  | batches path bs _ => Call.rowComplaints path [.raw (bs.map some)]
  | parts path ps _ => Call.rowComplaints path ps
  | columns path times inputs => (Submission.ofInputs path times inputs).complaints

def data (r : Recorder) (tick : Nat) : LogCall → List Message
  | bundle path b options => Call.rowMessages path options (options.time r tick) b.batches
  | batches path bs options => Call.rowMessages path options (options.time r tick) bs
  | parts path ps options =>
    Call.rowMessages path options (options.time r tick) (ps.flatMap RowPart.batches)
  | columns path times inputs => (Submission.ofInputs path times inputs).messages path

theorem length_warningTexts (path : EntityPath) (parts : List RowPart) :
    (Call.warningTexts path parts).length = (Call.rowComplaints path parts).length := by
  rw [← Call.map_text_rowComplaints, List.length_map]

theorem exec_under (c : LogCall) (r : Recorder) (t : Trail) :
    ∃ after,
      after.sent = t.sent ++ r.warnings t.tick (c.complaints.map Complaint.text) ++
        c.data r (t.tick + c.complaints.length) ∧
      ∀ strict, (strict = true → ∀ complaint ∈ c.complaints, ¬complaint.IsFailure) →
        (c.under strict).exec r t = (.ok (), after) := by
  have row (path : EntityPath) (parts : List RowPart) (options : LogOptions) (notes : List Note) :
      (Call.rowTrail r path parts options notes t).sent =
        t.sent ++ r.warnings t.tick ((Call.rowComplaints path parts).map Complaint.text) ++
          Call.rowMessages path options
            (options.time r (t.tick + (Call.rowComplaints path parts).length))
            (parts.flatMap RowPart.batches) := by
    rw [Call.map_text_rowComplaints, ← length_warningTexts]
    rfl
  cases c with
  | bundle path b options =>
    refine ⟨Call.rowTrail r path [.bundle b] options _ t, ?_, fun strict mild =>
      Call.exec_logBundle ?_ path t⟩
    · rw [row, List.flatMap_singleton]
      rfl
    · intro policy
      simpa [RowPart.errors] using Call.errors_eq_nil_of_mild (mild policy)
  | batches path bs options =>
    refine ⟨Call.rowTrail r path [.raw (bs.map some)] options _ t, ?_, fun strict _ =>
      @Call.exec_logParts r _ { options with strict := some strict } (fun _ => rfl) path t⟩
    rw [row, List.flatMap_singleton, RowPart.batches, List.filterMap_map]
    simp [data, complaints]
  | parts path ps options =>
    exact ⟨Call.rowTrail r path ps options _ t, row .., fun strict mild =>
      @Call.exec_logParts r _ { options with strict := some strict }
        (fun policy => Call.errors_eq_nil_of_mild (mild policy)) path t⟩
  | columns path times inputs =>
    refine ⟨_, ?_, fun strict mild =>
      @Call.exec_sendColumns_mild r path times inputs (some strict) mild t⟩
    rfl

theorem exec_under_failure {c : LogCall} {before later : List Complaint} {cause : RecordingError}
    (split : c.complaints = before ++ .failure cause :: later)
    (mild : ∀ complaint ∈ before, ¬complaint.IsFailure) (r : Recorder) (t : Trail) :
    ∃ notes, (c.under true).exec r t =
      (.error cause, { t.warned r (before.map Complaint.text) with notes }) := by
  cases c with
  | bundle path b options =>
    obtain ⟨rfl, first, rest, errors, rfl⟩ := Call.errors_of_rowComplaints split mild
    rw [List.flatMap_singleton] at errors
    refine ⟨t.notes, (Call.exec_logBundle_error rfl errors path t).trans ?_⟩
    rw [List.map_nil, Trail.warned_nil]
  | batches path bs options =>
    obtain ⟨_, first, rest, none, _⟩ := Call.errors_of_rowComplaints split mild
    cases none
  | parts path ps options =>
    obtain ⟨rfl, first, rest, errors, rfl⟩ := Call.errors_of_rowComplaints split mild
    refine ⟨t.notes ++ ps.flatMap RowPart.notes,
      (Call.exec_logParts_error rfl errors path t).trans ?_⟩
    rw [List.map_nil, Trail.warned_nil]
  | columns path times inputs => exact ⟨_, Call.exec_sendColumns_failure rfl split mild t⟩

theorem of_split {c : LogCall} {before later : List Complaint} {cause : RecordingError}
    (split : c.complaints = before ++ .failure cause :: later)
    (mild : ∀ complaint ∈ before, ¬complaint.IsFailure) :
    match c with
    | columns path _ _ =>
      ∀ complaint ∈ before, ∃ column, complaint = Submission.repeated path column
    | _ => before = [] := by
  cases c with
  | bundle path b options => exact (Call.errors_of_rowComplaints split mild).1
  | batches path bs options => exact (Call.errors_of_rowComplaints split mild).1
  | parts path ps options => exact (Call.errors_of_rowComplaints split mild).1
  | columns path times inputs =>
    intro complaint member
    have told : complaint ∈ (Submission.ofInputs path times inputs).complaints := by
      change complaint ∈ complaints (columns path times inputs)
      rw [split]
      exact List.mem_append_left _ member
    exact (Submission.failsOrRepeats_ofInputs path times inputs complaint told).resolve_left
      (mild complaint member)

end LogCall

end EntityLog
