import EntityLog.Recording.Call

namespace EntityLog

inductive ColumnInput
  | batch (batch : ComponentBatch)
  | column (column : ComponentColumn)
  | indicator (archetype : ArchetypeName)

structure Submission where
  first : Option (ColumnName × Nat) := none
  timelines : Entries TimelineName TimeColumn := []
  components : Entries ComponentDescriptor TypedArray := []
  complaints : List Complaint := []

namespace Submission

def rowCount (s : Submission) : Nat := s.first.elim 0 (·.2)

def complain (s : Submission) (complaint : Complaint) : Submission :=
  { s with complaints := s.complaints ++ [complaint] }

def fail (s : Submission) (cause : SubmissionError) : Submission :=
  s.complain (.failure (.submission cause))

def repeated (path : EntityPath) (column : ColumnName) : Complaint :=
  .usage ("The " ++ column.display ++ " was included multiple times when sending columns to " ++
    path.display ++ ". Only the first one is kept.")

/-- Is a column as long as the first one? Without a first one it is that itself. -/
def fit (s : Submission) (column : ColumnName) (length : Nat) :
    Except SubmissionError Submission :=
  match s.first with
  | none => .ok { s with first := some (column, length) }
  | some (first, expected) =>
    if length = expected then .ok s else .error (.lengthMismatch column length first expected)

def addTime (path : EntityPath) (s : Submission) (c : TimeColumn) : Submission :=
  match s.timelines.get? c.name with
  | some _ => s.complain (repeated path (.timeline c.name))
  | none =>
    match s.fit (.timeline c.name) c.rowCount with
    | .ok s => { s with timelines := s.timelines.put c.name c }
    | .error cause => s.fail cause

def addLists (path : EntityPath) (s : Submission) (d : ComponentDescriptor) (lists : TypedArray) :
    Submission :=
  match s.components.get? d with
  | some _ => s.complain (repeated path (.component d))
  | none =>
    match s.fit (.component d) lists.length with
    | .ok s => { s with components := s.components.put d lists }
    | .error cause => s.fail cause

def addColumn (path : EntityPath) (s : Submission) (column : Except PartitionError ComponentColumn) :
    Submission :=
  match column with
  | .error cause => s.fail (.partition cause)
  | .ok column =>
    match column.toLists with
    | .error cause => s.fail (.partition cause)
    | .ok lists => addLists path s column.descriptor lists

def addInput (path : EntityPath) (s : Submission) : ColumnInput → Submission
  | .batch b => addColumn path s (b.intoStorage.partition none)
  | .column c => addColumn path s (.ok c)
  | .indicator _ => s

def addIndicator (path : EntityPath) (s : Submission) (archetype : ArchetypeName) : Submission :=
  let d := ComponentDescriptor.indicator archetype
  match s.components.get? d with
  | some _ => s.complain (repeated path (.component d))
  | none => { s with components := s.components.put d (.nullLists .null s.rowCount) }

def indicators (inputs : List ColumnInput) : List ArchetypeName :=
  inputs.filterMap fun
    | .indicator archetype => some archetype
    | _ => none

def ofInputs (path : EntityPath) (times : List TimeColumn) (inputs : List ColumnInput) :
    Submission :=
  let timed := times.foldl (addTime path) {}
  let filled := inputs.foldl (addInput path) timed
  (indicators inputs).foldl (addIndicator path) filled

end Submission

namespace Call

def sendColumns (path : EntityPath) (times : List TimeColumn) (inputs : List ColumnInput)
    (strict : Option Bool) : Call Unit := do
  let s := Submission.ofInputs path times inputs
  report ((← read).policy strict) s.complaints
  if s.components.isEmpty then
    note [⟨.debug, "send_columns() to " ++ path.display ++
      " without any component, nothing to send"⟩]
  else send (.columns ⟨path, s.timelines, s.components⟩)

end Call

end EntityLog
