import EntityLog.Bundle
import EntityLog.Component.Column
import EntityLog.Component.Serialization
import EntityLog.Recording.Recorder
import EntityLog.Schema.ColumnDescriptor
import EntityLog.Time.Column

/-!
Calls on a recorder: what they send, the ticks they use up, and how they report complaints. Under
the strict policy the first error ends a call; under the lenient one it becomes a warning, noted and
sent as a text log, and the call goes on.
-/

namespace EntityLog

inductive ColumnName
  | timeline (name : TimelineName)
  | component (descriptor : ComponentDescriptor)
  deriving DecidableEq

def ColumnName.display : ColumnName → String
  | timeline name => "timeline '" ++ name ++ "'"
  | component descriptor => "component '" ++ descriptor.component ++ "'"

inductive SubmissionError
  | lengthMismatch (name : ColumnName) (length : Nat) (first : ColumnName) (expected : Nat)
  | partition (cause : PartitionError)
  | column (cause : ColumnError)
  | time (cause : TimeColumnError)
  deriving DecidableEq

def SubmissionError.message : SubmissionError → String
  | lengthMismatch name length first expected =>
    name.display ++ " has length " ++ toString length ++ ", but " ++ first.display ++
      " has length " ++ toString expected
  | partition cause => cause.message
  | column cause => cause.message
  | time cause => cause.message

inductive RecordingError
  | serialization (cause : SerializationError)
  | submission (cause : SubmissionError)
  | table (cause : ArrayError)
  deriving DecidableEq

def RecordingError.message : RecordingError → String
  | serialization cause => "Failed to serialize component data: " ++ cause.message
  | submission cause => cause.message
  | table cause => "Failed to read record batch: " ++ cause.message

structure Trail where
  tick : Nat
  sent : List Message := []
  notes : List Note := []

abbrev Call := ReaderT Recorder (ExceptT RecordingError (StateM Trail))

inductive Complaint
  | usage (text : String)
  | failure (cause : RecordingError)
  deriving DecidableEq

def warningsPath : EntityPath := ⟨["rerun"]⟩

namespace Call

def note (notes : List Note) : Call Unit := modify fun t => { t with notes := t.notes ++ notes }

def send (message : Message) : Call Unit := modify fun t => { t with sent := t.sent ++ [message] }

def stamp : Call TimePoint := do
  let tick := (← get).tick
  modify fun t => { t with tick := tick + 1 }
  return (← read).stamp tick

def warn (text : String) : Call Unit := do
  note [⟨.warn, text⟩]
  let time ← stamp
  send (.row {
    path := warningsPath
    time
    isStatic := false
    components := (TextLog.warn text).batches.map fun b => (b.descriptor, b.array) })

def report (strict : Bool) : List Complaint → Call Unit
  | [] => return
  | .usage text :: rest => do
    warn text
    report strict rest
  | .failure cause :: rest => do
    if strict then throw cause else warn cause.message
    report strict rest

end Call

def Recorder.run (r : Recorder) (call : Call Unit) :
    Except RecordingError Unit × Recorder × List Note :=
  let (result, trail) := (call.run r).run.run { tick := r.tick }
  (result, { r with tick := trail.tick }.send trail.sent, trail.notes)

end EntityLog
