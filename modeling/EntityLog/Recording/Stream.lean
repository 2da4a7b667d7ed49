import EntityLog.Recording.Rows
import EntityLog.Recording.Table

namespace EntityLog

structure Stream where
  recorder : Option Recorder
  types : Option TypeRegistry := none

namespace Stream

def disabled : Stream := { recorder := none }

def isEnabled (s : Stream) : Bool := s.recorder.isSome

def applicationId (s : Stream) : Option String := s.recorder.map (·.applicationId)

def debug (s : Stream) : String :=
  match s.recorder with
  | some r => "RecordingStream \x7b " ++ r.debug ++ " \x7d"
  | none => "RecordingStream \x7b disabled \x7d"

def policy (s : Stream) (strict : Option Bool) : Bool :=
  match s.recorder with
  | some r => r.policy strict
  | none => strict.getD false

def now (s : Stream) : TimePoint := s.recorder.elim .empty Recorder.now

def modify (s : Stream) (change : Recorder → Recorder) : Stream :=
  { s with recorder := s.recorder.map change }

def run (s : Stream) (call : Call Unit) : Except RecordingError Unit × Stream × List Note :=
  match s.recorder with
  | some r =>
    let (result, r, notes) := r.run call
    (result, { s with recorder := some r }, notes)
  | none => (.ok (), s, [])

def sendTables (s : Stream) (tables : List (Except ArrayError Table)) (strict : Option Bool) :
    Except RecordingError Unit × Stream × List Note :=
  match s.recorder with
  | some _ => s.run (Call.sendTables tables strict)
  | none => ((tables.forM fun table => table.map fun _ => ()).mapError .table, s, [])

def arrived (s : Stream) : List Message := s.recorder.elim [] (·.sink.arrived)

def backlog (s : Stream) : List Message := s.recorder.elim [] (·.sink.backlog)

def take (s : Stream) : Stream := s.modify fun r => { r with sink := r.sink.take }

def drain (s : Stream) : Stream := s.modify fun r => { r with sink := r.sink.drain }

end Stream

end EntityLog
