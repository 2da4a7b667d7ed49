import EntityLog.Sink

namespace EntityLog

structure Recorder where
  applicationId : String
  strict : Bool
  scopes : List Bool := []
  tick : Nat := 0
  time : TimePoint := .empty
  clock : Nat → Int
  sink : Sink

namespace Recorder

def debug (r : Recorder) : String :=
  "RecordingStreamInner \x7b application_id: " ++ Text.quoted r.applicationId ++ ", strict: " ++
    toString r.strict ++ ", .. \x7d"

def policy (r : Recorder) (strict : Option Bool) : Bool := strict.getD r.strict

def openScope (r : Recorder) (strict : Bool) : Recorder :=
  { r with strict, scopes := r.strict :: r.scopes }

def closeScope (r : Recorder) : Recorder :=
  match r.scopes with
  | [] => r
  | strict :: scopes => { r with strict, scopes }

def setTime (r : Recorder) (timeline : TimelineName) (cell : TimeCell) : Recorder :=
  { r with time := r.time.insert timeline cell }

def setTimePoint (r : Recorder) (p : TimePoint) : Recorder := { r with time := r.time.merge p }

def disableTimeline (r : Recorder) (timeline : TimelineName) : Recorder :=
  { r with time := r.time.erase timeline }

def resetTime (r : Recorder) : Recorder := { r with time := .empty }

def timeAt (r : Recorder) (tick : Nat) : TimePoint :=
  r.time.insert .logTime ⟨.timestamp, r.clock tick⟩

def now (r : Recorder) : TimePoint := r.timeAt r.tick

def stamp (r : Recorder) (tick : Nat) : TimePoint :=
  (r.timeAt tick).insert .logTick (.ofSequence tick)

def send (r : Recorder) (messages : List Message) : Recorder :=
  { r with sink := r.sink.send messages }

def setSink (r : Recorder) (kind : SinkKind) : Recorder :=
  { r with sink := (Sink.mk kind [] 0).send r.sink.flush.backlog }

def flush (r : Recorder) : Recorder := { r with sink := r.sink.flush }

end Recorder

structure Outlets where
  recorder : Recorder
  left : List (List Message) := []

namespace Outlets

/-- The sink gives up its backlog, and leaves behind what arrived. -/
def setSink (o : Outlets) (kind : SinkKind) : Outlets where
  recorder := o.recorder.setSink kind
  left := o.left ++ [o.recorder.sink.arrived]

def drain (o : Outlets) : List Message × Outlets :=
  (o.recorder.sink.backlog, { o with recorder.sink := o.recorder.sink.drain })

/-- What is there of what arrived at a sink, and is gone from there. Sinks are counted as they come;
the last one is the recorder's own. -/
def take (o : Outlets) (sink : Nat) : List Message × Outlets :=
  match o.left[sink]? with
  | some content => (content, { o with left := o.left.set sink [] })
  | none =>
    if sink = o.left.length then
      (o.recorder.sink.arrived, { o with recorder.sink := o.recorder.sink.take })
    else ([], o)

end Outlets

end EntityLog
