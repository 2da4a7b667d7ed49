import EntityLog.Recording.Stream

/-!
Threads: what the streams of a thread share. A stream and its clones record to one recorder. The times
that are set are kept in one table of the thread, each under the number of its recorder.
-/

namespace EntityLog

structure ThreadTimes where
  points : Entries Nat TimePoint := []

namespace ThreadTimes

def point (times : ThreadTimes) (number : Nat) : TimePoint :=
  (times.points.get? number).getD .empty

def setCell (times : ThreadTimes) (number : Nat) (timeline : TimelineName) (cell : TimeCell) :
    ThreadTimes :=
  ⟨times.points.put number ((times.point number).insert timeline cell)⟩

def setPoint (times : ThreadTimes) (number : Nat) (p : TimePoint) : ThreadTimes :=
  p.cells.foldl (fun times (timeline, cell) => times.setCell number timeline cell) times

def change (times : ThreadTimes) (number : Nat) (f : TimePoint → TimePoint) : ThreadTimes :=
  match times.points.get? number with
  | some p => ⟨times.points.put number (f p)⟩
  | none => times

def disable (times : ThreadTimes) (number : Nat) (timeline : TimelineName) : ThreadTimes :=
  times.change number fun p => p.erase timeline

def reset (times : ThreadTimes) (number : Nat) : ThreadTimes := times.change number fun _ => .empty

end ThreadTimes

def Recorder.withTime (r : Recorder) (p : TimePoint) : Recorder := { r with time := p }

structure Thread where
  recorders : List Recorder := []
  /-- The number of the recorder behind each stream. A stream that is off has none. -/
  streams : List (Option Nat) := []
  times : ThreadTimes := {}

namespace Thread

def number? (t : Thread) (stream : Nat) : Option Nat := t.streams[stream]?.join

/-- A recorder with its time on the thread. -/
def recorder? (t : Thread) (number : Nat) : Option Recorder :=
  t.recorders[number]?.map fun r => r.withTime (t.times.point number)

def create (t : Thread) (s : Stream) : Thread :=
  match s.recorder with
  | some r => { t with
      recorders := t.recorders ++ [r]
      streams := t.streams ++ [some t.recorders.length] }
  | none => { t with streams := t.streams ++ [none] }

def clone (t : Thread) (stream : Nat) : Thread :=
  { t with streams := t.streams ++ [t.number? stream] }

def setTimes (t : Thread) (stream : Nat) (change : ThreadTimes → Nat → ThreadTimes) : Thread :=
  match t.number? stream with
  | some number => { t with times := change t.times number }
  | none => t

def setTime (t : Thread) (stream : Nat) (timeline : TimelineName) (cell : TimeCell) : Thread :=
  t.setTimes stream fun times number => times.setCell number timeline cell

def setTimePoint (t : Thread) (stream : Nat) (p : TimePoint) : Thread :=
  t.setTimes stream fun times number => times.setPoint number p

def disableTimeline (t : Thread) (stream : Nat) (timeline : TimelineName) : Thread :=
  t.setTimes stream fun times number => times.disable number timeline

def resetTime (t : Thread) (stream : Nat) : Thread := t.setTimes stream ThreadTimes.reset

def modify (t : Thread) (stream : Nat) (change : Recorder → Recorder) : Thread :=
  match t.number? stream with
  | some number => { t with
      recorders := t.recorders.modify number fun r => change (r.withTime (t.times.point number)) }
  | none => t

end Thread

structure StrictGuard where
  /-- The number of the recorder. A stream that is off has none, and its guard sets nothing. -/
  number : Option Nat
  previous : Bool
  deriving DecidableEq

def Recorder.withStrict (r : Recorder) (strict : Bool) : Recorder := { r with strict }

namespace Thread

def policy (t : Thread) (stream : Nat) (strict : Option Bool) : Bool :=
  Stream.policy { recorder := (t.number? stream).bind t.recorder? } strict

def setStrict (t : Thread) (number : Nat) (strict : Bool) : Thread :=
  { t with recorders := t.recorders.modify number fun r => r.withStrict strict }

def openScope (t : Thread) (stream : Nat) (strict : Bool) : Thread × StrictGuard :=
  match t.number? stream with
  | some number =>
    (t.setStrict number strict, ⟨some number, (t.recorder? number).elim false Recorder.strict⟩)
  | none => (t, ⟨none, false⟩)

def dropGuard (t : Thread) (guard : StrictGuard) : Thread :=
  match guard.number with
  | some number => t.setStrict number guard.previous
  | none => t

end Thread

end EntityLog
