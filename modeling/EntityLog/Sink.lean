import EntityLog.Component.Column
import EntityLog.Path
import EntityLog.Time.Column

namespace EntityLog

structure Row where
  path : EntityPath
  time : TimePoint
  isStatic : Bool
  components : Entries ComponentDescriptor TypedArray

def Row.gather (batches : List ComponentBatch) : Entries ComponentDescriptor TypedArray :=
  batches.foldl (fun components b => components.put b.descriptor b.array) []

def Row.instances (r : Row) : Nat := (r.components.values.map TypedArray.length).foldl max 0

structure Columns where
  path : EntityPath
  timelines : Entries TimelineName TimeColumn
  components : Entries ComponentDescriptor TypedArray

def Columns.rowCount (c : Columns) : Nat :=
  (c.timelines.values.map TimeColumn.rowCount ++ c.components.values.map TypedArray.length).headD 0

inductive Message
  | row (row : Row)
  | columns (columns : Columns)

namespace Message

def path : Message → EntityPath
  | row r => r.path
  | columns c => c.path

def components : Message → Entries ComponentDescriptor TypedArray
  | row r => r.components
  | columns c => c.components

def get? (m : Message) (component : ComponentIdentifier) : Option TypedArray :=
  (m.components.find? (·.1.component = component)).map (·.2)

end Message

inductive SinkKind
  | memory
  | buffered
  | plain
  deriving DecidableEq

structure Sink where
  kind : SinkKind
  held : List Message := []
  flushes : Nat := 0

namespace Sink

def send (s : Sink) (messages : List Message) : Sink := { s with held := s.held ++ messages }

def flush (s : Sink) : Sink := { s with flushes := s.flushes + 1 }

def flushCount (s : Sink) : Option Nat :=
  match s.kind with
  | .plain => some s.flushes
  | .memory | .buffered => none

def backlog (s : Sink) : List Message :=
  match s.kind with
  | .buffered => s.held
  | .memory | .plain => []

def arrived (s : Sink) : List Message :=
  match s.kind with
  | .buffered => []
  | .memory | .plain => s.held

def drain (s : Sink) : Sink :=
  match s.kind with
  | .buffered => { s with held := [] }
  | .memory | .plain => s

def take (s : Sink) : Sink :=
  match s.kind with
  | .buffered => s
  | .memory | .plain => { s with held := [] }

end Sink

end EntityLog
