import EntityLog.Component.Serialization
import EntityLog.Dynamic.Fields

namespace EntityLog

inductive Bundle
  | batch (batch : ComponentBatch)
  | source (source : ComponentSource)
  | dynamic (batch : DynamicBatch)
  | fields (fields : DynamicFields)
  | stated (batches : List ComponentBatch) (errors : List SerializationError)
  | all (items : List Bundle)

namespace Bundle

mutual

def batches : Bundle → List ComponentBatch
  | batch b => [b]
  | source s => s.batch.toList
  | dynamic b => b.batch.toList
  | fields f => f.batches.values
  | stated batches _ => batches
  | all items => allBatches items

def allBatches : List Bundle → List ComponentBatch
  | [] => []
  | b :: bs => b.batches ++ allBatches bs

end

mutual

def errors : Bundle → List SerializationError
  | batch _ | source _ | dynamic _ => []
  | fields f => f.errors.map fun cause => .conversion cause.message
  | stated _ errors => errors
  | all items => allErrors items

def allErrors : List Bundle → List SerializationError
  | [] => []
  | b :: bs => b.errors ++ allErrors bs

end

mutual

def notes : Bundle → List Note
  | source s => s.notes
  | all items => allNotes items
  | _ => []

def allNotes : List Bundle → List Note
  | [] => []
  | b :: bs => b.notes ++ allNotes bs

end

end Bundle

structure TextLog where
  text : String
  level : String
  deriving DecidableEq

namespace TextLog

def warn (text : String) : TextLog := ⟨text, "WARN"⟩

def archetype : ArchetypeName := "rerun.archetypes.TextLog"

def textDescriptor : ComponentDescriptor where
  archetype := some archetype
  component := "TextLog:text"
  componentType := some "rerun.components.Text"

def levelDescriptor : ComponentDescriptor where
  archetype := some archetype
  component := "TextLog:level"
  componentType := some "rerun.components.TextLogLevel"

def cell (text : String) : TypedArray := .flat (.texts .regular [some text])

def batches (t : TextLog) : List ComponentBatch :=
  [.indicator archetype, { array := cell t.text, descriptor := textDescriptor },
    { array := cell t.level, descriptor := levelDescriptor }]

def bundle (t : TextLog) : Bundle := .stated t.batches []

end TextLog

end EntityLog
