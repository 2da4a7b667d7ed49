import EntityLog.Component.Batch
import EntityLog.Note

namespace EntityLog

inductive SerializationError
  | context (location : String) (source : SerializationError)
  | notImplemented (name reason : String)
  | array (cause : ArrayError)
  | conversion (text : String)
  deriving DecidableEq

namespace SerializationError

def message : SerializationError → String
  | context location _ => "Failed to serialize " ++ Text.quoted location
  | notImplemented name reason => name ++ " doesn't support serialization: " ++ reason
  | array cause => cause.message
  | conversion text => text

def sources : SerializationError → List String
  | context _ source => source.message :: source.sources
  | array (.reported .external text) => [text]
  | _ => []

end SerializationError

structure ComponentSource where
  descriptor : ComponentDescriptor
  array : Except SerializationError TypedArray

namespace ComponentSource

def serialize (s : ComponentSource) : Except SerializationError ComponentBatch := do
  let array ← s.array
  return { array, descriptor := s.descriptor }

def batch (s : ComponentSource) : Option ComponentBatch := s.serialize.toOption

def notes (s : ComponentSource) : List Note :=
  match s.serialize with
  | .ok _ => []
  | .error cause =>
    [⟨.error, "failed to serialize data for " ++ s.descriptor.component ++ ": " ++ cause.message⟩]

end ComponentSource

end EntityLog
