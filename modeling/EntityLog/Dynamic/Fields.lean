import EntityLog.Dynamic.Batch

namespace EntityLog

structure DynamicFields where
  archetype : Option ArchetypeName := none
  dropsUntyped : Bool := true
  batches : Entries ComponentIdentifier ComponentBatch := []
  errors : List DynamicError := []

inductive FieldStep
  | value (field : ComponentIdentifier) (value : Value)
  | typedValue (field : ComponentIdentifier) (type : ComponentType) (value : Value)
  | attempt (field : ComponentIdentifier) (value : Value)
  | data (field : ComponentIdentifier) (array : TypedArray)

namespace DynamicFields

def descriptor (f : DynamicFields) (field : ComponentIdentifier)
    (componentType : Option ComponentType) : ComponentDescriptor :=
  { archetype := f.archetype, component := field, componentType }

def isEmpty (f : DynamicFields) : Bool := f.batches.isEmpty

def put (f : DynamicFields) (b : ComponentBatch) : DynamicFields :=
  { f with batches := f.batches.put b.descriptor.component b }

def attempt (f : DynamicFields) (d : ComponentDescriptor) (value : Value) :
    Typing DynamicFields := do
  let b ← DynamicBatch.ofValue d value f.dropsUntyped
  return b.batch.elim f f.put

def defer (f : DynamicFields) (cause : DynamicError) : Typing DynamicFields := do
  Typing.note [⟨.debug, "Left out of the bundle until it's logged: " ++ cause.message⟩]
  return { f with errors := f.errors ++ [cause] }

def add (f : DynamicFields) (d : ComponentDescriptor) (value : Value) : Typing DynamicFields :=
  tryCatch (f.attempt d value) fun
    | .error cause => f.defer cause
    | .fault fault => throw (.fault fault)

def step (f : DynamicFields) : FieldStep → Typing DynamicFields
  | .value field value => f.add (f.descriptor field none) value
  | .typedValue field type value => f.add (f.descriptor field (some type)) value
  | .attempt field value => f.attempt (f.descriptor field none) value
  | .data field array => return f.put { array, descriptor := f.descriptor field none }

def build (f : DynamicFields) (steps : List FieldStep) : Typing DynamicFields :=
  steps.foldlM step f

end DynamicFields

end EntityLog
