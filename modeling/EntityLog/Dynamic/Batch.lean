import EntityLog.Coercion
import EntityLog.Component.Batch
import EntityLog.Registry

namespace EntityLog

inductive DynamicError
  | untyped (descriptor : ComponentDescriptor)
  | inconsistent (descriptor : ComponentDescriptor) (type : DataType) (cause : CoercionError)
  | coercion (descriptor : ComponentDescriptor) (cause : CoercionError)
  deriving DecidableEq

def DynamicError.message : DynamicError → String
  | untyped d =>
    "cannot convert " ++ d.fullName ++ " without explicit type: " ++
      "the value is empty and the component has never been logged before"
  | inconsistent d type cause =>
    d.fullName ++ ": value is inconsistent with previous type provided (" ++ type.display ++ "): " ++
      cause.message
  | coercion d cause => d.fullName ++ ": " ++ cause.message

structure TypingState where
  registry : TypeRegistry
  notes : List Note := []

/-- Steps that may pin types. Pins stay also when a later step fails. -/
abbrev Typing := ExceptT (Failure DynamicError) (StateM TypingState)

namespace Typing

def registry : Typing TypeRegistry := return (← get).registry

def note (notes : List Note) : Typing Unit := modify fun s => { s with notes := s.notes ++ notes }

def pin (d : ComponentDescriptor) (t : RegisteredType) : Typing Unit := do
  let registry ← registry
  note (registry.pinNotes d t)
  modify fun s => { s with registry := s.registry.pin d t }

def ofCoercion (blame : CoercionError → DynamicError) (c : Coercion) : Typing TypedArray := do
  note c.notes
  match c.result with
  | .ok a => return a
  | .error failure => throw (failure.mapError blame)

end Typing

/-- The array that a value stands for. Arrays are typed already and pin nothing; an empty value
takes the type of a pin, and without one it gives no array or, if it must not be dropped, an
error. -/
def typedArray (d : ComponentDescriptor) (value : Value) (dropsUntyped : Bool) :
    Typing (Option TypedArray) := do
  if let .array a := value then return some a
  if let some pinned := (← Typing.registry).get? d then
    return ← Typing.ofCoercion (.inconsistent d pinned.type) (coerce value (some pinned.type))
  match value.isEmpty with
  | .error fault => throw (.fault fault)
  | .ok true =>
    if dropsUntyped then
      Typing.note [⟨.debug, "Dropping empty value for " ++ d.fullName ++ ": no type known yet"⟩]
      return none
    else throw (.error (.untyped d))
  | .ok false =>
    let a ← Typing.ofCoercion (.coercion d) (coerce value none)
    Typing.pin d (.ofType a.type)
    return some a

structure DynamicBatch where
  descriptor : ComponentDescriptor
  array : Option TypedArray

namespace DynamicBatch

def ofValue (d : ComponentDescriptor) (value : Value) (dropsUntyped : Bool) :
    Typing DynamicBatch := do
  return ⟨d, ← typedArray d value dropsUntyped⟩

def isValid (b : DynamicBatch) : Bool := b.array.isSome

def batch (b : DynamicBatch) : Option ComponentBatch :=
  b.array.map fun array => { array, descriptor := b.descriptor }

end DynamicBatch

end EntityLog
