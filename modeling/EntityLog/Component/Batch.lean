import EntityLog.Component.Descriptor
import EntityLog.TypedArray.Basic
import EntityLog.TypedArray.Lists

namespace EntityLog

structure ComponentBatch where
  array : TypedArray
  descriptor : ComponentDescriptor
  extension : Option String := none

namespace ComponentBatch

def indicator (archetype : ArchetypeName) : ComponentBatch where
  array := .flat (.nulls 1)
  descriptor := .indicator archetype

def length (b : ComponentBatch) : Nat := b.array.length

def isEmpty (b : ComponentBatch) : Bool := b.array.isEmpty

def type (b : ComponentBatch) : DataType := b.array.type

def componentType (b : ComponentBatch) : Option ComponentType := b.descriptor.componentType

def typeName (b : ComponentBatch) : String :=
  (b.componentType <|> b.extension).getD b.type.display

def withExtension (b : ComponentBatch) (name : String) : ComponentBatch :=
  { b with extension := some name }

def intoStorage (b : ComponentBatch) : ComponentBatch := { b with extension := none }

def withDescriptor (b : ComponentBatch) (descriptor : ComponentDescriptor) : ComponentBatch :=
  { b with descriptor }

def withArchetype (b : ComponentBatch) (archetype : ArchetypeName) : ComponentBatch :=
  { b with descriptor := b.descriptor.withArchetype archetype }

def orWithArchetype (b : ComponentBatch) (archetype : ArchetypeName) : ComponentBatch :=
  { b with descriptor := b.descriptor.orWithArchetype archetype }

def extensionKey : String := "ARROW:extension:name"

def field (b : ComponentBatch) : Field where
  name := b.descriptor.component
  type := b.type
  nullable := true
  metadata := match b.extension with
    | some name => [(extensionKey, name)]
    | none => []

def Same (a b : ComponentBatch) : Prop :=
  a.descriptor = b.descriptor ∧ a.extension = b.extension ∧ a.array.Same b.array

instance (a b : ComponentBatch) : Decidable (a.Same b) := inferInstanceAs (Decidable (_ ∧ _ ∧ _))

end ComponentBatch

end EntityLog
