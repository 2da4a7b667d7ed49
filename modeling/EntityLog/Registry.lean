import EntityLog.Component.Descriptor
import EntityLog.Note
import EntityLog.Value

namespace EntityLog

structure RegisteredType where
  native : Option NativeType
  type : DataType
  deriving DecidableEq

namespace RegisteredType

def ofType (type : DataType) : RegisteredType := ⟨NativeType.ofType type, type⟩

def debug (t : RegisteredType) : String :=
  let element := match t.native with
    | some n => "Some(" ++ n.debug ++ ")"
    | none => "None"
  "RegisteredType \x7b native: " ++ element ++ ", arrow: " ++ t.type.debug ++ " \x7d"

end RegisteredType

structure TypeRegistry where
  pins : Entries ComponentDescriptor RegisteredType := []

namespace TypeRegistry

def empty : TypeRegistry := {}

def get? (r : TypeRegistry) (d : ComponentDescriptor) : Option RegisteredType := r.pins.get? d

def length (r : TypeRegistry) : Nat := r.pins.length

def isEmpty (r : TypeRegistry) : Bool := r.pins.isEmpty

def pin (r : TypeRegistry) (d : ComponentDescriptor) (t : RegisteredType) : TypeRegistry :=
  match r.get? d with
  | some _ => r
  | none => ⟨r.pins.put d t⟩

def pinNotes (r : TypeRegistry) (d : ComponentDescriptor) (t : RegisteredType) : List Note :=
  match r.get? d with
  | some _ => []
  | none => [⟨.debug, "Pinned " ++ d.fullName ++ " to " ++ t.type.display⟩]

def snapshot (r : TypeRegistry) : Entries String RegisteredType :=
  .ofList (r.pins.map fun (d, t) => (d.fullName, t))

def debug (r : TypeRegistry) : String :=
  "\x7b" ++ ", ".intercalate (r.snapshot.map fun (name, t) => Text.quoted name ++ ": " ++ t.debug) ++
    "\x7d"

@[simp] theorem get?_pin (r : TypeRegistry) (d e : ComponentDescriptor) (t : RegisteredType) :
    (r.pin d t).get? e = if e = d then some ((r.get? d).getD t) else r.get? e := by
  unfold pin
  cases h : r.get? d with
  | some _ => by_cases he : e = d <;> simp [he, h]
  | none => simp [get?]

end TypeRegistry

end EntityLog
