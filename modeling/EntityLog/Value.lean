import EntityLog.TypedArray.Cast

namespace EntityLog

inductive NativeType
  | boolean
  | integer (type : IntegerType)
  | float (type : FloatType)
  | text
  | binary
  deriving DecidableEq

namespace NativeType

def all : List NativeType :=
  [.boolean, .integer .int8, .integer .int16, .integer .int32, .integer .int64, .integer .uint8,
    .integer .uint16, .integer .uint32, .integer .uint64, .float .half, .float .single,
    .float .double, .text, .binary]

def rank (t : NativeType) : Nat := all.idxOf t

def type : NativeType → DataType
  | boolean => .boolean
  | integer t => .integer t
  | float t => .float t
  | text => .utf8
  | binary => .binary .regular

def display (t : NativeType) : String := t.type.display

def ofName? (name : String) : Option NativeType := all.find? (·.display = name)

def debug : NativeType → String
  | boolean => "Bool"
  | t => t.display

def width : NativeType → Option Nat
  | integer t => some t.width
  | float t => some t.width
  | _ => none

def ofType : DataType → Option NativeType
  | .flat .boolean => some .boolean
  | .flat (.integer t) => some (.integer t)
  | .flat (.float t) => some (.float t)
  | .flat (.text .regular) | .flat (.text .large) => some .text
  | .flat (.binary .regular) | .flat (.binary .large) => some .binary
  | .list _ ⟨_, t, _, _⟩ => ofType t
  | .fixedList _ ⟨_, t, _, _⟩ => ofType t
  | _ => none

end NativeType

structure Tensor where
  bytes : List UInt8
  native : NativeType
  shape : List Nat
  /-- Where the block starts, counted from an address that suits every type. -/
  address : Nat := 0
  deriving DecidableEq

namespace Tensor

def word (m n : Nat) : Except Fault Nat :=
  if m * n < pow2 64 then .ok (m * n) else .error .countOverflow

def count (t : Tensor) : Except Fault Nat := t.shape.foldlM word 1

def ofIntegers (type : IntegerType) (values : List Int) (shape : List Nat) : Tensor :=
  { bytes := values.flatMap type.bytes, native := .integer type, shape }

def floatBytes (type : FloatType) (bits : Nat) : List UInt8 :=
  (List.range type.width).map fun k => UInt8.ofNat (bits / pow2 (8 * k) % 256)

def ofFloats (type : FloatType) (values : List Nat) (shape : List Nat) : Tensor :=
  { bytes := values.flatMap (floatBytes type), native := .float type, shape }

end Tensor

inductive Value
  | null
  | bool (value : Bool)
  | int (value : Int)
  | uint (value : Nat)
  | float (bits : Nat)
  | text (value : String)
  | bytes (value : List UInt8)
  | list (items : List Value)
  | tensor (tensor : Tensor)
  | array (array : TypedArray)

inductive ValueKind
  | null
  | bool
  | int
  | uint
  | float
  | text
  | bytes
  | list
  | tensor
  | array
  deriving DecidableEq

def ValueKind.display : ValueKind → String
  | null => "null"
  | bool => "bool"
  | int => "int"
  | uint => "unsigned int"
  | float => "float"
  | text => "string"
  | bytes => "bytes"
  | list => "list"
  | tensor => "tensor"
  | array => "arrow array"

namespace Value

def ofFloat (type : FloatType) (bits : Nat) : Value := .float (type.convert .double bits)

def kind : Value → ValueKind
  | null => .null
  | bool _ => .bool
  | int _ => .int
  | uint _ => .uint
  | float _ => .float
  | text _ => .text
  | bytes _ => .bytes
  | list _ => .list
  | tensor _ => .tensor
  | array _ => .array

def isEmpty : Value → Except Fault Bool
  | null => .ok true
  | bool _ | int _ | uint _ | float _ => .ok false
  | text s => .ok s.isEmpty
  | bytes b => .ok b.isEmpty
  | list items => .ok items.isEmpty
  | tensor t => t.count.map (· = 0)
  | array a => .ok a.isEmpty

def isNull : Value → Bool
  | null => true
  | _ => false

end Value

end EntityLog
