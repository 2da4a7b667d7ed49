import EntityLog.Coercion.Refusal

namespace EntityLog

namespace Value

def toInt64 : Value → Except Refusal Int
  | bool b => .ok (if b then 1 else 0)
  | int i => .ok i
  | uint u => if IntegerType.int64.holds u then .ok u else .error (.outOfRange u .int64)
  | float bits =>
    match (FloatType.double.decode bits).toInt? with
    | some i => if IntegerType.int64.holds i then .ok i else .error (.notWhole bits)
    | none => .error (.notWhole bits)
  | v => .error (.notA .integer v.kind)

def toUInt64 : Value → Except Refusal Int
  | uint u => .ok u
  | v => do
    let i ← v.toInt64
    if i < 0 then .error (.negative i) else .ok i

def toInteger (t : IntegerType) (v : Value) : Except Refusal Int := do
  let i ← if t.isSigned then v.toInt64 else v.toUInt64
  if t.holds i then .ok i else .error (.outOfRange i t)

def toFloat : Value → Except Refusal Nat
  | bool b => .ok (FloatType.double.ofInt (if b then 1 else 0))
  | int i => .ok (FloatType.double.ofInt i)
  | uint u => .ok (FloatType.double.ofInt u)
  | float bits => .ok bits
  | v => .error (.notA .number v.kind)

def toBool : Value → Except Refusal Bool
  | bool b => .ok b
  | v => .error (.notA .bool v.kind)

def toText : Value → Except Refusal String
  | text s => .ok s
  | bytes b => (Text.Utf8.decode b).mapError .malformedText
  | v => .error (.notA .text v.kind)

def toBytes : Value → Except Refusal (List UInt8)
  | text s => .ok (Text.Utf8.encode s)
  | bytes b => .ok b
  | v => .error (.notA .bytes v.kind)

end Value

def buildCells {α : Type} (convert : Value → Except Refusal α) :
    List Value → Except Refusal (List (Option α))
  | [] => .ok []
  | .null :: vs => (none :: ·) <$> buildCells convert vs
  | v :: vs => do
    let cell ← convert v
    (some cell :: ·) <$> buildCells convert vs

def buildNulls : List Value → Except Refusal Nat
  | [] => .ok 0
  | .null :: vs => (· + 1) <$> buildNulls vs
  | v :: _ => .error (.notA .null v.kind)

def buildFlat (values : List Value) : FlatType → Except Refusal FlatArray
  | .null => .nulls <$> buildNulls values
  | .boolean => .booleans <$> buildCells Value.toBool values
  | .integer t => .integers t <$> buildCells (Value.toInteger t) values
  | .float t =>
    .floats t <$> buildCells (fun v => FloatType.double.castBits t <$> v.toFloat) values
  | .text .regular => .texts .regular <$> buildCells Value.toText values
  | .text .large => .texts .large <$> buildCells Value.toText values
  | .binary .regular => .binaries .regular {} <$> buildCells Value.toBytes values
  | .binary .large => .binaries .large {} <$> buildCells Value.toBytes values
  | t => .error (.notBuildable (.flat t))

/-- Which values are lists and how long, and all their items. A null stands for a list of `size`
nulls, or for an empty one. -/
def splitLists (size : Option Nat) : List Value → Except Refusal (List Slot × List Value)
  | [] => .ok ([], [])
  | .null :: vs => do
    let length := size.getD 0
    let (slots, items) ← splitLists size vs
    return (⟨length, false⟩ :: slots, List.replicate length .null ++ items)
  | .list own :: vs => do
    if let some size := size then
      if own.length ≠ size then throw (.listLength size own.length)
    let (slots, items) ← splitLists size vs
    return (⟨own.length, true⟩ :: slots, own ++ items)
  | v :: _ => .error (.notA .list v.kind)

def checkLengths : ListWidth → List Nat → Except Refusal Unit
  | .regular, lengths => if lengths.any (int32Max < ·) then .error .sizeTooLarge else .ok ()
  | .large, _ => .ok ()

def checkBounds : ListWidth → List Nat → Except ArrayError Unit
  | .regular, lengths => (listBounds (lengths.map Int.ofNat)).map fun _ => ()
  | .large, _ => .ok ()

def buildArray (values : List Value) : DataType → Except Refusal TypedArray
  | .flat t => .flat <$> buildFlat values t
  | .list w ⟨name, type, nullable, metadata⟩ => do
    let (slots, items) ← splitLists none values
    checkLengths w (slots.map Slot.length)
    let items ← buildArray items type
    (checkBounds w (slots.map Slot.length)).mapError .array
    (TypedArray.tryLists w ⟨name, type, nullable, metadata⟩ 0 (slots.map Slot.length)
      (maskOf (slots.map Slot.valid)) items).mapError .array
  | .fixedList size ⟨name, type, nullable, metadata⟩ => do
    if size < 0 then throw .negativeSize
    let (slots, items) ← splitLists (some size.toNat) values
    let items ← buildArray items type
    (TypedArray.tryFixedLists size ⟨name, type, nullable, metadata⟩
      (maskOf (slots.map Slot.valid)) items).mapError .array
  | type => .error (.notBuildable type)

end EntityLog
