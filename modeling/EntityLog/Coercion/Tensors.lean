import EntityLog.Coercion.Refusal

namespace EntityLog

def natOfBytes : List UInt8 → Nat
  | [] => 0
  | b :: bs => b.toNat + 256 * natOfBytes bs

def IntegerType.ofPattern (t : IntegerType) (n : Nat) : Int :=
  if t.isSigned ∧ pow2 (8 * t.width - 1) ≤ n then (n : Int) - pow2 (8 * t.width) else n

def chunks {α : Type} (size : Nat) : Nat → List α → List (List α)
  | 0, _ => []
  | _, [] => []
  | count + 1, as => as.take size :: chunks size count (as.drop size)

namespace Tensor

/-- The patterns of the elements, if the bytes are as many as the shape asks for and start where
elements of their width may. -/
def patterns (t : Tensor) : Except (Failure Refusal) (List Nat) := do
  let count ← Failure.ofFault t.count
  let some width := t.native.width | throw (.error (.tensorOf t.native))
  let needed ← Failure.ofFault (word count width)
  if t.bytes.length ≠ needed then throw (.error (.tensorBytes t.shape needed t.bytes.length))
  if t.address % width ≠ 0 then throw (.error .tensorAddress)
  return (chunks width count t.bytes).map natOfBytes

def flatArray (t : Tensor) : Except (Failure Refusal) FlatArray := do
  let patterns ← t.patterns
  match t.native with
  | .integer type => return .integers type (patterns.map fun n => some (type.ofPattern n))
  | .float type => return .floats type (patterns.map some)
  | native => throw (.error (.tensorOf native))

def scalars (t : Tensor) : Except (Failure Refusal) (List Value) := do
  let patterns ← t.patterns
  match t.native with
  | .integer type =>
    return patterns.map fun n =>
      if type.isSigned then .int (type.ofPattern n) else .uint n
  | .float type => return patterns.map (.ofFloat type)
  | native => throw (.error (.tensorOf native))

def fold (shape : List Nat) : List Nat → List Value → Except Refusal (List Value)
  | [], values => .ok values
  | dim :: dims, values =>
    if dim = 0 then .error (.tensorShape shape)
    else fold shape dims ((chunks dim values.length values).map .list)

def values (t : Tensor) : Except (Failure Refusal) (List Value) := do
  let scalars ← t.scalars
  reporting (fold t.shape (t.shape.drop 1).reverse scalars)

end Tensor

end EntityLog
