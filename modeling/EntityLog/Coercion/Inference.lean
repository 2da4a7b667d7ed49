import EntityLog.Coercion.Refusal

namespace EntityLog

inductive Numeric
  | bool
  | int
  | uint
  | float
  deriving DecidableEq

def Numeric.rank : Numeric → Nat
  | bool => 0
  | int => 1
  | uint => 2
  | float => 3

def Numeric.promote (a b : Numeric) : Numeric := if a.rank ≤ b.rank then b else a

inductive Inferred
  | unknown
  | numeric (kind : Numeric)
  | text
  | bytes
  | list (items : Inferred)
  deriving DecidableEq

namespace Inferred

def display : Inferred → String
  | unknown => "null"
  | numeric .bool => "bool"
  | numeric .int => "int"
  | numeric .uint => "unsigned int"
  | numeric .float => "float"
  | text => "string"
  | bytes => "bytes"
  | list _ => "list"

def merge : Inferred → Inferred → Except Refusal Inferred
  | unknown, b => .ok b
  | a, unknown => .ok a
  | numeric a, numeric b => .ok (numeric (a.promote b))
  | text, text => .ok text
  | bytes, bytes => .ok bytes
  | list a, list b => list <$> merge a b
  | a, b => .error (.mixed a.display b.display)

mutual

def ofValue : Value → Except Refusal Inferred
  | .null => .ok unknown
  | .bool _ => .ok (numeric .bool)
  | .int _ => .ok (numeric .int)
  | .uint _ => .ok (numeric .uint)
  | .float _ => .ok (numeric .float)
  | .text _ => .ok text
  | .bytes _ => .ok bytes
  | .list items => list <$> ofValues unknown items
  | .tensor _ => .error (.nestedInList .tensor)
  | .array _ => .error (.nestedInList .array)

def ofValues (known : Inferred) : List Value → Except Refusal Inferred
  | [] => .ok known
  | v :: vs => do
    let found ← ofValue v
    let known ← known.merge found
    ofValues known vs

end

def type : Inferred → Except Refusal DataType
  | unknown => .error .onlyNulls
  | numeric .bool => .ok .boolean
  | numeric .int => .ok .int64
  | numeric .uint => .ok .uint64
  | numeric .float => .ok .float64
  | text => .ok .utf8
  | bytes => .ok (.binary .regular)
  | list items => DataType.listOf <$> items.type

end Inferred

def inferType (values : List Value) : Except Refusal DataType := do
  let found ← Inferred.ofValues .unknown values
  found.type

end EntityLog
