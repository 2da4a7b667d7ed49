import EntityLog.TypedArray.Cast.Times

namespace EntityLog

/-- Half precision is reached by way of single precision. -/
def FloatType.castBits (source target : FloatType) (bits : Nat) : Nat :=
  match target with
  | .half => FloatType.single.convert .half (source.convert .single bits)
  | t => source.convert t bits

def IntegerType.bytes (t : IntegerType) (i : Int) : List UInt8 :=
  let n := (i % pow2 (8 * t.width)).toNat
  (List.range t.width).map fun k => UInt8.ofNat (n / pow2 (8 * k) % 256)

namespace FlatArray

def castIntegers (source : IntegerType) (cells : List (Option Int)) :
    FlatType → Option (Except ArrayError FlatArray)
  | .boolean => some (.ok (booleans (cells.map (Option.map (· ≠ 0)))))
  | .integer t => some (integers t <$> mapCells (fun i => t.narrow (toString i) i) cells)
  | .float t => some (.ok (floats t (cells.map (Option.map t.ofInt))))
  | .decimal p s => some (integersToDecimals p s cells)
  | .text l => some (.ok (texts l (cells.map (Option.map toString))))
  | .binary .regular => some (.ok (binaries .regular {} (cells.map (Option.map source.bytes))))
  | .binary .large => some (.ok (binaries .large {} (cells.map (Option.map source.bytes))))
  | .temporal t => integersToTimes source cells t
  | _ => none

def truncateTo (source : FloatType) (target : IntegerType) (bits : Nat) : Except ArrayError Int :=
  let shown := source.writeWith .debug bits
  match (source.decode bits).truncate with
  | some i => target.narrow shown i
  | none => .error (.valueOutOfRange shown target)

def castFloats (source : FloatType) (cells : List (Option Nat)) :
    FlatType → Option (Except ArrayError FlatArray)
  | .boolean => some (.ok (booleans (cells.map (Option.map fun b => !(source.decode b).isZero))))
  | .integer t => some (integers t <$> mapCells (truncateTo source t) cells)
  | .float t => some (.ok (floats t (cells.map (Option.map (source.castBits t)))))
  | .decimal p s => if source = .half then none else some (floatsToDecimals source p s cells)
  | .text l => some (.ok (texts l (cells.map (Option.map source.cellText))))
  | .temporal t => match t with
    | .timestamp .. | .duration .. =>
      some (temporals t <$> mapCells (truncateTo source .int64) cells)
    | _ => none
  | _ => none

def castBooleans (cells : List (Option Bool)) : FlatType → Option (Except ArrayError FlatArray)
  | .integer t => some (.ok (integers t (cells.map (Option.map fun b => if b then 1 else 0))))
  | .float t => some (.ok (floats t (cells.map (Option.map fun b => t.ofInt (if b then 1 else 0)))))
  | .text l => some (.ok (texts l (cells.map (Option.map fun b => if b then "true" else "false"))))
  | _ => none

def timesToNumbers (source : TemporalType) (cells : List (Option Int)) (target : FlatType) :
    Option (Except ArrayError FlatArray) :=
  match source, target with
  | .timestamp .., .integer _ | .timestamp .., .float _ | .timestamp .., .decimal ..
  | .duration .., .integer _ | .duration .., .float _ | .duration .., .decimal ..
  | .date64, .integer .int32 => castIntegers .int64 cells target
  | .date32, .integer .int32 | .date32, .integer .int64 | .date64, .integer .int64
  | .time64, .integer .int64 => some (.ok (ofElements ((temporals source cells).elements) target))
  | _, _ => none

def timesToTexts (source : TemporalType) (cells : List (Option Int)) (layout : Layout) :
    Except ArrayError FlatArray := do
  source.checkZone
  return texts layout (← mapCells source.cellText cells)

def castTimes (source : TemporalType) (cells : List (Option Int)) :
    FlatType → Option (CastResult FlatArray)
  | .text l => some (reporting (timesToTexts source cells l))
  | .temporal t => castBetweenTimes source cells t
  | t => reporting <$> timesToNumbers source cells t

end FlatArray

end EntityLog
