import EntityLog.TypedArray.Basic
import EntityLog.TypedArray.Cast.Numbers
import EntityLog.TypedArray.Cast.Texts

namespace EntityLog

namespace FlatArray

def cast? (t : FlatType) : FlatArray → Option (CastResult FlatArray)
  | nulls n => some (.ok (ofElements (List.replicate n .null) t))
  | booleans cells => reporting <$> castBooleans cells t
  | integers s cells => reporting <$> castIntegers s cells t
  | floats s cells => reporting <$> castFloats s cells t
  | texts _ cells => reporting <$> castTexts cells t
  | binaries l margins cells => castBinaries l margins cells t
  | fixedBinaries _ cells => match t with
    | .binary l => some (.ok (binaries l {} cells))
    | _ => none
  | decimals .. => none
  | temporals s cells => castTimes s cells t

end FlatArray

namespace TypedArray

def packedAs : DataType → Option FlatType
  | .flat t => match t with
    | .integer _ | .float _ | .decimal .. | .fixedBinary _ => some t
    | .text .regular | .text .large | .binary .regular | .binary .large => some t
    | .temporal .date32 => some (.integer .int32)
    | .temporal .date64 | .temporal .time64 | .temporal (.timestamp ..) => some (.integer .int64)
    | _ => none
  | _ => none

def packInto (source : TypedArray) (convert : FlatType → CastResult TypedArray)
    (key value : DataType) : CastResult TypedArray :=
  match key.integer?, packedAs value with
  | none, _ => .error (.error (.notKeyed source.type (.dictionary key value)))
  | some _, none => .error (.error (.notPackable value))
  | some keyType, some packed => do
    let cells ← convert packed
    let (keys, distinct) := pack cells.rows
    if keyType.maxValue + 1 < distinct.length then throw (.error .keyOverflow)
    return dictionaries key keys (.ofElements distinct value)

def select (keys : List (Option Nat)) (values : TypedArray) : TypedArray :=
  .ofElements (lookUp keys values.rows) values.type

def keyColumn (key : DataType) (keys : List (Option Nat)) : TypedArray :=
  .ofElements (keys.map (·.elim .null (.integer ·))) key

def runStops (index : Nat) : List Element → List Nat
  | [] => []
  | [_] => [index + 1]
  | a :: b :: rest =>
    if a = b then runStops (index + 1) (b :: rest)
    else (index + 1) :: runStops (index + 1) (b :: rest)

def encodeRuns (source : TypedArray) (convert : CastResult TypedArray) (ends values : Field) :
    CastResult TypedArray :=
  match ends.type.integer?.filter IntegerType.countsRuns with
  | none => .error (.error (.notEncodable source.type (.runEnd ends values)))
  | some t => do
    let decoded ← convert
    match (runStops 0 decoded.rows).find? (fun stop : Nat => !t.holds (stop : Int)) with
    | some stop => throw (.error (.runTooLong stop))
    | none =>
      return runEnds ⟨"run_ends", ends.type, false, []⟩ ⟨"values", decoded.type, true, []⟩ decoded

end TypedArray

end EntityLog
