import EntityLog.Coercion.Inference
import EntityLog.Coercion.Build
import EntityLog.Coercion.Tensors
import EntityLog.TypedArray.Empty
import EntityLog.Note

/-!
Turning a loosely typed value into an array, of a given type or of one that suits it. Strategies are
tried in order; why one failed is kept, but only the failure of the last resort counts.
-/

namespace EntityLog

abbrev CoercionResult := Except (Failure CoercionError) TypedArray

def convertError {α : Type} (target : Option DataType) (result : Except (Failure Refusal) α) :
    Except (Failure CoercionError) α :=
  result.mapError (Failure.mapError (.cannotConvert target))

def castTo (target : DataType) (a : TypedArray) : CoercionResult :=
  (a.cast target).mapError (Failure.mapError fun cause =>
    .cannotConvert (some target) (.array cause))

namespace Strategy

def fromTensor (value : Value) (target : Option DataType) : CoercionResult :=
  match value with
  | .tensor t => do
    let cells ← convertError target t.flatArray
    match target with
    | none => return .flat cells
    | some type =>
      if (TypedArray.flat cells).type = type then return .flat cells
      else if type.isNested then throw (.error (.cannotConvert target .tensorIsFlat))
      else castTo type (.flat cells)
  | v => .error (.error (.notApplicable .tensor v.kind))

def fromText (value : Value) (target : Option DataType) : CoercionResult :=
  let one (a : FlatArray) : CoercionResult := .ok (.flat a)
  match value, target with
  | .text s, none | .text s, some (.flat (.text .regular)) => one (.texts .regular [some s])
  | .text s, some (.flat (.text .large)) => one (.texts .large [some s])
  | .text s, some (.flat (.binary .regular)) =>
    one (.binaries .regular {} [some (Text.Utf8.encode s)])
  | .text s, some (.flat (.binary .large)) => one (.binaries .large {} [some (Text.Utf8.encode s)])
  | .bytes b, none | .bytes b, some (.flat (.binary .regular)) => one (.binaries .regular {} [some b])
  | .bytes b, some (.flat (.binary .large)) => one (.binaries .large {} [some b])
  | .bytes b, some (.flat (.text .regular)) => do
    let s ← convertError target (reporting (Value.bytes b).toText)
    one (.texts .regular [some s])
  | .bytes b, some (.flat (.text .large)) => do
    let s ← convertError target (reporting (Value.bytes b).toText)
    one (.texts .large [some s])
  | .text _, some type => .error (.error (.cannotConvert target (.notA (.type type) .text)))
  | .bytes _, some type => .error (.error (.cannotConvert target (.notA (.type type) .bytes)))
  | v, _ => .error (.error (.notApplicable .text v.kind))

def scalarType : Value → Option DataType
  | .bool _ => some .boolean
  | .int _ => some .int64
  | .uint _ => some .uint64
  | .float _ => some .float64
  | _ => none

def fromScalar (value : Value) (target : Option DataType) : CoercionResult :=
  match scalarType value with
  | some own => convertError (some (target.getD own)) (reporting (buildArray [value] (target.getD own)))
  | none => .error (.error (.notApplicable .scalar value.kind))

def run : Strategy → Value → Option DataType → CoercionResult
  | tensor => fromTensor
  | text => fromText
  | scalar => fromScalar

end Strategy

def itemsOf (value : Value) (target : Option DataType) :
    Except (Failure CoercionError) (List Value) :=
  match value with
  | .list items => .ok items
  | .tensor t => convertError target t.values
  | v => .ok [v]

def fromItems (value : Value) (target : Option DataType) : CoercionResult := do
  let items ← itemsOf value target
  let type ← match target with
    | some type => pure type
    | none => convertError none (reporting (inferType items))
  convertError (some type) (reporting (buildArray items type))

structure Coercion where
  attempts : List (Strategy × CoercionError)
  result : CoercionResult

def Coercion.notes (c : Coercion) : List Note :=
  c.attempts.map fun (s, cause) => ⟨.trace, s.display ++ " coercion failed: " ++ cause.message⟩

def tryStrategies (value : Value) (target : Option DataType) : List Strategy → Coercion
  | [] => ⟨[], fromItems value target⟩
  | s :: rest =>
    match s.run value target with
    | .error (.error cause) =>
      let later := tryStrategies value target rest
      ⟨(s, cause) :: later.attempts, later.result⟩
    | result => ⟨[], result⟩

/-- Nothing at all, as opposed to something without content. -/
def Value.isNothing : Value → Bool
  | null => true
  | list items => items.isEmpty
  | _ => false

/-- A value as an array of the target's type, or of its own. Arrays are cast, nothing becomes an
array without cells, and the rest is up to the strategies. -/
def coerce (value : Value) (target : Option DataType) : Coercion :=
  match value, target with
  | .array a, none => ⟨[], .ok a⟩
  | .array a, some type => ⟨[], if a.type = type then .ok a else castTo type a⟩
  | v, some type =>
    if v.isNothing then ⟨[], (TypedArray.emptyDeep type).mapError .fault⟩
    else tryStrategies v (some type) [.tensor, .text, .scalar]
  | v, none => tryStrategies v none [.tensor, .text, .scalar]

end EntityLog
