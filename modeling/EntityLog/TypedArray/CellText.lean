import EntityLog.Number.Shortest
import EntityLog.TypedArray.Basic
import EntityLog.TypedArray.Error

namespace EntityLog

/-- Floating point as text: of half precision as its single precision neighbour is written. -/
def FloatType.writeWith (t : FloatType) (layout : FloatLayout) (bits : Nat) : String :=
  match t with
  | .half => layout.write .single (FloatType.single.decode (t.convert .single bits))
  | t => layout.write t (t.decode bits)

def FloatType.cellText (t : FloatType) (bits : Nat) : String := t.writeWith (.cell t) bits

def hexByte (b : UInt8) : List Char :=
  [Text.hexDigit (b.toNat / 16), Text.hexDigit (b.toNat % 16)]

def hexText (bytes : List UInt8) : String := String.ofList (bytes.flatMap hexByte)

def readZone (name : String) : Except ArrayError Zone := (Zone.read name).mapError .stamp

namespace TemporalType

def moment? (t : TemporalType) (value : Int) : Option Moment :=
  let moment := match t with
    | date32 => ⟨86400 * value, 0⟩
    | date64 => .ofCount .millisecond value
    | time64 | duration _ => ⟨0, 0⟩
    | timestamp unit _ => .ofCount unit value
  if moment.isDated then some moment else none

def clock? (value : Int) : Option Clock :=
  let second := (value.tdiv 1000000000) % pow2 32
  let nano := value.tmod 1000000000
  if second < 86400 ∧ 0 ≤ nano then some ⟨second.toNat, nano.toNat⟩ else none

def maxSpan : Int := 9223372036854775

def durationText (unit : TimeUnit) (value : Int) : String :=
  let beyond : Bool := match unit with
    | .second => maxSpan < value.natAbs
    | .millisecond => value = -pow2 63
    | _ => false
  if beyond then "<invalid>" else spanText unit value

def cellText (t : TemporalType) (value : Int) : Except ArrayError String :=
  let dated (write : Moment → String) : Except ArrayError String :=
    match t.moment? value with
    | some moment => .ok (write moment)
    | none => .error (.undated value t)
  match t with
  | date32 => dated (·.date.text)
  | date64 => dated (·.text "T")
  | time64 =>
    match clock? value with
    | some clock => .ok clock.text
    | none => .error (.undated value time64)
  | timestamp _ none => dated (·.text "T")
  | timestamp _ (some name) => do
    let zone ← readZone name
    dated (·.zonedText zone)
  | duration unit => .ok (durationText unit value)

def checkZone : TemporalType → Except ArrayError Unit
  | timestamp _ (some name) => discard (readZone name)
  | _ => .ok ()

end TemporalType

mutual

def DataType.checkZones : DataType → Except ArrayError Unit
  | .flat (.temporal t) => t.checkZone
  | .flat _ => .ok ()
  | .list _ ⟨_, t, _, _⟩ => t.checkZones
  | .fixedList _ ⟨_, t, _, _⟩ => t.checkZones
  | .struct fields => Field.checkZones fields
  | .dictionary _ value => value.checkZones
  | .runEnd _ ⟨_, t, _, _⟩ => t.checkZones
  | .union .. | .map .. => .ok ()

def Field.checkZones : List Field → Except ArrayError Unit
  | [] => .ok ()
  | ⟨_, t, _, _⟩ :: fields => do
    t.checkZones
    Field.checkZones fields

end

def DataType.decoded : DataType → DataType
  | .dictionary _ value => value.decoded
  | .runEnd _ ⟨_, t, _, _⟩ => t.decoded
  | t => t

def DataType.itemType : DataType → DataType
  | .list _ item | .fixedList _ item => item.type
  | t => t

mutual

def Element.write (type : DataType) : Element → Except ArrayError String
  | .null => .ok ""
  | .boolean b => .ok (if b then "true" else "false")
  | .integer i =>
    match type.decoded with
    | .flat (.temporal t) => t.cellText i
    | _ => .ok (toString i)
  | .float bits =>
    match type.decoded with
    | .flat (.float t) => .ok (t.cellText bits)
    | _ => .ok (toString bits)
  | .text s => .ok s
  | .bytes b => .ok (hexText b)
  | .list items => do
    let items ← Element.writeAll type.decoded.itemType items
    return "[" ++ ", ".intercalate items ++ "]"
  | .struct items => do
    let columns ← Element.writeFields type.decoded.columns items
    return "\x7b" ++ ", ".intercalate columns ++ "\x7d"

def Element.writeAll (type : DataType) : List Element → Except ArrayError (List String)
  | [] => .ok []
  | e :: es => do
    let text ← e.write type
    return text :: (← Element.writeAll type es)

def Element.writeFields (fields : List Field) : List Element → Except ArrayError (List String)
  | [] => .ok []
  | e :: es =>
    match fields with
    | [] => .ok []
    | f :: fields => do
      let text ← e.write f.type
      return (f.name ++ ": " ++ text) :: (← Element.writeFields fields es)

end

end EntityLog
