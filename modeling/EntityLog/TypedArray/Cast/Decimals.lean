import EntityLog.Fault
import EntityLog.TypedArray.CellText
import EntityLog.TypedArray.Error
import EntityLog.TypedArray.Flat

namespace EntityLog

abbrev CastResult := Except (Failure ArrayError)

namespace FlatArray

def mapCells {α β ε : Type} (f : α → Except ε β) : List (Option α) → Except ε (List (Option β))
  | [] => .ok []
  | none :: cells => (none :: ·) <$> mapCells f cells
  | some a :: cells => do
    let b ← f a
    let rest ← mapCells f cells
    return some b :: rest

end FlatArray

def IntegerType.narrow (t : IntegerType) (shown : String) (i : Int) : Except ArrayError Int :=
  if t.holds i then .ok i else .error (.valueOutOfRange shown t)

def product (i factor : Int) : Except ArrayError Int :=
  if IntegerType.int64.holds (i * factor) then .ok (i * factor) else .error (.overflow i factor)

namespace FloatValue

def powerFrom (base power : FloatValue) (k : Nat) : Nat → FloatValue
  | 0 => power
  | fuel + 1 =>
    let power := if k % 2 = 1 then (power.mul base).rounded .double else power
    if k / 2 = 0 then power else powerFrom ((base.mul base).rounded .double) power (k / 2) fuel

def inverse : FloatValue → FloatValue
  | .finite negative mantissa exponent =>
    let (num, den) := inUnits 1 mantissa exponent
    FloatType.double.decode (FloatType.double.round negative num den)
  | v => v

def tenTo (exponent : Int) : FloatValue :=
  let power := powerFrom (.finite false 10 0) (.finite false 1 0) exponent.natAbs 8
  if exponent < 0 then power.inverse else power

end FloatValue

namespace FlatArray

def toDecimals {α : Type} (precision scale : Int) (convert : α → Except ArrayError Int)
    (cells : List (Option α)) : Except ArrayError FlatArray := do
  let values ← mapCells (fun a => do
    let value ← convert a
    (Fixed.checkValue precision scale value).mapError .fixed) cells
  (Fixed.checkType precision scale).mapError .fixed
  return decimals precision scale values

def integersToDecimals (precision scale : Int) (cells : List (Option Int)) :
    Except ArrayError FlatArray :=
  let factor := pow10 scale.natAbs
  if Fixed.holds factor then
    toDecimals precision scale (fun i =>
      if scale < 0 then .ok (i.tdiv factor)
      else if Fixed.holds (i * factor) then .ok (i * factor)
      else .error (.overflow i factor)) cells
  else .error (.fixed (.scaleOverflow precision scale))

def floatsToDecimals (source : FloatType) (precision scale : Int) (cells : List (Option Nat)) :
    Except ArrayError FlatArray :=
  toDecimals precision scale (fun bits =>
    match (((FloatValue.tenTo scale).mul (source.decode bits)).rounded .double).roundAway with
    | some value =>
      if Fixed.holds value then .ok value
      else .error (.fixed (.notFixed precision scale (source.writeWith .debug bits)))
    | none => .error (.fixed (.notFixed precision scale (source.writeWith .debug bits)))) cells

def textsToDecimals (precision scale : Int) (cells : List (Option String)) :
    Except ArrayError FlatArray :=
  if scale < 0 then .error (.fixed (.negativeScale scale))
  else if 38 < scale then .error (.fixed .textScale)
  else toDecimals precision scale (fun text =>
    match Fixed.read scale.toNat text with
    | some value => .ok value
    | none => .error (.fixed (.notDecimal text))) cells

end FlatArray

end EntityLog
