import EntityLog.Number.Read

namespace EntityLog

inductive FixedError
  | scaleOverflow (precision scale : Int)
  | notFixed (precision scale : Int) (shown : String)
  | notDecimal (text : String)
  | negativeScale (scale : Int)
  | textScale
  | maxPrecision (precision : Int)
  | tooLarge (value precision scale : Int)
  | tooSmall (value precision scale : Int)
  | noPrecision
  | precisionBeyond (precision : Int)
  | scaleBeyond (scale : Int)
  | scaleAbove (precision scale : Int)
  deriving DecidableEq

namespace Fixed

def holds (i : Int) : Bool := -pow2 127 ≤ i && i < pow2 127

def pointed (scale : Int) (digits : List Char) : List Char :=
  let places := scale.toNat
  if scale = 0 then digits
  else if scale < 0 then digits ++ List.replicate scale.natAbs '0'
  else if places < digits.length then
    digits.take (digits.length - places) ++ '.' :: digits.drop (digits.length - places)
  else '0' :: '.' :: List.replicate (places - digits.length) '0' ++ digits

def text (scale value : Int) : String :=
  (if value < 0 then "-" else "") ++ String.ofList (pointed scale (Nat.toDigits 10 value.natAbs))

def largestText (precision scale : Int) : String :=
  String.ofList (pointed scale (List.replicate precision.toNat '9'))

def checkValue (precision scale value : Int) : Except FixedError Int :=
  if 38 < precision then .error (.maxPrecision precision)
  else if pow10 precision.toNat ≤ value then .error (.tooLarge value precision scale)
  else if value ≤ -pow10 precision.toNat then .error (.tooSmall value precision scale)
  else .ok value

def checkType (precision scale : Int) : Except FixedError Unit :=
  if precision = 0 then .error .noPrecision
  else if 38 < precision then .error (.precisionBeyond precision)
  else if 38 < scale then .error (.scaleBeyond scale)
  else if precision < scale then .error (.scaleAbove precision scale)
  else .ok ()

def readDigits (digits : List Char) : Option Nat :=
  match leadingDigits digits 0 0 with
  | (value, _ + 1, []) => some value
  | _ => none

/-- Digits beyond the scale are rounded away, a half upwards; there may be 76 of them. -/
def readPlaces (scale : Nat) (whole places : List Char) : Option Nat :=
  if places.length ≤ scale then
    readDigits (whole ++ places ++ List.replicate (scale - places.length) '0')
  else do
    let value ← readDigits places
    let whole ← if whole.isEmpty then some 0 else readDigits whole
    let unit := pow10 (places.length - scale)
    if pow2 255 ≤ value ∨ pow2 255 ≤ whole ∨ 76 < places.length - scale then none
    else some (whole * pow10 scale + (2 * value + unit) / (2 * unit))

def read (scale : Nat) (text : String) : Option Int := do
  let chars := Text.trimmed text.toList
  let (negative, unsigned) := leadingSign chars
  let whole := unsigned.takeWhile (· ≠ '.')
  let value ← match unsigned.dropWhile (· ≠ '.') with
    | [] => readPlaces scale whole []
    | _ :: places => readPlaces scale whole places
  let value : Int := if negative then -value else value
  if holds value then some value else none

end Fixed

def FixedError.message : FixedError → String
  | scaleOverflow precision scale =>
    "Cannot cast to \"Decimal128\"(" ++ toString precision ++ ", " ++ toString scale ++
      "). The scale causes overflow."
  | notFixed precision scale shown =>
    "Cannot cast to Decimal128(" ++ toString precision ++ ", " ++ toString scale ++
      "). Overflowing on " ++ shown
  | notDecimal text => "Cannot cast string '" ++ text ++ "' to value of Decimal128(38, 10) type"
  | negativeScale scale => "Cannot cast string to decimal with negative scale " ++ toString scale
  | textScale => "Cannot cast string to decimal greater than maximum scale 38"
  | maxPrecision precision => "Max precision of a Decimal128 is 38, but got " ++ toString precision
  | tooLarge value precision scale =>
    Fixed.text scale value ++ " is too large to store in a Decimal128 of precision " ++
      toString precision ++ ". Max is " ++ Fixed.largestText precision scale
  | tooSmall value precision scale =>
    Fixed.text scale value ++ " is too small to store in a Decimal128 of precision " ++
      toString precision ++ ". Min is " ++ (if precision = 0 then "" else "-") ++
        Fixed.largestText precision scale
  | noPrecision => "precision cannot be 0, has to be between [1, 38]"
  | precisionBeyond precision => "precision " ++ toString precision ++ " is greater than max 38"
  | scaleBeyond scale => "scale " ++ toString scale ++ " is greater than max 38"
  | scaleAbove precision scale =>
    "scale " ++ toString scale ++ " is greater than precision " ++ toString precision

end EntityLog
