/-!
Binary floating point of 16, 32 and 64 bits, held as bit patterns. A pattern decodes to an exact
value `± mantissa · 2 ^ exponent`; encoding rounds an exact quotient to the nearest pattern, a tie
to the even one.
-/

namespace EntityLog

def pow2 (k : Nat) : Nat := Nat.pow 2 k

def pow10 (k : Nat) : Nat := Nat.pow 10 k

@[simp] theorem pow2_zero : pow2 0 = 1 := rfl

theorem pow2_succ (k : Nat) : pow2 (k + 1) = pow2 k * 2 := rfl

theorem pow2_pos (k : Nat) : 0 < pow2 k := Nat.two_pow_pos k

theorem pow2_add (j k : Nat) : pow2 (j + k) = pow2 j * pow2 k := Nat.pow_add 2 j k

inductive FloatType
  | half
  | single
  | double
  deriving DecidableEq

namespace FloatType

def fractionBits : FloatType → Nat
  | half => 10
  | single => 23
  | double => 52

def exponentBits : FloatType → Nat
  | half => 5
  | single => 8
  | double => 11

def width : FloatType → Nat
  | half => 2
  | single => 4
  | double => 8

def minExponent (t : FloatType) : Int :=
  2 - pow2 (t.exponentBits - 1) - t.fractionBits

def infinity (t : FloatType) : Nat := (pow2 t.exponentBits - 1) * pow2 t.fractionBits

def quietNaN (t : FloatType) : Nat := t.infinity + pow2 (t.fractionBits - 1)

def signBit (t : FloatType) : Nat := pow2 (t.fractionBits + t.exponentBits)

end FloatType

inductive FloatValue
  | nan
  | infinite (negative : Bool)
  | finite (negative : Bool) (mantissa : Nat) (exponent : Int)
  deriving DecidableEq

def FloatType.decode (t : FloatType) (bits : Nat) : FloatValue :=
  let negative := t.signBit ≤ bits
  let magnitude := bits % t.signBit
  let field := magnitude / pow2 t.fractionBits
  let fraction := magnitude % pow2 t.fractionBits
  if t.infinity < magnitude then .nan
  else if magnitude = t.infinity then .infinite negative
  else if field = 0 then .finite negative fraction t.minExponent
  else .finite negative (pow2 t.fractionBits + fraction) (t.minExponent + field - 1)

def inUnits (num den : Nat) (exponent : Int) : Nat × Nat :=
  if 0 ≤ exponent then (num, den * pow2 exponent.toNat) else (num * pow2 (-exponent).toNat, den)

def roundEven (num den : Nat) : Nat :=
  let whole := num / den
  let rest := 2 * (num % den)
  if rest < den ∨ rest = den ∧ whole % 2 = 0 then whole else whole + 1

def FloatType.lastPlace (t : FloatType) (num den : Nat) : Int :=
  let guess : Int := (num.log2 : Int) - den.log2 - (t.fractionBits + 1)
  let (n, d) := inUnits num den guess
  max t.minExponent (if n < d * pow2 (t.fractionBits + 1) then guess else guess + 1)

def FloatType.round (t : FloatType) (negative : Bool) (num den : Nat) : Nat :=
  let exponent := t.lastPlace num den
  let (n, d) := inUnits num den exponent
  let magnitude :=
    if num = 0 then 0
    else min t.infinity
      ((exponent - t.minExponent).toNat * pow2 t.fractionBits + roundEven n d)
  if negative then t.signBit + magnitude else magnitude

def FloatType.encode (t : FloatType) : FloatValue → Nat
  | .nan => t.quietNaN
  | .infinite negative => if negative then t.signBit + t.infinity else t.infinity
  | .finite negative mantissa exponent =>
    if 0 ≤ exponent then t.round negative (mantissa * pow2 exponent.toNat) 1
    else t.round negative mantissa (pow2 (-exponent).toNat)

def FloatType.convert (source target : FloatType) (bits : Nat) : Nat :=
  if source = target then bits else target.encode (source.decode bits)

def FloatType.ofInt (t : FloatType) (i : Int) : Nat := t.round (i < 0) i.natAbs 1

namespace FloatValue

def rounded (t : FloatType) (v : FloatValue) : FloatValue := t.decode (t.encode v)

def mul : FloatValue → FloatValue → FloatValue
  | .finite s m e, .finite t n f => .finite (s != t) (m * n) (e + f)
  | .infinite s, .infinite t => .infinite (s != t)
  | .infinite s, .finite t m _ | .finite t m _, .infinite s =>
    if m = 0 then .nan else .infinite (s != t)
  | _, _ => .nan

def truncate : FloatValue → Option Int
  | .finite negative mantissa exponent =>
    let magnitude :=
      if 0 ≤ exponent then mantissa * pow2 exponent.toNat else mantissa / pow2 (-exponent).toNat
    some (if negative then -magnitude else magnitude)
  | _ => none

def toInt? : FloatValue → Option Int
  | .finite negative mantissa exponent =>
    if exponent < 0 ∧ mantissa % pow2 (-exponent).toNat ≠ 0 then none
    else (FloatValue.finite negative mantissa exponent).truncate
  | _ => none

def roundAway : FloatValue → Option Int
  | .finite negative mantissa exponent =>
    let magnitude :=
      if 0 ≤ exponent then mantissa * pow2 exponent.toNat
      else (2 * mantissa + pow2 (-exponent).toNat) / pow2 ((-exponent).toNat + 1)
    some (if negative then -magnitude else magnitude)
  | _ => none

def isZero : FloatValue → Bool
  | .finite _ mantissa _ => mantissa = 0
  | _ => false

end FloatValue

end EntityLog
