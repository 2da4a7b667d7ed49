import EntityLog.Number.Binary

/-!
Decimal text of floating point. The digits are the fewest that read back as the same pattern, and
of those the nearest to the value. A layout says which of two nearest ones counts, and how the
digits are written.
-/

namespace EntityLog

structure Decimal where
  digits : Nat
  exponent : Int
  deriving DecidableEq

/-- Twice the bounds of the values that round to a pattern, in quarters of its last place. -/
structure Neighbourhood where
  low : Nat
  value : Nat
  high : Nat
  closed : Bool

/-- Half way to either neighbour, in quarters of the last place. Below a power of two the
neighbours are twice as close. -/
def FloatType.neighbourhood (t : FloatType) (mantissa : Nat) (exponent : Int) : Neighbourhood where
  low := if mantissa = pow2 t.fractionBits ∧ t.minExponent < exponent then 4 * mantissa - 1
    else 4 * mantissa - 2
  value := 4 * mantissa
  high := 4 * mantissa + 2
  closed := mantissa % 2 = 0

def Neighbourhood.holds (n : Neighbourhood) (unit place : Int) (digits : Nat) : Bool :=
  let (point, scale) := inUnits (if 0 ≤ place then digits * pow10 place.toNat else digits)
    (if 0 ≤ place then 1 else pow10 (-place).toNat) unit
  if n.closed then n.low * scale ≤ point && point ≤ n.high * scale
  else n.low * scale < point && point < n.high * scale

def Neighbourhood.quotient (n : Neighbourhood) (unit place : Int) : Nat × Nat :=
  let (num, den) := inUnits n.value 1 (-unit)
  if 0 ≤ place then (num, den * pow10 place.toNat) else (num * pow10 (-place).toNat, den)

inductive DecimalTie
  | up
  | even
  deriving DecidableEq

def DecimalTie.goesDown (tie : DecimalTie) (whole rest den : Nat) : Bool :=
  2 * rest < den || tie = .even && 2 * rest = den && whole % 2 = 0

def Neighbourhood.onGrid (n : Neighbourhood) (tie : DecimalTie) (unit place : Int) : Option Nat :=
  let (num, den) := n.quotient unit place
  let below := num / den
  let nearest :=
    if tie.goesDown below (num % den) den then [below, below + 1] else [below + 1, below]
  nearest.find? fun digits => digits ≠ 0 ∧ n.holds unit place digits

def Neighbourhood.search (n : Neighbourhood) (tie : DecimalTie) (unit : Int) : Nat → Int → Decimal
  | 0, place => let (num, den) := n.quotient unit place; ⟨num / den, place⟩
  | fuel + 1, place =>
    match n.onGrid tie unit place with
    | some digits => ⟨digits, place⟩
    | none => n.search tie unit fuel (place - 1)

def FloatType.shortest (t : FloatType) (tie : DecimalTie) (mantissa : Nat) (exponent : Int) :
    Decimal :=
  if mantissa = 0 then ⟨0, 0⟩
  else
    let magnitude : Int := (mantissa.log2 : Int) + 1 + exponent
    (t.neighbourhood mantissa exponent).search tie (exponent - 2) 24
      (magnitude * 30103 / 100000 + 1)

structure FloatLayout where
  tie : DecimalTie
  least : Option Int
  greatest : Option Int
  zeroBehindPoint : Bool

def FloatLayout.plain : FloatLayout := ⟨.up, none, none, false⟩

def FloatLayout.debug : FloatLayout := ⟨.up, some (-4), some 15, true⟩

def FloatLayout.cell : FloatType → FloatLayout
  | .half => .plain
  | .single => ⟨.even, some (-6), some 12, true⟩
  | .double => ⟨.even, some (-5), some 15, true⟩

def FloatLayout.isPositional (l : FloatLayout) (scientific : Int) : Bool :=
  l.least.all (· ≤ scientific) && l.greatest.all (scientific ≤ ·)

def Decimal.positional (d : Decimal) (zeroBehindPoint : Bool) : String :=
  let digits := Nat.toDigits 10 d.digits
  let whole := if zeroBehindPoint then ['.', '0'] else []
  if 0 ≤ d.exponent then
    String.ofList (digits ++ List.replicate d.exponent.toNat '0' ++ whole)
  else
    let places := (-d.exponent).toNat
    let padded := List.replicate (places + 1 - digits.length) '0' ++ digits
    let point := padded.length - places
    String.ofList (padded.take point ++ ['.'] ++ padded.drop point)

def Decimal.scientific (d : Decimal) : String :=
  let digits := Nat.toDigits 10 d.digits
  let exponent := d.exponent + digits.length - 1
  let fraction := digits.drop 1
  String.ofList (digits.take 1 ++ (if fraction.isEmpty then [] else '.' :: fraction)) ++ "e" ++
    toString exponent

def FloatLayout.write (l : FloatLayout) (t : FloatType) : FloatValue → String
  | .nan => "NaN"
  | .infinite negative => if negative then "-inf" else "inf"
  | .finite negative mantissa exponent =>
    let d := t.shortest l.tie mantissa exponent
    let scientific := d.exponent + (Nat.toDigits 10 d.digits).length - 1
    (if negative then "-" else "") ++
      (if l.isPositional scientific then d.positional l.zeroBehindPoint else d.scientific)

def floatText (bits : Nat) : String := FloatLayout.plain.write .double (FloatType.double.decode bits)

end EntityLog
