import EntityLog.Number.Binary

namespace EntityLog

namespace Text

def isSpace (c : Char) : Bool :=
  ('\t' ≤ c && c ≤ '\r') || c = ' ' || c = '\x85' || c = '\xa0' || c = '\u1680' ||
    ('\u2000' ≤ c && c ≤ '\u200a') || c = '\u2028' || c = '\u2029' || c = '\u202f' ||
    c = '\u205f' || c = '\u3000'

def trimmedStart (chars : List Char) : List Char := chars.dropWhile isSpace

def trimmed (chars : List Char) : List Char := (trimmedStart (trimmedStart chars).reverse).reverse

end Text

def digitValue (c : Char) : Option Nat :=
  if '0' ≤ c ∧ c ≤ '9' then some (c.toNat - '0'.toNat) else none

def leadingDigits : List Char → Nat → Nat → Nat × Nat × List Char
  | [], value, count => (value, count, [])
  | c :: rest, value, count =>
    match digitValue c with
    | some d => leadingDigits rest (10 * value + d) (count + 1)
    | none => (value, count, c :: rest)

def leadingSign : List Char → Bool × List Char
  | '-' :: rest => (true, rest)
  | '+' :: rest => (false, rest)
  | chars => (false, chars)

def readInt (text : String) : Option Int :=
  let (negative, chars) := leadingSign text.toList
  match leadingDigits chars 0 0 with
  | (value, _ + 1, []) => some (if negative then -value else value)
  | _ => none

def readNonFinite (negative : Bool) (chars : List Char) : Option FloatValue :=
  match String.ofList (chars.map Char.toLower) with
  | "nan" => some .nan
  | "inf" | "infinity" => some (.infinite negative)
  | _ => none

def readExponent : List Char → Option Int
  | [] => some 0
  | c :: rest =>
    if c = 'e' ∨ c = 'E' then
      let (negative, chars) := leadingSign rest
      match leadingDigits chars 0 0 with
      | (value, _ + 1, []) => some (if negative then -value else value)
      | _ => none
    else none

/-- Exponents beyond this bound decide the value whatever the digits, up to their number. -/
def exponentBound (count : Nat) : Int := 400 + count

def FloatType.read (t : FloatType) (text : String) : Option Nat :=
  let (negative, chars) := leadingSign text.toList
  match readNonFinite negative chars with
  | some value => some (t.encode value)
  | none =>
    let (whole, wholeCount, rest) := leadingDigits chars 0 0
    let (value, count, places, rest) :=
      match rest with
      | '.' :: rest =>
        let (value, fractionCount, rest) := leadingDigits rest whole 0
        (value, wholeCount + fractionCount, fractionCount, rest)
      | rest => (whole, wholeCount, 0, rest)
    if count = 0 then none
    else (readExponent rest).map fun exponent =>
      let bound := exponentBound count
      let exponent := max (-bound) (min bound exponent) - places
      if 0 ≤ exponent then t.round negative (value * pow10 exponent.toNat) 1
      else t.round negative value (pow10 (-exponent).toNat)

end EntityLog
