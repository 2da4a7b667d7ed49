import EntityLog.Schema.DataType
import EntityLog.Time.Calendar

namespace EntityLog

structure Clock where
  second : Nat
  nano : Nat
  deriving DecidableEq

namespace Clock

def ofParts? (hour minute second nano : Nat) : Option Clock :=
  if second = 60 then
    if hour < 24 ∧ minute < 60 then some ⟨3600 * hour + 60 * minute + 59, nano + 1000000000⟩ else none
  else if hour < 24 ∧ minute < 60 ∧ second < 60 then some ⟨3600 * hour + 60 * minute + second, nano⟩
  else none

def fractionText (nano : Nat) : String :=
  if nano = 0 then ""
  else if nano % 1000000 = 0 then "." ++ padded 3 (nano / 1000000)
  else if nano % 1000 = 0 then "." ++ padded 6 (nano / 1000)
  else "." ++ padded 9 nano

def text (c : Clock) : String :=
  padded 2 (c.second / 3600) ++ ":" ++ padded 2 (c.second / 60 % 60) ++ ":" ++
    padded 2 (c.second % 60 + c.nano / 1000000000) ++ fractionText (c.nano % 1000000000)

end Clock

structure Zone where
  ahead : Int
  deriving DecidableEq

namespace Zone

def utc : Zone := ⟨0⟩

def ofDigits? (sign : Char) (digits : List Char) : Option Zone := do
  let digits ← digits.mapM digitValue
  let seconds ← match digits with
    | [a, b, c, d] => some (3600 * (10 * a + b) + 60 * (10 * c + d))
    | [a, b] => some (3600 * (10 * a + b))
    | _ => none
  if 86400 ≤ seconds then none
  else if sign = '+' then some ⟨seconds⟩
  else if sign = '-' then some ⟨-seconds⟩
  else none

def ofText? (text : String) : Option Zone :=
  match text.toList with
  | [sign, a, b, ':', c, d] => ofDigits? sign [a, b, c, d]
  | sign :: digits => ofDigits? sign digits
  | [] => none

def text (z : Zone) : String :=
  let minutes := z.ahead.natAbs / 60
  if z.ahead = 0 then "Z"
  else (if z.ahead < 0 then "-" else "+") ++ padded 2 (minutes / 60) ++ ":" ++ padded 2 (minutes % 60)

end Zone

def TimeUnit.perSecond (u : TimeUnit) : Int := 1000000000 / u.nanos

structure Moment where
  second : Int
  nano : Nat
  deriving DecidableEq

namespace Moment

def ofCount (unit : TimeUnit) (count : Int) : Moment :=
  ⟨count / unit.perSecond, (count % unit.perSecond * unit.nanos).toNat⟩

def count (unit : TimeUnit) (m : Moment) : Int :=
  match unit with
  | .second => m.second
  | unit => m.second * unit.perSecond + m.nano / unit.nanos

def ofLocal (date : Date) (clock : Clock) (zone : Zone) : Moment :=
  ⟨date.dayNumber * 86400 + clock.second - zone.ahead, clock.nano⟩

def shift (m : Moment) (seconds : Int) : Moment := { m with second := m.second + seconds }

def date (m : Moment) : Date := .ofDayNumber (m.second / 86400)

def clock (m : Moment) : Clock := ⟨(m.second % 86400).toNat, m.nano⟩

def isDated (m : Moment) : Bool := Date.hasYear m.date.year

def text (m : Moment) (between : String) : String := m.date.text ++ between ++ m.clock.text

def zonedText (m : Moment) (zone : Zone) : String :=
  (m.shift zone.ahead).text "T" ++ zone.text

end Moment

def spanText (unit : TimeUnit) (count : Int) : String :=
  let nanos := count.natAbs * unit.nanos.toNat
  let fraction := (padded 9 (nanos % 1000000000)).toList.reverse.dropWhile (· = '0')
  if count = 0 then "P0D"
  else (if count < 0 then "-" else "") ++ "PT" ++ toString (nanos / 1000000000) ++
    (if fraction.isEmpty then "" else "." ++ String.ofList fraction.reverse) ++ "S"

end EntityLog
