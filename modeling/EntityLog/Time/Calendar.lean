import EntityLog.Number.Read

/-!
Days of the calendar, and their number counted from the first day of 1970. Years run on before year
one, with a year zero. A year is taken to start in March, so that the leap day comes last.
-/

namespace EntityLog

structure Date where
  year : Int
  month : Nat
  day : Nat
  deriving DecidableEq

def padded (width n : Nat) : String :=
  let digits := Nat.toDigits 10 n
  String.ofList (List.replicate (width - digits.length) '0' ++ digits)

namespace Date

def minYear : Int := -262143

def maxYear : Int := 262142

def isLeapYear (year : Int) : Bool := year % 4 = 0 && (year % 100 ≠ 0 || year % 400 = 0)

def daysInMonth (year : Int) (month : Nat) : Nat :=
  if month = 2 then (if isLeapYear year then 29 else 28)
  else if [4, 6, 9, 11].contains month then 30
  else 31

def hasYear (year : Int) : Bool := minYear ≤ year && year ≤ maxYear

def ofParts? (year : Int) (month day : Nat) : Option Date :=
  if hasYear year ∧ 1 ≤ month ∧ month ≤ 12 ∧ 1 ≤ day ∧ day ≤ daysInMonth year month then
    some ⟨year, month, day⟩
  else none

def daysBefore (year : Int) : Int := 365 * year + year / 4 - year / 100 + year / 400

def daysToMonth (month : Nat) : Nat := (153 * month + 2) / 5

def dayNumber (d : Date) : Int :=
  if d.month ≤ 2 then daysBefore (d.year - 1) + daysToMonth (d.month + 9) + d.day - 719469
  else daysBefore d.year + daysToMonth (d.month - 3) + d.day - 719469

def ofDayNumber (n : Int) : Date :=
  let era := (n + 719468) / 146097
  let day := ((n + 719468) % 146097).toNat
  let year := (day - day / 1460 + day / 36524 - day / 146096) / 365
  let day := day - (365 * year + year / 4 - year / 100)
  let month := (5 * day + 2) / 153
  let day := day - daysToMonth month + 1
  if month < 10 then ⟨400 * era + year, month + 3, day⟩
  else ⟨400 * era + year + 1, month - 9, day⟩

def yearText (year : Int) : String :=
  if 0 ≤ year ∧ year ≤ 9999 then padded 4 year.toNat
  else (if year < 0 then "-" else "+") ++ padded 4 year.natAbs

def text (d : Date) : String := yearText d.year ++ "-" ++ padded 2 d.month ++ "-" ++ padded 2 d.day

end Date

end EntityLog
