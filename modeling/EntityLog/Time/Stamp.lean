import EntityLog.Number.Read
import EntityLog.Text.Utf8
import EntityLog.Time.Moment

namespace EntityLog

inductive StampPart
  | length
  | date
  | separator
  | time
  deriving DecidableEq

inductive StampError
  | malformed (text : String) (part : StampPart)
  | unknownZone (name : String)
  deriving DecidableEq

def StampPart.message : StampPart → String
  | length => "timestamp must contain at least 10 characters"
  | date => "error parsing date"
  | separator => "invalid timestamp separator"
  | time => "error parsing time"

def StampError.message : StampError → String
  | malformed text part => "Error parsing timestamp from '" ++ text ++ "': " ++ part.message
  | unknownZone name =>
    "Invalid timezone \"" ++ name ++
      "\": only offset based timezones supported without chrono-tz feature"

def Zone.read (name : String) : Except StampError Zone :=
  match Zone.ofText? name with
  | some zone => .ok zone
  | none => .error (.unknownZone name)

namespace Stamp

def digitAt (bytes : List UInt8) (place : Nat) : Option Nat :=
  bytes[place]?.bind fun b => digitValue (Char.ofNat b.toNat)

def isDigitAt (bytes : List UInt8) (place : Nat) : Bool := (digitAt bytes place).isSome

def isAt (bytes : List UInt8) (place : Nat) (c : Char) : Bool :=
  bytes[place]?.any (·.toNat = c.toNat)

def digitPlaces (bytes : List UInt8) (first count : Nat) : List Nat :=
  (List.range' first count).filter (isDigitAt bytes)

def numberAt (bytes : List UInt8) (places : List Nat) : Nat :=
  places.foldl (fun n place => 10 * n + (digitAt bytes place).getD 0) 0

def dateAt (bytes : List UInt8) (month day : List Nat) : Option Date :=
  Date.ofParts? (numberAt bytes [0, 1, 2, 3]) (numberAt bytes month) (numberAt bytes day)

def nanosAt (bytes : List UInt8) (places : List Nat) : Nat :=
  let counted := places.take 9
  numberAt bytes counted * pow10 (9 - counted.length)

def date? (bytes : List UInt8) : Option Date :=
  if digitPlaces bytes 0 10 = [0, 1, 2, 3, 5, 6, 8, 9] ∧ isAt bytes 4 '-' ∧ isAt bytes 7 '-' then
    dateAt bytes [5, 6] [8, 9]
  else none

def clock? (bytes : List UInt8) : Option (Clock × Nat) :=
  match digitPlaces bytes 11 8 with
  | [11, 12, 14, 15, 17, 18] =>
    let clock := Clock.ofParts? (numberAt bytes [11, 12]) (numberAt bytes [14, 15])
      (numberAt bytes [17, 18])
    if !isAt bytes 13 ':' || !isAt bytes 16 ':' then none
    else if isAt bytes 19 '.' then
      let places := (List.range' 20 12).takeWhile (isDigitAt bytes)
      let more := if places.length = 12 then (bytes.drop 32).takeWhile (isDigitAt [·] 0) else []
      if places.isEmpty then none
      else (clock (nanosAt bytes places)).map ((·, 20 + places.length + more.length))
    else (clock 0).map ((·, 19))
  | [11, 12, 13, 14, 15, 16] =>
    (Clock.ofParts? (numberAt bytes [11, 12]) (numberAt bytes [13, 14]) (numberAt bytes [15, 16])
      0).map ((·, 17))
  | _ => none

end Stamp

def Moment.read (zone : Zone) (text : String) : Except StampError Moment := do
  let bytes := Text.Utf8.encode text
  if bytes.length < 10 then throw (.malformed text .length)
  let some date := Stamp.date? bytes | throw (.malformed text .date)
  if bytes.length = 10 then return .ofLocal date ⟨0, 0⟩ zone
  unless ['T', 't', ' '].any (Stamp.isAt bytes 10) do throw (.malformed text .separator)
  let some (clock, stop) := Stamp.clock? bytes | throw (.malformed text .time)
  match text.toList.drop stop with
  | [] => return .ofLocal date clock zone
  | ['z'] | ['Z'] => return .ofLocal date clock .utc
  | rest =>
    let own ← Zone.read (String.ofList (Text.trimmedStart rest))
    return .ofLocal date clock own

namespace Date

def readNat (chars : List Char) : Option Nat :=
  match leadingDigits (if chars.head? = some '+' then chars.drop 1 else chars) 0 0 with
  | (value, _ + 1, []) => some value
  | _ => none

def readSigned (negative : Bool) (chars : List Char) : Option Date :=
  match leadingDigits chars 0 0 with
  | (year, count, '-' :: rest) => do
    if count < 4 then none
    let month ← readNat (rest.takeWhile (· ≠ '-'))
    let day ← readNat ((rest.dropWhile (· ≠ '-')).drop 1)
    ofParts? (if negative then -year else year) month day
  | _ => none

/-- Up to ten bytes: eight digits, or parts with hyphens between them, month and day of one digit or
two. What stands behind a day of one digit does not count. -/
def readShort (bytes : List UInt8) : Option Date :=
  let places := Stamp.digitPlaces bytes 0 10
  let hyphens (second : Nat) (month day : List Nat) : Option Date :=
    if Stamp.isAt bytes 4 '-' ∧ Stamp.isAt bytes second '-' then Stamp.dateAt bytes month day
    else none
  if places = [0, 1, 2, 3, 4, 5, 6, 7] then
    if bytes.length = 8 then Stamp.dateAt bytes [4, 5] [6, 7] else none
  else if places = [0, 1, 2, 3, 5, 6, 8, 9] then hyphens 7 [5, 6] [8, 9]
  else if places = [0, 1, 2, 3, 5, 6, 8] then hyphens 7 [5, 6] [8]
  else if places = [0, 1, 2, 3, 5, 7, 8] then hyphens 6 [5] [7, 8]
  else if places = [0, 1, 2, 3, 5, 7] then hyphens 6 [5] [7]
  else none

def read? (text : String) : Option Date :=
  let bytes := Text.Utf8.encode text
  match text.toList with
  | '+' :: chars => readSigned false chars
  | '-' :: chars => readSigned true chars
  | _ =>
    if 10 < bytes.length then (Moment.read .utc text).toOption.map Moment.date else readShort bytes

end Date

def Moment.readDated? (text : String) : Option Moment :=
  if text.utf8ByteSize ≤ 10 then (Date.read? text).map (.ofLocal · ⟨0, 0⟩ .utc)
  else (Moment.read .utc text).toOption

namespace Clock

def hourOf (hour : Nat) : Option Bool → Option Nat
  | none => some hour
  | some afternoon =>
    if 1 ≤ hour ∧ hour ≤ 12 then some (hour % 12 + (if afternoon then 12 else 0)) else none

def half (chars : List Char) : Option Bool × List Char :=
  let front := chars.take (chars.length - 3)
  match (chars.drop (chars.length - 3)).map Char.toLower with
  | [' ', 'a', 'm'] => (some false, front)
  | [' ', 'p', 'm'] => (some true, front)
  | _ => (none, chars)

def seconds? : List Char → Option (Nat × Nat)
  | [] => some (0, 0)
  | [':', a, b] => do return (10 * (← digitValue a) + (← digitValue b), 0)
  | ':' :: a :: b :: '.' :: fraction => do
    let seconds := 10 * (← digitValue a) + (← digitValue b)
    let digits ← fraction.mapM digitValue
    if digits.isEmpty then none
    else
      let counted := digits.take 9
      some (seconds, counted.foldl (10 * · + ·) 0 * pow10 (9 - counted.length))
  | _ => none

def minutes? (half : Option Bool) (hour : Nat) : List Char → Option Clock
  | a :: b :: rest => do
    let minute := 10 * (← digitValue a) + (← digitValue b)
    let (second, nano) ← seconds? rest
    ofParts? (← hourOf hour half) minute second nano
  | _ => none

def read? (text : String) : Option Clock := do
  let (half, chars) := half text.toList
  match chars with
  | a :: ':' :: rest => minutes? half (← digitValue a) rest
  | a :: b :: ':' :: rest => minutes? half (10 * (← digitValue a) + (← digitValue b)) rest
  | _ => none

end Clock

end EntityLog
