import EntityLog.TypedArray.Cast.Decimals

namespace EntityLog

def trimmedLower (text : String) : String :=
  String.ofList (Text.trimmed (text.toList.map Char.toLower))

def readBoolean (text : String) : Except ArrayError Bool :=
  let word := trimmedLower text
  if ["t", "tr", "tru", "true", "y", "ye", "yes", "on", "1"].contains word then .ok true
  else if ["f", "fa", "fal", "fals", "false", "n", "no", "of", "off", "0"].contains word then
    .ok false
  else .error (.notBoolean word)

def IntegerType.read? (t : IntegerType) (text : String) : Option Int := (readInt text).filter t.holds

namespace FlatArray

def readAs {α : Type} (read : String → Option α) (target : FlatType) (text : String) :
    Except ArrayError α :=
  match read text with
  | some a => .ok a
  | none => .error (.notNumeric text target)

def readTime? (text : String) : Option Int :=
  match Clock.read? text with
  | some clock => some (1000000000 * clock.second + clock.nano)
  | none => IntegerType.read? .int64 text

def readTimestamp (unit : TimeUnit) (zone : Zone) (text : String) : Except ArrayError Int := do
  let moment ← (Moment.read zone text).mapError .stamp
  if IntegerType.int64.holds (moment.count unit) then return moment.count unit
  else throw (.momentOutOfRange moment)

def textsToTimes (cells : List (Option String)) (target : TemporalType) :
    Option (Except ArrayError FlatArray) :=
  let readWith (read : String → Option Int) : Except ArrayError FlatArray :=
    temporals target <$> mapCells (readAs read (.temporal target)) cells
  match target with
  | .date32 => some (readWith fun s => (Date.read? s).map Date.dayNumber)
  | .date64 => some (readWith fun s => (Moment.readDated? s).map (·.count .millisecond))
  | .time64 => some (readWith readTime?)
  | .timestamp unit zone => some do
    let zone ← zone.elim (.ok .utc) readZone
    return temporals target (← mapCells (readTimestamp unit zone) cells)
  | .duration _ => none

def castTexts (cells : List (Option String)) : FlatType → Option (Except ArrayError FlatArray)
  | .boolean => some (booleans <$> mapCells readBoolean cells)
  | .integer t => some (integers t <$> mapCells (readAs (IntegerType.read? t) (.integer t)) cells)
  | .float .half => none
  | .float t => some (floats t <$> mapCells (readAs t.read (.float t)) cells)
  | .decimal p s => some (textsToDecimals p s cells)
  | .text l => some (.ok (texts l cells))
  | .binary l => some (.ok (binaries l {} (cells.map (Option.map Text.Utf8.encode))))
  | .temporal t => textsToTimes cells t
  | _ => none

def partBounds (start : Nat) : List (List UInt8) → List Nat
  | [] => [start]
  | part :: parts => start :: partBounds (start + part.length) parts

def splitsCharacter (block : List UInt8) (offset : Nat) : Bool :=
  block[offset]?.any fun b => 0x80 ≤ b.toNat && b.toNat < 0xC0

/-- The whole block is to be text, what stands around the cells too, and no cell may start or end
inside a character. -/
def binariesToTexts (layout : Layout) (margins : Margins) (cells : List (Option (List UInt8))) :
    Except ArrayError FlatArray :=
  let parts := cells.map (·.getD [])
  let block := margins.before ++ parts.flatten ++ margins.after
  match Text.Utf8.decode block with
  | .error cause => .error (.malformedText cause)
  | .ok _ =>
    match (partBounds margins.before.length parts).find? (splitsCharacter block) with
    | some offset => .error (.splitCharacter offset)
    | none => .ok (texts layout (cells.map (Option.bind · fun b => (Text.Utf8.decode b).toOption)))

def viewsToTexts (index : Nat) :
    List (Option (List UInt8)) → Except ArrayError (List (Option String))
  | [] => .ok []
  | none :: cells => (none :: ·) <$> viewsToTexts (index + 1) cells
  | some bytes :: cells => do
    let text ← (Text.Utf8.decode bytes).mapError (.malformedCell index)
    return some text :: (← viewsToTexts (index + 1) cells)

def binariesToFixed (size : Int) (cells : List (Option (List UInt8))) : CastResult FlatArray :=
  if size < 0 then .error (.fault (.negativeSize size))
  else if cells.any (·.any (·.length ≠ size.toNat)) then .error (.error .byteCount)
  else .ok (fixedBinaries size cells)

def castBinaries (layout : Layout) (margins : Margins) (cells : List (Option (List UInt8))) :
    FlatType → Option (CastResult FlatArray)
  | .text .view =>
    if layout = .view then some (reporting (texts .view <$> viewsToTexts 0 cells))
    else some (reporting (binariesToTexts .view margins cells))
  | .text l =>
    let margins := if layout = .view then {} else margins
    some (reporting (binariesToTexts l margins cells))
  | .binary l => some (.ok (binaries l margins cells))
  | .fixedBinary size => if layout = .view then none else some (binariesToFixed size cells)
  | _ => none

end FlatArray

end EntityLog
