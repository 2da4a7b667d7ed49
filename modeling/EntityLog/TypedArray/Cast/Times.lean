import EntityLog.TypedArray.Cast.Decimals

namespace EntityLog

def rescale (source target : TimeUnit) (count : Int) : Except ArrayError Int :=
  if source.perSecond < target.perSecond then product count (target.perSecond / source.perSecond)
  else .ok (count.tdiv (source.perSecond / target.perSecond))

def placeInZone (unit : TimeUnit) (zone : Zone) (count : Int) : CastResult Int :=
  let shown := Moment.ofCount unit count
  let moment := shown.shift (-zone.ahead)
  if !shown.isDated then .error (.error .zoneOutOfRange)
  else if !moment.isDated then .error (.fault .timeOverflow)
  else if IntegerType.int64.holds (moment.count unit) then .ok (moment.count unit)
  else .error (.error .zoneOutOfRange)

namespace FlatArray

def placeAll (unit : TimeUnit) (name : String) (cells : List (Option Int)) :
    CastResult (List (Option Int)) := do
  let zone ← reporting (readZone name)
  mapCells (placeInZone unit zone) cells

def timestamps (unit : TimeUnit) (zone : Option String) (cells : List (Option Int)) : FlatArray :=
  temporals (.timestamp unit zone) cells

def toTimestamps (unit : TimeUnit) (zone : Option String) (cells : List (Option Int)) :
    CastResult FlatArray :=
  match zone with
  | none => .ok (timestamps unit zone cells)
  | some name => timestamps unit zone <$> placeAll unit name cells

def timestampsToTimestamps (source target : TimeUnit) (sourceZone targetZone : Option String)
    (cells : List (Option Int)) : CastResult FlatArray := do
  let cells ← reporting (mapCells (rescale source target) cells)
  match sourceZone with
  | none => toTimestamps target targetZone cells
  | some _ => return timestamps target targetZone cells

def localMoments (unit : TimeUnit) (zone : Option String) (undated : Int → ArrayError)
    (convert : Moment → Int) (cells : List (Option Int)) :
    Except ArrayError (List (Option Int)) := do
  let zone ← match zone with
    | none => .ok .utc
    | some name => readZone name
  mapCells (fun count =>
    let moment := Moment.ofCount unit count
    if moment.isDated then .ok (convert (moment.shift zone.ahead)) else .error (undated count)) cells

def castTimestamps (unit : TimeUnit) (zone : Option String) (cells : List (Option Int)) :
    TemporalType → Option (CastResult FlatArray)
  | .timestamp target targetZone =>
    some (timestampsToTimestamps unit target zone targetZone cells)
  | .date32 =>
    some (reporting (temporals .date32 <$>
      localMoments unit zone (.noDate unit) (·.date.dayNumber) cells))
  | .date64 =>
    some (reporting (temporals .date64 <$> mapCells (rescale unit .millisecond) cells))
  | .time64 =>
    some (reporting (temporals .time64 <$>
      localMoments unit zone (.noTimeOfDay unit)
        (fun m => 1000000000 * (m.clock.second : Int) + m.clock.nano) cells))
  | .duration _ => none

def datesToTimestamps (source target : TimeUnit) (factor : Int) (zone : Option String)
    (cells : List (Option Int)) : CastResult FlatArray := do
  let cells ← mapCells (fun v =>
    (rescale source target (factor * v)).mapError fun _ => Failure.fault .timeOverflow) cells
  toTimestamps target zone cells

def castDates32 (cells : List (Option Int)) : TemporalType → Option (CastResult FlatArray)
  | .date64 => some (.ok (temporals .date64 (cells.map (Option.map (86400000 * ·)))))
  | .timestamp unit zone => some (datesToTimestamps .second unit 86400 zone cells)
  | _ => none

/-- Day numbers wrap around at 32 bits. -/
def castDates64 (cells : List (Option Int)) : TemporalType → Option (CastResult FlatArray)
  | .date32 =>
    some (.ok (temporals .date32
      (cells.map (Option.map fun v => (v.tdiv 86400000).bmod (pow2 32)))))
  | .timestamp unit zone => some (datesToTimestamps .millisecond unit 1 zone cells)
  | _ => none

def castBetweenTimes (source : TemporalType) (cells : List (Option Int)) (target : TemporalType) :
    Option (CastResult FlatArray) :=
  if source = target then some (.ok (temporals source cells))
  else match source, target with
    | .timestamp unit zone, target => castTimestamps unit zone cells target
    | .date32, target => castDates32 cells target
    | .date64, target => castDates64 cells target
    | .duration unit, .duration unit' =>
      some (reporting (temporals target <$> mapCells (rescale unit unit') cells))
    | _, _ => none

def integersToTimes (source : IntegerType) (cells : List (Option Int)) (target : TemporalType) :
    Option (Except ArrayError FlatArray) :=
  match target, source with
  | .timestamp .., _ | .duration .., _ =>
    some (temporals target <$> mapCells (fun i => IntegerType.int64.narrow (toString i) i) cells)
  | .date32, .int32 | .date64, .int64 | .time64, .int64 => some (.ok (temporals target cells))
  | .date32, .int64 =>
    some (temporals target <$> mapCells (fun i => IntegerType.int32.narrow (toString i) i) cells)
  | .date64, .int32 => some (.ok (temporals target (cells.map (Option.map (86400000 * ·)))))
  | _, _ => none

end FlatArray

end EntityLog
