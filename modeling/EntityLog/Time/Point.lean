import EntityLog.Schema.DataType

namespace EntityLog

inductive TimeType
  | sequence
  | duration
  | timestamp
  deriving DecidableEq

namespace TimeType

def display : TimeType → String
  | sequence => "sequence"
  | duration => "duration"
  | timestamp => "timestamp"

def rank : TimeType → Nat
  | sequence => 0
  | duration => 1
  | timestamp => 2

end TimeType

abbrev TimelineName := String

def TimelineName.logTime : TimelineName := "log_time"

def TimelineName.logTick : TimelineName := "log_tick"

structure Timeline where
  name : TimelineName
  type : TimeType
  deriving DecidableEq

namespace Timeline

def logTime : Timeline := ⟨.logTime, .timestamp⟩

def logTick : Timeline := ⟨.logTick, .sequence⟩

instance : Ord Timeline where
  compare a b := (compare a.name b.name).then (compare a.type.rank b.type.rank)

end Timeline

def int64Min : Int := IntegerType.int64.minValue

def int64Max : Int := IntegerType.int64.maxValue

def clampInt64 (i : Int) : Int := max int64Min (min int64Max i)

/-- Nanoseconds, rounded twice: the product to a 64-bit pattern, then to the nearest integer, a
half away from zero. What no integer of 64 bits holds is clamped; not-a-number counts as zero. -/
def nanosOfSeconds (seconds : Nat) : Int :=
  match FloatType.double.decode seconds with
  | .nan => 0
  | .infinite negative => if negative then int64Min else int64Max
  | .finite negative mantissa exponent =>
    let nanos := FloatType.double.encode (.finite negative (mantissa * pow10 9) exponent)
    match FloatType.double.decode nanos with
    | .infinite negative => if negative then int64Min else int64Max
    | value => clampInt64 (value.roundAway.getD 0)

structure TimeCell where
  type : TimeType
  value : Int
  deriving DecidableEq

namespace TimeCell

def ofSequence (value : Int) : TimeCell := ⟨.sequence, value⟩

def ofDurationSeconds (seconds : Nat) : TimeCell := ⟨.duration, nanosOfSeconds seconds⟩

def ofTimestampSeconds (seconds : Nat) : TimeCell := ⟨.timestamp, nanosOfSeconds seconds⟩

end TimeCell

structure TimePoint where
  cells : Entries TimelineName TimeCell
  deriving DecidableEq

namespace TimePoint

def empty : TimePoint := ⟨[]⟩

def get? (p : TimePoint) (name : TimelineName) : Option TimeCell := p.cells.get? name

def insert (p : TimePoint) (name : TimelineName) (cell : TimeCell) : TimePoint :=
  ⟨p.cells.insert name cell⟩

def erase (p : TimePoint) (name : TimelineName) : TimePoint := ⟨p.cells.erase name⟩

def merge (p q : TimePoint) : TimePoint :=
  q.cells.foldl (fun p (name, cell) => p.insert name cell) p

def isStatic (p : TimePoint) : Bool := p.cells.isEmpty

def names (p : TimePoint) : List TimelineName := p.cells.keys

end TimePoint

end EntityLog
