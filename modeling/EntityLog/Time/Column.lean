import EntityLog.Time.Point
import EntityLog.TypedArray.Lists

namespace EntityLog

namespace TimeType

def type : TimeType → DataType
  | sequence => .int64
  | duration => .temporal (.duration .nanosecond)
  | timestamp => .temporal (.timestamp .nanosecond none)

def toArray (times : List Int) : TimeType → TypedArray
  | sequence => .flat (.integers .int64 (times.map some))
  | duration => .flat (.temporals (.duration .nanosecond) (times.map some))
  | timestamp => .flat (.temporals (.timestamp .nanosecond none) (times.map some))

end TimeType

inductive TimeColumnError
  | unsupportedType (timeline : TimelineName) (type : DataType)
  | containsNulls (timeline : TimelineName)
  | outOfRange (timeline : TimelineName) (value : Int)
  deriving DecidableEq

def TimeColumnError.message : TimeColumnError → String
  | unsupportedType timeline type =>
    "Timeline '" ++ timeline ++ "' has unsupported datatype " ++ type.display ++
      ", expected an integer, timestamp or duration array"
  | containsNulls timeline =>
    "Timeline '" ++ timeline ++ "' contains nulls, which is not supported"
  | outOfRange timeline value =>
    "Timeline '" ++ timeline ++ "' contains the value " ++ toString value ++
      ", which doesn't fit in an i64"

structure TimeColumn where
  timeline : Timeline
  times : List Int
  deriving DecidableEq

namespace TimeColumn

def name (c : TimeColumn) : TimelineName := c.timeline.name

def rowCount (c : TimeColumn) : Nat := c.times.length

def toArray (c : TimeColumn) : TypedArray := c.timeline.type.toArray c.times

def present (cells : List (Option Int)) : List Int := cells.filterMap id

def scaled (unit : TimeUnit) (cells : List (Option Int)) : List Int :=
  (present cells).map fun v => clampInt64 (v * unit.nanos)

/-- Integers of 32 and 64 bits are sequences; timestamps and durations keep their meaning in
nanoseconds. Nulls are told before a type that is not supported. -/
def read (name : TimelineName) (a : TypedArray) : Except TimeColumnError TimeColumn :=
  if 0 < a.markedNulls then .error (.containsNulls name)
  else match a with
  | .flat (.integers .int64 cells) | .flat (.integers .int32 cells)
  | .flat (.integers .uint32 cells) => .ok ⟨⟨name, .sequence⟩, present cells⟩
  | .flat (.integers .uint64 cells) =>
    match (present cells).find? (int64Max < ·) with
    | some value => .error (.outOfRange name value)
    | none => .ok ⟨⟨name, .sequence⟩, present cells⟩
  | .flat (.temporals (.timestamp unit _) cells) => .ok ⟨⟨name, .timestamp⟩, scaled unit cells⟩
  | .flat (.temporals (.duration unit) cells) => .ok ⟨⟨name, .duration⟩, scaled unit cells⟩
  | a => .error (.unsupportedType name a.type)

end TimeColumn

end EntityLog
