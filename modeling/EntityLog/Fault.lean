import EntityLog.Schema.DataType

/-!
Requests that cannot be met. They are no errors that anything reports: they end the run.
-/

namespace EntityLog

inductive Fault
  | noEmptyArray (type : DataType)
  | refusedUnion (type : DataType)
  | noNulls (type : DataType)
  | negativeSize (size : Int)
  | itemOverflow (room count : Nat)
  | tooManyKeys (count : Nat)
  | timeOverflow
  | countOverflow
  deriving DecidableEq

inductive Failure (ε : Type)
  | error (cause : ε)
  | fault (fault : Fault)
  deriving DecidableEq

def Failure.mapError {ε δ : Type} (rename : ε → δ) : Failure ε → Failure δ
  | .error cause => .error (rename cause)
  | .fault f => .fault f

def Failure.split {ε α : Type} : Except (Failure ε) α → Except Fault (Except ε α)
  | .ok a => .ok (.ok a)
  | .error (.error cause) => .ok (.error cause)
  | .error (.fault f) => .error f

def Failure.ofFault {ε α : Type} (result : Except Fault α) : Except (Failure ε) α :=
  result.mapError .fault

def reporting {ε α : Type} (result : Except ε α) : Except (Failure ε) α :=
  result.mapError .error

end EntityLog
