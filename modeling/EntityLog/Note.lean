namespace EntityLog

inductive Severity
  | error
  | warn
  | info
  | debug
  | trace
  deriving DecidableEq

namespace Severity

def rank : Severity → Nat
  | error => 0
  | warn => 1
  | info => 2
  | debug => 3
  | trace => 4

def display : Severity → String
  | error => "ERROR"
  | warn => "WARN"
  | info => "INFO"
  | debug => "DEBUG"
  | trace => "TRACE"

end Severity

structure Note where
  severity : Severity
  text : String
  deriving DecidableEq

def Note.upTo (s : Severity) (notes : List Note) : List Note :=
  notes.filter (·.severity.rank ≤ s.rank)

end EntityLog
