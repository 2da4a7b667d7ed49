import EntityLog.Schema.DataType
import EntityLog.TypedArray.Element

namespace EntityLog

/-- The bytes in front of and behind the cells, in the block that the cells are cut from. -/
structure Margins where
  before : List UInt8 := []
  after : List UInt8 := []
  deriving DecidableEq

def cellBytes (cells : List (Option (List UInt8))) : List UInt8 := cells.flatMap (·.getD [])

def Margins.slice (m : Margins) (cells : List (Option (List UInt8))) (offset length : Nat) :
    Margins where
  before := m.before ++ cellBytes (cells.take offset)
  after := cellBytes (cells.drop (offset + length)) ++ m.after

inductive FlatArray
  | nulls (length : Nat)
  | booleans (cells : List (Option Bool))
  | integers (type : IntegerType) (cells : List (Option Int))
  | floats (type : FloatType) (cells : List (Option Nat))
  | texts (layout : Layout) (cells : List (Option String))
  | binaries (layout : Layout) (margins : Margins) (cells : List (Option (List UInt8)))
  | fixedBinaries (size : Int) (cells : List (Option (List UInt8)))
  | decimals (precision scale : Int) (cells : List (Option Int))
  | temporals (type : TemporalType) (cells : List (Option Int))
  deriving DecidableEq

namespace FlatArray

def type : FlatArray → FlatType
  | nulls _ => .null
  | booleans _ => .boolean
  | integers t _ => .integer t
  | floats t _ => .float t
  | texts l _ => .text l
  | binaries l _ _ => .binary l
  | fixedBinaries n _ => .fixedBinary n
  | decimals p s _ => .decimal p s
  | temporals t _ => .temporal t

def elements : FlatArray → List Element
  | nulls n => List.replicate n .null
  | booleans cells => cells.map (·.elim .null .boolean)
  | integers _ cells => cells.map (·.elim .null .integer)
  | floats _ cells => cells.map (·.elim .null .float)
  | texts _ cells => cells.map (·.elim .null .text)
  | binaries _ _ cells => cells.map (·.elim .null .bytes)
  | fixedBinaries _ cells => cells.map (·.elim .null .bytes)
  | decimals _ _ cells => cells.map (·.elim .null .integer)
  | temporals _ cells => cells.map (·.elim .null .integer)

def length : FlatArray → Nat
  | nulls n => n
  | booleans cells => cells.length
  | integers _ cells => cells.length
  | floats _ cells => cells.length
  | texts _ cells => cells.length
  | binaries _ _ cells => cells.length
  | fixedBinaries _ cells => cells.length
  | decimals _ _ cells => cells.length
  | temporals _ cells => cells.length

def slice (offset length : Nat) : FlatArray → FlatArray
  | nulls n => nulls (min length (n - offset))
  | booleans cells => booleans ((cells.drop offset).take length)
  | integers t cells => integers t ((cells.drop offset).take length)
  | floats t cells => floats t ((cells.drop offset).take length)
  | texts l cells => texts l ((cells.drop offset).take length)
  | binaries l m cells =>
    binaries l (m.slice cells offset length) ((cells.drop offset).take length)
  | fixedBinaries n cells => fixedBinaries n ((cells.drop offset).take length)
  | decimals p s cells => decimals p s ((cells.drop offset).take length)
  | temporals t cells => temporals t ((cells.drop offset).take length)

def bare : FlatArray → FlatArray
  | binaries l _ cells => binaries l {} cells
  | a => a

def append : FlatArray → FlatArray → FlatArray
  | nulls m, nulls n => nulls (m + n)
  | booleans as, booleans bs => booleans (as ++ bs)
  | integers t as, integers _ bs => integers t (as ++ bs)
  | floats t as, floats _ bs => floats t (as ++ bs)
  | texts l as, texts _ bs => texts l (as ++ bs)
  | binaries l _ as, binaries _ _ bs => binaries l {} (as ++ bs)
  | fixedBinaries n as, fixedBinaries _ bs => fixedBinaries n (as ++ bs)
  | decimals p s as, decimals _ _ bs => decimals p s (as ++ bs)
  | temporals t as, temporals _ bs => temporals t (as ++ bs)
  | a, _ => a

def ofElements (elements : List Element) : FlatType → FlatArray
  | .null => nulls elements.length
  | .boolean => booleans (elements.map fun | .boolean b => some b | _ => none)
  | .integer t => integers t (elements.map fun | .integer i => some i | _ => none)
  | .float t => floats t (elements.map fun | .float bits => some bits | _ => none)
  | .text l => texts l (elements.map fun | .text s => some s | _ => none)
  | .binary l => binaries l {} (elements.map fun | .bytes b => some b | _ => none)
  | .fixedBinary n => fixedBinaries n (elements.map fun | .bytes b => some b | _ => none)
  | .decimal p s => decimals p s (elements.map fun | .integer i => some i | _ => none)
  | .temporal t => temporals t (elements.map fun | .integer i => some i | _ => none)

@[simp] theorem type_ofElements (elements : List Element) (t : FlatType) :
    (ofElements elements t).type = t := by
  cases t <;> rfl

@[simp] theorem type_slice (a : FlatArray) (offset length : Nat) :
    (a.slice offset length).type = a.type := by
  cases a <;> rfl

end FlatArray

end EntityLog
