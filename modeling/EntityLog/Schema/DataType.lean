import EntityLog.Entries
import EntityLog.Number.Binary

namespace EntityLog

inductive IntegerType
  | int8
  | int16
  | int32
  | int64
  | uint8
  | uint16
  | uint32
  | uint64
  deriving DecidableEq

namespace IntegerType

def width : IntegerType → Nat
  | int8 | uint8 => 1
  | int16 | uint16 => 2
  | int32 | uint32 => 4
  | int64 | uint64 => 8

def isSigned : IntegerType → Bool
  | int8 | int16 | int32 | int64 => true
  | uint8 | uint16 | uint32 | uint64 => false

def minValue (t : IntegerType) : Int :=
  if t.isSigned then -pow2 (8 * t.width - 1) else 0

def maxValue (t : IntegerType) : Int :=
  if t.isSigned then pow2 (8 * t.width - 1) - 1 else pow2 (8 * t.width) - 1

def holds (t : IntegerType) (i : Int) : Bool := t.minValue ≤ i && i ≤ t.maxValue

/-- Signed, of two bytes or more: the types that count the cells of runs. -/
def countsRuns (t : IntegerType) : Bool := t.isSigned && 2 ≤ t.width

end IntegerType

inductive TimeUnit
  | second
  | millisecond
  | microsecond
  | nanosecond
  deriving DecidableEq

def TimeUnit.nanos : TimeUnit → Int
  | second => 1000000000
  | millisecond => 1000000
  | microsecond => 1000
  | nanosecond => 1

inductive TemporalType
  | date32
  | date64
  | time64
  | timestamp (unit : TimeUnit) (zone : Option String)
  | duration (unit : TimeUnit)
  deriving DecidableEq

inductive Layout
  | regular
  | large
  | view
  deriving DecidableEq

inductive FlatType
  | null
  | boolean
  | integer (type : IntegerType)
  | float (type : FloatType)
  | text (layout : Layout)
  | binary (layout : Layout)
  | fixedBinary (size : Int)
  | decimal (precision : Int) (scale : Int)
  | temporal (type : TemporalType)
  deriving DecidableEq

inductive ListWidth
  | regular
  | large
  deriving DecidableEq

inductive UnionMode
  | dense
  | sparse
  deriving DecidableEq

abbrev Metadata := Entries String String

mutual
inductive DataType
  | flat (type : FlatType)
  | list (width : ListWidth) (item : Field)
  | fixedList (size : Int) (item : Field)
  | struct (fields : List Field)
  | union (mode : UnionMode) (variants : List (Int × Field))
  | map (entries : Field) (sorted : Bool)
  | dictionary (key value : DataType)
  | runEnd (ends values : Field)

structure Field where
  name : String
  type : DataType
  nullable : Bool
  metadata : Metadata
end

namespace DataType

abbrev null : DataType := .flat .null

abbrev boolean : DataType := .flat .boolean

abbrev integer (t : IntegerType) : DataType := .flat (.integer t)

abbrev int64 : DataType := .integer .int64

abbrev uint64 : DataType := .integer .uint64

abbrev float (t : FloatType) : DataType := .flat (.float t)

abbrev float64 : DataType := .float .double

abbrev text (l : Layout) : DataType := .flat (.text l)

abbrev utf8 : DataType := .text .regular

abbrev binary (l : Layout) : DataType := .flat (.binary l)

abbrev temporal (t : TemporalType) : DataType := .flat (.temporal t)

end DataType

def Field.item (type : DataType) : Field := ⟨"item", type, true, []⟩

def DataType.listOf (type : DataType) : DataType := .list .regular (.item type)

def DataType.integer? : DataType → Option IntegerType
  | .flat (.integer t) => some t
  | _ => none

def DataType.columns : DataType → List Field
  | .struct fields => fields
  | _ => []

def DataType.isNested : DataType → Bool
  | flat _ => false
  | dictionary _ value => value.isNested
  | runEnd _ ⟨_, values, _, _⟩ => values.isNested
  | _ => true

mutual

def DataType.beq : DataType → DataType → Bool
  | .flat s, .flat t => s = t
  | .list w f, .list w' f' => w = w' && f.beq f'
  | .fixedList n f, .fixedList n' f' => n = n' && f.beq f'
  | .struct fs, .struct gs => Field.beqList fs gs
  | .union m vs, .union m' ws => m = m' && Field.beqVariants vs ws
  | .map f s, .map f' s' => s = s' && f.beq f'
  | .dictionary k v, .dictionary k' v' => k.beq k' && v.beq v'
  | .runEnd e v, .runEnd e' v' => e.beq e' && v.beq v'
  | _, _ => false

def Field.beq : Field → Field → Bool
  | ⟨n, t, b, m⟩, ⟨n', t', b', m'⟩ => n = n' && b = b' && m = m' && t.beq t'

def Field.beqList : List Field → List Field → Bool
  | [], [] => true
  | f :: fs, g :: gs => f.beq g && Field.beqList fs gs
  | _, _ => false

def Field.beqVariants : List (Int × Field) → List (Int × Field) → Bool
  | [], [] => true
  | (i, f) :: fs, (j, g) :: gs => i = j && f.beq g && Field.beqVariants fs gs
  | _, _ => false

end

mutual

theorem DataType.beq_iff (s : DataType) : ∀ t, s.beq t = true ↔ s = t := by
  match s with
  | .flat s => intro t; cases t <;> simp [DataType.beq]
  | .list w f => intro t; cases t <;> simp [DataType.beq, Field.beq_iff f]
  | .fixedList n f => intro t; cases t <;> simp [DataType.beq, Field.beq_iff f]
  | .struct fs => intro t; cases t <;> simp [DataType.beq, Field.beqList_iff fs]
  | .union m vs => intro t; cases t <;> simp [DataType.beq, Field.beqVariants_iff vs]
  | .map f b => intro t; cases t <;> simp [DataType.beq, Field.beq_iff f, and_comm]
  | .dictionary k v => intro t; cases t <;> simp [DataType.beq, DataType.beq_iff k, DataType.beq_iff v]
  | .runEnd e v => intro t; cases t <;> simp [DataType.beq, Field.beq_iff e, Field.beq_iff v]

theorem Field.beq_iff (f : Field) : ∀ g, f.beq g = true ↔ f = g := by
  match f with
  | ⟨n, t, b, m⟩ =>
    rintro ⟨n', t', b', m'⟩
    simp [Field.beq, DataType.beq_iff t, and_assoc, and_comm, and_left_comm]

theorem Field.beqList_iff (fs : List Field) : ∀ gs, Field.beqList fs gs = true ↔ fs = gs := by
  match fs with
  | [] => intro gs; cases gs <;> simp [Field.beqList]
  | f :: fs => intro gs; cases gs <;> simp [Field.beqList, Field.beq_iff f, Field.beqList_iff fs]

theorem Field.beqVariants_iff (fs : List (Int × Field)) :
    ∀ gs, Field.beqVariants fs gs = true ↔ fs = gs := by
  match fs with
  | [] => intro gs; cases gs <;> simp [Field.beqVariants]
  | (i, f) :: fs =>
    rintro (_ | ⟨⟨j, g⟩, gs⟩) <;>
      simp [Field.beqVariants, Field.beq_iff f, Field.beqVariants_iff fs]

end

instance : DecidableEq DataType := fun s t => decidable_of_iff _ (DataType.beq_iff s t)

instance : DecidableEq Field := fun f g => decidable_of_iff _ (Field.beq_iff f g)

end EntityLog
