import EntityLog.Component.Batch

namespace EntityLog

inductive PartitionError
  | lengthMismatch (component : ComponentIdentifier) (sum : Int) (expected : Nat)
  | negativeLength (component : ComponentIdentifier) (length : Int)
  | array (cause : ArrayError)
  deriving DecidableEq

def PartitionError.message : PartitionError → String
  | lengthMismatch component sum expected =>
    "partition lengths for " ++ component ++ " add up to " ++ toString sum ++
      ", but the batch has " ++ toString expected ++ " instances"
  | negativeLength component length =>
    "partition lengths for " ++ component ++ " must be non-negative, got " ++ toString length
  | array cause => cause.message

structure ComponentColumn where
  batch : ComponentBatch
  rows : Slots

namespace ComponentColumn

def descriptor (c : ComponentColumn) : ComponentDescriptor := c.batch.descriptor

def lengths (c : ComponentColumn) : List Nat := c.rows.lengths

def rowCount (c : ComponentColumn) : Nat := c.rows.count

def ofLengths (batch : ComponentBatch) (lengths : List Int) :
    Except PartitionError ComponentColumn :=
  match lengths.find? (· < 0) with
  | some length => .error (.negativeLength batch.descriptor.component length)
  | none =>
    let sum : Int := lengths.foldr (· + ·) 0
    if sum = batch.length then .ok ⟨batch, .plain (lengths.map Int.toNat)⟩
    else .error (.lengthMismatch batch.descriptor.component sum batch.length)

def units (batch : ComponentBatch) : Except PartitionError ComponentColumn :=
  if int32Max < batch.length then
    .error (.array (.tooManyInstances batch.descriptor.component batch.length))
  else ofLengths batch (List.replicate batch.length 1)

/-- Each list as a row; null lists are null rows. What the lists do not take is left out. -/
def ofLists (skipped : Nat) (slots : Slots) (items : TypedArray)
    (descriptor : ComponentDescriptor) : Except PartitionError ComponentColumn := do
  let batch : ComponentBatch := { array := items.slice skipped slots.total, descriptor }
  let column ← ofLengths batch (slots.lengths.map Int.ofNat)
  return { column with rows := slots }

def partitioned (c : ComponentColumn) (lengths : List Int) : Except PartitionError ComponentColumn :=
  ofLengths c.batch lengths

def toLists (c : ComponentColumn) : Except PartitionError TypedArray :=
  (c.batch.array.wrapInLists (c.lengths.map Int.ofNat) c.rows.mask).mapError .array

def Same (a b : ComponentColumn) : Prop := a.batch.Same b.batch ∧ a.rows = b.rows

instance (a b : ComponentColumn) : Decidable (a.Same b) := inferInstanceAs (Decidable (_ ∧ _))

end ComponentColumn

def ComponentBatch.partition (b : ComponentBatch) :
    Option (List Int) → Except PartitionError ComponentColumn
  | some lengths => ComponentColumn.ofLengths b lengths
  | none => ComponentColumn.units b

end EntityLog
