import EntityLog.TypedArray.Lists

namespace EntityLog

mutual

/-- Are there as many nulls of the type as told? Even without one, keys are to be integers, and maps
to have keys and values. -/
def DataType.hasNulls (count : Nat) : DataType → Bool
  | .flat (.fixedBinary size) => 0 ≤ size || count = 0
  | .flat _ => true
  | .list _ ⟨_, t, _, _⟩ => t.hasNulls 0
  | .fixedList size ⟨_, t, _, _⟩ => (0 ≤ size || count = 0) && t.hasNulls (size.toNat * count)
  | .struct fields => Field.allHaveNulls count fields
  | .union mode variants =>
    !variants.isEmpty && Field.variantsHaveNulls count (if mode = .dense then 0 else count) variants
  | .map ⟨_, t, _, _⟩ _ => t.columns.length = 2 && t.hasNulls 0
  | .dictionary key value => key.integer?.isSome && value.hasNulls 0
  | .runEnd ⟨_, t, _, _⟩ ⟨_, t', _, _⟩ =>
    t.integer?.any (fun t => t.countsRuns && t.holds count) &&
      t'.hasNulls (min 1 count)

def Field.allHaveNulls (count : Nat) : List Field → Bool
  | [] => true
  | ⟨_, t, _, _⟩ :: fields => t.hasNulls count && Field.allHaveNulls count fields

def Field.variantsHaveNulls (first later : Nat) : List (Int × Field) → Bool
  | [] => true
  | (_, ⟨_, t, _, _⟩) :: variants =>
    t.hasNulls first && Field.variantsHaveNulls later later variants

end

def TypedArray.nullLists (itemType : DataType) (count : Nat) : TypedArray :=
  .lists .regular (.item itemType) 0 (.masked (List.replicate count ⟨0, false⟩)) (.empty itemType)

def TypedArray.tryNullLists (itemType : DataType) (count : Nat) : Except Fault TypedArray :=
  if itemType.hasNulls 0 then .ok (nullLists itemType count) else .error (.noEmptyArray itemType)

namespace TypedArray

def unequalError? (length : Nat) (field : Field) (column : TypedArray) : Option ArrayError :=
  if column.type = field.type ∧ column.length ≠ length then
    some (.columnLength field.name length column.length)
  else columnError? (List.replicate length true) field column

def tryPlainStructs (fields : List Field) (columns : List TypedArray) :
    Except ArrayError TypedArray := do
  let some first := columns.head? | throw .noColumns
  if fields.length ≠ columns.length then throw (.columnCount fields.length columns.length)
  match (fields.zip columns).findSome? fun (field, column) =>
      unequalError? first.length field column with
  | some cause => throw cause
  | none => return .structs fields (List.replicate first.length true) columns

def tryEmptyUnion (variants : List (Int × Field)) (offsets : Option (List Int))
    (columns : List TypedArray) : Except ArrayError TypedArray := do
  if variants.length ≠ columns.length then throw .variantCount
  match offsets with
  | some offsets => if offsets ≠ [] then throw .offsetCount
  | none => if columns.any (·.length ≠ 0) then throw .variantLength
  return .blanks (.union (if offsets.isSome then .dense else .sparse) variants) 0

end TypedArray

def UnionMode.noOffsets : UnionMode → Option (List Int)
  | dense => some []
  | sparse => none

/-- An array and the arrays it was put together from. The array of a union does not keep them
itself. -/
structure Assembly where
  array : TypedArray
  inner : List Assembly

namespace Assembly

def accept (fault : Fault) (inner : List Assembly) (built : Except ArrayError TypedArray) :
    Except Fault Assembly :=
  match built with
  | .ok array => .ok ⟨array, inner⟩
  | .error _ => .error fault

mutual

def empty : DataType → Except Fault Assembly
  | .list width ⟨name, t, nullable, metadata⟩ => do
    let item : Field := ⟨name, t, nullable, metadata⟩
    let items ← empty t
    accept (.noEmptyArray (.list width item)) [items]
      (TypedArray.tryLists width item 0 [] none items.array)
  | .fixedList size ⟨name, t, nullable, metadata⟩ => do
    let item : Field := ⟨name, t, nullable, metadata⟩
    let items ← empty t
    accept (.noEmptyArray (.fixedList size item)) [items]
      (TypedArray.tryFixedLists size item none items.array)
  | .struct fields => do
    let columns ← emptyColumns fields
    accept (.noEmptyArray (.struct fields)) columns
      (TypedArray.tryPlainStructs fields (columns.map array))
  | .union mode variants => do
    let columns ← emptyVariants variants
    accept (.refusedUnion (.union mode variants)) columns
      (TypedArray.tryEmptyUnion variants mode.noOffsets (columns.map array))
  | t => if t.hasNulls 0 then .ok ⟨.empty t, []⟩ else .error (.noEmptyArray t)

def emptyColumns : List Field → Except Fault (List Assembly)
  | [] => .ok []
  | ⟨_, t, _, _⟩ :: fields => return (← empty t) :: (← emptyColumns fields)

def emptyVariants : List (Int × Field) → Except Fault (List Assembly)
  | [] => .ok []
  | (_, ⟨_, t, _, _⟩) :: variants => return (← empty t) :: (← emptyVariants variants)

end

end Assembly

def TypedArray.emptyDeep (type : DataType) : Except Fault TypedArray :=
  Assembly.array <$> Assembly.empty type

end EntityLog
