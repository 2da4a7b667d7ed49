import EntityLog.Proofs.TypedArray.Lists
import EntityLog.TypedArray.Empty

/-!
Arrays without cells of nested types. From the inside out, every constructor accepts the columns it
is given, and what it builds has no cells and is of exactly the type asked for, at every depth.
-/

namespace EntityLog

mutual

/-- Has the type an array without cells? Structs without fields and lists of negative size have none.
What is not put together from columns has one if it has one of no nulls. -/
def DataType.hasEmpty : DataType → Bool
  | .flat _ => true
  | .list _ ⟨_, t, _, _⟩ => t.hasEmpty
  | .fixedList size ⟨_, t, _, _⟩ => t.hasEmpty && 0 ≤ size
  | .struct fields => !fields.isEmpty && Field.allHaveEmpty fields
  | .union _ variants => Field.variantsHaveEmpty variants
  | t => t.hasNulls 0

def Field.allHaveEmpty : List Field → Bool
  | [] => true
  | ⟨_, t, _, _⟩ :: fields => t.hasEmpty && Field.allHaveEmpty fields

def Field.variantsHaveEmpty : List (Int × Field) → Bool
  | [] => true
  | (_, ⟨_, t, _, _⟩) :: variants => t.hasEmpty && Field.variantsHaveEmpty variants

end

theorem DataType.hasNulls_zero_flat (t : FlatType) : (flat t).hasNulls 0 = true := by
  cases t <;> simp [hasNulls]

def DataType.inner : DataType → List DataType
  | .list _ item | .fixedList _ item => [item.type]
  | .struct fields => fields.map Field.type
  | .union _ variants => variants.map (·.2.type)
  | .flat _ | .map _ _ | .dictionary _ _ | .runEnd _ _ => []

def TypedArray.columns : TypedArray → List TypedArray
  | lists _ _ _ _ items | fixedLists _ _ _ items => [items]
  | structs _ _ columns => columns
  | flat _ | dictionaries _ _ _ | runEnds _ _ _ | blanks _ _ => []

/-- No cells, and of exactly the type told; and the same of all columns inside, which the array
keeps unless it is a union. -/
inductive Assembly.Hollow : DataType → Assembly → Prop
  | intro {t : DataType} {tree : Assembly} (type : tree.array.type = t)
      (length : tree.array.length = 0)
      (kept : (∃ mode variants, t = .union mode variants) ∨
        tree.array.columns = tree.inner.map Assembly.array)
      (inner : List.Forall₂ Hollow t.inner tree.inner) : Hollow t tree

namespace TypedArray

theorem rows_empty (t : DataType) : (empty t).rows = [] := by
  match t with
  | .flat t => exact List.eq_nil_of_length_eq_zero (by cases t <;> rfl)
  | .list w ⟨_, _, _, _⟩ => rfl
  | .fixedList size ⟨_, _, _, _⟩ =>
    rw [empty, ofElements]
    split <;> rfl
  | .struct _ => rfl
  | .union _ _ => rfl
  | .map _ _ => rfl
  | .dictionary _ _ => rfl
  | .runEnd _ ⟨_, t, _, _⟩ => exact rows_empty t

theorem length_empty (t : DataType) : (empty t).length = 0 := by
  rw [← length_rows, rows_empty]
  rfl

theorem validity_empty (t : DataType) : (empty t).validity = [] :=
  List.eq_nil_of_length_eq_zero ((length_validity _).trans (length_empty t))

theorem hasNulls_empty (t : DataType) : (empty t).hasNulls = false := by
  rw [hasNulls, validity_empty]
  rfl

theorem columnsOf_nil (index : Nat) (fields : List Field) :
    columnsOf [] index fields = fields.map fun field => empty field.type := by
  induction fields generalizing index with
  | nil => rfl
  | cons field fields ih =>
    obtain ⟨_, t, _, _⟩ := field
    exact congrArg (empty t :: ·) (ih (index + 1))

mutual

theorem slice_empty (t : DataType) (offset count : Nat) :
    (empty t).slice offset count = empty t := by
  match t with
  | .flat t =>
    cases t <;>
      simp [empty, ofElements, slice, FlatArray.ofElements, FlatArray.slice, Margins.slice,
        cellBytes]
  | .list _ ⟨_, _, _, _⟩ =>
    simp [empty, ofElements, slice, maskOf, Slots.ofMask, Slots.slice, Slots.total, Slots.lengths]
  | .fixedList size ⟨_, t, _, _⟩ =>
    rw [empty, ofElements]
    split
    case isTrue => simp [slice]
    case isFalse =>
      simpa [slice, empty] using slice_empty t (offset * size.toNat) (count * size.toNat)
  | .struct fields => simpa [empty, ofElements, slice] using sliceAll_empty fields 0 offset count
  | .union _ _ | .map _ _ => simp [empty, ofElements, slice]
  | .dictionary _ _ => simp [empty, ofElements, slice, pack]
  | .runEnd _ ⟨_, t, _, _⟩ => simpa [empty, ofElements, slice] using slice_empty t offset count

theorem sliceAll_empty (fields : List Field) (index offset count : Nat) :
    sliceAll offset count (columnsOf [] index fields) = columnsOf [] index fields := by
  match fields with
  | [] => rfl
  | ⟨_, t, _, _⟩ :: fields =>
    exact congrArg₂ List.cons (slice_empty t offset count)
      (sliceAll_empty fields (index + 1) offset count)

end

theorem tryLists_empty (width : ListWidth) (item : Field) :
    tryLists width item 0 [] none (empty item.type) = .ok (empty (.list width item)) := by
  refine tryLists_eq_ok.2 ⟨Nat.zero_le _, fun _ given => ?_, fun _ => hasNulls_empty item.type,
    type_ofElements [] item.type, ?_⟩
  · cases given
  · cases item
    rfl

theorem tryFixedLists_empty {size : Int} (nonneg : 0 ≤ size) (item : Field) :
    tryFixedLists size item none (empty item.type) = .ok (empty (.fixedList size item)) := by
  have count : fixedCount size none (empty item.type) = 0 := by
    rw [fixedCount, length_empty, Nat.zero_div]
    exact ite_self 0
  refine tryFixedLists_eq_ok.2
    ⟨nonneg, fun _ given => ?_, type_ofElements [] item.type, fun _ => ?_, ?_⟩
  · cases given
  · rw [count]
    rfl
  · cases item
    rw [count, slice_empty, empty.eq_1 (.fixedList _ _), ofElements, if_neg (Int.not_lt.2 nonneg)]
    rfl

theorem unequalError?_empty (field : Field) : unequalError? 0 field (empty field.type) = none := by
  have type : (empty field.type).type = field.type := type_ofElements [] field.type
  rw [unequalError?, if_neg fun unequal => unequal.2 (length_empty _), columnError?,
    if_neg (not_not_intro type), validity_empty]
  simp [nullsMasked]

theorem unequalErrors_empty (fields : List Field) :
    (fields.zip (fields.map fun field => empty field.type)).findSome?
      (fun (field, column) => unequalError? 0 field column) = none := by
  induction fields with
  | nil => rfl
  | cons field fields ih =>
    rw [List.map_cons, List.zip_cons_cons, List.findSome?_cons]
    dsimp only
    rw [unequalError?_empty]
    exact ih

theorem tryPlainStructs_empty {fields : List Field} (some : fields ≠ []) :
    tryPlainStructs fields (fields.map fun field => empty field.type) =
      .ok (empty (.struct fields)) := by
  obtain ⟨field, others, rfl⟩ := List.exists_cons_of_ne_nil some
  have suits := unequalErrors_empty (field :: others)
  have columns := columnsOf_nil 0 (field :: others)
  rw [List.map_cons] at suits columns ⊢
  simp only [tryPlainStructs, List.head?_cons, List.length_cons, List.length_map, ne_eq,
    not_true_eq_false, if_false, length_empty, suits]
  rw [empty.eq_1 (.struct _), ofElements, columns]
  rfl

theorem tryEmptyUnion_empty (mode : UnionMode) (variants : List (Int × Field)) :
    tryEmptyUnion variants mode.noOffsets (variants.map fun variant => empty variant.2.type) =
      .ok (empty (.union mode variants)) := by
  cases mode with
  | dense => simp [tryEmptyUnion, UnionMode.noOffsets]; rfl
  | sparse => simp [tryEmptyUnion, UnionMode.noOffsets, length_empty]; rfl

end TypedArray

namespace Assembly

theorem accept_eq_ok {fault : Fault} {inner : List Assembly} {built : Except ArrayError TypedArray}
    {tree : Assembly} :
    accept fault inner built = .ok tree ↔ ∃ array, built = .ok array ∧ ⟨array, inner⟩ = tree := by
  cases built <;> simp [accept]

theorem Hollow.of_empty {t : DataType} {tree : Assembly} (array : tree.array = .empty t)
    (kept : (∃ mode variants, t = .union mode variants) ∨
      tree.array.columns = tree.inner.map Assembly.array)
    (inner : List.Forall₂ Hollow t.inner tree.inner) : tree.Hollow t := by
  refine ⟨?_, ?_, kept, inner⟩
  · rw [array]
    exact TypedArray.type_ofElements [] t
  · rw [array]
    exact TypedArray.length_empty t

mutual

theorem hollow_of_empty {t : DataType} {tree : Assembly} (built : empty t = .ok tree) :
    tree.array = .empty t ∧ tree.Hollow t := by
  match t with
  | .list width ⟨name, t, nullable, metadata⟩ =>
    obtain ⟨items, own, accepted⟩ := bind_eq_ok.1 built
    obtain ⟨array, lists, rfl⟩ := accept_eq_ok.1 accepted
    obtain ⟨same, hollow⟩ := hollow_of_empty own
    have done := TypedArray.tryLists_empty width ⟨name, t, nullable, metadata⟩
    rw [same, done] at lists
    cases lists
    refine ⟨rfl, .of_empty rfl (.inr ?_) (.cons hollow .nil)⟩
    exact congrArg (fun column => [column]) same.symm
  | .fixedList size ⟨name, t, nullable, metadata⟩ =>
    obtain ⟨items, own, accepted⟩ := bind_eq_ok.1 built
    obtain ⟨array, lists, rfl⟩ := accept_eq_ok.1 accepted
    obtain ⟨same, hollow⟩ := hollow_of_empty own
    obtain ⟨nonneg, _⟩ := TypedArray.tryFixedLists_eq_ok.1 lists
    have done := TypedArray.tryFixedLists_empty nonneg ⟨name, t, nullable, metadata⟩
    rw [same, done] at lists
    cases lists
    refine ⟨rfl, .of_empty rfl (.inr ?_) (.cons hollow .nil)⟩
    rw [TypedArray.empty, TypedArray.ofElements, if_neg (Int.not_lt.2 nonneg)]
    exact congrArg (fun column => [column]) same.symm
  | .struct fields =>
    obtain ⟨columns, own, accepted⟩ := bind_eq_ok.1 built
    obtain ⟨array, structs, rfl⟩ := accept_eq_ok.1 accepted
    obtain ⟨same, hollow⟩ := hollow_of_emptyColumns own
    have some : fields ≠ [] := by
      rintro rfl
      rw [same] at structs
      cases structs
    rw [same, TypedArray.tryPlainStructs_empty some] at structs
    cases structs
    exact ⟨rfl, .of_empty rfl (.inr ((TypedArray.columnsOf_nil 0 fields).trans same.symm)) hollow⟩
  | .union mode variants =>
    obtain ⟨columns, own, accepted⟩ := bind_eq_ok.1 built
    obtain ⟨array, union, rfl⟩ := accept_eq_ok.1 accepted
    obtain ⟨same, hollow⟩ := hollow_of_emptyVariants own
    rw [same, TypedArray.tryEmptyUnion_empty] at union
    cases union
    exact ⟨rfl, .of_empty rfl (.inl ⟨mode, variants, rfl⟩) hollow⟩
  | .flat _ | .map _ _ | .dictionary _ _ | .runEnd _ ⟨_, _, _, _⟩ =>
    obtain ⟨_, rfl⟩ := ite_ok_error_eq_ok.1 built
    exact ⟨rfl, .of_empty rfl (.inr rfl) .nil⟩

theorem hollow_of_emptyColumns {fields : List Field} {columns : List Assembly}
    (built : emptyColumns fields = .ok columns) :
    columns.map array = fields.map (fun field => .empty field.type) ∧
      List.Forall₂ Hollow (fields.map Field.type) columns := by
  match fields with
  | [] =>
    cases built
    exact ⟨rfl, .nil⟩
  | ⟨_, t, _, _⟩ :: fields =>
    obtain ⟨column, own, built⟩ := bind_eq_ok.1 built
    obtain ⟨others, later, rfl⟩ := map_eq_ok.1 built
    obtain ⟨same, hollow⟩ := hollow_of_empty own
    obtain ⟨sames, hollows⟩ := hollow_of_emptyColumns later
    exact ⟨congrArg₂ List.cons same sames, .cons hollow hollows⟩

theorem hollow_of_emptyVariants {variants : List (Int × Field)} {columns : List Assembly}
    (built : emptyVariants variants = .ok columns) :
    columns.map array = variants.map (fun variant => .empty variant.2.type) ∧
      List.Forall₂ Hollow (variants.map (·.2.type)) columns := by
  match variants with
  | [] =>
    cases built
    exact ⟨rfl, .nil⟩
  | (_, ⟨_, t, _, _⟩) :: variants =>
    obtain ⟨column, own, built⟩ := bind_eq_ok.1 built
    obtain ⟨others, later, rfl⟩ := map_eq_ok.1 built
    obtain ⟨same, hollow⟩ := hollow_of_empty own
    obtain ⟨sames, hollows⟩ := hollow_of_emptyVariants later
    exact ⟨congrArg₂ List.cons same sames, .cons hollow hollows⟩

end

mutual

theorem exists_empty {t : DataType} (has : t.hasEmpty = true) : ∃ tree, empty t = .ok tree := by
  match t with
  | .flat t => exact ⟨_, if_pos (DataType.hasNulls_zero_flat t)⟩
  | .list width ⟨name, t, nullable, metadata⟩ =>
    obtain ⟨items, own⟩ := exists_empty (t := t) has
    have done := TypedArray.tryLists_empty width ⟨name, t, nullable, metadata⟩
    rw [← (hollow_of_empty own).1] at done
    exact ⟨_, bind_eq_ok.2 ⟨items, own, accept_eq_ok.2 ⟨_, done, rfl⟩⟩⟩
  | .fixedList size ⟨name, t, nullable, metadata⟩ =>
    obtain ⟨has, nonneg⟩ := Bool.and_eq_true_iff.1 has
    obtain ⟨items, own⟩ := exists_empty has
    have done := TypedArray.tryFixedLists_empty (of_decide_eq_true nonneg)
      ⟨name, t, nullable, metadata⟩
    rw [← (hollow_of_empty own).1] at done
    exact ⟨_, bind_eq_ok.2 ⟨items, own, accept_eq_ok.2 ⟨_, done, rfl⟩⟩⟩
  | .struct fields =>
    obtain ⟨filled, has⟩ := Bool.and_eq_true_iff.1 has
    have some : fields ≠ [] := by simpa using filled
    obtain ⟨columns, own⟩ := exists_emptyColumns has
    have done := TypedArray.tryPlainStructs_empty some
    rw [← (hollow_of_emptyColumns own).1] at done
    exact ⟨_, bind_eq_ok.2 ⟨columns, own, accept_eq_ok.2 ⟨_, done, rfl⟩⟩⟩
  | .union mode variants =>
    have has : Field.variantsHaveEmpty variants = true := has
    obtain ⟨columns, own⟩ := exists_emptyVariants has
    have done := TypedArray.tryEmptyUnion_empty mode variants
    rw [← (hollow_of_emptyVariants own).1] at done
    exact ⟨_, bind_eq_ok.2 ⟨columns, own, accept_eq_ok.2 ⟨_, done, rfl⟩⟩⟩
  | .map _ _ | .dictionary _ _ | .runEnd _ _ => exact ⟨_, if_pos has⟩

theorem exists_emptyColumns {fields : List Field} (has : Field.allHaveEmpty fields = true) :
    ∃ columns, emptyColumns fields = .ok columns := by
  match fields with
  | [] => exact ⟨[], rfl⟩
  | ⟨_, t, _, _⟩ :: fields =>
    obtain ⟨first, later⟩ := Bool.and_eq_true_iff.1 has
    obtain ⟨column, own⟩ := exists_empty first
    obtain ⟨others, rest⟩ := exists_emptyColumns later
    exact ⟨_, bind_eq_ok.2 ⟨column, own, map_eq_ok.2 ⟨others, rest, rfl⟩⟩⟩

theorem exists_emptyVariants {variants : List (Int × Field)}
    (has : Field.variantsHaveEmpty variants = true) :
    ∃ columns, emptyVariants variants = .ok columns := by
  match variants with
  | [] => exact ⟨[], rfl⟩
  | (_, ⟨_, t, _, _⟩) :: variants =>
    obtain ⟨first, later⟩ := Bool.and_eq_true_iff.1 has
    obtain ⟨column, own⟩ := exists_empty first
    obtain ⟨others, rest⟩ := exists_emptyVariants later
    exact ⟨_, bind_eq_ok.2 ⟨column, own, map_eq_ok.2 ⟨others, rest, rfl⟩⟩⟩

end

end Assembly

namespace TypedArray

theorem eq_empty_of_emptyDeep {t : DataType} {a : TypedArray} (h : emptyDeep t = .ok a) :
    a = .empty t := by
  obtain ⟨tree, built, rfl⟩ := map_eq_ok.1 h
  exact (Assembly.hollow_of_empty built).1

theorem emptyDeep_of_hasEmpty {t : DataType} (has : t.hasEmpty = true) :
    emptyDeep t = .ok (.empty t) := by
  obtain ⟨tree, built⟩ := Assembly.exists_empty has
  exact map_eq_ok.2 ⟨tree, built, (Assembly.hollow_of_empty built).1⟩

/-- Of every type nested from structs with fields, unions and lists, over types of which there is an
array without cells, there is one. It is put together, no constructor refusing, from arrays without
cells and of exactly the types of the fields, at every depth. -/
theorem emptyDeep_hollow {t : DataType} (has : t.hasEmpty = true) :
    ∃ tree, Assembly.empty t = .ok tree ∧ emptyDeep t = .ok tree.array ∧ tree.Hollow t := by
  obtain ⟨tree, built⟩ := Assembly.exists_empty has
  exact ⟨tree, built, map_eq_ok.2 ⟨tree, built, rfl⟩, (Assembly.hollow_of_empty built).2⟩

theorem emptyDeep_hollow_unions :
    let variants := [(0, ⟨"ints", .integer .int32, true, []⟩),
      (1, ⟨"strings", .listOf .utf8, true, []⟩)]
    let t := DataType.struct [⟨"dense", .union .dense variants, false, []⟩,
      ⟨"sparse", .union .sparse variants, false, []⟩, ⟨"plain", .float64, true, []⟩]
    t.hasEmpty = true ∧ ∃ tree, Assembly.empty t = .ok tree ∧ emptyDeep t = .ok tree.array ∧
      tree.Hollow t := by
  intro variants t
  have has : t.hasEmpty = true := rfl
  exact ⟨has, emptyDeep_hollow has⟩

end TypedArray

end EntityLog
