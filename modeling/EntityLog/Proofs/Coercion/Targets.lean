import EntityLog.Proofs.Coercion.Inference
import EntityLog.Proofs.TypedArray.Casts

namespace EntityLog

mutual

/-- Structs, unions and lists of any kind, nested in any way. Structs have a field and sizes are not
negative. -/
def DataType.IsPlain : DataType → Prop
  | .flat _ => True
  | .list _ ⟨_, t, _, _⟩ => t.IsPlain
  | .fixedList size ⟨_, t, _, _⟩ => 0 ≤ size ∧ t.IsPlain
  | .struct fields => fields ≠ [] ∧ Field.ArePlain fields
  | .union _ variants => Field.VariantsArePlain variants
  | .map _ _ | .dictionary _ _ | .runEnd _ _ => False

def Field.ArePlain : List Field → Prop
  | [] => True
  | ⟨_, t, _, _⟩ :: fields => t.IsPlain ∧ Field.ArePlain fields

def Field.VariantsArePlain : List (Int × Field) → Prop
  | [] => True
  | (_, ⟨_, t, _, _⟩) :: variants => t.IsPlain ∧ Field.VariantsArePlain variants

end

namespace DataType

mutual

theorem IsPlain.hasEmpty {t : DataType} (plain : t.IsPlain) : t.hasEmpty = true := by
  match t with
  | .flat _ => rfl
  | .list _ ⟨_, t, _, _⟩ => exact IsPlain.hasEmpty (t := t) plain
  | .fixedList size ⟨_, t, _, _⟩ =>
    obtain ⟨nonneg, plain⟩ := plain
    rw [DataType.hasEmpty, IsPlain.hasEmpty (t := t) plain, Bool.true_and, decide_eq_true nonneg]
  | .struct fields =>
    obtain ⟨some, plain⟩ := plain
    rw [DataType.hasEmpty, allHaveEmpty plain, Bool.and_true, Bool.not_eq_true',
      List.isEmpty_eq_false_iff]
    exact some
  | .union _ variants => exact variantsHaveEmpty (show Field.VariantsArePlain variants from plain)
  | .map _ _ | .dictionary _ _ | .runEnd _ _ => exact False.elim plain

theorem allHaveEmpty {fields : List Field} (plain : Field.ArePlain fields) :
    Field.allHaveEmpty fields = true := by
  match fields with
  | [] => rfl
  | ⟨_, t, _, _⟩ :: fields =>
    obtain ⟨first, later⟩ := plain
    rw [Field.allHaveEmpty, IsPlain.hasEmpty (t := t) first, allHaveEmpty later, Bool.true_and]

theorem variantsHaveEmpty {variants : List (Int × Field)} (plain : Field.VariantsArePlain variants) :
    Field.variantsHaveEmpty variants = true := by
  match variants with
  | [] => rfl
  | (_, ⟨_, t, _, _⟩) :: variants =>
    obtain ⟨first, later⟩ := plain
    rw [Field.variantsHaveEmpty, IsPlain.hasEmpty (t := t) first, variantsHaveEmpty later, Bool.true_and]

end

theorem IsPlain.not_storesOnce {t : DataType} (plain : t.IsPlain) : ¬t.StoresOnce := by
  cases t with
  | flat _ | list _ _ | fixedList _ _ | struct _ | union _ _ => exact nofun
  | map _ _ | dictionary _ _ | runEnd _ _ => exact False.elim plain

theorem IsPlain.flat_or_isNested {t : DataType} (plain : t.IsPlain) :
    (∃ flat, t = .flat flat) ∨ t.isNested = true := by
  cases t with
  | flat t => exact .inl ⟨t, rfl⟩
  | list _ _ | fixedList _ _ | struct _ | union _ _ => exact .inr rfl
  | map _ _ | dictionary _ _ | runEnd _ _ => exact False.elim plain

end DataType

namespace TypedArray

mutual

/-- The columns inside are of the types that their fields tell. -/
def ColumnsAgree : TypedArray → Prop
  | flat _ | blanks _ _ => True
  | lists _ item _ _ items => items.type = item.type ∧ items.ColumnsAgree
  | fixedLists _ item _ items => items.type = item.type ∧ items.ColumnsAgree
  | structs fields _ columns => AllAgree fields columns
  | dictionaries _ _ values => values.ColumnsAgree
  | runEnds _ values decoded => decoded.type = values.type ∧ decoded.ColumnsAgree

def AllAgree (fields : List Field) (columns : List TypedArray) : Prop :=
  match fields, columns with
  | [], [] => True
  | field :: fields, column :: columns =>
    (column.type = field.type ∧ column.ColumnsAgree) ∧ AllAgree fields columns
  | _, _ => False

end

mutual

theorem ColumnsAgree.slice {a : TypedArray} (agree : a.ColumnsAgree) (offset count : Nat) :
    (a.slice offset count).ColumnsAgree := by
  match a with
  | .flat _ | .blanks _ _ => trivial
  | .lists _ _ _ _ items => exact agree
  | .fixedLists size _ _ items =>
    exact ⟨(type_slice items _ _).trans agree.1, ColumnsAgree.slice (a := items) agree.2 _ _⟩
  | .structs fields _ columns => exact AllAgree.slice (show AllAgree fields columns from agree) _ _
  | .dictionaries _ _ _ => exact agree
  | .runEnds _ _ decoded =>
    exact ⟨(type_slice decoded _ _).trans agree.1, ColumnsAgree.slice (a := decoded) agree.2 _ _⟩

theorem AllAgree.slice {fields : List Field} {columns : List TypedArray}
    (agree : AllAgree fields columns) (offset count : Nat) :
    AllAgree fields (sliceAll offset count columns) := by
  match fields, columns with
  | [], [] => trivial
  | field :: fields, column :: columns =>
    obtain ⟨⟨type, first⟩, later⟩ := agree
    exact ⟨⟨(type_slice column _ _).trans type, ColumnsAgree.slice (a := column) first _ _⟩,
      AllAgree.slice later _ _⟩

end

mutual

theorem columnsAgree_ofElements (elements : List Element) (t : DataType) :
    (ofElements elements t).ColumnsAgree := by
  match t with
  | .flat _ | .union _ _ | .map _ _ => trivial
  | .list _ ⟨_, t, _, _⟩ => exact ⟨type_ofElements _ t, columnsAgree_ofElements _ t⟩
  | .fixedList size ⟨_, t, _, _⟩ =>
    rw [ofElements]
    split
    · trivial
    · exact ⟨type_ofElements _ t, columnsAgree_ofElements _ t⟩
  | .struct fields => exact allAgree_columnsOf elements 0 fields
  | .dictionary _ value => exact columnsAgree_ofElements (pack elements).2 value
  | .runEnd _ ⟨_, t, _, _⟩ => exact ⟨type_ofElements _ t, columnsAgree_ofElements _ t⟩

theorem allAgree_columnsOf (elements : List Element) (index : Nat) (fields : List Field) :
    AllAgree fields (columnsOf elements index fields) := by
  match fields with
  | [] => trivial
  | ⟨_, t, _, _⟩ :: fields =>
    exact ⟨⟨type_ofElements _ t, columnsAgree_ofElements _ t⟩,
      allAgree_columnsOf elements (index + 1) fields⟩

end

end TypedArray

theorem columnsAgree_buildArray {t : DataType} {values : List Value} {a : TypedArray}
    (h : buildArray values t = .ok a) : a.ColumnsAgree := by
  match t with
  | .flat t =>
    rw [buildArray] at h
    obtain ⟨_, _, rfl⟩ := map_eq_ok.1 h
    trivial
  | .list w ⟨name, t, nullable, metadata⟩ =>
    obtain ⟨_, _, items, _, _, built, _, lists⟩ := buildArray_list_eq_ok.1 h
    obtain ⟨_, _, _, type, rfl⟩ := TypedArray.tryLists_eq_ok.1 lists
    exact ⟨type, columnsAgree_buildArray (t := t) built⟩
  | .fixedList size ⟨name, t, nullable, metadata⟩ =>
    obtain ⟨_, _, items, _, _, built, lists⟩ := buildArray_fixedList_eq_ok.1 h
    obtain ⟨_, _, type, _, rfl⟩ := TypedArray.tryFixedLists_eq_ok.1 lists
    have agree := columnsAgree_buildArray (t := t) built
    exact ⟨(TypedArray.type_slice items _ _).trans type, agree.slice _ _⟩
  | .struct _ | .union _ _ | .map _ _ | .dictionary _ _ | .runEnd _ _ => cases h

theorem TypedArray.columnsAgree_of_flat {a : TypedArray} {t : FlatType} (h : a.type = .flat t) :
    a.ColumnsAgree := by
  cases a with
  | flat _ | blanks _ _ => trivial
  | lists _ _ _ _ _ | fixedLists _ _ _ _ | structs _ _ _ | dictionaries _ _ _ | runEnds _ _ _ => cases h

namespace Strategy

variable {v : Value} {target : Option DataType} {t : DataType} {a : TypedArray}

theorem flat_of_fromText (h : fromText v target = .ok a) : ∃ cells, a = .flat cells ∧ cells.length = 1 := by
  unfold fromText at h
  split at h
  case h_9 | h_10 =>
    obtain ⟨_, _, h⟩ := bind_eq_ok.1 h
    cases h
    exact ⟨_, rfl, rfl⟩
  case h_11 | h_12 | h_13 => cases h
  all_goals
    cases h
    exact ⟨_, rfl, rfl⟩

theorem fromTensor_nested (nested : t.isNested = true) : fromTensor v (some t) ≠ .ok a := by
  intro h
  unfold fromTensor at h
  split at h
  case h_1 tensor =>
    obtain ⟨cells, _, h⟩ := bind_eq_ok.1 h
    dsimp only at h
    split at h
    case isTrue same =>
      rw [← same] at nested
      cases nested
    case isFalse => cases h
  case h_2 => cases h

theorem columnsAgree_run {s : Strategy} (shape : (∃ flat, t = .flat flat) ∨ t.isNested = true)
    (h : s.run v (some t) = .ok a) : a.ColumnsAgree := by
  cases s with
  | tensor =>
    rcases shape with ⟨flat, rfl⟩ | nested
    · exact TypedArray.columnsAgree_of_flat (type_fromTensor h (.inl ⟨flat, rfl⟩))
    · exact absurd h (fromTensor_nested nested)
  | text =>
    obtain ⟨_, rfl, _⟩ := flat_of_fromText h
    trivial
  | scalar =>
    obtain ⟨_, _, built⟩ := fromScalar_eq_ok.1 h
    exact columnsAgree_buildArray built

end Strategy

section

variable {v : Value} {target : Option DataType} {t : DataType} {a : TypedArray}

theorem columnsAgree_coerce (native : ∀ array, v ≠ .array array)
    (shape : (∃ flat, t = .flat flat) ∨ t.isNested = true)
    (h : (coerce v (some t)).result = .ok a) : a.ColumnsAgree := by
  rw [coerce_some_eq native] at h
  split at h
  · rw [TypedArray.eq_empty_of_emptyDeep (mapError_eq_ok.1 h)]
    exact TypedArray.columnsAgree_ofElements [] t
  · rcases tryStrategies_eq_ok h with ⟨_, _, done⟩ | last
    · exact Strategy.columnsAgree_run shape done
    · obtain ⟨_, _, _, _, built⟩ := fromItems_eq_ok.1 last
      exact columnsAgree_buildArray built

theorem length_buildArray_leaf (leaf : v.isLeaf) (h : buildArray [v] t = .ok a) : a.length = 1 := by
  have null : v ≠ .null := by
    rintro rfl
    cases leaf
  have list (own : List Value) : v ≠ .list own := by
    rintro rfl
    cases leaf
  cases t with
  | flat t =>
    rw [buildArray] at h
    obtain ⟨cells, built, rfl⟩ := map_eq_ok.1 h
    rw [← TypedArray.length_rows]
    exact (forall₂_buildFlat built).length_eq.symm
  | list _ _ =>
    obtain ⟨_, _, _, split, _⟩ := buildArray_list_eq_ok.1 h
    exact absurd split (splitLists_cons_other null list)
  | fixedList _ _ =>
    obtain ⟨_, _, _, _, split, _⟩ := buildArray_fixedList_eq_ok.1 h
    exact absurd split (splitLists_cons_other null list)
  | struct _ | union _ _ | map _ _ | dictionary _ _ | runEnd _ _ => cases h

theorem coerce_leaf (leaf : v.isLeaf) (target : Option DataType) :
    coerce v target = tryStrategies v target [.tensor, .text, .scalar] := by
  cases v with
  | bool _ | int _ | uint _ | float _ | text _ | bytes _ => cases target <;> rfl
  | null | list _ | tensor _ | array _ => cases leaf

theorem itemsOf_leaf (leaf : v.isLeaf) (target : Option DataType) : itemsOf v target = .ok [v] := by
  cases v with
  | bool _ | int _ | uint _ | float _ | text _ | bytes _ => rfl
  | null | list _ | tensor _ | array _ => cases leaf

theorem length_coerce_leaf (leaf : v.isLeaf) (h : (coerce v target).result = .ok a) :
    a.length = 1 := by
  rw [coerce_leaf leaf] at h
  rcases tryStrategies_eq_ok h with ⟨s, _, done⟩ | last
  · cases s with
    | tensor =>
      cases v with
      | bool _ | int _ | uint _ | float _ | text _ | bytes _ => cases done
      | null | list _ | tensor _ | array _ => cases leaf
    | text =>
      obtain ⟨_, rfl, one⟩ := Strategy.flat_of_fromText done
      exact one
    | scalar =>
      obtain ⟨_, _, built⟩ := Strategy.fromScalar_eq_ok.1 done
      exact length_buildArray_leaf leaf built
  · obtain ⟨items, t, alone, _, built⟩ := fromItems_eq_ok.1 last
    rw [itemsOf_leaf leaf] at alone
    cases alone
    exact length_buildArray_leaf leaf built

theorem coerce_nothing (plain : t.IsPlain) (nothing : v.isNothing) :
    (coerce v (some t)).result = .ok (.empty t) := by
  have native (array : TypedArray) : v ≠ .array array := by
    rintro rfl
    cases nothing
  rw [coerce_some_eq native, if_pos nothing, TypedArray.emptyDeep_of_hasEmpty plain.hasEmpty]
  rfl

theorem type_coerce_array {source : TypedArray} (plain : t.IsPlain)
    (casts : source.type.KeepsItem t → ∀ b, source.cast t = .ok b → b.type = t)
    (h : (coerce (.array source) (some t)).result = .ok a) : a.type = t := by
  rw [coerce] at h
  dsimp only at h
  split at h
  case isTrue same =>
    cases h
    exact same
  case isFalse =>
    have cast := mapError_eq_ok.1 h
    rcases TypedArray.type_cast plain.not_storesOnce cast with type | keeps
    · exact type
    · exact casts keeps a cast

end

namespace DataType

/-- A type that is asked for is delivered, with the columns inside: by all values, provided that an
array of lists of one size, if it is cast to lists of the same items under another field, is cast to
that. Nothing at all is delivered as no cells, and a single value as one cell for any target. -/
theorem IsPlain.delivered {t : DataType} (plain : t.IsPlain) :
    (∀ v a, (∀ source, v = .array source → source.type.KeepsItem t →
        ∀ b, source.cast t = .ok b → b.type = t) →
      (coerce v (some t)).result = .ok a → a.type = t) ∧
    (∀ v a, (∀ array, v ≠ .array array) → (coerce v (some t)).result = .ok a → a.ColumnsAgree) ∧
    (∀ v, v.isNothing → ∃ a, (coerce v (some t)).result = .ok a ∧ a.type = t ∧ a.length = 0) ∧
    ∀ v (target : Option DataType) a, v.isLeaf → (coerce v target).result = .ok a → a.length = 1 := by
  refine ⟨fun v a casts h => ?_, fun v a native h => ?_, fun v nothing => ?_, fun v target a => ?_⟩
  · by_cases array : ∃ source, v = .array source
    · obtain ⟨source, rfl⟩ := array
      exact type_coerce_array plain (casts source rfl) h
    · exact type_coerce (fun source is => array ⟨source, is⟩) plain.flat_or_isNested h
  · exact columnsAgree_coerce native plain.flat_or_isNested h
  · exact ⟨_, coerce_nothing plain nothing, TypedArray.type_ofElements [] t,
      TypedArray.length_empty t⟩
  · exact length_coerce_leaf

theorem delivered_points :
    let t : DataType := .list .large
      ⟨"point", .fixedList 2 ⟨"axis", .integer .int16, false, []⟩, true, []⟩
    let v : Value := .list [.list [.list [.int 3, .uint 4]], .null, .list []]
    let source : TypedArray := .lists .regular (.item (.fixedList 2 (.item .int64))) 0 (.plain [1])
      (.fixedLists 2 (.item .int64) [true] (.flat (.integers .int64 [some 3, some 4])))
    (∃ a, (coerce v (some t)).result = .ok a ∧ a.type = t ∧ a.ColumnsAgree) ∧
      (∃ a, (coerce (.array source) (some t)).result = .ok a ∧ a.type = t) ∧
      ∃ a, (coerce .null (some t)).result = .ok a ∧ a.type = t ∧ a.length = 0 := by
  intro t v source
  have plain : t.IsPlain := ⟨by decide, trivial⟩
  obtain ⟨typed, agree, empty, -⟩ := IsPlain.delivered plain
  have native (array : TypedArray) : v ≠ .array array := nofun
  obtain ⟨a, built⟩ : ∃ a, (coerce v (some t)).result = .ok a := ⟨_, by with_unfolding_all rfl⟩
  obtain ⟨b, cast⟩ : ∃ b, (coerce (.array source) (some t)).result = .ok b :=
    ⟨_, by with_unfolding_all rfl⟩
  refine ⟨⟨a, built, typed v a ?values built, agree v a native built⟩,
    ⟨b, cast, typed (.array source) b ?array cast⟩, empty .null rfl⟩
  case values => exact fun source is => absurd is (native source)
  case array =>
    rintro _ ⟨⟩ kept
    exact False.elim kept

end DataType

end EntityLog
