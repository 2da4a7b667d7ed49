import EntityLog.TypedArray.Basic
import Mathlib.Algebra.Ring.Nat

namespace EntityLog

theorem itemCount_cons (n : Nat) (ns : List Nat) : itemCount (n :: ns) = n + itemCount ns := rfl

@[simp] theorem itemCount_eq_sum (ns : List Nat) : itemCount ns = ns.sum := by
  induction ns with
  | nil => rfl
  | cons n ns ih => rw [itemCount_cons, ih, List.sum_cons]

namespace FlatArray

@[simp] theorem length_elements (a : FlatArray) : a.elements.length = a.length := by
  cases a <;> simp [elements, length]

@[simp] theorem elements_slice (a : FlatArray) (offset count : Nat) :
    (a.slice offset count).elements = (a.elements.drop offset).take count := by
  cases a <;> simp [elements, slice, List.map_take, List.map_drop]

end FlatArray

namespace Slots

@[simp] theorem length_toList (s : Slots) : s.toList.length = s.count := by
  cases s <;> simp [toList, count, lengths]

theorem lengths_toList (s : Slots) : s.toList.map Slot.length = s.lengths := by
  cases s with
  | plain ns => simp [toList, lengths, Function.comp_def]
  | masked lists => rfl

@[simp] theorem toList_slice (s : Slots) (offset count : Nat) :
    (s.slice offset count).toList = (s.toList.drop offset).take count := by
  cases s <;> simp [toList, slice, List.map_take, List.map_drop]

theorem total_slice (s : Slots) (count : Nat) :
    (s.slice 0 count).total = ((s.toList.take count).map Slot.length).sum := by
  rw [total, ← lengths_toList, toList_slice, itemCount_eq_sum, List.drop_zero]

theorem toList_ofMask_maskOf (slots : List Slot) :
    (ofMask (slots.map Slot.length) (maskOf (slots.map Slot.valid))).toList = slots := by
  unfold maskOf
  split
  case isTrue h =>
    have valid : ∀ slot ∈ slots, slot.valid = true := by simpa using h
    have same : ∀ slot ∈ slots, (⟨slot.length, true⟩ : Slot) = slot := by
      intro slot member
      rw [← valid slot member]
    simpa [ofMask, toList, Function.comp_def] using List.map_congr_left same
  case isFalse h =>
    clear h
    induction slots with
    | nil => rfl
    | cons slot slots ih => simpa [ofMask, toList] using ih

end Slots

namespace TypedArray

theorem length_cutItems (slots : List Slot) (items : List Element) :
    (cutItems slots items).length = slots.length := by
  induction slots generalizing items with
  | nil => rfl
  | cons slot slots ih => simp [cutItems, ih]

theorem length_cutFixed (size : Nat) (valid : List Bool) (items : List Element) :
    (cutFixed size valid items).length = valid.length := by
  induction valid generalizing items with
  | nil => rfl
  | cons v valid ih => simp [cutFixed, ih]

theorem length_zipColumns (valid : List Bool) (columns : List (List Element)) :
    (zipColumns valid columns).length = valid.length := by
  induction valid generalizing columns with
  | nil => rfl
  | cons v valid ih => simp [zipColumns, ih]

theorem length_rows (a : TypedArray) : a.rows.length = a.length := by
  match a with
  | flat cells => simp [rows, length]
  | lists _ _ _ slots _ => simp [rows, length, length_cutItems]
  | fixedLists _ _ valid _ => simp [rows, length, length_cutFixed]
  | structs _ valid _ => simp [rows, length, length_zipColumns]
  | dictionaries _ keys _ => simp [rows, length, lookUp]
  | runEnds _ _ decoded => simp [rows, length, length_rows decoded]
  | blanks _ n => simp [rows, length]

theorem length_validity (a : TypedArray) : a.validity.length = a.length := by
  match a with
  | flat cells => simp [validity, length]
  | lists _ _ _ slots _ => simp [validity, length, Slots.valid]
  | fixedLists _ _ valid _ => rfl
  | structs _ valid _ => rfl
  | dictionaries _ keys _ => simp [validity, length]
  | runEnds _ _ decoded => exact length_validity decoded
  | blanks _ n => simp [validity, length]

theorem take_cutItems (count : Nat) (slots : List Slot) (items : List Element) :
    (cutItems slots items).take count = cutItems (slots.take count) items := by
  induction slots generalizing count items with
  | nil => simp [cutItems]
  | cons slot slots ih => cases count <;> simp [cutItems, ih]

theorem drop_cutItems (offset : Nat) (slots : List Slot) (items : List Element) :
    (cutItems slots items).drop offset =
      cutItems (slots.drop offset)
        (items.drop ((slots.take offset).map Slot.length).sum) := by
  induction slots generalizing offset items with
  | nil => simp [cutItems]
  | cons slot slots ih =>
    cases offset with
    | zero => simp
    | succ offset => simp [cutItems, ih, List.drop_drop]

theorem cutItems_take (slots : List Slot) (items : List Element) (room : Nat)
    (enough : (slots.map Slot.length).sum ≤ room) :
    cutItems slots (items.take room) = cutItems slots items := by
  induction slots generalizing items room with
  | nil => rfl
  | cons slot slots ih =>
    rw [List.map_cons, List.sum_cons] at enough
    have own : slot.length ≤ room := by omega
    have rest : (slots.map Slot.length).sum ≤ room - slot.length := by omega
    simp [cutItems, List.take_take, List.drop_take, Nat.min_eq_left own, ih _ _ rest]

theorem take_cutFixed (size count : Nat) (valid : List Bool) (items : List Element) :
    (cutFixed size valid items).take count = cutFixed size (valid.take count) items := by
  induction valid generalizing count items with
  | nil => simp [cutFixed]
  | cons v valid ih => cases count <;> simp [cutFixed, ih]

theorem drop_cutFixed (size offset : Nat) (valid : List Bool) (items : List Element) :
    (cutFixed size valid items).drop offset =
      cutFixed size (valid.drop offset) (items.drop (offset * size)) := by
  induction valid generalizing offset items with
  | nil => simp [cutFixed]
  | cons v valid ih =>
    cases offset with
    | zero => simp
    | succ offset => simp [cutFixed, ih, List.drop_drop, Nat.succ_mul, Nat.add_comm]

theorem cutFixed_take (size : Nat) (valid : List Bool) (items : List Element) (room : Nat)
    (enough : valid.length * size ≤ room) :
    cutFixed size valid (items.take room) = cutFixed size valid items := by
  induction valid generalizing items room with
  | nil => rfl
  | cons v valid ih =>
    have own : size ≤ room := by
      have := Nat.le_add_left size (valid.length * size)
      rw [List.length_cons, Nat.succ_mul] at enough
      omega
    have rest : valid.length * size ≤ room - size := by
      rw [List.length_cons, Nat.succ_mul] at enough
      omega
    simp [cutFixed, List.take_take, List.drop_take, Nat.min_eq_left own, ih _ _ rest]

theorem take_zipColumns (count : Nat) (valid : List Bool) (columns : List (List Element)) :
    (zipColumns valid columns).take count =
      zipColumns (valid.take count) (columns.map (·.take count)) := by
  induction valid generalizing count columns with
  | nil => simp [zipColumns]
  | cons v valid ih =>
    cases count with
    | zero => simp [zipColumns]
    | succ count =>
      have heads : (columns.map (·.take (count + 1))).map (·.headD .null) =
          columns.map (·.headD .null) := by
        rw [List.map_map]
        apply List.map_congr_left
        intro column _
        cases column <;> rfl
      have tails : (columns.map (·.take (count + 1))).map (·.drop 1) =
          (columns.map (·.drop 1)).map (·.take count) := by
        simp only [List.map_map]
        apply List.map_congr_left
        intro column _
        cases column <;> simp
      simp only [zipColumns, List.take_succ_cons, ih]
      rw [heads, tails]

theorem drop_zipColumns (offset : Nat) (valid : List Bool) (columns : List (List Element)) :
    (zipColumns valid columns).drop offset =
      zipColumns (valid.drop offset) (columns.map (·.drop offset)) := by
  induction valid generalizing offset columns with
  | nil => simp [zipColumns]
  | cons v valid ih =>
    cases offset with
    | zero => simp
    | succ offset =>
      simp [zipColumns, ih, Function.comp_def]

mutual

theorem rows_slice (a : TypedArray) (offset count : Nat) :
    (a.slice offset count).rows = (a.rows.drop offset).take count := by
  match a with
  | flat cells => simp [rows, slice]
  | lists _ _ skipped slots items =>
    simp only [rows, slice, Slots.toList_slice, Slots.total_slice]
    rw [drop_cutItems, take_cutItems, List.drop_drop]
  | fixedLists size _ valid items =>
    simp only [rows, slice, rows_slice items]
    rw [drop_cutFixed, take_cutFixed]
    apply cutFixed_take
    exact Nat.mul_le_mul_right size (List.length_take_le ..)
  | structs _ valid columns =>
    simp only [rows, slice, rowsAll_sliceAll columns]
    rw [drop_zipColumns, take_zipColumns, List.map_map]
    rfl
  | dictionaries _ keys values => simp [rows, slice, lookUp, List.map_take, List.map_drop]
  | runEnds _ _ decoded => simp [rows, slice, rows_slice decoded]
  | blanks _ n => simp [rows, slice]

theorem rowsAll_sliceAll (as : List TypedArray) (offset count : Nat) :
    rowsAll (sliceAll offset count as) =
      (rowsAll as).map fun rows => (rows.drop offset).take count := by
  match as with
  | [] => rfl
  | a :: as => simp [rowsAll, sliceAll, rows_slice a, rowsAll_sliceAll as]

end

theorem length_slice (a : TypedArray) (offset count : Nat) :
    (a.slice offset count).length = min count (a.length - offset) := by
  rw [← length_rows, rows_slice, List.length_take, List.length_drop, length_rows]

@[simp] theorem type_slice (a : TypedArray) (offset count : Nat) :
    (a.slice offset count).type = a.type := by
  cases a <;> simp [slice, type]

theorem rows_slice_all (a : TypedArray) {count : Nat} (all : a.length ≤ count) :
    (a.slice 0 count).rows = a.rows := by
  rw [rows_slice, List.drop_zero, List.take_of_length_le (by rwa [length_rows])]

end TypedArray

end EntityLog
