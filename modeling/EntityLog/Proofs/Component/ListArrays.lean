import EntityLog.Proofs.Component.Columns
import Mathlib.Data.List.GetD

namespace EntityLog

def gaps (bounds : List Nat) : List Nat :=
  (bounds.zip (bounds.drop 1)).map fun (start, stop) => stop - start

section

variable {bounds : List Nat} {i : Nat}

@[simp] theorem length_gaps (bounds : List Nat) : (gaps bounds).length = bounds.length - 1 := by
  simp [gaps]

theorem getElem_gaps (inside : i < (gaps bounds).length) :
    (gaps bounds)[i] = bounds.getD (i + 1) 0 - bounds.getD i 0 := by
  rw [length_gaps] at inside
  have here : i < bounds.length := by omega
  have next : i + 1 < bounds.length := by omega
  simp [gaps, here, next]

theorem headD_add_sum_gaps (sorted : bounds.Pairwise (· ≤ ·)) (inside : i < bounds.length) :
    bounds.headD 0 + ((gaps bounds).take i).sum = bounds.getD i 0 := by
  induction i with
  | zero => cases bounds <;> simp
  | succ i ih =>
    have here : i < bounds.length := Nat.lt_of_succ_lt inside
    have gap : i < (gaps bounds).length := by
      rw [length_gaps]
      omega
    have before : bounds.getD i 0 ≤ bounds.getD (i + 1) 0 := by
      rw [List.getD_eq_getElem _ _ here, List.getD_eq_getElem _ _ inside]
      exact List.pairwise_iff_getElem.1 sorted i (i + 1) here inside (Nat.lt_succ_self i)
    rw [List.take_succ_eq_append_getElem gap, List.sum_append, List.sum_singleton, ← Nat.add_assoc,
      ih here, getElem_gaps]
    omega

theorem gaps_slice (bounds : List Nat) (offset count : Nat) :
    gaps ((bounds.drop offset).take (count + 1)) = ((gaps bounds).drop offset).take count := by
  apply List.ext_getElem
  · simp only [length_gaps, List.length_take, List.length_drop]
    omega
  · intro i inside _
    simp only [length_gaps, List.length_take] at inside
    have here : i < count + 1 := by omega
    have next : i < count := by omega
    simp [getElem_gaps, here, next, Nat.add_assoc]

end

namespace Slots

theorem slice_ofMask (lengths : List Nat) (mask : Option (List Bool)) (offset count : Nat) :
    (ofMask lengths mask).slice offset count =
      ofMask ((lengths.drop offset).take count)
        (mask.map fun valid => (valid.drop offset).take count) := by
  cases mask with
  | none => rfl
  | some valid =>
    simp [ofMask, slice, List.zip, List.take_zipWith, List.drop_zipWith]

end Slots

structure ListArray where
  item : Field
  bounds : List Nat
  mask : Option (List Bool)
  items : TypedArray
  nonempty : bounds ≠ []
  sorted : bounds.Pairwise (· ≤ ·)
  inside : ∀ bound ∈ bounds, bound ≤ items.length
  narrow : ∀ bound ∈ bounds, (bound : Int) ≤ int32Max
  masked : ∀ valid, mask = some valid → valid.length + 1 = bounds.length

namespace ListArray

def count (a : ListArray) : Nat := a.bounds.length - 1

def array (a : ListArray) : TypedArray := .ofBounds .regular a.item a.bounds a.mask a.items

def slots (a : ListArray) : Slots := .ofMask (gaps a.bounds) a.mask

def isNull (a : ListArray) (i : Nat) : Bool := a.mask.any (·[i]? = some false)

def row (a : ListArray) (i : Nat) : Element :=
  if a.isNull i then .null
  else .list ((a.items.rows.drop (a.bounds.getD i 0)).take (a.bounds.getD (i + 1) 0 - a.bounds.getD i 0))

def slice (a : ListArray) (offset count : Nat) (within : offset + count ≤ a.count) : ListArray where
  item := a.item
  bounds := (a.bounds.drop offset).take (count + 1)
  mask := a.mask.map fun valid => (valid.drop offset).take count
  items := a.items
  nonempty := by
    have := List.length_pos_of_ne_nil a.nonempty
    rw [ListArray.count] at within
    rw [← List.length_pos_iff, List.length_take, List.length_drop]
    omega
  sorted := a.sorted.drop.take
  inside := fun bound member => a.inside bound (List.mem_of_mem_drop (List.mem_of_mem_take member))
  narrow := fun bound member => a.narrow bound (List.mem_of_mem_drop (List.mem_of_mem_take member))
  masked := by
    intro valid given
    obtain ⟨whole, is, rfl⟩ := Option.map_eq_some_iff.1 given
    have := a.masked whole is
    rw [ListArray.count] at within
    simp only [List.length_take, List.length_drop]
    omega

variable (a : ListArray) (d : ComponentDescriptor)

theorem array_eq : a.array = .lists .regular a.item (a.bounds.headD 0) a.slots a.items := rfl

theorem length_mask {valid : List Bool} (given : a.mask = some valid) :
    valid.length = (gaps a.bounds).length := by
  rw [length_gaps, ← a.masked valid given, Nat.add_sub_cancel]

theorem lengths_slots : a.slots.lengths = gaps a.bounds := Slots.lengths_ofMask fun _ => a.length_mask

theorem count_slots : a.slots.count = a.count := by
  rw [Slots.count, lengths_slots, length_gaps, count]

theorem count_lt : a.count < a.bounds.length := by
  have := List.length_pos_of_ne_nil a.nonempty
  rw [count]
  omega

theorem getD_mem {i : Nat} (inside : i < a.bounds.length) : a.bounds.getD i 0 ∈ a.bounds := by
  rw [List.getD_eq_getElem _ _ inside]
  exact List.getElem_mem inside

theorem headD_add_sum_slots {i : Nat} (inside : i < a.bounds.length) :
    a.bounds.headD 0 + ((a.slots.toList.take i).map Slot.length).sum = a.bounds.getD i 0 := by
  rw [List.map_take, Slots.lengths_toList, lengths_slots, headD_add_sum_gaps a.sorted inside]

theorem headD_add_total : a.bounds.headD 0 + a.slots.total = a.bounds.getD a.count 0 := by
  rw [← headD_add_sum_slots a a.count_lt, Slots.total, itemCount_eq_sum, ← Slots.lengths_toList,
    List.take_of_length_le (by rw [Slots.length_toList, count_slots])]

theorem array_slice {offset count : Nat} (within : offset + count ≤ a.count) :
    (a.slice offset count within).array = a.array.slice offset count := by
  have first : (a.slice offset count within).bounds.headD 0 =
      a.bounds.headD 0 + (a.slots.slice 0 offset).total := by
    have reach : offset < a.bounds.length := Nat.lt_of_le_of_lt (by omega) a.count_lt
    rw [Slots.total_slice, headD_add_sum_slots a reach, slice, List.headD_eq_head?_getD,
      List.head?_take, if_neg (Nat.succ_ne_zero count), List.head?_drop, List.getD_eq_getElem?_getD]
  have cut : (a.slice offset count within).slots = a.slots.slice offset count := by
    rw [slots, slots, Slots.slice_ofMask, ← gaps_slice]
    rfl
  rw [array_eq, array_eq, TypedArray.slice, first, cut]
  rfl

theorem getElem?_slots (i : Nat) :
    a.slots.toList[i]? = (gaps a.bounds)[i]?.map fun n => ⟨n, !a.isNull i⟩ :=
  Slots.getElem?_ofMask (fun _ => a.length_mask) i

theorem rows_array : a.array.rows = (List.range a.count).map a.row := by
  apply List.ext_getElem?
  intro i
  rw [array_eq, TypedArray.rows, TypedArray.getElem?_cutItems, List.getElem?_map, getElem?_slots]
  by_cases inside : i < a.count
  · have gap : i < (gaps a.bounds).length := by rwa [length_gaps]
    have reach : i < a.bounds.length := Nat.lt_trans inside a.count_lt
    rw [List.drop_drop, headD_add_sum_slots a reach, List.getElem?_eq_getElem gap, getElem_gaps,
      List.getElem?_range inside]
    simp only [Option.map_some, row, Bool.not_eq_true', Option.some.injEq]
    cases a.isNull i <;> rfl
  · have beyond : (gaps a.bounds).length ≤ i := by rw [length_gaps]; exact Nat.le_of_not_lt inside
    rw [List.getElem?_eq_none beyond, List.getElem?_eq_none (by simpa using inside)]
    rfl

theorem listsFit : a.array.ListsFit := by
  have last := a.getD_mem a.count_lt
  have enough := a.inside _ last
  have narrow := a.narrow _ last
  rw [← headD_add_total] at enough narrow
  exact TypedArray.listsFit_lists enough narrow

/-- Any array of lists, a slice of one too, is read as a column, and written as lists of the same
rows: null where the mask says so, and otherwise with the items between their bounds. -/
theorem lists_keep_rows :
    (∀ offset count (within : offset + count ≤ a.count),
      (a.slice offset count within).array = a.array.slice offset count) ∧
    a.array.rows = (List.range a.count).map a.row ∧
    ∃ skipped slots items, a.array = .lists .regular a.item skipped slots items ∧
      ∃ c lists, ComponentColumn.ofLists skipped slots items d = .ok c ∧ c.toLists = .ok lists ∧
        lists.type = .list .regular (.item items.type) ∧
        lists.length = a.count ∧
        lists.rows = (List.range a.count).map a.row := by
  obtain ⟨skipped, slots, items, is, enough, narrow⟩ := a.listsFit a.item rfl
  obtain ⟨read, written⟩ := ComponentColumn.ofLists_of_fit enough narrow d
  have same : a.array.trimmed = (TypedArray.lists .regular a.item skipped slots items).trimmed :=
    congrArg TypedArray.trimmed is
  refine ⟨fun _ _ => a.array_slice, a.rows_array, _, _, _, is, _, _, read, written, rfl, ?_, ?_⟩
  · calc (TypedArray.lists .regular a.item skipped slots items).trimmed.length
        = a.array.trimmed.length := by rw [same]
      _ = a.array.length := TypedArray.length_trimmed _
      _ = a.count := a.count_slots
  · calc (TypedArray.lists .regular a.item skipped slots items).trimmed.rows
        = a.array.trimmed.rows := by rw [same]
      _ = a.array.rows := TypedArray.rows_trimmed _
      _ = (List.range a.count).map a.row := a.rows_array

example :
    let a : ListArray := {
      item := .item .int64
      bounds := [1, 1, 3, 5]
      mask := some [true, false, true]
      items := .flat (.integers .int64 [some 0, some 1, some 2, none, some 4, some 5])
      nonempty := by decide
      sorted := by decide
      inside := by decide
      narrow := by decide
      masked := by rintro valid ⟨⟩; rfl }
    (List.range 3).map a.row = [.list [], .null, .list [.null, .integer 4]] := by
  decide

end ListArray

end EntityLog
