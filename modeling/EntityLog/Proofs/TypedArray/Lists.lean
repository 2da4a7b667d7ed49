import EntityLog.Proofs.Results
import EntityLog.Proofs.TypedArray.Rows
import EntityLog.TypedArray.Lists
import Mathlib.Algebra.BigOperators.Ring.Finset
import Mathlib.Algebra.Order.BigOperators.Group.List
import Mathlib.Algebra.Order.Ring.Int

namespace EntityLog

theorem exists_boundsFrom {total : Int} (room : total ≤ int32Max) (lengths : List Int) :
    (∃ bounds, boundsFrom total lengths = .ok bounds) ↔
      (∀ n ∈ lengths, 0 ≤ n) ∧ total + lengths.sum ≤ int32Max := by
  induction lengths generalizing total with
  | nil => simpa [boundsFrom] using room
  | cons n lengths ih =>
    by_cases negative : n < 0
    · rw [boundsFrom, if_pos negative]
      constructor
      · rintro ⟨_, refused⟩
        cases refused
      · rintro ⟨nonneg, _⟩
        exact absurd negative (Int.not_lt.2 (nonneg n List.mem_cons_self))
    by_cases exceeds : int32Max < total + n
    · rw [boundsFrom, if_neg negative, if_pos exceeds]
      constructor
      · rintro ⟨_, refused⟩
        cases refused
      · rintro ⟨nonneg, fits⟩
        -- The lengths after one that is too much only add to it.
        have later := List.sum_nonneg fun m member => nonneg m (List.mem_cons_of_mem n member)
        rw [List.sum_cons] at fits
        omega
    · have nonneg : 0 ≤ n := Int.not_lt.1 negative
      simp only [boundsFrom, negative, exceeds, if_false, map_eq_ok]
      have rest := ih (Int.not_lt.1 exceeds)
      rw [List.forall_mem_cons, List.sum_cons, ← Int.add_assoc, and_assoc, ← rest]
      constructor
      · rintro ⟨_, bounds, done, _⟩
        exact ⟨nonneg, bounds, done⟩
      · rintro ⟨_, bounds, done⟩
        exact ⟨_, bounds, done, rfl⟩

theorem exists_listBounds (lengths : List Int) :
    (∃ bounds, listBounds lengths = .ok bounds) ↔
      (∀ n ∈ lengths, 0 ≤ n) ∧ lengths.sum ≤ int32Max := by
  have room : (0 : Int) ≤ int32Max := by decide
  rw [listBounds, exists_boundsFrom room, Int.zero_add]

theorem sum_map_ofNat (lengths : List Nat) : (lengths.map Int.ofNat).sum = lengths.sum :=
  (Nat.cast_list_sum lengths).symm

theorem sum_map_toNat {lengths : List Int} (nonneg : ∀ n ∈ lengths, 0 ≤ n) :
    ((lengths.map Int.toNat).sum : Int) = lengths.sum := by
  have back : ∀ n ∈ lengths, Int.ofNat n.toNat = n :=
    fun n member => Int.toNat_of_nonneg (nonneg n member)
  rw [← sum_map_ofNat, List.map_map]
  exact congrArg List.sum ((List.map_congr_left back).trans (List.map_id _))

theorem nonneg_of_mem_map_ofNat {lengths : List Nat} {n : Int} (member : n ∈ lengths.map Int.ofNat) :
    0 ≤ n := by
  obtain ⟨length, _, rfl⟩ := List.mem_map.1 member
  exact Int.natCast_nonneg length

namespace Slots

theorem getElem?_ofMask {lengths : List Nat} {mask : Option (List Bool)}
    (masked : ∀ valid, mask = some valid → valid.length = lengths.length) (i : Nat) :
    (ofMask lengths mask).toList[i]? =
      lengths[i]?.map fun n => ⟨n, !mask.any (·[i]? = some false)⟩ := by
  cases mask with
  | none => simp [ofMask, toList]
  | some valid =>
    have same := masked valid rfl
    by_cases inside : i < lengths.length
    · have here : i < valid.length := same ▸ inside
      simp [ofMask, toList, inside, here]
    · have beyond : lengths.length ≤ i := Nat.le_of_not_lt inside
      simp [ofMask, toList, beyond, same]

theorem lengths_ofMask {lengths : List Nat} {mask : Option (List Bool)}
    (masked : ∀ valid, mask = some valid → valid.length = lengths.length) :
    (ofMask lengths mask).lengths = lengths := by
  cases mask with
  | none => rfl
  | some valid =>
    rw [ofMask, Slots.lengths, List.map_map]
    exact List.map_fst_zip (Nat.le_of_eq (masked valid rfl).symm)

end Slots

namespace TypedArray

theorem getElem?_cutItems (slots : List Slot) (items : List Element) (i : Nat) :
    (cutItems slots items)[i]? = slots[i]?.map fun slot =>
      if slot.valid then
        .list ((items.drop ((slots.take i).map Slot.length).sum).take slot.length)
      else .null := by
  induction slots generalizing i items with
  | nil => rfl
  | cons slot slots ih =>
    cases i with
    | zero => simp [cutItems]
    | succ i => simp [cutItems, ih, List.drop_drop]

theorem tryLists_eq_ok {w : ListWidth} {item : Field} {skipped : Nat} {lengths : List Nat}
    {mask : Option (List Bool)} {items a : TypedArray} :
    tryLists w item skipped lengths mask items = .ok a ↔
      skipped + lengths.sum ≤ items.length ∧
      (∀ valid, mask = some valid → valid.length = lengths.length) ∧
      (item.nullable = false → items.hasNulls = false) ∧
      items.type = item.type ∧
      lists w item skipped (.ofMask lengths mask) items = a := by
  cases mask with
  | none =>
    simp only [tryLists, check_eq_ok, pure_eq_ok]
    simp
  | some valid =>
    simp only [tryLists, check_eq_ok, pure_eq_ok]
    simp

def fixedCount (size : Int) (mask : Option (List Bool)) (items : TypedArray) : Nat :=
  if size = 0 then mask.elim 0 List.length else items.length / size.toNat

theorem tryFixedLists_eq_ok {size : Int} {item : Field} {mask : Option (List Bool)}
    {items a : TypedArray} :
    tryFixedLists size item mask items = .ok a ↔
      0 ≤ size ∧
      (∀ valid, mask = some valid → valid.length = fixedCount size mask items) ∧
      items.type = item.type ∧
      (item.nullable = false → nullsMasked size.toNat
        (mask.getD (List.replicate (fixedCount size mask items) true)) items.validity = true) ∧
      fixedLists size.toNat item (mask.getD (List.replicate (fixedCount size mask items) true))
        (items.slice 0 (fixedCount size mask items * size.toNat)) = a := by
  cases mask with
  | none =>
    simp only [tryFixedLists, check_eq_ok, pure_eq_ok, fixedCount]
    simp
  | some valid =>
    simp only [tryFixedLists, check_eq_ok, pure_eq_ok, fixedCount]
    simp

theorem type_tryLists {w : ListWidth} {item : Field} {skipped : Nat} {lengths : List Nat}
    {mask : Option (List Bool)} {items a : TypedArray}
    (h : tryLists w item skipped lengths mask items = .ok a) : a.type = .list w item := by
  obtain ⟨_, _, _, _, rfl⟩ := tryLists_eq_ok.1 h
  rfl

theorem type_tryFixedLists {size : Int} {item : Field} {mask : Option (List Bool)}
    {items a : TypedArray} (h : tryFixedLists size item mask items = .ok a) :
    a.type = .fixedList size item := by
  obtain ⟨nonneg, _, _, _, rfl⟩ := tryFixedLists_eq_ok.1 h
  simp [type, Int.toNat_of_nonneg nonneg]

theorem wrapInLists_eq_ok {items a : TypedArray} {lengths : List Int} {mask : Option (List Bool)} :
    wrapInLists items lengths mask = .ok a ↔
      ((∀ n ∈ lengths, 0 ≤ n) ∧ lengths.sum ≤ int32Max) ∧
      (lengths.map Int.toNat).sum ≤ items.length ∧
      (∀ valid, mask = some valid → valid.length = lengths.length) ∧
      lists .regular (.item items.type) 0 (.ofMask (lengths.map Int.toNat) mask) items = a := by
  rw [wrapInLists, bind_eq_ok, ← exists_listBounds]
  simp [tryLists_eq_ok, Field.item]

def listSlices (items : TypedArray) (start : Nat) : List Nat → List TypedArray
  | [] => []
  | n :: ns => items.slice start n :: listSlices items (start + n) ns

def IsConcat (parts : List TypedArray) (whole : TypedArray) : Prop :=
  (∀ part ∈ parts, part.type = whole.type) ∧ parts.flatMap rows = whole.rows

theorem type_of_mem_listSlices {items part : TypedArray} {start : Nat} {lengths : List Nat}
    (member : part ∈ listSlices items start lengths) : part.type = items.type := by
  induction lengths generalizing start with
  | nil => exact absurd member List.not_mem_nil
  | cons n lengths ih =>
    rcases List.mem_cons.1 member with rfl | later
    · exact type_slice items start n
    · exact ih later

theorem flatMap_rows_listSlices (items : TypedArray) (start : Nat) (lengths : List Nat) :
    (listSlices items start lengths).flatMap rows = (items.rows.drop start).take lengths.sum := by
  induction lengths generalizing start with
  | nil => simp [listSlices]
  | cons n lengths ih =>
    rw [listSlices, List.flatMap_cons, ih, rows_slice, List.sum_cons, List.take_add, List.drop_drop]

theorem isConcat_listSlices {items : TypedArray} {lengths : List Nat}
    (all : lengths.sum = items.length) : IsConcat (listSlices items 0 lengths) items := by
  refine ⟨fun part => type_of_mem_listSlices, ?_⟩
  rw [flatMap_rows_listSlices, List.drop_zero, List.take_of_length_le]
  rw [length_rows, all]

end TypedArray

end EntityLog
