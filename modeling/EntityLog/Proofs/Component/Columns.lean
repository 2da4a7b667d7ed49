import EntityLog.Component.Column
import EntityLog.Proofs.TypedArray.Lists

namespace EntityLog

namespace Slots

theorem length_of_mask {s : Slots} {valid : List Bool} (given : s.mask = some valid) :
    valid.length = s.count := by
  cases s with
  | plain lengths => cases given
  | masked lists =>
    cases given
    simp [count, lengths]

theorem ofMask_lengths_mask (s : Slots) : ofMask s.lengths s.mask = s := by
  cases s with
  | plain lengths => rfl
  | masked lists =>
    rw [mask, lengths, ofMask, List.zip_map', List.map_map]
    exact congrArg masked (List.map_id lists)

end Slots

/-- What every array of lists with bounds of 32 bits keeps to: it takes no more items than it has,
and no more than such bounds tell. -/
def TypedArray.ListsFit (a : TypedArray) : Prop :=
  ∀ item, a.type = .list .regular item →
    ∃ skipped slots items, a = .lists .regular item skipped slots items ∧
      skipped + slots.total ≤ items.length ∧ (skipped + slots.total : Int) ≤ int32Max

namespace TypedArray

theorem listsFit_lists {item : Field} {skipped : Nat} {slots : Slots} {items : TypedArray}
    (enough : skipped + slots.total ≤ items.length)
    (narrow : (skipped + slots.total : Int) ≤ int32Max) :
    (lists .regular item skipped slots items).ListsFit := by
  rintro item ⟨⟩
  exact ⟨_, _, _, rfl, enough, narrow⟩

theorem listsFit_flat (cells : FlatArray) : (flat cells).ListsFit := fun _ type => nomatch type

def trimmed : TypedArray → TypedArray
  | lists .regular _ skipped slots items =>
    lists .regular (.item items.type) 0 slots (items.slice skipped slots.total)
  | a => a

theorem rows_trimmed (a : TypedArray) : a.trimmed.rows = a.rows := by
  unfold trimmed
  split
  case h_1 item skipped slots items =>
    have enough : (slots.toList.map Slot.length).sum ≤ slots.total := by
      rw [Slots.lengths_toList, Slots.total, itemCount_eq_sum]
    rw [rows, rows, rows_slice, List.drop_zero, cutItems_take _ _ _ enough]
  case h_2 => rfl

theorem length_trimmed (a : TypedArray) : a.trimmed.length = a.length := by
  rw [← length_rows, rows_trimmed, length_rows]

end TypedArray

namespace ComponentColumn

/-- Columns are cut from a batch, read from lists, or cut anew. -/
inductive IsMade : ComponentColumn → Prop
  | partition {b : ComponentBatch} {lengths : Option (List Int)} {c : ComponentColumn} :
    b.partition lengths = .ok c → IsMade c
  | ofLists {skipped : Nat} {slots : Slots} {items : TypedArray} {d : ComponentDescriptor}
    {c : ComponentColumn} : ofLists skipped slots items d = .ok c → IsMade c
  | partitioned {c cut : ComponentColumn} {lengths : List Int} :
    IsMade c → c.partitioned lengths = .ok cut → IsMade cut

structure IsCut (c : ComponentColumn) : Prop where
  sum : c.lengths.sum = c.batch.length
  mask : ∀ valid, c.rows.mask = some valid → valid.length = c.rowCount

theorem isCut_of_sum {c : ComponentColumn} (sum : c.lengths.sum = c.batch.length) : c.IsCut :=
  ⟨sum, fun _ => Slots.length_of_mask⟩

theorem ofLengths_eq_ok {b : ComponentBatch} {lengths : List Int} {c : ComponentColumn} :
    ofLengths b lengths = .ok c ↔
      ((∀ n ∈ lengths, 0 ≤ n) ∧ lengths.sum = b.length) ∧
        c = ⟨b, .plain (lengths.map Int.toNat)⟩ := by
  have sum : lengths.foldr (· + ·) 0 = lengths.sum := rfl
  rw [ofLengths, sum]
  cases found : lengths.find? (· < 0) with
  | some n =>
    have negative : n < 0 := by simpa using List.find?_some found
    constructor
    · intro refused
      cases refused
    · rintro ⟨⟨nonneg, _⟩, _⟩
      exact absurd negative (Int.not_lt.2 (nonneg n (List.mem_of_find?_eq_some found)))
  | none =>
    have nonneg : ∀ n ∈ lengths, 0 ≤ n := by simpa using found
    by_cases all : lengths.sum = b.length
    · simp only [all, if_true, and_true, Except.ok.injEq, eq_comm (b := c)]
      exact (and_iff_right nonneg).symm
    · simp [all]

theorem isCut_of_ofLengths {b : ComponentBatch} {lengths : List Int} {c : ComponentColumn}
    (done : ofLengths b lengths = .ok c) : c.IsCut := by
  obtain ⟨⟨nonneg, sum⟩, rfl⟩ := ofLengths_eq_ok.1 done
  apply isCut_of_sum
  exact Int.ofNat_inj.1 ((sum_map_toNat nonneg).trans sum)

theorem ofLists_eq_ok {skipped : Nat} {slots : Slots} {items : TypedArray} {d : ComponentDescriptor}
    {c : ComponentColumn} :
    ofLists skipped slots items d = .ok c ↔
      (items.slice skipped slots.total).length = slots.total ∧
        c = ⟨{ array := items.slice skipped slots.total, descriptor := d }, slots⟩ := by
  have sum : (slots.lengths.map Int.ofNat).sum = slots.total := by
    rw [sum_map_ofNat, Slots.total, itemCount_eq_sum]
  rw [ofLists, bind_eq_ok]
  simp only [ofLengths_eq_ok, sum, pure_eq_ok]
  constructor
  · rintro ⟨_, ⟨⟨_, all⟩, rfl⟩, rfl⟩
    exact ⟨Int.ofNat_inj.1 all.symm, rfl⟩
  · rintro ⟨all, rfl⟩
    exact ⟨_, ⟨⟨fun n => nonneg_of_mem_map_ofNat, congrArg Int.ofNat all.symm⟩, rfl⟩, rfl⟩

theorem IsMade.isCut {c : ComponentColumn} (made : c.IsMade) : c.IsCut := by
  induction made with
  | @partition b lengths c done =>
    cases lengths with
    | some lengths => exact isCut_of_ofLengths done
    | none =>
      change units b = .ok c at done
      rw [units] at done
      split at done
      · cases done
      · exact isCut_of_ofLengths done
  | ofLists done =>
    obtain ⟨all, rfl⟩ := ofLists_eq_ok.1 done
    apply isCut_of_sum
    rw [← itemCount_eq_sum]
    exact all.symm
  | partitioned _ done => exact isCut_of_ofLengths done

theorem toLists_eq_ok {c : ComponentColumn} (cut : c.IsCut) {a : TypedArray} :
    c.toLists = .ok a ↔
      c.batch.length ≤ int32Max ∧
        .lists .regular (.item c.batch.type) 0 c.rows c.batch.array = a := by
  have back : (c.lengths.map Int.ofNat).map Int.toNat = c.lengths := by
    rw [List.map_map]
    exact List.map_id c.lengths
  have enough : c.batch.length ≤ c.batch.array.length := Nat.le_refl _
  have mask : ∀ valid, c.rows.mask = some valid →
      valid.length = (c.lengths.map Int.ofNat).length := by
    intro valid given
    rw [List.length_map]
    exact cut.mask valid given
  rw [toLists, mapError_eq_ok, TypedArray.wrapInLists_eq_ok, sum_map_ofNat, back, cut.sum,
    and_iff_right mask, and_iff_right enough, and_iff_right fun _ => nonneg_of_mem_map_ofNat]
  rw [lengths, Slots.ofMask_lengths_mask]
  rfl

theorem ofLists_of_fit {skipped : Nat} {slots : Slots} {items : TypedArray}
    (enough : skipped + slots.total ≤ items.length)
    (bounded : (skipped + slots.total : Int) ≤ int32Max) (d : ComponentDescriptor) :
    let c : ComponentColumn :=
      ⟨{ array := items.slice skipped slots.total, descriptor := d }, slots⟩
    ofLists skipped slots items d = .ok c ∧
      c.toLists = .ok (.lists .regular (.item items.type) 0 slots c.batch.array) := by
  intro c
  have length : (items.slice skipped slots.total).length = slots.total := by
    rw [TypedArray.length_slice]
    omega
  have made : ofLists skipped slots items d = .ok c := ofLists_eq_ok.2 ⟨length, rfl⟩
  have few : (c.batch.length : Int) ≤ int32Max := by
    change ((items.slice skipped slots.total).length : Int) ≤ int32Max
    rw [length]
    omega
  have type : c.batch.type = items.type := TypedArray.type_slice _ _ _
  exact ⟨made, (toLists_eq_ok (IsMade.ofLists made).isCut).2 ⟨few, by rw [type]⟩⟩

theorem ofLists_rows {c : ComponentColumn} (cut : c.IsCut) :
    ∃ back, ofLists 0 c.rows c.batch.array c.descriptor = .ok back ∧
      back.Same { c with batch := c.batch.intoStorage } := by
  have total : c.rows.total = c.batch.array.length := by
    rw [Slots.total, itemCount_eq_sum]
    exact cut.sum
  have length : (c.batch.array.slice 0 c.rows.total).length = c.rows.total := by
    rw [TypedArray.length_slice, ← total, Nat.sub_zero, Nat.min_self]
  refine ⟨_, ofLists_eq_ok.2 ⟨length, rfl⟩, ?_⟩
  refine ⟨⟨rfl, rfl, TypedArray.type_slice _ _ _, ?_⟩, rfl⟩
  exact TypedArray.rows_slice_all _ (Nat.le_of_eq total.symm)

/-- The rows of a column make up its batch, lists of them can be had unless they are too many for
their bounds, and these lists read as the column, apart from what the array is an extension of. -/
theorem lists_round_trip :
    (∀ b lengths c, ComponentBatch.partition b (some lengths) = .ok c ↔
      ((∀ n ∈ lengths, 0 ≤ n) ∧ lengths.sum = b.length) ∧
        c = ⟨b, .plain (lengths.map Int.toNat)⟩) ∧
    (∀ c lengths cut, partitioned c lengths = .ok cut ↔
      ((∀ n ∈ lengths, 0 ≤ n) ∧ lengths.sum = c.batch.length) ∧
        cut = ⟨c.batch, .plain (lengths.map Int.toNat)⟩) ∧
    ∀ c, IsMade c →
      c.IsCut ∧
      ((∃ a, c.toLists = .ok a) ↔ c.batch.length ≤ int32Max) ∧
      ∀ a, c.toLists = .ok a →
        a.length = c.rowCount ∧
        a = .lists .regular (.item c.batch.type) 0 c.rows c.batch.array ∧
        TypedArray.IsConcat (TypedArray.listSlices c.batch.array 0 c.lengths) c.batch.array ∧
        ∃ back, ofLists 0 c.rows c.batch.array c.descriptor = .ok back ∧
          back.Same { c with batch := c.batch.intoStorage } := by
  refine ⟨fun _ _ _ => ofLengths_eq_ok, fun _ _ _ => ofLengths_eq_ok, ?_⟩
  intro c made
  have cut := made.isCut
  refine ⟨cut, ?_, ?_⟩
  · simp only [toLists_eq_ok cut, exists_and_left, exists_eq', and_true]
  · intro a done
    obtain ⟨_, rfl⟩ := (toLists_eq_ok cut).1 done
    exact ⟨rfl, rfl, TypedArray.isConcat_listSlices cut.sum, ofLists_rows cut⟩

theorem lists_round_trip_masked :
    let rows : Slots := .masked [⟨2, true⟩, ⟨0, true⟩, ⟨1, false⟩]
    let c : ComponentColumn :=
      ⟨⟨.flat (.integers .int64 [some 1, some 2, some 3]), .partialOf "x", none⟩, rows⟩
    ofLists 1 rows (.flat (.integers .int64 [some 0, some 1, some 2, some 3])) (.partialOf "x") =
        .ok c ∧
      c.lengths.sum = 3 ∧ ∃ a, c.toLists = .ok a ∧ a.length = 3 ∧
        ∃ back, ofLists 0 rows c.batch.array c.descriptor = .ok back ∧ back.Same c := by
  intro rows c
  have read : ofLists 1 rows (.flat (.integers .int64 [some 0, some 1, some 2, some 3]))
    (.partialOf "x") = .ok c := by rfl
  obtain ⟨cut, lists, round⟩ := lists_round_trip.2.2 c (.ofLists read)
  obtain ⟨a, done⟩ := lists.2 (by decide)
  obtain ⟨length, _, _, back⟩ := round a done
  exact ⟨read, cut.sum, a, done, length, back⟩

end ComponentColumn

end EntityLog
