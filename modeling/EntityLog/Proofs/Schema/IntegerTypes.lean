import EntityLog.Schema.DataType

namespace EntityLog.IntegerType

variable {t : IntegerType} {i : Int}

theorem holds_iff : t.holds i ↔ t.minValue ≤ i ∧ i ≤ t.maxValue := by
  simp [holds]

theorem bounds_int64 (t : IntegerType) (narrow : t ≠ .uint64) :
    int64.minValue ≤ t.minValue ∧ t.maxValue ≤ int64.maxValue := by
  revert narrow
  cases t <;> decide

theorem holds_int64 (narrow : t ≠ .uint64) (held : t.holds i) : int64.holds i := by
  obtain ⟨low, high⟩ := bounds_int64 t narrow
  rw [holds_iff] at held ⊢
  exact ⟨Int.le_trans low held.1, Int.le_trans held.2 high⟩

theorem ne_uint64_of_isSigned (signed : t.isSigned) : t ≠ .uint64 := by
  rintro rfl
  cases signed

theorem nonneg_of_holds (unsigned : t.isSigned = false) (held : t.holds i) : 0 ≤ i := by
  have low := (holds_iff.1 held).1
  rwa [minValue, unsigned, if_neg Bool.false_ne_true] at low

theorem holds_bool (t : IntegerType) (b : Bool) : t.holds (if b then 1 else 0) := by
  cases t <;> cases b <;> decide

theorem holds_uint64 (held : int64.holds i) (nonneg : 0 ≤ i) : uint64.holds i := by
  have more : int64.maxValue ≤ uint64.maxValue := by decide
  exact holds_iff.2 ⟨nonneg, Int.le_trans (holds_iff.1 held).2 more⟩

theorem holds_int64_iff (held : t.holds i) : int64.holds i ↔ i ≤ int64.maxValue := by
  refine ⟨fun small => (holds_iff.1 small).2, fun small => holds_iff.2 ⟨?_, small⟩⟩
  have low : int64.minValue ≤ t.minValue := by cases t <;> decide
  exact Int.le_trans low (holds_iff.1 held).1

end EntityLog.IntegerType
