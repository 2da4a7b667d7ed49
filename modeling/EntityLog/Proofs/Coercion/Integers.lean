import EntityLog.Proofs.Coercion.Targets

namespace EntityLog

section

variable {v : Value} {t : IntegerType}

theorem buildArray_integer (leaf : v.isLeaf) :
    buildArray [v] (.integer t) = (v.toInteger t).map fun i => .flat (.integers t [some i]) := by
  cases v with
  | bool _ | int _ | uint _ | float _ | text _ | bytes _ =>
    rw [buildArray, buildFlat]
    simp only [buildCells]
    cases Value.toInteger t _ <;> rfl
  | null | list _ | tensor _ | array _ => cases leaf

theorem result_coerce_integer (leaf : v.isLeaf) : (coerce v (some (.integer t))).result =
    match v.toInteger t with
    | .ok i => .ok (.flat (.integers t [some i]))
    | .error reason => .error (.error (.cannotConvert (some (.integer t)) reason)) := by
  have built := buildArray_integer (t := t) leaf
  have last : fromItems v (some (.integer t)) =
      convertError (some (.integer t)) (reporting (buildArray [v] (.integer t))) := by
    rw [fromItems, itemsOf_leaf leaf]
    rfl
  rw [built] at last
  rw [coerce_leaf leaf]
  cases v with
  | bool _ | int _ | uint _ | float _ =>
    simp only [tryStrategies, Strategy.run, Strategy.fromTensor, Strategy.fromText, Strategy.fromScalar,
      Strategy.scalarType, Option.getD_some, built, last]
    cases Value.toInteger t _ <;> rfl
  | text _ | bytes _ =>
    -- Only the last resort reads these, and reads no integer.
    simp only [tryStrategies, Strategy.run, Strategy.fromTensor, Strategy.fromText, Strategy.fromScalar,
      Strategy.scalarType, last]
    cases t <;> rfl
  | null | list _ | tensor _ | array _ => cases leaf

theorem coerce_integer_eq_ok {a : TypedArray} (leaf : v.isLeaf) :
    (coerce v (some (.integer t))).result = .ok a ↔
      ∃ i, v.Denotes i ∧ t.holds i ∧ (v.kind = .float → IntegerType.int64.holds i) ∧
        a = .flat (.integers t [some i]) :=
  calc (coerce v (some (.integer t))).result = .ok a
    _ ↔ ∃ i, v.toInteger t = .ok i ∧ a = .flat (.integers t [some i]) := by
        rw [result_coerce_integer leaf]
        cases v.toInteger t <;> simp [@eq_comm _ a]
    _ ↔ _ := by simp only [Value.toInteger_eq_ok, and_assoc]

/-- A single value becomes an integer of a type iff it is an integer that the type holds, and then it
becomes that one. Only of floats there is more to ask, and only where the type holds integers that 64
bits with a sign do not. Bools are 0 and 1, and all that is refused is reported. -/
theorem coerce_integer {v : Value} (leaf : v.isLeaf) (t : IntegerType) :
    (∀ a, (coerce v (some (.integer t))).result = .ok a ↔
      ∃ i, v.Denotes i ∧ t.holds i ∧ (v.kind = .float → IntegerType.int64.holds i) ∧
        a = .flat (.integers t [some i])) ∧
    (v.kind ≠ .float ∨ t ≠ .uint64 → ∀ a, (coerce v (some (.integer t))).result = .ok a ↔
      ∃ i, v.Denotes i ∧ t.holds i ∧ a = .flat (.integers t [some i])) ∧
    (∀ b, v = .bool b →
      (coerce v (some (.integer t))).result = .ok (.flat (.integers t [some (if b then 1 else 0)]))) ∧
    ∀ failure, (coerce v (some (.integer t))).result = .error failure →
      ∃ reason, failure = .error (.cannotConvert (some (.integer t)) reason) := by
  refine ⟨fun a => coerce_integer_eq_ok leaf, fun narrow a => (coerce_integer_eq_ok leaf).trans ?_, ?_,
    fun failure failed => ?_⟩
  · refine exists_congr fun i => and_congr_right fun _ => and_congr_right fun held => ?_
    exact and_iff_right fun float =>
      IntegerType.holds_int64 (narrow.resolve_left (not_not_intro float)) held
  · rintro b rfl
    exact (coerce_integer_eq_ok leaf).2 ⟨_, rfl, IntegerType.holds_bool t b, nofun, rfl⟩
  · rw [result_coerce_integer leaf] at failed
    split at failed
    case h_1 => cases failed
    case h_2 reason _ =>
      cases failed
      exact ⟨reason, rfl⟩

theorem coerce_integer_limits :
    (coerce (.float 0x43dfffffffffffff) (some .uint64)).result =
        .ok (.flat (.integers .uint64 [some (2 ^ 63 - 1024)])) ∧
      (coerce (.uint (2 ^ 64 - 1)) (some .uint64)).result =
        .ok (.flat (.integers .uint64 [some (2 ^ 64 - 1)])) ∧
      ∀ a, (coerce (.int (-1)) (some .uint64)).result ≠ .ok a := by
  have unsigned {v : Value} (leaf : v.isLeaf) (other : v.kind ≠ .float) :=
    (coerce_integer leaf .uint64).2.1 (.inl other)
  refine ⟨((coerce_integer rfl .uint64).1 _).2 ⟨2 ^ 63 - 1024, ?_, by decide, fun _ => by decide, rfl⟩,
    (unsigned rfl (by decide) _).2 ⟨2 ^ 64 - 1, ?_, by decide, rfl⟩, fun a done => ?_⟩
  · exact FloatValue.toInt?_eq_some.1 (by decide)
  · norm_num [Value.Denotes]
  · obtain ⟨i, rfl, held, _⟩ := (unsigned rfl (by decide) a).1 done
    revert held
    decide

/-- The float 2 ^ 63 is an integer that the unsigned type of 64 bits holds, and that very integer is
read if it is not a float. -/
theorem coerce_integer_float :
    let v : Value := .float 0x43e0000000000000
    v.Denotes (2 ^ 63) ∧ IntegerType.uint64.holds (2 ^ 63) ∧
      (coerce v (some .uint64)).result =
        .error (.error (.cannotConvert (some .uint64) (.notWhole 0x43e0000000000000))) ∧
      (coerce (.uint (2 ^ 63)) (some .uint64)).result =
        .ok (.flat (.integers .uint64 [some (2 ^ 63)])) := by
  refine ⟨FloatValue.toInt?_eq_some.1 (by decide), by decide, ?_, ?_⟩
  · with_unfolding_all rfl
  · with_unfolding_all rfl

end

end EntityLog
