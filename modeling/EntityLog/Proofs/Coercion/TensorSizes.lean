import EntityLog.Proofs.Coercion.Types
import Mathlib.Data.List.Infix

namespace EntityLog.Tensor

/-- Every product that is taken to find the size of the tensor fits in a word. -/
def IsCountable (t : Tensor) (width : Nat) : Prop :=
  (∀ dims ∈ t.shape.inits, dims.prod < pow2 64) ∧ t.shape.prod * width < pow2 64

instance (t : Tensor) (width : Nat) : Decidable (t.IsCountable width) :=
  inferInstanceAs (Decidable (_ ∧ _))

section

variable {n dim : Nat} {shape : List Nat}

theorem forall_inits_cons (fits : n < pow2 64) :
    (∀ dims ∈ (dim :: shape).inits, n * dims.prod < pow2 64) ↔
      ∀ dims ∈ shape.inits, n * dim * dims.prod < pow2 64 := by
  simp [fits, Nat.mul_assoc]

theorem foldlM_word (fits : n < pow2 64) (shape : List Nat) :
    shape.foldlM word n =
      if ∀ dims ∈ shape.inits, n * dims.prod < pow2 64 then .ok (n * shape.prod)
      else .error .countOverflow := by
  induction shape generalizing n with
  | nil =>
    rw [if_pos (by simpa using fits), List.prod_nil, Nat.mul_one]
    rfl
  | cons dim shape ih =>
    rw [List.foldlM_cons, word]
    by_cases next : n * dim < pow2 64
    · have rest : (Except.ok (n * dim) >>= fun m => shape.foldlM word m) =
          shape.foldlM word (n * dim) := rfl
      rw [if_pos next, rest, ih next, List.prod_cons, ← Nat.mul_assoc]
      exact if_congr (forall_inits_cons fits).symm rfl rfl
    · rw [if_neg next, if_neg]
      · rfl
      · intro all
        exact next (by simpa using (forall_inits_cons fits).1 all [] (by simp))

end

variable {t : Tensor} {width : Nat}

theorem count_eq (t : Tensor) :
    t.count = if ∀ dims ∈ t.shape.inits, dims.prod < pow2 64 then .ok t.shape.prod
      else .error .countOverflow := by
  rw [count, foldlM_word (by decide)]
  simp only [Nat.one_mul]

theorem patterns_of_not_countable (known : t.native.width = some width)
    (overflows : ¬t.IsCountable width) : t.patterns = .error (.fault .countOverflow) := by
  rw [patterns, count_eq]
  by_cases counted : ∀ dims ∈ t.shape.inits, dims.prod < pow2 64
  · have beyond : ¬t.shape.prod * width < pow2 64 := fun fits => overflows ⟨counted, fits⟩
    simp only [if_pos counted, known, word, Failure.ofFault, Except.mapError, bind, Except.bind,
      if_neg beyond]
  · rw [if_neg counted]
    rfl

theorem patterns_of_countable (known : t.native.width = some width)
    (countable : t.IsCountable width) :
    t.patterns =
      if t.bytes.length ≠ t.shape.prod * width then
        .error (.error (.tensorBytes t.shape (t.shape.prod * width) t.bytes.length))
      else if t.address % width ≠ 0 then .error (.error .tensorAddress)
      else .ok ((chunks width t.shape.prod t.bytes).map natOfBytes) := by
  obtain ⟨counted, fits⟩ := countable
  rw [patterns, count_eq]
  simp only [if_pos counted, known, word, Failure.ofFault, Except.mapError, bind, Except.bind,
    if_pos fits]
  rfl

theorem width_pos (known : t.native.width = some width) : 0 < width := by
  cases native : t.native with
  | integer s =>
    rw [native] at known
    cases known
    cases s <;> decide
  | float s =>
    rw [native] at known
    cases known
    cases s <;> decide
  | boolean | text | binary =>
    rw [native] at known
    cases known

section

variable {α : Type} {size count m : Nat} {as : List α}

theorem chunks_eq (positive : 0 < size) (whole : as.length = m * size) (enough : m ≤ count) :
    chunks size count as = (List.range m).map fun k => (as.drop (k * size)).take size := by
  induction m generalizing as count with
  | zero =>
    rw [Nat.zero_mul, List.length_eq_zero_iff] at whole
    subst whole
    cases count <;> rfl
  | succ m ih =>
    obtain ⟨count, rfl⟩ := Nat.exists_eq_succ_of_ne_zero (Nat.ne_of_gt (Nat.lt_of_lt_of_le m.succ_pos enough))
    have rest : (as.drop size).length = m * size := by
      rw [List.length_drop, whole, Nat.succ_mul, Nat.add_sub_cancel]
    have some : as ≠ [] := by
      rintro rfl
      rw [List.length_nil, Nat.succ_mul] at whole
      omega
    rw [chunks, ih rest (Nat.le_of_succ_le_succ enough), List.range_succ_eq_map, List.map_cons,
      List.map_map]
    · simp [Function.comp_def, List.drop_drop, Nat.succ_mul, Nat.add_comm]
    · exact some

theorem length_chunks (positive : 0 < size) (whole : as.length = count * size) :
    (chunks size count as).length = count := by
  rw [chunks_eq positive whole (Nat.le_refl count), List.length_map, List.length_range]

end

theorem coerce_of_patterns {patterns : List Nat} (known : t.native.width = some width)
    (read : t.patterns = .ok patterns) :
    ∃ a, (coerce (.tensor t) none).result = .ok a ∧ a.type = t.native.type ∧
      a.length = patterns.length := by
  have done (cells : FlatArray) (flat : t.flatArray = .ok cells) :
      (coerce (.tensor t) none).result = .ok (.flat cells) := by
    have own : Strategy.fromTensor (.tensor t) none = .ok (.flat cells) := by
      rw [Strategy.fromTensor, flat]
      rfl
    change (tryStrategies (.tensor t) none [.tensor, .text, .scalar]).result = _
    rw [tryStrategies, Strategy.run, own]
  cases native : t.native with
  | integer s =>
    refine ⟨_, done (.integers s (patterns.map fun n => some (s.ofPattern n))) ?_, rfl,
      List.length_map _⟩
    rw [flatArray, read, native]
    rfl
  | float s =>
    refine ⟨_, done (.floats s (patterns.map some)) ?_, rfl, List.length_map _⟩
    rw [flatArray, read, native]
    rfl
  | boolean | text | binary =>
    rw [native] at known
    cases known

theorem coerce_of_patterns_error {failure : Failure Refusal} (failed : t.patterns = .error failure)
    (target : Option DataType) :
    (coerce (.tensor t) target).result = .error (failure.mapError (.cannotConvert target)) := by
  have own : Strategy.fromTensor (.tensor t) target =
      .error (failure.mapError (.cannotConvert target)) := by
    rw [Strategy.fromTensor, flatArray, failed]
    rfl
  have last : fromItems (.tensor t) target = .error (failure.mapError (.cannotConvert target)) := by
    rw [fromItems, itemsOf, values, scalars, failed]
    rfl
  have strategies : coerce (.tensor t) target =
      tryStrategies (.tensor t) target [.tensor, .text, .scalar] := by
    cases target <;> rfl
  rw [strategies, tryStrategies, Strategy.run, own]
  cases failure with
  | fault fault => rfl
  | error cause => exact last

theorem isCountable_iff (known : t.native.width = some width) (filled : 0 ∉ t.shape) :
    t.IsCountable width ↔ t.shape.prod * width < pow2 64 := by
  refine ⟨And.right, fun fits => ⟨fun dims start => ?_, fits⟩⟩
  have positive : 0 < t.shape.prod := List.prod_pos_iff_forall_pos_nat.2 fun dim member =>
    Nat.pos_of_ne_zero fun zero => filled (zero ▸ member)
  have part : dims.prod ∣ t.shape.prod := by
    obtain ⟨later, whole⟩ := (List.mem_inits dims t.shape).1 start
    rw [← whole, List.prod_append]
    exact Nat.dvd_mul_right _ _
  calc dims.prod ≤ t.shape.prod := Nat.le_of_dvd positive part
    _ ≤ t.shape.prod * width := Nat.le_mul_of_pos_right _ (width_pos known)
    _ < pow2 64 := fits

theorem isCountable_of_filled (known : t.native.width = some width) (filled : 0 ∉ t.shape.drop 1)
    (fits : t.shape.prod * width < pow2 64) : t.IsCountable width := by
  by_cases some : 0 ∈ t.shape
  · refine ⟨fun dims start => ?_, fits⟩
    cases shape : t.shape with
    | nil =>
      rw [shape] at some
      cases some
    | cons dim rest =>
      rw [shape] at some filled start
      obtain rfl : 0 = dim := (List.mem_cons.1 some).resolve_right filled
      rw [List.inits_cons] at start
      rcases List.mem_cons.1 start with rfl | later
      · decide
      · obtain ⟨more, _, rfl⟩ := List.mem_map.1 later
        rw [List.prod_cons, Nat.zero_mul]
        decide
  · exact (isCountable_iff known some).2 fits

theorem coerce_overflow (known : t.native.width = some width) (overflows : ¬t.IsCountable width) :
    (coerce (.tensor t) none).result = .error (.fault .countOverflow) :=
  coerce_of_patterns_error (patterns_of_not_countable known overflows) none

section

variable (known : t.native.width = some width) (countable : t.IsCountable width)

include known countable

theorem coerce_misfit (bytes : t.bytes.length ≠ t.shape.prod * width) :
    (coerce (.tensor t) none).result = .error (.error (.cannotConvert none
      (.tensorBytes t.shape (t.shape.prod * width) t.bytes.length))) := by
  have failed : t.patterns =
      .error (.error (.tensorBytes t.shape (t.shape.prod * width) t.bytes.length)) := by
    rw [patterns_of_countable known countable, if_pos bytes]
  exact coerce_of_patterns_error failed none

variable (bytes : t.bytes.length = t.shape.prod * width)

include bytes

theorem coerce_unaligned (address : t.address % width ≠ 0) :
    (coerce (.tensor t) none).result = .error (.error (.cannotConvert none .tensorAddress)) := by
  have failed : t.patterns = .error (.error .tensorAddress) := by
    rw [patterns_of_countable known countable, if_neg (not_not.2 bytes), if_pos address]
  exact coerce_of_patterns_error failed none

theorem exists_coerce_whole (address : t.address % width = 0) :
    ∃ a, (coerce (.tensor t) none).result = .ok a ∧ a.type = t.native.type ∧
      a.length = t.shape.prod := by
  have read : t.patterns = .ok ((chunks width t.shape.prod t.bytes).map natOfBytes) := by
    rw [patterns_of_countable known countable, if_neg (not_not.2 bytes), if_neg (not_not.2 address)]
  obtain ⟨a, done, type, length⟩ := coerce_of_patterns known read
  rw [List.length_map, length_chunks (width_pos known) bytes] at length
  exact ⟨a, done, type, length⟩

end

/-- A tensor becomes an array only if its bytes are exactly as many as its shape asks for. If every
product that is taken fits in a word, it does so if they start in the right place, and is refused
otherwise, with the exact numbers; if one does not fit, the run ends. Only for shapes with an empty
dimension can that be another one than the number of bytes. -/
theorem coerce_tensor_size (known : t.native.width = some width) :
    (∀ a, (coerce (.tensor t) none).result = .ok a →
      t.bytes.length = t.shape.prod * width ∧ a.type = t.native.type ∧ a.length = t.shape.prod) ∧
    (t.IsCountable width →
      (t.bytes.length = t.shape.prod * width → t.address % width = 0 →
        ∃ a, (coerce (.tensor t) none).result = .ok a) ∧
      (t.bytes.length = t.shape.prod * width → t.address % width ≠ 0 →
        (coerce (.tensor t) none).result = .error (.error (.cannotConvert none .tensorAddress))) ∧
      (t.bytes.length ≠ t.shape.prod * width → (coerce (.tensor t) none).result =
        .error (.error (.cannotConvert none
          (.tensorBytes t.shape (t.shape.prod * width) t.bytes.length))))) ∧
    (¬t.IsCountable width → (coerce (.tensor t) none).result = .error (.fault .countOverflow)) ∧
    (0 ∉ t.shape → (t.IsCountable width ↔ t.shape.prod * width < pow2 64)) := by
  refine ⟨fun a done => ?_, fun countable => ⟨fun bytes address => ?_,
    coerce_unaligned known countable, coerce_misfit known countable⟩, coerce_overflow known,
    isCountable_iff known⟩
  · have countable : t.IsCountable width := by
      by_contra overflows
      cases (coerce_overflow known overflows).symm.trans done
    have bytes : t.bytes.length = t.shape.prod * width := by
      by_contra other
      cases (coerce_misfit known countable other).symm.trans done
    have address : t.address % width = 0 := by
      by_contra other
      cases (coerce_unaligned known countable bytes other).symm.trans done
    obtain ⟨b, done', own⟩ := exists_coerce_whole known countable bytes address
    cases done'.symm.trans done
    exact ⟨bytes, own⟩
  · obtain ⟨a, done, _⟩ := exists_coerce_whole known countable bytes address
    exact ⟨a, done⟩

theorem coerce_tensor_size_rows :
    let t := ofIntegers .int16 [1, -2, 3, 4, 5, 6] [2, 3]
    t.native.width = some 2 ∧ t.IsCountable 2 ∧ (∃ a, (coerce (.tensor t) none).result = .ok a) ∧
      (coerce (.tensor { t with bytes := t.bytes.drop 1 }) none).result =
        .error (.error (.cannotConvert none (.tensorBytes [2, 3] 12 11))) := by
  intro t
  have countable : t.IsCountable 2 := by decide
  exact ⟨rfl, countable, (coerce_tensor_size rfl).2.1 countable |>.1 (by decide) rfl,
    (coerce_tensor_size (t := { t with bytes := t.bytes.drop 1 }) rfl).2.1 countable |>.2.2 (by decide)⟩

/-- Without any bytes, a shape of 2^61 numbers of eight bytes each is not refused. -/
theorem coerce_tensor_overflow :
    let t : Tensor := { bytes := [], native := .float .double, shape := [2147483648, 1073741824] }
    t.bytes.length ≠ t.shape.prod * 8 ∧
      (coerce (.tensor t) none).result = .error (.fault .countOverflow) :=
  ⟨by decide, coerce_overflow rfl (by decide)⟩

example : ¬(Tensor.mk [] (.float .double) [4294967296, 4294967296, 0] 0).IsCountable 8 := by decide

end EntityLog.Tensor
