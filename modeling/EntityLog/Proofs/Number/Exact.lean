import EntityLog.Proofs.Number.Nearest

namespace EntityLog

/-- Of the same kind and sign, and the same number. -/
inductive FloatValue.Same : FloatValue → FloatValue → Prop
  | nan : Same .nan .nan
  | infinite (negative : Bool) : Same (.infinite negative) (.infinite negative)
  | finite (negative : Bool) {mantissa mantissa' : Nat} {exponent exponent' : Int} :
    (mantissa * 2 ^ exponent : ℚ) = mantissa' * 2 ^ exponent' →
      Same (.finite negative mantissa exponent) (.finite negative mantissa' exponent')

namespace FloatValue

theorem Same.refl (v : FloatValue) : Same v v := by
  cases v with
  | nan => exact .nan
  | infinite negative => exact .infinite negative
  | finite negative mantissa exponent => exact .finite negative rfl

theorem Same.symm {v w : FloatValue} (same : Same v w) : Same w v := by
  cases same with
  | nan => exact .nan
  | infinite negative => exact .infinite negative
  | finite negative number => exact .finite negative number.symm

theorem Same.exact_eq {v w : FloatValue} (same : Same v w) : v.exact = w.exact := by
  cases same with
  | nan | infinite _ => rfl
  | finite negative number => rw [exact, exact, number]

theorem toInt?_eq_some {v : FloatValue} {i : Int} : v.toInt? = some i ↔ v.exact = some (i : ℚ) := by
  refine ⟨exact_of_toInt?, fun number => ?_⟩
  cases v with
  | nan | infinite _ => cases number
  | finite negative mantissa exponent =>
    have whole : ¬(exponent < 0 ∧ mantissa % pow2 (-exponent).toNat ≠ 0) := by
      rintro ⟨below, rest⟩
      apply rest
      rw [exact, Option.some.injEq] at number
      have parts : (mantissa : ℚ) = ((if negative then -i else i : Int) : ℚ) * pow2 (-exponent).toNat := by
        rw [cast_pow2_toNat (by omega), zpow_neg]
        have unit : (2 : ℚ) ^ exponent ≠ 0 := by positivity
        field_simp
        cases negative <;> simp at number ⊢ <;> linarith
      have times : (mantissa : Int) = (if negative then -i else i) * pow2 (-exponent).toNat := by
        exact_mod_cast parts
      exact Nat.mod_eq_zero_of_dvd (Int.natCast_dvd_natCast.1 ⟨_, times.trans (Int.mul_comm ..)⟩)
    obtain ⟨j, is⟩ : ∃ j, (finite negative mantissa exponent).toInt? = some j :=
      ⟨_, by rw [toInt?, if_neg whole, truncate]⟩
    have same := (exact_of_toInt? is).symm.trans number
    rw [is, Int.cast_injective (Option.some.inj same)]

theorem truncate_of_toInt? {v : FloatValue} {i : Int} (whole : v.toInt? = some i) :
    v.truncate = some i := by
  cases v with
  | nan | infinite _ => cases whole
  | finite negative mantissa exponent =>
    rw [toInt?] at whole
    split at whole
    · cases whole
    · exact whole

end FloatValue

namespace FloatType

variable {t u : FloatType}

theorem isNearest_unique {q : ℚ} {m n : Nat} (first : t.IsNearest q m) (second : t.IsNearest q n) :
    m = n := by
  -- Two that are as near are both even, and a pattern between them is nearer.
  have apart {m n : Nat} (first : t.IsNearest q m) (second : t.IsNearest q n) : ¬m < n := by
    intro less
    obtain ⟨near, tie⟩ := first.2 n second.1
    obtain ⟨near', tie'⟩ := second.2 m first.1
    have even := (tie (le_antisymm near near')).resolve_left (Nat.ne_of_gt less)
    have even' := (tie' (le_antisymm near' near)).resolve_left (Nat.ne_of_lt less)
    have between : m + 1 < n := by omega
    have low := magnitude_strictMono t (Nat.lt_succ_self m)
    have high := magnitude_strictMono t between
    have middle := (first.2 (m + 1) (Nat.le_trans less second.1)).1
    rw [Nat.succ_eq_add_one] at low
    rcases abs_cases (t.magnitude m - q) with ⟨is, _⟩ | ⟨is, _⟩ <;>
    rcases abs_cases (t.magnitude n - q) with ⟨is', _⟩ | ⟨is', _⟩ <;>
    rcases abs_cases (t.magnitude (m + 1) - q) with ⟨is'', _⟩ | ⟨is'', _⟩ <;> linarith
  exact Nat.le_antisymm (Nat.not_lt.1 (apart second first)) (Nat.not_lt.1 (apart first second))

theorem isNearest_magnitude {m : Nat} (bound : m ≤ t.infinity) : t.IsNearest (t.magnitude m) m := by
  refine ⟨bound, fun other _ => ?_⟩
  rw [sub_self, abs_zero]
  refine ⟨abs_nonneg _, fun same => .inl ?_⟩
  exact (magnitude_strictMono t).injective (sub_eq_zero.1 (abs_eq_zero.1 same.symm))

theorem rounds_unique {negative : Bool} {mantissa : Nat} {exponent : Int} {bits bits' : Nat}
    (first : t.Rounds (.finite negative mantissa exponent) bits)
    (second : t.Rounds (.finite negative mantissa exponent) bits') : bits = bits' := by
  obtain ⟨m, near, rfl⟩ := first
  obtain ⟨n, near', rfl⟩ := second
  rw [isNearest_unique near near']

theorem encode_congr {v w : FloatValue} (same : v.Same w) : t.encode v = t.encode w := by
  cases same with
  | nan | infinite _ => rfl
  | finite negative number =>
    obtain ⟨m, near, is⟩ := t.rounds_encode (.finite negative _ _)
    rw [number] at near
    exact rounds_unique ⟨m, near, is⟩ (t.rounds_encode _)

theorem decode_signed {m : Nat} (inside : m < t.signBit) (negative : Bool) :
    t.decode ((if negative then t.signBit else 0) + m) =
      if t.infinity < m then .nan
      else if m = t.infinity then .infinite negative
      else .finite negative (t.significand m) (t.scale m) := by
  have digits : ((if negative then t.signBit else 0) + m) % t.signBit = m := by
    cases negative
    · simp [Nat.mod_eq_of_lt inside]
    · simp [Nat.mod_eq_of_lt inside]
  have sign : decide (t.signBit ≤ (if negative then t.signBit else 0) + m) = negative := by
    cases negative <;> simp [inside]
  unfold decode
  simp only [digits, sign]
  unfold significand scale
  generalize m / pow2 t.fractionBits = field
  by_cases zero : field = 0
  · simp [zero]
  · have less : ((field - 1 : Nat) : Int) = (field : Int) - 1 := by omega
    simp [zero, less, add_sub_assoc]

theorem decode_cases {bits : Nat} (inside : bits < 2 * t.signBit) :
    t.decode bits = .nan ∨ ∃ negative m, (if negative then t.signBit else 0) + m = bits ∧
      (m = t.infinity ∧ t.decode bits = .infinite negative ∨
        m < t.infinity ∧ t.decode bits = .finite negative (t.significand m) (t.scale m)) := by
  obtain ⟨negative, m, small, rfl⟩ : ∃ (negative : Bool) (m : Nat), m < t.signBit ∧
      (if negative then t.signBit else 0) + m = bits := by
    by_cases negative : t.signBit ≤ bits
    · exact ⟨true, bits - t.signBit, by omega, Nat.add_sub_cancel' negative⟩
    · exact ⟨false, bits, by omega, Nat.zero_add bits⟩
  rw [decode_signed small]
  rcases Nat.lt_trichotomy m t.infinity with less | same | more
  · rw [if_neg (Nat.lt_asymm less), if_neg (Nat.ne_of_lt less)]
    exact .inr ⟨negative, m, rfl, .inr ⟨less, rfl⟩⟩
  · rw [if_neg (Nat.not_lt_of_ge (Nat.le_of_eq same)), if_pos same]
    exact .inr ⟨negative, m, rfl, .inl ⟨same, rfl⟩⟩
  · exact .inl (if_pos more)

theorem encode_decode {bits : Nat} (inside : bits < 2 * t.signBit) (number : t.decode bits ≠ .nan) :
    t.encode (t.decode bits) = bits := by
  obtain ⟨negative, m, rfl, ⟨rfl, is⟩ | ⟨finite, is⟩⟩ := (decode_cases inside).resolve_left number
  · rw [is, encode]
    cases negative
    · rw [if_neg Bool.false_ne_true, if_neg Bool.false_ne_true, Nat.zero_add]
    · rfl
  · obtain ⟨n, near, encoded⟩ := t.rounds_encode (.finite negative (t.significand m) (t.scale m))
    rw [is, encoded, isNearest_unique near (isNearest_magnitude (Nat.le_of_lt finite))]

theorem exists_magnitude {w : Nat} (top : w < 2 * pow2 t.fractionBits) (k : Nat) :
    ∃ m, t.magnitude m = w * 2 ^ (t.minExponent + k) := by
  induction k generalizing w with
  | zero => exact ⟨_, magnitude_eq (Nat.le_of_lt top) (.inl rfl)⟩
  | succ k ih =>
    rcases Nat.lt_or_ge w (pow2 t.fractionBits) with small | large
    -- Without a leading digit, the digits are moved to the place before.
    · obtain ⟨m, is⟩ := ih (show 2 * w < 2 * pow2 t.fractionBits by omega)
      refine ⟨m, ?_⟩
      rw [is, Nat.cast_succ, ← add_assoc, zpow_add_one₀ two_ne_zero]
      push_cast
      ring
    · exact ⟨_, magnitude_eq (Nat.le_of_lt top) (.inr large)⟩

structure Widened (t u : FloatType) : Prop where
  digits : t.fractionBits ≤ u.fractionBits
  least : u.minExponent ≤ t.minExponent
  greatest : t.exponentBits ≤ u.exponentBits

theorem magnitude_infinity (t : FloatType) : t.magnitude t.infinity = 2 ^ pow2 (t.exponentBits - 1) := by
  have place : t.infinity = (pow2 t.exponentBits - 2) * pow2 t.fractionBits + pow2 t.fractionBits := by
    cases t <;> decide
  have exponent : (t.fractionBits : Int) + (t.minExponent + ((pow2 t.exponentBits - 2 : Nat) : Int)) =
      (pow2 (t.exponentBits - 1) : Nat) := by
    cases t <;> decide
  rw [place, magnitude_eq (Nat.le_mul_of_pos_left _ two_pos) (.inr le_rfl), cast_pow2, ← zpow_natCast,
    ← zpow_add₀ two_ne_zero, exponent, zpow_natCast]

theorem exists_magnitude_eq (wide : t.Widened u) {m : Nat} (finite : m < t.infinity) :
    ∃ n < u.infinity, u.magnitude n = t.magnitude m := by
  obtain ⟨k, w, rfl, top, bottom⟩ := exists_place t m
  have number := magnitude_eq (Nat.le_of_lt top) bottom
  have digits : pow2 t.fractionBits ≤ pow2 u.fractionBits :=
    Nat.pow_le_pow_right two_pos wide.digits
  obtain ⟨n, is⟩ := exists_magnitude (t := u) (Nat.lt_of_lt_of_le top (Nat.mul_le_mul_left 2 digits))
    (t.minExponent + k - u.minExponent).toNat
  have least := wide.least
  have place : u.minExponent + ((t.minExponent + k - u.minExponent).toNat : Int) = t.minExponent + k := by
    omega
  rw [place, ← number] at is
  refine ⟨n, ?_, is⟩
  rw [← (magnitude_strictMono u).lt_iff_lt, is]
  calc t.magnitude (k * pow2 t.fractionBits + w)
      < t.magnitude t.infinity := magnitude_strictMono t finite
    _ = 2 ^ pow2 (t.exponentBits - 1) := magnitude_infinity t
    _ ≤ 2 ^ pow2 (u.exponentBits - 1) := by
        apply pow_le_pow_right₀ one_le_two
        exact Nat.pow_le_pow_right two_pos (Nat.sub_le_sub_right wide.greatest 1)
    _ = u.magnitude u.infinity := (magnitude_infinity u).symm

theorem same_decode_encode (wide : t.Widened u) {bits : Nat} (inside : bits < 2 * t.signBit) :
    (u.decode (u.encode (t.decode bits))).Same (t.decode bits) := by
  rcases decode_cases inside with is | ⟨negative, m, _, ⟨_, is⟩ | ⟨finite, is⟩⟩
  · rw [is, show u.decode (u.encode .nan) = .nan from u.rounds_encode .nan]
    exact .nan
  · rw [is, show u.decode (u.encode (.infinite negative)) = .infinite negative from
      u.rounds_encode (.infinite negative)]
    exact .infinite negative
  · obtain ⟨n, bound, number⟩ := exists_magnitude_eq wide finite
    obtain ⟨n', near, encoded⟩ := u.rounds_encode (.finite negative (t.significand m) (t.scale m))
    have own := isNearest_magnitude (Nat.le_of_lt bound)
    rw [number] at own
    obtain rfl := isNearest_unique near own
    have small : n' < u.signBit := Nat.lt_of_lt_of_le bound (by cases u <;> decide)
    rw [is, encoded, decode_signed small, if_neg (Nat.lt_asymm bound), if_neg (Nat.ne_of_lt bound)]
    exact .finite negative number

end FloatType

end EntityLog
