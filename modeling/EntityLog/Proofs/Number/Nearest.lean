import EntityLog.Number.Binary
import Mathlib.Algebra.Order.Field.Power
import Mathlib.Algebra.Order.Field.Rat
import Mathlib.Data.Nat.Cast.Order.Field
import Mathlib.Tactic.Linarith
import Mathlib.Tactic.Positivity
import Mathlib.Tactic.Ring
import Mathlib.Tactic.FieldSimp

/-!
Encoding is to the nearest pattern, a tie to the even one. Patterns without a sign, in their order
as integers, are numbers in their order; what is encoded lies between two of them that follow each
other, and their middle decides.
-/

namespace EntityLog

namespace FloatValue

def exact : FloatValue → Option ℚ
  | finite negative mantissa exponent =>
    some ((if negative then -1 else 1) * (mantissa * 2 ^ exponent))
  | _ => none

end FloatValue

theorem cast_pow2 (k : Nat) : (pow2 k : ℚ) = 2 ^ k := Nat.cast_pow 2 k

theorem cast_pow2_toNat {e : Int} (nonneg : 0 ≤ e) : (pow2 e.toNat : ℚ) = 2 ^ e := by
  rw [cast_pow2, ← zpow_natCast, Int.toNat_of_nonneg nonneg]

namespace FloatType

variable {t : FloatType}

theorem two_le_pow2_fractionBits (t : FloatType) : 2 ≤ pow2 t.fractionBits := by
  cases t <;> decide

theorem even_pow2_fractionBits (t : FloatType) : pow2 t.fractionBits % 2 = 0 := by
  cases t <;> decide

def significand (t : FloatType) (m : Nat) : Nat :=
  if m / pow2 t.fractionBits = 0 then m % pow2 t.fractionBits
  else pow2 t.fractionBits + m % pow2 t.fractionBits

def scale (t : FloatType) (m : Nat) : Int :=
  t.minExponent + ((m / pow2 t.fractionBits - 1 : Nat) : Int)

/-- The number of a pattern without a sign. Infinity counts as the number that follows the largest
one. -/
def magnitude (t : FloatType) (m : Nat) : ℚ := t.significand m * 2 ^ t.scale m

theorem magnitude_eq {k w : Nat} (top : w ≤ 2 * pow2 t.fractionBits)
    (bottom : k = 0 ∨ pow2 t.fractionBits ≤ w) :
    t.magnitude (k * pow2 t.fractionBits + w) = w * 2 ^ (t.minExponent + k) := by
  have two := two_le_pow2_fractionBits t
  generalize place : pow2 t.fractionBits = p at *
  unfold magnitude significand scale
  rw [place]
  rcases Nat.lt_or_ge w p with small | large
  · obtain rfl := bottom.resolve_right (Nat.not_le_of_lt small)
    simp [Nat.div_eq_of_lt small, Nat.mod_eq_of_lt small]
  rcases Nat.lt_or_ge w (2 * p) with below | carry
  · have field : (k * p + w) / p = k + 1 := by
      rw [Nat.div_eq_of_lt_le] <;> nlinarith
    have digits : (k * p + w) % p = w - p := by
      have split := Nat.div_add_mod (k * p + w) p
      rw [field] at split
      have : p * (k + 1) = k * p + p := by ring
      omega
    rw [field, digits, if_neg (Nat.succ_ne_zero k), Nat.add_sub_cancel' large, Nat.add_sub_cancel]
  -- Twice the digits of a place are the least digits of the place that follows it.
  · obtain rfl : w = 2 * p := Nat.le_antisymm top carry
    have field : (k * p + 2 * p) / p = k + 2 := by
      rw [← Nat.add_mul]
      exact Nat.mul_div_cancel _ (by omega)
    have digits : (k * p + 2 * p) % p = 0 := by
      rw [← Nat.add_mul]
      exact Nat.mul_mod_left _ _
    rw [field, digits, if_neg (Nat.succ_ne_zero _), Nat.add_zero]
    push_cast
    rw [show t.minExponent + ((k : Int) + 1) = t.minExponent + k + 1 by ring,
      zpow_add_one₀ (by norm_num)]
    ring

theorem exists_place (t : FloatType) (m : Nat) :
    ∃ k w, m = k * pow2 t.fractionBits + w ∧ w < 2 * pow2 t.fractionBits ∧
      (k = 0 ∨ pow2 t.fractionBits ≤ w) := by
  have two := two_le_pow2_fractionBits t
  generalize pow2 t.fractionBits = p at *
  rcases Nat.lt_or_ge m p with small | large
  · exact ⟨0, m, by omega, by omega, .inl rfl⟩
  · have digits := Nat.mod_lt m (show 0 < p by omega)
    have split := Nat.div_add_mod m p
    have field : 0 < m / p := Nat.div_pos large (by omega)
    refine ⟨m / p - 1, p + m % p, ?_, by omega, .inr (by omega)⟩
    have : p * (m / p) = (m / p - 1) * p + p := by
      rw [← Nat.succ_mul, Nat.succ_eq_add_one, Nat.sub_add_cancel field, Nat.mul_comm]
    omega

theorem magnitude_strictMono (t : FloatType) : StrictMono t.magnitude := by
  apply strictMono_nat_of_lt_succ
  intro m
  obtain ⟨k, w, rfl, top, bottom⟩ := exists_place t m
  have next : t.magnitude (k * pow2 t.fractionBits + w + 1) =
      ((w + 1 : Nat) : ℚ) * 2 ^ (t.minExponent + k) := by
    rw [Nat.add_assoc]
    exact magnitude_eq top (bottom.imp_right Nat.le_succ_of_le)
  rw [next, magnitude_eq (Nat.le_of_lt top) bottom]
  have : (0 : ℚ) < 2 ^ (t.minExponent + (k : Int)) := by positivity
  push_cast
  linarith

/-- No pattern is nearer to a number, and where another is as near, this one is even. -/
def IsNearest (t : FloatType) (q : ℚ) (m : Nat) : Prop :=
  m ≤ t.infinity ∧ ∀ other ≤ t.infinity,
    |t.magnitude m - q| ≤ |t.magnitude other - q| ∧
      (|t.magnitude m - q| = |t.magnitude other - q| → other = m ∨ m % 2 = 0)

theorem isNearest_of_neighbours {q : ℚ} {m : Nat} (bound : m ≤ t.infinity)
    (below : ∀ p, p + 1 = m → t.magnitude p + t.magnitude m ≤ 2 * q ∧
      (t.magnitude p + t.magnitude m = 2 * q → m % 2 = 0))
    (above : m < t.infinity → 2 * q ≤ t.magnitude m + t.magnitude (m + 1) ∧
      (2 * q = t.magnitude m + t.magnitude (m + 1) → m % 2 = 0)) :
    t.IsNearest q m := by
  refine ⟨bound, fun other inside => ?_⟩
  rcases Nat.lt_trichotomy other m with less | rfl | more
  · obtain ⟨p, rfl⟩ : ∃ p, p + 1 = m := ⟨m - 1, by omega⟩
    obtain ⟨far, tie⟩ := below p rfl
    have before : t.magnitude other ≤ t.magnitude p :=
      (magnitude_strictMono t).monotone (Nat.le_of_lt_succ less)
    have step := magnitude_strictMono t (Nat.lt_succ_self p)
    rw [abs_of_nonpos (show t.magnitude other - q ≤ 0 by linarith)]
    refine ⟨abs_le.2 ⟨by linarith, by linarith⟩, fun same => .inr ?_⟩
    apply tie
    rcases abs_cases (t.magnitude (p + 1) - q) with ⟨is, _⟩ | ⟨is, _⟩ <;> linarith
  · exact ⟨le_rfl, fun _ => .inl rfl⟩
  · obtain ⟨far, tie⟩ := above (Nat.lt_of_lt_of_le more inside)
    have after : t.magnitude (m + 1) ≤ t.magnitude other :=
      (magnitude_strictMono t).monotone more
    have step := magnitude_strictMono t (Nat.lt_succ_self m)
    rw [abs_of_nonneg (show 0 ≤ t.magnitude other - q by linarith)]
    refine ⟨abs_le.2 ⟨by linarith, by linarith⟩, fun same => .inr ?_⟩
    apply tie
    rcases abs_cases (t.magnitude m - q) with ⟨is, _⟩ | ⟨is, _⟩ <;> linarith

end FloatType

theorem inUnits_eq (num : Nat) {den : Nat} (positive : 0 < den) (e : Int) :
    0 < (inUnits num den e).2 ∧
      ((inUnits num den e).1 : ℚ) = (num / den : ℚ) / 2 ^ e * (inUnits num den e).2 := by
  have some : (den : ℚ) ≠ 0 := by exact_mod_cast Nat.ne_of_gt positive
  unfold inUnits
  split
  case isTrue nonneg =>
    refine ⟨Nat.mul_pos positive (pow2_pos _), ?_⟩
    push_cast
    rw [cast_pow2_toNat nonneg]
    field_simp
  case isFalse negative =>
    refine ⟨positive, ?_⟩
    push_cast
    rw [cast_pow2_toNat (by omega), zpow_neg]
    field_simp

theorem inUnits_lt_iff (num : Nat) {den : Nat} (positive : 0 < den) (e : Int) (w : Nat) :
    (inUnits num den e).1 < (inUnits num den e).2 * w ↔ (num / den : ℚ) < w * 2 ^ e := by
  obtain ⟨some, is⟩ := inUnits_eq num positive e
  have unit : (0 : ℚ) < 2 ^ e := by positivity
  have parts : (0 : ℚ) < (inUnits num den e).2 := by exact_mod_cast some
  rw [← Nat.cast_lt (α := ℚ), is, Nat.cast_mul, mul_comm (_ / _), mul_lt_mul_iff_right₀ parts,
    div_lt_iff₀ unit]

namespace FloatType

variable {t : FloatType}

theorem log2_bounds {num den : Nat} (some : 0 < num) (positive : 0 < den) :
    (2 : ℚ) ^ ((num.log2 : Int) - den.log2 - 1) < num / den ∧
      (num / den : ℚ) < 2 ^ ((num.log2 : Int) - den.log2 + 1) := by
  have lowNum : (2 : ℚ) ^ (num.log2 : Int) ≤ num := by
    rw [zpow_natCast]
    exact_mod_cast Nat.log2_self_le (Nat.ne_of_gt some)
  have highNum : (num : ℚ) < 2 ^ ((num.log2 : Int) + 1) := by
    rw [← Nat.cast_succ, zpow_natCast]
    exact_mod_cast Nat.lt_log2_self
  have lowDen : (2 : ℚ) ^ (den.log2 : Int) ≤ den := by
    rw [zpow_natCast]
    exact_mod_cast Nat.log2_self_le (Nat.ne_of_gt positive)
  have highDen : (den : ℚ) < 2 ^ ((den.log2 : Int) + 1) := by
    rw [← Nat.cast_succ, zpow_natCast]
    exact_mod_cast Nat.lt_log2_self
  have parts : (0 : ℚ) < den := by exact_mod_cast positive
  have unit : (0 : ℚ) < 2 ^ ((num.log2 : Int) - den.log2 - 1) := by positivity
  constructor
  · rw [lt_div_iff₀ parts]
    calc (2 : ℚ) ^ ((num.log2 : Int) - den.log2 - 1) * den
        < 2 ^ ((num.log2 : Int) - den.log2 - 1) * 2 ^ ((den.log2 : Int) + 1) :=
          mul_lt_mul_of_pos_left highDen unit
      _ = 2 ^ (num.log2 : Int) := by
          rw [← zpow_add₀ (by norm_num)]
          congr 1
          ring
      _ ≤ num := lowNum
  · rw [div_lt_iff₀ parts]
    calc (num : ℚ) < 2 ^ ((num.log2 : Int) + 1) := highNum
      _ = 2 ^ ((num.log2 : Int) - den.log2 + 1) * 2 ^ (den.log2 : Int) := by
          rw [← zpow_add₀ (by norm_num)]
          congr 1
          ring
      _ ≤ 2 ^ ((num.log2 : Int) - den.log2 + 1) * den := by
          apply mul_le_mul_of_nonneg_left lowDen
          positivity

theorem lastPlace_spec {num den : Nat} (some : 0 < num) (positive : 0 < den) :
    t.minExponent ≤ t.lastPlace num den ∧
      (num / den : ℚ) < (2 * pow2 t.fractionBits : Nat) * 2 ^ t.lastPlace num den ∧
      (t.lastPlace num den = t.minExponent ∨
        (pow2 t.fractionBits : ℚ) * 2 ^ t.lastPlace num den ≤ num / den) := by
  obtain ⟨low, high⟩ := log2_bounds some positive
  have digits (e : Int) : (pow2 t.fractionBits : ℚ) * 2 ^ e = 2 ^ (t.fractionBits + e) := by
    rw [cast_pow2, ← zpow_natCast, ← zpow_add₀ (by norm_num)]
  have more (e : Int) : ((2 * pow2 t.fractionBits : Nat) : ℚ) * 2 ^ e =
      2 ^ (t.fractionBits + 1 + e) := by
    push_cast
    rw [mul_assoc, digits, ← zpow_one_add₀ (by norm_num)]
    congr 1
    ring
  have larger {e e' : Int} (le : e ≤ e') : (2 : ℚ) ^ e ≤ 2 ^ e' := zpow_le_zpow_right₀ (by norm_num) le
  rw [digits, more]
  unfold lastPlace
  -- The guess by the lengths in bits is right, or one too small.
  generalize guessed : (num.log2 : Int) - den.log2 - (t.fractionBits + 1) = guess at *
  have fits := inUnits_lt_iff num positive guess (2 * pow2 t.fractionBits)
  rw [more] at fits
  dsimp only
  rw [pow2_succ, Nat.mul_comm (pow2 _) 2]
  split
  case isTrue inside =>
    have below := fits.1 inside
    refine ⟨Int.le_max_left _ _, lt_of_lt_of_le below (larger (by omega)), ?_⟩
    rcases Int.le_total guess t.minExponent with smaller | bigger
    · exact .inl (Int.max_eq_left smaller)
    · right
      rw [Int.max_eq_right bigger]
      exact le_trans (larger (by omega)) (le_of_lt low)
  case isFalse outside =>
    have above := not_lt.1 fun h => outside (fits.2 h)
    refine ⟨Int.le_max_left _ _, lt_of_lt_of_le high (larger (by omega)), ?_⟩
    rcases Int.le_total (guess + 1) t.minExponent with smaller | bigger
    · exact .inl (Int.max_eq_left smaller)
    · right
      rw [Int.max_eq_right bigger]
      exact le_trans (larger (by omega)) above

theorem isNearest_zero (t : FloatType) : t.IsNearest 0 0 := by
  have least : t.magnitude 0 = 0 := by
    have := magnitude_eq (t := t) (Nat.zero_le _) (.inl rfl)
    rwa [Nat.zero_mul, Nat.cast_zero, zero_mul] at this
  have step := magnitude_strictMono t (Nat.lt_succ_self 0)
  apply isNearest_of_neighbours (Nat.zero_le _)
  · intro p before
    cases before
  · intro _
    exact ⟨by linarith, fun _ => rfl⟩

theorem isNearest_infinity {q : ℚ} (large : t.magnitude t.infinity ≤ q) :
    t.IsNearest q t.infinity := by
  apply isNearest_of_neighbours le_rfl
  · intro p before
    have step := magnitude_strictMono t (Nat.lt_succ_self p)
    rw [Nat.succ_eq_add_one, before] at step
    exact ⟨by linarith, fun tie => absurd tie (by linarith)⟩
  · exact fun inside => absurd inside (Nat.lt_irrefl _)

theorem isNearest_of_between {q : ℚ} {m : Nat} (inside : m < t.infinity) (low : t.magnitude m ≤ q)
    (high : q < t.magnitude (m + 1)) :
    (2 * q ≤ t.magnitude m + t.magnitude (m + 1) →
      (2 * q = t.magnitude m + t.magnitude (m + 1) → m % 2 = 0) → t.IsNearest q m) ∧
    (t.magnitude m + t.magnitude (m + 1) ≤ 2 * q →
      (t.magnitude m + t.magnitude (m + 1) = 2 * q → (m + 1) % 2 = 0) →
        t.IsNearest q (m + 1)) := by
  constructor
  · intro far tie
    apply isNearest_of_neighbours (Nat.le_of_lt inside)
    · intro p before
      have step := magnitude_strictMono t (Nat.lt_succ_self p)
      rw [Nat.succ_eq_add_one, before] at step
      exact ⟨by linarith, fun tie => absurd tie (by linarith)⟩
    · exact fun _ => ⟨far, tie⟩
  · intro far tie
    apply isNearest_of_neighbours inside
    · intro p before
      obtain rfl := Nat.succ.inj before
      exact ⟨far, tie⟩
    · intro _
      have step := magnitude_strictMono t (Nat.lt_succ_self (m + 1))
      exact ⟨by linarith, fun tie => absurd tie (by linarith)⟩

theorem roundEven_cases {n d : Nat} (positive : 0 < d) :
    (roundEven n d = n / d ∧ 2 * n ≤ (2 * (n / d) + 1) * d ∧
      (2 * n = (2 * (n / d) + 1) * d → n / d % 2 = 0)) ∨
    (roundEven n d = n / d + 1 ∧ (2 * (n / d) + 1) * d ≤ 2 * n ∧
      ((2 * (n / d) + 1) * d = 2 * n → (n / d + 1) % 2 = 0)) := by
  have split := Nat.div_add_mod n d
  have rest := Nat.mod_lt n positive
  unfold roundEven
  generalize n / d = whole at *
  have twice : (2 * whole + 1) * d = 2 * (d * whole) + d := by ring
  dsimp only
  split <;> [left; right] <;> refine ⟨rfl, by omega, fun tie => by omega⟩

theorem isNearest_roundEven {base n d : Nat} {unit : ℚ} (positive : 0 < d) (some : 0 < unit)
    (even : base % 2 = 0) (inside : base + n / d < t.infinity)
    (cut : t.magnitude (base + n / d) = (n / d : Nat) * unit)
    (next : t.magnitude (base + n / d + 1) = (n / d + 1 : Nat) * unit) :
    t.IsNearest (n / d * unit) (base + roundEven n d) := by
  have parts : (0 : ℚ) < d := by exact_mod_cast positive
  have low : t.magnitude (base + n / d) ≤ n / d * unit :=
    cut ▸ mul_le_mul_of_nonneg_right Nat.cast_div_le (le_of_lt some)
  have high : n / d * unit < t.magnitude (base + n / d + 1) := by
    rw [next, mul_lt_mul_iff_left₀ some, div_lt_iff₀ parts]
    exact_mod_cast Nat.lt_mul_of_div_lt (Nat.lt_succ_self _) positive
  -- Twice the number and twice the middle are whole numbers of one part, and compare like these.
  have twice : 2 * (n / d * unit) = (2 * n : Nat) / d * unit := by
    push_cast
    ring
  have middle : t.magnitude (base + n / d) + t.magnitude (base + n / d + 1) =
      ((2 * (n / d) + 1) * d : Nat) / d * unit := by
    rw [cut, next]
    push_cast
    field_simp
    ring
  have scaled {a b : Nat} : (a / d * unit : ℚ) ≤ b / d * unit ↔ a ≤ b := by
    rw [mul_le_mul_iff_left₀ some, div_le_div_iff_of_pos_right parts, Nat.cast_le]
  obtain ⟨down, up⟩ := isNearest_of_between inside low high
  rw [middle, twice] at down up
  rcases roundEven_cases (n := n) positive with ⟨is, far, tie⟩ | ⟨is, far, tie⟩
  · rw [is]
    refine down (scaled.2 far) fun same => ?_
    have := tie (Nat.le_antisymm far (scaled.1 same.ge))
    omega
  · rw [is, ← Nat.add_assoc]
    refine up (scaled.2 far) fun same => ?_
    have := tie (Nat.le_antisymm far (scaled.1 same.ge))
    omega

theorem isNearest_digits {k n d : Nat} (positive : 0 < d) (top : n < d * (2 * pow2 t.fractionBits))
    (bottom : k = 0 ∨ d * pow2 t.fractionBits ≤ n) :
    t.IsNearest (n / d * 2 ^ (t.minExponent + k))
      (min t.infinity (k * pow2 t.fractionBits + roundEven n d)) := by
  have unit : (0 : ℚ) < 2 ^ (t.minExponent + (k : Int)) := by positivity
  have below : n / d < 2 * pow2 t.fractionBits := Nat.div_lt_of_lt_mul top
  have enough : k = 0 ∨ pow2 t.fractionBits ≤ n / d :=
    bottom.imp_right fun h => (Nat.le_div_iff_mul_le positive).2 (Nat.mul_comm .. ▸ h)
  have cut := magnitude_eq (Nat.le_of_lt below) enough
  have next := magnitude_eq (w := n / d + 1) below (enough.imp_right Nat.le_succ_of_le)
  rw [← Nat.add_assoc] at next
  have even : k * pow2 t.fractionBits % 2 = 0 := by
    rw [Nat.mul_mod, even_pow2_fractionBits, Nat.mul_zero, Nat.zero_mod]
  have near := roundEven_cases (n := n) positive
  rcases Nat.lt_or_ge (k * pow2 t.fractionBits + n / d) t.infinity with inside | outside
  · have bound : roundEven n d ≤ n / d + 1 := by rcases near with ⟨is, _⟩ | ⟨is, _⟩ <;> omega
    rw [Nat.min_eq_right (by omega)]
    exact isNearest_roundEven positive unit even inside cut next
  · have bound : n / d ≤ roundEven n d := by rcases near with ⟨is, _⟩ | ⟨is, _⟩ <;> omega
    have large : t.magnitude (k * pow2 t.fractionBits + n / d) ≤
        n / d * 2 ^ (t.minExponent + (k : Int)) :=
      cut ▸ mul_le_mul_of_nonneg_right Nat.cast_div_le (le_of_lt unit)
    rw [Nat.min_eq_left (by omega)]
    exact isNearest_infinity (le_trans ((magnitude_strictMono t).monotone outside) large)

theorem round_eq (t : FloatType) (negative : Bool) (num : Nat) {den : Nat} (positive : 0 < den) :
    ∃ m, t.IsNearest (num / den) m ∧
      t.round negative num den = (if negative then t.signBit else 0) + m := by
  by_cases zero : num = 0
  · refine ⟨0, ?_, ?_⟩
    · rw [zero, Nat.cast_zero, zero_div]
      exact isNearest_zero t
    · cases negative <;> simp [round, zero]
  obtain ⟨least, below, enough⟩ := lastPlace_spec (t := t) (Nat.pos_of_ne_zero zero) positive
  obtain ⟨parts, is⟩ := inUnits_eq num positive (t.lastPlace num den)
  have top := (inUnits_lt_iff num positive _ _).2 below
  have bottom := (inUnits_lt_iff num positive (t.lastPlace num den) (pow2 t.fractionBits)).not
  rw [not_lt, not_lt] at bottom
  have rounded : t.round negative num den = (if negative then t.signBit else 0) +
      min t.infinity ((t.lastPlace num den - t.minExponent).toNat * pow2 t.fractionBits +
        roundEven (inUnits num den (t.lastPlace num den)).1
          (inUnits num den (t.lastPlace num den)).2) := by
    cases negative <;> simp [round, zero]
  refine ⟨_, ?_, rounded⟩
  generalize inUnits num den (t.lastPlace num den) = units at *
  have place : t.minExponent + ((t.lastPlace num den - t.minExponent).toNat : Int) =
      t.lastPlace num den := by omega
  have number : (num / den : ℚ) = units.1 / units.2 *
      2 ^ (t.minExponent + ((t.lastPlace num den - t.minExponent).toNat : Int)) := by
    have some : (units.2 : ℚ) ≠ 0 := by exact_mod_cast Nat.ne_of_gt parts
    have unit : (2 : ℚ) ^ t.lastPlace num den ≠ 0 := by positivity
    rw [place, is]
    field_simp
  rw [number]
  apply isNearest_digits parts top
  rcases enough with same | more
  · left
    omega
  · exact .inr (bottom.2 more)

/-- A pattern is that of a value, rounded: of the same kind, or of its sign and nearest to it. -/
def Rounds (t : FloatType) : FloatValue → Nat → Prop
  | .nan, bits => t.decode bits = .nan
  | .infinite negative, bits => t.decode bits = .infinite negative
  | .finite negative mantissa exponent, bits =>
    ∃ m, t.IsNearest (mantissa * 2 ^ exponent) m ∧
      bits = (if negative then t.signBit else 0) + m

theorem rounds_encode (t : FloatType) (v : FloatValue) : t.Rounds v (t.encode v) := by
  cases v with
  | nan =>
    show t.decode t.quietNaN = .nan
    cases t <;> decide
  | infinite negative =>
    show t.decode (if negative then t.signBit + t.infinity else t.infinity) = .infinite negative
    cases t <;> cases negative <;> decide
  | finite negative mantissa exponent =>
    rw [encode]
    split
    case isTrue nonneg =>
      obtain ⟨m, nearest, is⟩ := t.round_eq negative (mantissa * pow2 exponent.toNat) Nat.one_pos
      refine ⟨m, ?_, is⟩
      rwa [Nat.cast_one, div_one, Nat.cast_mul, cast_pow2_toNat nonneg] at nearest
    case isFalse negativeExponent =>
      obtain ⟨m, nearest, is⟩ := t.round_eq negative mantissa (pow2_pos (-exponent).toNat)
      refine ⟨m, ?_, is⟩
      rwa [cast_pow2_toNat (by omega), zpow_neg, div_inv_eq_mul] at nearest

theorem rounds_ofInt (t : FloatType) (i : Int) :
    t.Rounds (.finite (i < 0) i.natAbs 0) (t.ofInt i) := by
  obtain ⟨m, nearest, is⟩ := t.round_eq (i < 0) i.natAbs Nat.one_pos
  refine ⟨m, ?_, is⟩
  rwa [Nat.cast_one, div_one, ← mul_one (i.natAbs : ℚ), ← zpow_zero (2 : ℚ)] at nearest

end FloatType

theorem FloatValue.exact_of_toInt? {v : FloatValue} {i : Int} (h : v.toInt? = some i) :
    v.exact = some (i : ℚ) := by
  cases v with
  | nan => cases h
  | infinite _ => cases h
  | finite negative mantissa exponent =>
    rw [toInt?] at h
    split at h
    case isTrue => cases h
    case isFalse whole =>
      have number : (mantissa : ℚ) * 2 ^ exponent =
          ((if 0 ≤ exponent then mantissa * pow2 exponent.toNat
            else mantissa / pow2 (-exponent).toNat : Nat) : ℚ) := by
        split
        case isTrue nonneg => rw [Nat.cast_mul, cast_pow2_toNat nonneg]
        case isFalse below =>
          have divides : pow2 (-exponent).toNat ∣ mantissa := by
            apply Nat.dvd_of_mod_eq_zero
            by_contra rest
            exact whole ⟨by omega, rest⟩
          obtain ⟨times, rfl⟩ := divides
          rw [Nat.mul_div_cancel_left _ (pow2_pos _), Nat.cast_mul, cast_pow2_toNat (by omega),
            zpow_neg]
          field_simp
      rw [truncate, Option.some.injEq] at h
      rw [exact, number, ← h]
      generalize (if 0 ≤ exponent then mantissa * pow2 exponent.toNat
        else mantissa / pow2 (-exponent).toNat : Nat) = times
      cases negative <;> simp

end EntityLog
