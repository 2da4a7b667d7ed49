import EntityLog.Proofs.Coercion.Untyped
import EntityLog.Proofs.Number.Exact

/-!
Tensors of one dimension next to the lists of their elements. Tensors are cast, and a cast is looser
than what builds lists: it takes numbers for truth values, cuts off what stands behind the point, and
rounds integers once where lists round them twice.
-/

namespace EntityLog

namespace Value

/-- A number that a cast to a type leaves as a list would have it. -/
def IsKept : FlatType → Value → Prop
  | .boolean, _ => False
  | .integer _, float bits =>
    ∃ i : Int, (FloatType.double.decode bits).exact = some (i : ℚ) ∧ IntegerType.int64.holds i
  | .float t, int i =>
    t.Rounds (.finite (i < 0) i.natAbs 0) (FloatType.double.castBits t (FloatType.double.ofInt i))
  | .float t, uint n =>
    t.Rounds (.finite false n 0) (FloatType.double.castBits t (FloatType.double.ofInt n))
  | _, _ => True

end Value

def FlatType.IsNumber : FlatType → Prop
  | .boolean | .integer _ | .float _ => True
  | _ => False

def SameCell (target : FlatType) (e e' : Element) : Prop :=
  e = e' ∨ ∃ t bits bits', target = .float t ∧ e = .float bits ∧ e' = .float bits' ∧
    t.decode bits = .nan ∧ t.decode bits' = .nan

def SameNumbers (target : FlatType) (a b : TypedArray) : Prop :=
  a.type = b.type ∧ List.Forall₂ (SameCell target) a.rows b.rows

namespace Tensor

def scalar : NativeType → Nat → Value
  | .integer type, n => if type.isSigned then .int (type.ofPattern n) else .uint n
  | .float type, n => .ofFloat type n
  | _, _ => .null

inductive CastsTo : NativeType → FlatType → Nat → Element → Prop
  | truth {native : NativeType} {n : Nat} {b : Bool} : CastsTo native .boolean n (.boolean b)
  | integer {s t : IntegerType} {n : Nat} : t.holds (s.ofPattern n) →
    CastsTo (.integer s) (.integer t) n (.integer (s.ofPattern n))
  | truncated {s : FloatType} {t : IntegerType} {n : Nat} {i : Int} :
    (s.decode n).truncate = some i → t.holds i → CastsTo (.float s) (.integer t) n (.integer i)
  | rounded {s : IntegerType} {t : FloatType} {n : Nat} :
    CastsTo (.integer s) (.float t) n (.float (t.ofInt (s.ofPattern n)))
  | same {t : FloatType} {n : Nat} : CastsTo (.float t) (.float t) n (.float n)
  | converted {s t : FloatType} {n : Nat} : s ≠ t →
    CastsTo (.float s) (.float t) n (.float (s.castBits t n))

end Tensor

def BuildsAs : FlatType → Value → Element → Prop
  | .boolean, v, e => ∃ b, v.toBool = .ok b ∧ .boolean b = e
  | .integer t, v, e => ∃ i, v.toInteger t = .ok i ∧ .integer i = e
  | .float t, v, e => ∃ wide, v.toFloat = .ok wide ∧ .float (FloatType.double.castBits t wide) = e
  | _, _, _ => False

namespace FloatType

variable {s t : FloatType} {v w : FloatValue} {bits : Nat}

theorem widened_double (t : FloatType) : t.Widened .double := by
  cases t <;> exact ⟨by decide, by decide, by decide⟩

theorem single_widened (narrow : s ≠ .double) : s.Widened .single := by
  cases s with
  | half | single => exact ⟨by decide, by decide, by decide⟩
  | double => exact absurd rfl narrow

def roundVia (t : FloatType) (v : FloatValue) : Nat :=
  match t with
  | .half => FloatType.half.encode (FloatType.single.decode (FloatType.single.encode v))
  | t => t.encode v

theorem roundVia_congr (same : v.Same w) : t.roundVia v = t.roundVia w := by
  cases t with
  | half => rw [roundVia, roundVia, encode_congr same]
  | single | double => exact encode_congr same

theorem castBits_eq (differ : s ≠ t) (inside : bits < 2 * s.signBit) :
    s.castBits t bits = t.roundVia (s.decode bits) := by
  cases t with
  | half =>
    cases s with
    | half => exact absurd rfl differ
    | single =>
      have widened : single.Widened single := single_widened nofun
      exact encode_congr (same_decode_encode widened inside).symm
    | double => rfl
  | single | double => exact if_neg differ

theorem castBits_double (narrow : t ≠ .double) (bits : Nat) :
    double.castBits t bits = t.roundVia (double.decode bits) := by
  cases t with
  | half | single => rfl
  | double => exact absurd rfl narrow

theorem same_convert_double (inside : bits < 2 * s.signBit) :
    (double.decode (s.convert .double bits)).Same (s.decode bits) := by
  by_cases double : s = .double
  · rw [convert, if_pos double, double]
    exact .refl _
  · rw [convert, if_neg double]
    exact same_decode_encode (widened_double s) inside

theorem castBits_convert (differ : s ≠ t) (inside : bits < 2 * s.signBit) :
    s.castBits t bits = double.castBits t (s.convert .double bits) := by
  by_cases double : t = .double
  · rw [double]
    rfl
  · rw [castBits_eq differ inside, castBits_double double]
    exact roundVia_congr (same_convert_double inside).symm

theorem roundVia_decode (inside : bits < 2 * t.signBit) (number : t.decode bits ≠ .nan) :
    t.roundVia (t.decode bits) = bits := by
  cases t with
  | half =>
    have widened : half.Widened single := single_widened nofun
    rw [roundVia, encode_congr (same_decode_encode widened inside)]
    exact encode_decode inside number
  | single | double => exact encode_decode inside number

theorem castBits_convert_self (inside : bits < 2 * t.signBit) :
    double.castBits t (t.convert .double bits) = bits ∨
      t.decode bits = .nan ∧ t.decode (double.castBits t (t.convert .double bits)) = .nan := by
  by_cases double : t = .double
  · rw [double]
    exact .inl rfl
  rw [castBits_double double, roundVia_congr (same_convert_double inside)]
  by_cases number : t.decode bits = .nan
  · rw [number]
    refine .inr ⟨rfl, ?_⟩
    cases t <;> decide
  · exact .inl (roundVia_decode inside number)

theorem decode_ofInt_ne_nan (t : FloatType) (i : Int) : t.decode (t.ofInt i) ≠ .nan := by
  obtain ⟨m, ⟨bound, _⟩, is⟩ := t.rounds_ofInt i
  have inside : m < t.signBit := Nat.lt_of_le_of_lt bound (by cases t <;> decide)
  rw [is, decode_signed inside, if_neg (Nat.not_lt_of_ge bound)]
  split <;> exact nofun

end FloatType

namespace IntegerType

variable {t : IntegerType} {i : Int}

theorem ofPattern_unsigned (unsigned : t.isSigned = false) (n : Nat) : t.ofPattern n = n := by
  rw [ofPattern, unsigned, if_neg (fun signed => nomatch signed.1)]

theorem holds_ofPattern {n : Nat} (inside : n < pow2 (8 * t.width)) : t.holds (t.ofPattern n) := by
  have twice : pow2 (8 * t.width) = 2 * pow2 (8 * t.width - 1) := by cases t <;> rfl
  rw [holds_iff, minValue, maxValue]
  cases signed : t.isSigned with
  | true =>
    simp only [ofPattern, signed, true_and, if_true, twice] at inside ⊢
    split <;> omega
  | false =>
    rw [ofPattern_unsigned signed, if_neg Bool.false_ne_true,
      if_neg Bool.false_ne_true]
    omega

end IntegerType

namespace Tensor

variable {native : NativeType} {target : FlatType} {n : Nat} {e : Element}

theorem builds_integer {s t : IntegerType} (held : t.holds (s.ofPattern n)) :
    BuildsAs (.integer t) (scalar (.integer s) n) (.integer (s.ofPattern n)) := by
  rw [scalar]
  cases signed : s.isSigned with
  | true => exact ⟨_, Value.toInteger_eq_ok.2 ⟨rfl, held, nofun⟩, rfl⟩
  | false =>
    rw [IntegerType.ofPattern_unsigned signed] at held ⊢
    exact ⟨_, Value.toInteger_eq_ok.2 ⟨rfl, held, nofun⟩, rfl⟩

theorem toBool_scalar {b : Bool} : (scalar native n).toBool ≠ .ok b := by
  cases native with
  | integer s =>
    rw [scalar]
    split <;> exact nofun
  | boolean | float _ | text | binary => exact nofun

theorem isKept_of_toInteger {t : IntegerType} {i : Int}
    (read : (scalar native n).toInteger t = .ok i) : (scalar native n).IsKept (.integer t) := by
  cases native with
  | integer s =>
    rw [scalar]
    split <;> trivial
  | float s =>
    obtain ⟨is, _, bound⟩ := Value.toInteger_eq_ok.1 read
    exact ⟨i, is, bound rfl⟩
  | boolean | text | binary => trivial

theorem builds_truncated {s : FloatType} {t : IntegerType} {i : Int} (inside : n < 2 * s.signBit)
    (cut : (s.decode n).truncate = some i) (held : t.holds i) :
    (∃ e', BuildsAs (.integer t) (scalar (.float s) n) e' ∧ SameCell (.integer t) (.integer i) e') ↔
      (scalar (.float s) n).IsKept (.integer t) := by
  have number := (s.same_convert_double inside).exact_eq
  constructor
  · rintro ⟨_, ⟨j, read, _⟩, _⟩
    exact isKept_of_toInteger read
  · rintro ⟨j, is, bound⟩
    have own := FloatValue.toInt?_eq_some.2 (number ▸ is)
    obtain rfl : j = i := Option.some.inj ((FloatValue.truncate_of_toInt? own).symm.trans cut)
    exact ⟨_, ⟨j, Value.toInteger_eq_ok.2 ⟨is, held, fun _ => bound⟩, rfl⟩, .inl rfl⟩

theorem toFloat_scalar (s : IntegerType) (n : Nat) :
    (scalar (.integer s) n).toFloat = .ok (FloatType.double.ofInt (s.ofPattern n)) := by
  rw [scalar]
  split
  case isTrue => rfl
  case isFalse unsigned =>
    rw [IntegerType.ofPattern_unsigned (Bool.not_eq_true _ ▸ unsigned)]
    rfl

theorem isKept_rounded (s : IntegerType) (t : FloatType) (n : Nat) :
    (scalar (.integer s) n).IsKept (.float t) ↔
      t.Rounds (.finite (s.ofPattern n < 0) (s.ofPattern n).natAbs 0)
        (FloatType.double.castBits t (FloatType.double.ofInt (s.ofPattern n))) := by
  rw [scalar]
  split
  case isTrue => exact Iff.rfl
  case isFalse unsigned =>
    rw [IntegerType.ofPattern_unsigned (Bool.not_eq_true _ ▸ unsigned), Int.natAbs_natCast,
      decide_eq_false (Int.not_lt.2 (Int.natCast_nonneg n))]
    exact Iff.rfl

theorem builds_rounded (s : IntegerType) (t : FloatType) (n : Nat) :
    (∃ e', BuildsAs (.float t) (scalar (.integer s) n) e' ∧
        SameCell (.float t) (.float (t.ofInt (s.ofPattern n))) e') ↔
      (scalar (.integer s) n).IsKept (.float t) := by
  rw [isKept_rounded]
  have nearest := t.rounds_ofInt (s.ofPattern n)
  constructor
  · rintro ⟨_, ⟨wide, read, rfl⟩, same⟩
    rw [toFloat_scalar] at read
    cases read
    rcases same with same | ⟨_, bits, _, ⟨⟩, ⟨⟩, _, nan, _⟩
    · rwa [← Element.float.inj same]
    · exact absurd nan (t.decode_ofInt_ne_nan _)
  · intro kept
    refine ⟨_, ⟨_, toFloat_scalar s n, rfl⟩, .inl (congrArg Element.float ?_)⟩
    exact FloatType.rounds_unique nearest kept

theorem builds_iff_isKept {width : Nat} (known : native.width = some width)
    (inside : n < pow2 (8 * width)) (cast : CastsTo native target n e) :
    (∃ e', BuildsAs target (scalar native n) e' ∧ SameCell target e e') ↔
      (scalar native n).IsKept target := by
  have room {t : FloatType} (float : native = .float t) : n < 2 * t.signBit := by
    subst float
    cases known
    cases t <;> exact inside
  cases cast with
  | truth =>
    refine iff_of_false ?_ id
    rintro ⟨_, ⟨_, read, _⟩, _⟩
    exact toBool_scalar read
  | @integer s t _ held =>
    refine iff_of_true ⟨_, builds_integer held, .inl rfl⟩ ?_
    rw [scalar]
    split <;> trivial
  | truncated cut held => exact builds_truncated (room rfl) cut held
  | @rounded s t => exact builds_rounded s t n
  | @same t =>
    refine iff_of_true ⟨_, ⟨_, rfl, rfl⟩, ?_⟩ trivial
    rcases t.castBits_convert_self (room rfl) with same | ⟨nan, nan'⟩
    · exact .inl (congrArg Element.float same.symm)
    · exact .inr ⟨t, _, _, rfl, rfl, rfl, nan, nan'⟩
  | @converted s t _ differ =>
    exact iff_of_true ⟨_, ⟨_, rfl, rfl⟩, .inl (congrArg Element.float
      (FloatType.castBits_convert differ (room rfl)))⟩ trivial

theorem natOfBytes_lt (bytes : List UInt8) : natOfBytes bytes < pow2 (8 * bytes.length) := by
  induction bytes with
  | nil => exact Nat.one_pos
  | cons b bytes ih =>
    have place : pow2 (8 * (bytes.length + 1)) = 256 * pow2 (8 * bytes.length) := by
      rw [Nat.mul_add, Nat.add_comm, pow2_add]
      rfl
    have small := b.toNat_lt
    rw [natOfBytes, List.length_cons, place]
    omega

theorem length_of_mem_chunks {α : Type} {size count : Nat} {as chunk : List α}
    (member : chunk ∈ chunks size count as) : chunk.length ≤ size := by
  induction count generalizing as with
  | zero => cases member
  | succ count ih =>
    cases as with
    | nil => cases member
    | cons a as =>
      rw [chunks] at member
      · rcases List.mem_cons.1 member with rfl | later
        · exact List.length_take_le _ _
        · exact ih later
      · exact nofun

theorem exists_width {t : Tensor} {patterns : List Nat} (read : t.patterns = .ok patterns) :
    ∃ width, t.native.width = some width ∧ ∀ n ∈ patterns, n < pow2 (8 * width) := by
  rw [Tensor.patterns, bind_eq_ok] at read
  obtain ⟨count, _, read⟩ := read
  cases known : t.native.width with
  | none =>
    rw [known] at read
    cases read
  | some width =>
    simp only [known, bind_eq_ok, check_eq_ok, pure_eq_ok] at read
    obtain ⟨_, _, _, _, rfl⟩ := read
    refine ⟨width, rfl, fun n member => ?_⟩
    obtain ⟨chunk, inside, rfl⟩ := List.mem_map.1 member
    refine Nat.lt_of_lt_of_le (natOfBytes_lt chunk) ?_
    exact Nat.pow_le_pow_right two_pos (Nat.mul_le_mul_left 8 (length_of_mem_chunks inside))

theorem cases_of_patterns {t : Tensor} {patterns : List Nat} (read : t.patterns = .ok patterns) :
    (∃ s, t.native = .integer s) ∨ ∃ s, t.native = .float s := by
  obtain ⟨width, known, _⟩ := exists_width read
  cases native : t.native with
  | integer s => exact .inl ⟨s, rfl⟩
  | float s => exact .inr ⟨s, rfl⟩
  | boolean | text | binary =>
    rw [native] at known
    cases known

theorem scalars_eq_ok {t : Tensor} {values : List Value} : t.scalars = .ok values ↔
    ∃ patterns, t.patterns = .ok patterns ∧ patterns.map (scalar t.native) = values := by
  rw [scalars, bind_eq_ok]
  refine exists_congr fun patterns => and_congr_right fun read => ?_
  rcases cases_of_patterns read with ⟨s, native⟩ | ⟨s, native⟩
  · rw [native]
    exact pure_eq_ok
  · rw [native]
    exact pure_eq_ok

theorem flatArray_eq_ok {t : Tensor} {cells : FlatArray} : t.flatArray = .ok cells ↔
    ∃ patterns, t.patterns = .ok patterns ∧
      ((∃ s, t.native = .integer s ∧ .integers s (patterns.map fun n => some (s.ofPattern n)) = cells) ∨
        ∃ s, t.native = .float s ∧ .floats s (patterns.map some) = cells) := by
  rw [flatArray, bind_eq_ok]
  refine exists_congr fun patterns => and_congr_right fun read => ?_
  rcases cases_of_patterns read with ⟨s, native⟩ | ⟨s, native⟩ <;> simp [native]

end Tensor

namespace FlatArray

theorem forall₂_mapCells {α β ε : Type} {f : α → Except ε β} {g : Nat → α} {wrap : β → Element}
    {patterns : List Nat} {cells : List (Option β)}
    (done : mapCells f (patterns.map fun n => some (g n)) = .ok cells) :
    List.Forall₂ (fun n e => ∃ b, f (g n) = .ok b ∧ wrap b = e) patterns
      (cells.map (·.elim .null wrap)) := by
  induction patterns generalizing cells with
  | nil =>
    cases done
    exact .nil
  | cons n patterns ih =>
    obtain ⟨b, own, done⟩ := bind_eq_ok.1 done
    obtain ⟨rest, later, is⟩ := bind_eq_ok.1 done
    cases is
    exact .cons ⟨b, own, rfl⟩ (ih later)

end FlatArray

namespace TypedArray

theorem cast_numeric {cells : FlatArray} (numeric : cells.IsNumeric) {target : FlatType}
    (differ : cells.type ≠ target) : (flat cells).cast (.flat target) =
      (cells.cast? target).elim ((flat cells).refuse (.flat target)) (.flat <$> ·) := by
  have other : (flat cells).type ≠ .flat target := fun same => differ (DataType.flat.inj same)
  rw [cast, type, castFrom]
  unfold castInto
  dsimp only
  rw [if_neg other, numeric.castCells]

theorem cast_numeric_eq_ok {cells : FlatArray} (numeric : cells.IsNumeric) {target : FlatType}
    (differ : cells.type ≠ target) {a : TypedArray} : (flat cells).cast (.flat target) = .ok a ↔
      ∃ own, cells.cast? target = some (.ok own) ∧ flat own = a := by
  rw [cast_numeric numeric differ]
  cases cells.cast? target with
  | none => simp [refuse]
  | some result => simp [map_eq_ok]

end TypedArray

namespace Tensor

theorem forall₂_map {patterns : List Nat} {R : Nat → Element → Prop} {f : Nat → Element}
    (each : ∀ n ∈ patterns, R n (f n)) : List.Forall₂ R patterns (patterns.map f) := by
  rw [List.forall₂_map_right_iff, List.forall₂_same]
  exact each

variable {target : FlatType} {patterns : List Nat} {own : FlatArray}

theorem forall₂_castIntegers {s : IntegerType} (number : target.IsNumber)
    (done : FlatArray.castIntegers s (patterns.map fun n => some (s.ofPattern n)) target =
      some (.ok own)) :
    List.Forall₂ (CastsTo (.integer s) target) patterns own.elements := by
  cases target with
  | boolean =>
    cases done
    simp only [FlatArray.elements, List.map_map]
    exact forall₂_map fun n _ => .truth
  | integer t =>
    obtain ⟨cells, built, rfl⟩ := map_eq_ok.1 (Option.some.inj done)
    refine (FlatArray.forall₂_mapCells built).imp ?_
    rintro n _ ⟨i, narrowed, rfl⟩
    rw [IntegerType.narrow] at narrowed
    split at narrowed
    · cases narrowed
      exact .integer ‹_›
    · cases narrowed
  | float t =>
    cases done
    simp only [FlatArray.elements, List.map_map]
    exact forall₂_map fun n _ => .rounded
  | null | decimal _ _ | text _ | binary _ | fixedBinary _ | temporal _ => exact number.elim

theorem forall₂_castFloats {s : FloatType} (number : target.IsNumber) (differ : .float s ≠ target)
    (done : FlatArray.castFloats s (patterns.map some) target = some (.ok own)) :
    List.Forall₂ (CastsTo (.float s) target) patterns own.elements := by
  cases target with
  | boolean =>
    cases done
    simp only [FlatArray.elements, List.map_map]
    exact forall₂_map fun n _ => .truth
  | integer t =>
    obtain ⟨cells, built, rfl⟩ := map_eq_ok.1 (Option.some.inj done)
    refine (FlatArray.forall₂_mapCells built).imp ?_
    rintro n _ ⟨i, narrowed, rfl⟩
    rw [FlatArray.truncateTo] at narrowed
    cases cut : (s.decode n).truncate with
    | none =>
      rw [cut] at narrowed
      cases narrowed
    | some j =>
      simp only [cut, IntegerType.narrow] at narrowed
      split at narrowed
      · cases narrowed
        exact .truncated cut ‹_›
      · cases narrowed
  | float t =>
    cases done
    simp only [FlatArray.elements, List.map_map]
    exact forall₂_map fun n _ => .converted fun same => differ (congrArg FlatType.float same)
  | null | decimal _ _ | text _ | binary _ | fixedBinary _ | temporal _ => exact number.elim

theorem fromTensor_eq_ok {t : Tensor} {a : TypedArray} :
    Strategy.fromTensor (.tensor t) (some (.flat target)) = .ok a ↔ ∃ cells, t.flatArray = .ok cells ∧
      (cells.type = target ∧ .flat cells = a ∨
        cells.type ≠ target ∧ (TypedArray.flat cells).cast (.flat target) = .ok a) := by
  simp only [Strategy.fromTensor, bind_eq_ok, convertError_eq_ok]
  refine exists_congr fun cells => and_congr_right' ?_
  by_cases same : cells.type = target
  · simp [TypedArray.type, same]
  · simp [TypedArray.type, same, castTo, DataType.isNested]

theorem forall₂_fromTensor {t : Tensor} {a : TypedArray} (number : target.IsNumber)
    (done : Strategy.fromTensor (.tensor t) (some (.flat target)) = .ok a) :
    ∃ patterns, t.patterns = .ok patterns ∧
      List.Forall₂ (CastsTo t.native target) patterns a.rows := by
  obtain ⟨cells, flat, become⟩ := fromTensor_eq_ok.1 done
  obtain ⟨patterns, read, ⟨s, native, rfl⟩ | ⟨s, native, rfl⟩⟩ := flatArray_eq_ok.1 flat
  · refine ⟨patterns, read, ?_⟩
    rw [native]
    rcases become with ⟨rfl, rfl⟩ | ⟨differ, cast⟩
    · obtain ⟨width, known, inside⟩ := exists_width read
      rw [native] at known
      cases known
      simp only [TypedArray.rows, FlatArray.elements, FlatArray.type, List.map_map]
      exact forall₂_map fun n member => .integer (IntegerType.holds_ofPattern (inside n member))
    · obtain ⟨own, made, rfl⟩ := (TypedArray.cast_numeric_eq_ok (.inl ⟨s, _, rfl⟩) differ).1 cast
      obtain ⟨result, made, ok⟩ := Option.map_eq_some_iff.1 made
      exact forall₂_castIntegers number (made.trans (congrArg some (reporting_eq_ok.1 ok)))
  · refine ⟨patterns, read, ?_⟩
    rw [native]
    rcases become with ⟨rfl, rfl⟩ | ⟨differ, cast⟩
    · simp only [TypedArray.rows, FlatArray.elements, FlatArray.type, List.map_map]
      exact forall₂_map fun n _ => .same
    · obtain ⟨own, made, rfl⟩ := (TypedArray.cast_numeric_eq_ok (.inr ⟨s, _, rfl⟩) differ).1 cast
      obtain ⟨result, made, ok⟩ := Option.map_eq_some_iff.1 made
      exact forall₂_castFloats number differ (made.trans (congrArg some (reporting_eq_ok.1 ok)))

end Tensor

theorem exists_buildCells_elements {α : Type} {convert : Value → Except Refusal α}
    {wrap : α → Element} {values : List Value} {rows : List Element}
    (given : ∀ v ∈ values, v ≠ .null) :
    (∃ cells, buildCells convert values = .ok cells ∧ cells.map (·.elim .null wrap) = rows) ↔
      List.Forall₂ (fun v e => ∃ c, convert v = .ok c ∧ wrap c = e) values rows := by
  induction values generalizing rows with
  | nil => simp [buildCells, eq_comm]
  | cons v values ih =>
    obtain ⟨here, later⟩ := List.forall_mem_cons.1 given
    rw [List.forall₂_cons_left_iff, buildCells]
    · simp only [bind_eq_ok, map_eq_ok]
      constructor
      · rintro ⟨_, ⟨c, converted, cells, built, rfl⟩, rfl⟩
        exact ⟨_, _, ⟨c, converted, rfl⟩, (ih later).1 ⟨cells, built, rfl⟩, rfl⟩
      · rintro ⟨_, rest, ⟨c, converted, rfl⟩, each, rfl⟩
        obtain ⟨cells, built, rfl⟩ := (ih later).2 each
        exact ⟨_, ⟨c, converted, cells, built, rfl⟩, rfl⟩
    · exact here

section

variable {target : FlatType} {values : List Value} {rows : List Element}

theorem exists_buildFlat_elements (number : target.IsNumber) (given : ∀ v ∈ values, v ≠ .null) :
    (∃ cells, buildFlat values target = .ok cells ∧ cells.elements = rows) ↔
      List.Forall₂ (BuildsAs target) values rows := by
  cases target with
  | boolean =>
    refine Iff.trans ?_ (exists_buildCells_elements given)
    simp [buildFlat, map_eq_ok, FlatArray.elements]
  | integer t =>
    refine Iff.trans ?_ (exists_buildCells_elements given)
    simp [buildFlat, map_eq_ok, FlatArray.elements]
  | float t =>
    have cell : BuildsAs (.float t) = fun v e =>
        ∃ c, FloatType.double.castBits t <$> v.toFloat = .ok c ∧ .float c = e := by
      funext v e
      simp [BuildsAs, map_eq_ok]
    rw [cell]
    refine Iff.trans ?_ (exists_buildCells_elements given)
    simp [buildFlat, map_eq_ok, FlatArray.elements]
  | null | decimal _ _ | text _ | binary _ | fixedBinary _ | temporal _ => exact number.elim

theorem exists_coerce_list_number (number : target.IsNumber) (given : ∀ v ∈ values, v ≠ .null) :
    (∃ b, (coerce (.list values) (some (.flat target))).result = .ok b ∧ b.rows = rows) ↔
      List.Forall₂ (BuildsAs target) values rows := by
  rw [← exists_buildFlat_elements number given]
  constructor
  · rintro ⟨b, done, rfl⟩
    obtain ⟨t, known, made | ⟨rfl, rfl⟩⟩ := coerce_list done
    · cases known
      rw [buildArray] at made
      obtain ⟨cells, built, rfl⟩ := map_eq_ok.1 made
      exact ⟨cells, built, rfl⟩
    · refine (exists_buildFlat_elements number given).2 ?_
      rw [TypedArray.rows_empty]
      exact .nil
  · rintro ⟨cells, built, rfl⟩
    cases values with
    | nil =>
      have none := (exists_buildFlat_elements number given).1 ⟨cells, built, rfl⟩
      rw [List.forall₂_nil_left_iff.1 none]
      refine ⟨.empty (.flat target), ?_, TypedArray.rows_empty _⟩
      cases target <;> first | rfl | exact number.elim
    | cons v values =>
      refine ⟨.flat cells, fromItems_eq_ok.2 ⟨_, _, rfl, rfl, ?_⟩, rfl⟩
      rw [buildArray]
      exact map_eq_ok.2 ⟨cells, built, rfl⟩

end

section

variable {α β γ : Type} {R : α → γ → Prop} {S : β → γ → Prop} {xs : List α} {ys : List β}

theorem exists_forall₂ : (∃ zs, List.Forall₂ R xs zs ∧ List.Forall₂ S ys zs) ↔
    List.Forall₂ (fun x y => ∃ z, R x z ∧ S y z) xs ys := by
  constructor
  · rintro ⟨zs, first, second⟩
    induction first generalizing ys with
    | nil =>
      cases second
      exact .nil
    | cons own _ ih =>
      cases second with
      | cons other rest => exact .cons ⟨_, own, other⟩ (ih rest)
  · intro both
    induction both with
    | nil => exact ⟨[], .nil, .nil⟩
    | cons own _ ih =>
      obtain ⟨z, first, second⟩ := own
      obtain ⟨zs, firsts, seconds⟩ := ih
      exact ⟨z :: zs, .cons first firsts, .cons second seconds⟩

theorem forall₂_iff_forall {C K : α → β → Prop} {P : α → Prop} (pairs : List.Forall₂ C xs ys)
    (each : ∀ x ∈ xs, ∀ y, C x y → (K x y ↔ P x)) : List.Forall₂ K xs ys ↔ ∀ x ∈ xs, P x := by
  induction pairs with
  | nil => exact iff_of_true .nil nofun
  | cons own _ ih =>
    obtain ⟨here, later⟩ := List.forall_mem_cons.1 each
    rw [List.forall₂_cons, List.forall_mem_cons, here _ own, ih later]

end

namespace Tensor

variable {t : Tensor} {target : FlatType} {patterns : List Nat} {a : TypedArray}

theorem scalar_ne_null (read : t.patterns = .ok patterns) :
    ∀ v ∈ patterns.map (scalar t.native), v ≠ .null := by
  intro v member
  obtain ⟨n, _, rfl⟩ := List.mem_map.1 member
  rcases cases_of_patterns read with ⟨s, native⟩ | ⟨s, native⟩
  · rw [native, scalar]
    split <;> exact nofun
  · rw [native]
    exact nofun

theorem exists_fromTensor_float (read : t.patterns = .ok patterns) (u : FloatType) :
    ∃ a, Strategy.fromTensor (.tensor t) (some (.flat (.float u))) = .ok a := by
  obtain ⟨cells, flat⟩ : ∃ cells, t.flatArray = .ok cells := by
    rcases cases_of_patterns read with ⟨s, native⟩ | ⟨s, native⟩
    · exact ⟨_, flatArray_eq_ok.2 ⟨patterns, read, .inl ⟨s, native, rfl⟩⟩⟩
    · exact ⟨_, flatArray_eq_ok.2 ⟨patterns, read, .inr ⟨s, native, rfl⟩⟩⟩
  have numeric := isNumeric_flatArray flat
  by_cases same : cells.type = .float u
  · exact ⟨_, fromTensor_eq_ok.2 ⟨cells, flat, .inl ⟨same, rfl⟩⟩⟩
  obtain ⟨own, made⟩ : ∃ own, cells.cast? (.float u) = some (.ok own) := by
    rcases numeric with ⟨s, ns, rfl⟩ | ⟨s, ns, rfl⟩ <;> exact ⟨_, rfl⟩
  exact ⟨_, fromTensor_eq_ok.2 ⟨cells, flat,
    .inr ⟨same, (TypedArray.cast_numeric_eq_ok numeric same).2 ⟨own, made, rfl⟩⟩⟩⟩

theorem exists_same_iff (number : target.IsNumber) (read : t.patterns = .ok patterns)
    (type : a.type = .flat target) (cast : List.Forall₂ (CastsTo t.native target) patterns a.rows) :
    (∃ b, (coerce (.list (patterns.map (scalar t.native))) (some (.flat target))).result = .ok b ∧
        SameNumbers target a b) ↔ ∀ n ∈ patterns, (scalar t.native n).IsKept target := by
  obtain ⟨width, known, inside⟩ := exists_width read
  have list (rows : List Element) :
      (∃ b, (coerce (.list (patterns.map (scalar t.native))) (some (.flat target))).result = .ok b ∧
        b.rows = rows) ↔ List.Forall₂ (BuildsAs target) (patterns.map (scalar t.native)) rows :=
    exists_coerce_list_number number (scalar_ne_null read)
  calc (∃ b, (coerce (.list (patterns.map (scalar t.native))) (some (.flat target))).result = .ok b ∧
          SameNumbers target a b)
      ↔ ∃ rows, List.Forall₂ (BuildsAs target) (patterns.map (scalar t.native)) rows ∧
          List.Forall₂ (SameCell target) a.rows rows := by
        constructor
        · rintro ⟨b, done, _, same⟩
          exact ⟨b.rows, (list b.rows).1 ⟨b, done, rfl⟩, same⟩
        · rintro ⟨rows, built, same⟩
          obtain ⟨b, done, rfl⟩ := (list rows).2 built
          have own := type_coerce (fun _ array => by cases array) (.inl ⟨target, rfl⟩) done
          exact ⟨b, done, type.trans own.symm, same⟩
    _ ↔ List.Forall₂ (fun n e => ∃ e', BuildsAs target (scalar t.native n) e' ∧ SameCell target e e')
          patterns a.rows := by
        simp only [List.forall₂_map_left_iff]
        exact exists_forall₂
    _ ↔ ∀ n ∈ patterns, (scalar t.native n).IsKept target :=
        forall₂_iff_forall cast fun n member e own => builds_iff_isKept known (inside n member) own

theorem isKept_of_builds {n : Nat} {e : Element} (number : target.IsNumber)
    (narrow : ∀ u, target ≠ .float u) (built : BuildsAs target (scalar t.native n) e) :
    (scalar t.native n).IsKept target := by
  cases target with
  | boolean =>
    obtain ⟨b, read, _⟩ := built
    exact absurd read toBool_scalar
  | integer s =>
    obtain ⟨i, read, _⟩ := built
    exact isKept_of_toInteger read
  | float u => exact absurd rfl (narrow u)
  | null | decimal _ _ | text _ | binary _ | fixedBinary _ | temporal _ => exact number.elim

theorem values_of_line {n : Nat} (line : t.shape = [n]) : t.values = t.scalars := by
  rw [values, line]
  cases t.scalars <;> rfl

theorem coerce_tensor_cases {n : Nat} (line : t.shape = [n])
    (done : (coerce (.tensor t) (some (.flat target))).result = .ok a) :
    Strategy.fromTensor (.tensor t) (some (.flat target)) = .ok a ∨
      (∀ b, Strategy.fromTensor (.tensor t) (some (.flat target)) ≠ .ok b) ∧
        ∃ elements, t.scalars = .ok elements ∧ buildArray elements (.flat target) = .ok a := by
  rw [coerce_some_eq fun _ array => by cases array] at done
  change (tryStrategies (.tensor t) (some (.flat target)) [.tensor, .text, .scalar]).result = _ at done
  rw [tryStrategies, Strategy.run] at done
  split at done
  case h_1 refused =>
    obtain ⟨items, _, own, known, built⟩ := fromItems_eq_ok.1 done
    cases known
    have elements := convertError_eq_ok.1 own
    rw [values_of_line line] at elements
    refine .inr ⟨fun b cast => ?_, items, elements, built⟩
    rw [refused] at cast
    cases cast
  case h_2 => exact .inl done

/-- A tensor becomes the array that the list of its elements becomes, exactly if no element is one
that casts change and lists do not. -/
theorem coerce_tensor_iff {n : Nat} (line : t.shape = [n]) (number : target.IsNumber)
    (done : (coerce (.tensor t) (some (.flat target))).result = .ok a) :
    ∃ elements, t.scalars = .ok elements ∧
      ((∃ b, (coerce (.list elements) (some (.flat target))).result = .ok b ∧ SameNumbers target a b) ↔
        ∀ v ∈ elements, v.IsKept target) := by
  have type := type_coerce (fun _ array => by cases array) (.inl ⟨target, rfl⟩) done
  rcases coerce_tensor_cases line done with cast | ⟨refused, elements, read, built⟩
  · obtain ⟨patterns, read, each⟩ := forall₂_fromTensor number cast
    refine ⟨_, scalars_eq_ok.2 ⟨patterns, read, rfl⟩, ?_⟩
    rw [exists_same_iff number read type each, List.forall_mem_map]
  · obtain ⟨patterns, known, rfl⟩ := scalars_eq_ok.1 read
    rw [buildArray] at built
    obtain ⟨cells, made, rfl⟩ := map_eq_ok.1 built
    have each := (exists_buildFlat_elements number (scalar_ne_null known)).1 ⟨cells, made, rfl⟩
    refine ⟨_, read, iff_of_true ?_ ?_⟩
    · obtain ⟨b, done', rows⟩ := (exists_coerce_list_number number (scalar_ne_null known)).2 each
      have own := type_coerce (fun _ array => by cases array) (.inl ⟨target, rfl⟩) done'
      refine ⟨b, done', type.trans own.symm, ?_⟩
      rw [rows]
      exact List.forall₂_same.2 fun e _ => .inl rfl
    -- Casts to floats are never refused, and to other types lists are stricter.
    · have narrow (u : FloatType) : target ≠ .float u := by
        rintro rfl
        obtain ⟨b, cast⟩ := exists_fromTensor_float known u
        exact refused b cast
      rw [List.forall₂_map_left_iff] at each
      have kept := each.imp fun n e own => And.intro (isKept_of_builds number narrow own) own
      exact List.forall_mem_map.2 ((List.forall₂_and_left _ _).1 kept).1

theorem coerce_tensor_whole :
    ∃ a b, (coerce (.tensor (ofFloats .double [0x4000000000000000] [1]))
        (some (.flat (.integer .int32)))).result = .ok a ∧
      (coerce (.list [.float 0x4000000000000000]) (some (.flat (.integer .int32)))).result = .ok b ∧
      SameNumbers (.integer .int32) a b := by
  have done : (coerce (.tensor (ofFloats .double [0x4000000000000000] [1])) (some (.flat (.integer .int32)))).result =
      .ok (.flat (.integers .int32 [some 2])) := by
    with_unfolding_all rfl
  have number : (FlatType.integer .int32).IsNumber := trivial
  obtain ⟨elements, read, agrees⟩ := coerce_tensor_iff rfl number done
  have own : (ofFloats .double [0x4000000000000000] [1]).scalars = .ok [.float 0x4000000000000000] := by
    with_unfolding_all rfl
  rw [own] at read
  cases read
  obtain ⟨b, list, same⟩ := agrees.2 (List.forall_mem_singleton.2 ⟨2, by
    have value : FloatType.double.decode 0x4000000000000000 =
        .finite false 0x10000000000000 (-51) := by decide
    rw [value, FloatValue.exact]
    norm_num, by decide⟩)
  exact ⟨_, b, done, list, same⟩

/-- A tensor's fraction is cut off where a list's is refused. -/
theorem coerce_tensor_fraction :
    let halves := ofFloats .double [0x3ff8000000000000] [1]
    halves.scalars = .ok [.float 0x3ff8000000000000] ∧
      (coerce (.tensor halves) (some (.flat (.integer .int32)))).result =
        .ok (.flat (.integers .int32 [some 1])) ∧
      (coerce (.list [.float 0x3ff8000000000000]) (some (.flat (.integer .int32)))).result =
        .error (.error (.cannotConvert (some (.flat (.integer .int32)))
          (.notWhole 0x3ff8000000000000))) := by
  refine ⟨?_, ?_, ?_⟩ <;> with_unfolding_all rfl

end Tensor

end EntityLog
