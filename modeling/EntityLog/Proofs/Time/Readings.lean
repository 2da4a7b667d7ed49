import EntityLog.Proofs.Schema.IntegerTypes
import EntityLog.Proofs.Time.Columns
import Mathlib.Algebra.Ring.Int.Defs
import Mathlib.Data.List.Forall2
import Mathlib.Order.Lattice

namespace EntityLog

/-- What 64 bits hold of a number: the number, or the limit on its side. -/
def Saturates (exact held : Int) : Prop :=
  if IntegerType.int64.holds exact then held = exact
  else held = if exact < 0 then int64Min else int64Max

theorem clampInt64_of_holds {i : Int} (held : IntegerType.int64.holds i) : clampInt64 i = i := by
  obtain ⟨low, high⟩ : int64Min ≤ i ∧ i ≤ int64Max := IntegerType.holds_iff.1 held
  rw [clampInt64, min_eq_right high, max_eq_right low]

theorem saturates_clampInt64 (i : Int) : Saturates i (clampInt64 i) := by
  rw [Saturates]
  split
  case isTrue held => exact clampInt64_of_holds held
  case isFalse outside =>
    have limits : int64Min < 0 ∧ 0 < int64Max := by decide
    have beyond : ¬(int64Min ≤ i ∧ i ≤ int64Max) := mt IntegerType.holds_iff.2 outside
    unfold clampInt64
    split <;> omega

theorem clampInt64_mono {i j : Int} (le : i ≤ j) : clampInt64 i ≤ clampInt64 j := by
  unfold clampInt64
  omega

/-- Types that count time, the unit they count in, and the timelines they are for. -/
inductive TemporalType.Counts : TemporalType → TimeUnit → TimeType → Prop
  | timestamp (unit : TimeUnit) (zone : Option String) : Counts (.timestamp unit zone) unit .timestamp
  | duration (unit : TimeUnit) : Counts (.duration unit) unit .duration

namespace TimeColumn

variable {name : TimelineName} {a : TypedArray}

theorem markedNulls_pos : 0 < a.markedNulls ↔ false ∈ a.marks := by
  simp [TypedArray.markedNulls, List.countP_pos_iff]

theorem read_eq_containsNulls :
    read name a = .error (.containsNulls name) ↔ false ∈ a.marks := by
  rw [← markedNulls_pos]
  unfold read
  split
  case isTrue marked => exact iff_of_true rfl marked
  case isFalse unmarked =>
    refine iff_of_false ?_ unmarked
    repeat' split
    all_goals exact nofun

theorem markedNulls_integers (t : IntegerType) (values : List Int) :
    ¬0 < (TypedArray.flat (.integers t (values.map some))).markedNulls := by
  rw [markedNulls_pos]
  simp [TypedArray.marks, TypedArray.validity, FlatArray.elements, Element.isNull]

theorem markedNulls_temporals (t : TemporalType) (values : List Int) :
    ¬0 < (TypedArray.flat (.temporals t (values.map some))).markedNulls := by
  rw [markedNulls_pos]
  simp [TypedArray.marks, TypedArray.validity, FlatArray.elements, Element.isNull]

theorem present_map_some (values : List Int) : present (values.map some) = values := by
  simp [present, List.filterMap_map]

theorem read_temporals {type : TemporalType} {unit : TimeUnit} {kind : TimeType}
    (counts : type.Counts unit kind) (name : TimelineName) (values : List Int) :
    read name (.flat (.temporals type (values.map some))) =
      .ok ⟨⟨name, kind⟩, values.map fun v => clampInt64 (v * unit.nanos)⟩ := by
  unfold read
  rw [if_neg (markedNulls_temporals type values)]
  cases counts with
  | timestamp unit zone => simp only [scaled, present_map_some]
  | duration unit => simp only [scaled, present_map_some]

section

variable {t : IntegerType} {values : List Int}

theorem find?_beyond (held : ∀ i ∈ values, t.holds i) :
    (∀ i ∈ values, IntegerType.int64.holds i) ∧ values.find? (int64Max < ·) = none ∨
    ∃ before i after, values = before ++ i :: after ∧
      (∀ j ∈ before, IntegerType.int64.holds j) ∧ ¬IntegerType.int64.holds i ∧
      values.find? (int64Max < ·) = some i := by
  have within {i : Int} (member : i ∈ values) : IntegerType.int64.holds i ↔ ¬int64Max < i :=
    (IntegerType.holds_int64_iff (held i member)).trans Int.not_lt.symm
  cases found : values.find? (int64Max < ·) with
  | none =>
    refine .inl ⟨fun i member => (within member).2 fun above => ?_, rfl⟩
    exact List.find?_eq_none.1 found i member (decide_eq_true above)
  | some i =>
    obtain ⟨above, before, after, rfl, below⟩ := List.find?_eq_some_iff_append.1 found
    refine .inr ⟨before, i, after, rfl, fun j earlier => ?_, fun inside => ?_, rfl⟩
    · refine (within (List.mem_append_left _ earlier)).2 fun above => ?_
      simpa [above] using below j earlier
    · refine (within ?_).1 inside (of_decide_eq_true above)
      exact List.mem_append_right _ List.mem_cons_self

theorem read_narrow (narrow : t.width < 4) (name : TimelineName) (values : List Int) :
    read name (.flat (.integers t (values.map some))) =
      .error (.unsupportedType name (.integer t)) := by
  unfold read
  rw [if_neg (markedNulls_integers t values)]
  cases t with
  | int8 | int16 | uint8 | uint16 => rfl
  | int32 | int64 | uint32 | uint64 => exact absurd narrow (by decide)

theorem read_wide (wide : 4 ≤ t.width) (held : ∀ i ∈ values, t.holds i) (name : TimelineName) :
    read name (.flat (.integers t (values.map some))) =
      (values.find? (int64Max < ·)).elim (.ok ⟨⟨name, .sequence⟩, values⟩)
        fun i => .error (.outOfRange name i) := by
  have below (narrow : t ≠ .uint64) : values.find? (int64Max < ·) = none := by
    rcases find?_beyond held with ⟨_, none⟩ | ⟨before, i, after, rfl, _, outside, _⟩
    · exact none
    · exact absurd (IntegerType.holds_int64 narrow (held i (by simp))) outside
  unfold read
  rw [if_neg (markedNulls_integers t values)]
  cases t with
  | int32 | int64 | uint32 => simp only [present_map_some, below nofun, Option.elim_none]
  | uint64 =>
    simp only [present_map_some]
    cases values.find? (int64Max < ·) <;> rfl
  | int8 | int16 | uint8 | uint16 => exact absurd wide (by decide)

/-- Integers without nulls are read as the sequence that they are exactly if their type has 32 bits or
more and 64 bits with a sign hold each. The first that they do not hold is told, and a type that is
narrower is refused, however small its integers. -/
theorem read_integers (held : ∀ i ∈ values, t.holds i) (name : TimelineName) :
    let read := read name (.flat (.integers t (values.map some)))
    (read = .ok ⟨⟨name, .sequence⟩, values⟩ ↔
      4 ≤ t.width ∧ ∀ i ∈ values, IntegerType.int64.holds i) ∧
    ((∃ i ∈ values, ¬IntegerType.int64.holds i) → ∃ before i after,
      values = before ++ i :: after ∧ (∀ j ∈ before, IntegerType.int64.holds j) ∧
        ¬IntegerType.int64.holds i ∧ read = .error (.outOfRange name i)) ∧
    (t.width < 4 → read = .error (.unsupportedType name (.integer t))) := by
  dsimp only
  rcases Nat.lt_or_ge t.width 4 with narrow | wide
  · have small : t ≠ .uint64 := by
      rintro rfl
      exact absurd narrow (by decide)
    rw [read_narrow narrow]
    refine ⟨iff_of_false nofun fun both => Nat.not_le_of_lt narrow both.1, ?_, fun _ => rfl⟩
    rintro ⟨i, member, outside⟩
    exact absurd (IntegerType.holds_int64 small (held i member)) outside
  · have not_narrow : ¬t.width < 4 := Nat.not_lt_of_le wide
    rw [read_wide wide held]
    rcases find?_beyond held with ⟨inside, found⟩ | ⟨before, i, after, rfl, inside, outside, found⟩
    · rw [found]
      refine ⟨iff_of_true rfl ⟨wide, inside⟩, ?_, fun narrow => absurd narrow not_narrow⟩
      rintro ⟨i, member, outside⟩
      exact absurd (inside i member) outside
    · rw [found]
      refine ⟨iff_of_false nofun fun both => outside (both.2 i (by simp)), fun _ => ?_,
        fun narrow => absurd narrow not_narrow⟩
      exact ⟨before, i, after, rfl, inside, outside, rfl⟩

theorem read_integers_past :
    (∀ i ∈ ([7, 2 ^ 63, 2 ^ 64 - 1] : List Int), IntegerType.uint64.holds i) ∧
    ∃ before i after, ([7, 2 ^ 63, 2 ^ 64 - 1] : List Int) = before ++ i :: after ∧
      (∀ j ∈ before, IntegerType.int64.holds j) ∧ ¬IntegerType.int64.holds i ∧
      read "frame" (.flat (.integers .uint64 [some 7, some (2 ^ 63), some (2 ^ 64 - 1)])) =
        .error (.outOfRange "frame" i) := by
  have held : ∀ i ∈ ([7, 2 ^ 63, 2 ^ 64 - 1] : List Int), IntegerType.uint64.holds i := by decide
  obtain ⟨_, first, _⟩ := read_integers held "frame"
  exact ⟨held, first ⟨2 ^ 63, by decide, by decide⟩⟩

/-- Frames counted in 16 bits are refused. -/
theorem read_integers_narrow :
    (∀ i ∈ ([1, 2, 3] : List Int), IntegerType.int64.holds i) ∧
      read "frame" (.flat (.integers .int16 [some 1, some 2, some 3])) =
        .error (.unsupportedType "frame" (.integer .int16)) :=
  ⟨by decide, rfl⟩

end

theorem nanos_pos (unit : TimeUnit) : 0 < unit.nanos := by
  cases unit <;> decide

theorem map_clampInt64 {times : List Int} (held : ∀ i ∈ times, IntegerType.int64.holds i) :
    times.map (fun v => clampInt64 (v * TimeUnit.nanosecond.nanos)) = times := by
  have each : ∀ v ∈ times, clampInt64 (v * TimeUnit.nanosecond.nanos) = v := by
    intro v member
    rw [TimeUnit.nanos, Int.mul_one, clampInt64_of_holds (held v member)]
  rw [List.map_congr_left each, List.map_id']

theorem read_toArray {c : TimeColumn} (held : ∀ i ∈ c.times, IntegerType.int64.holds i) :
    read c.name c.toArray = .ok c := by
  obtain ⟨⟨name, kind⟩, times⟩ := c
  cases kind with
  | sequence =>
    refine (read_wide (t := .int64) (by decide) held name).trans ?_
    rcases find?_beyond (t := .int64) held with ⟨_, none⟩ | ⟨before, i, after, rfl, _, outside, _⟩
    · rw [none, Option.elim_none]
    · exact absurd (held i (by simp)) outside
  | duration =>
    refine (read_temporals (.duration .nanosecond) name times).trans ?_
    rw [map_clampInt64 held]
  | timestamp =>
    refine (read_temporals (.timestamp .nanosecond none) name times).trans ?_
    rw [map_clampInt64 held]

/-- A column that was written is read as it was. Timestamps and durations are read as nanoseconds, each
exact or at the limit on its side, in the order they had. Nulls are told iff the mask marks one. -/
theorem read_times :
    (∀ c : TimeColumn, (∀ i ∈ c.times, IntegerType.int64.holds i) → read c.name c.toArray = .ok c) ∧
    (∀ type unit kind, TemporalType.Counts type unit kind → ∀ name values, ∃ times,
      read name (.flat (.temporals type (values.map some))) = .ok ⟨⟨name, kind⟩, times⟩ ∧
      List.Forall₂ (fun v time => Saturates (v * unit.nanos) time) values times ∧
      (values.Pairwise (· ≤ ·) → times.Pairwise (· ≤ ·))) ∧
    ∀ name a, read name a = .error (.containsNulls name) ↔ false ∈ a.marks := by
  refine ⟨fun c held => read_toArray held, ?counted, fun name a => read_eq_containsNulls⟩
  case counted =>
    intro type unit kind counts name values
    refine ⟨_, read_temporals counts name values, ?_, fun sorted => ?_⟩
    · rw [List.forall₂_map_right_iff]
      exact List.forall₂_same.2 fun v _ => saturates_clampInt64 (v * unit.nanos)
    · refine List.pairwise_map.2 (sorted.imp fun le => clampInt64_mono ?_)
      exact Int.mul_le_mul_of_nonneg_right le (Int.le_of_lt (nanos_pos unit))

theorem read_times_limits :
    let c : TimeColumn := ⟨⟨"uptime", .duration⟩, [int64Min, -1, int64Max]⟩
    read "uptime" c.toArray = .ok c ∧
    ∃ times, read "stamp" (.flat (.temporals (.timestamp .second (some "UTC"))
        [some (-2 ^ 62), some 3, some (2 ^ 62)])) = .ok ⟨⟨"stamp", .timestamp⟩, times⟩ ∧
      times.Pairwise (· ≤ ·) := by
  intro c
  obtain ⟨written, counted, _⟩ := read_times
  obtain ⟨times, done, _, sorted⟩ :=
    counted _ _ _ (.timestamp .second (some "UTC")) "stamp" [-2 ^ 62, 3, 2 ^ 62]
  exact ⟨written c (by decide), times, done, sorted (by decide)⟩

end TimeColumn

end EntityLog
