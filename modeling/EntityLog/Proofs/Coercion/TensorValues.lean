import EntityLog.Proofs.Coercion.Tensors
import EntityLog.Proofs.Coercion.TensorSizes

namespace EntityLog

namespace Value

/-- All values are lists of the first length, their items are lists of the next one, and so on. -/
def NestedAs (dims : List Nat) (values : List Value) : Prop :=
  ∀ k dim, dims[k]? = some dim → ∀ v ∈ atDepth k values, ∃ own, v = .list own ∧ own.length = dim

def at? : List Nat → Value → Option Value
  | [], v => some v
  | i :: indices, v => v.items[i]?.bind (at? indices)

/-- How many come before the given indices when the last index varies fastest. -/
def place : List Nat → List Nat → Nat
  | _ :: dims, i :: indices => i * dims.prod + place dims indices
  | _, _ => 0

variable {dim : Nat} {dims indices : List Nat} {values : List Value}

theorem place_lt (inside : List.Forall₂ (· < ·) indices dims) : place dims indices < dims.prod := by
  induction inside with
  | nil => exact Nat.one_pos
  | @cons i dim indices dims below _ ih =>
    calc i * dims.prod + place dims indices < i * dims.prod + dims.prod := Nat.add_lt_add_left ih _
      _ = (i + 1) * dims.prod := (Nat.succ_mul ..).symm
      _ ≤ dim * dims.prod := Nat.mul_le_mul_right _ below

theorem atDepth_succ (k : Nat) (values : List Value) :
    atDepth (k + 1) values = (atDepth k values).flatMap items := by
  induction k generalizing values with
  | zero => rfl
  | succ k ih => rw [atDepth, ih, atDepth]

theorem NestedAs.concat (nested : NestedAs dims values)
    (last : ∀ v ∈ atDepth dims.length values, ∃ own, v = .list own ∧ own.length = dim) :
    NestedAs (dims ++ [dim]) values := by
  intro k found given
  rw [List.getElem?_append] at given
  split at given
  case isTrue => exact nested k found given
  case isFalse beyond =>
    obtain ⟨inside, rfl⟩ := List.getElem?_eq_some_iff.1 given
    obtain rfl : k = dims.length := by
      rw [List.length_singleton] at inside
      omega
    simpa using last

theorem NestedAs.length_items (nested : NestedAs (dim :: dims) values) :
    ∀ v ∈ values, v.items.length = dim := by
  intro v member
  obtain ⟨own, rfl, length⟩ := nested 0 dim rfl v member
  exact length

theorem NestedAs.tail (nested : NestedAs (dim :: dims) values) :
    NestedAs dims (values.flatMap items) := fun k => nested (k + 1)

theorem getElem?_flatMap_items (even : ∀ v ∈ values, v.items.length = dim) {j : Nat}
    (inside : j < dim) (i : Nat) :
    (values.flatMap items)[i * dim + j]? = values[i]?.bind (·.items[j]?) := by
  induction values generalizing i with
  | nil => rfl
  | cons v values ih =>
    obtain ⟨own, later⟩ := List.forall_mem_cons.1 even
    rw [List.flatMap_cons]
    cases i with
    | zero =>
      rw [Nat.zero_mul, Nat.zero_add, List.getElem?_append_left (own ▸ inside)]
      rfl
    | succ i =>
      have step : (i + 1) * dim + j = v.items.length + (i * dim + j) := by
        rw [own, Nat.succ_mul]
        omega
      rw [step, List.getElem?_append_right (Nat.le_add_right ..), Nat.add_sub_cancel_left, ih later]
      rfl

theorem at?_list (nested : NestedAs dims values) (inside : List.Forall₂ (· < ·) indices dims)
    (n i : Nat) :
    (list values).at? (i :: indices) =
      (atDepth dims.length values)[place (n :: dims) (i :: indices)]? := by
  induction inside generalizing values n i with
  | nil =>
    have first : place [n] [i] = i := Nat.mul_one i
    rw [first]
    exact Option.bind_fun_some _
  | @cons j dim indices dims below _ ih =>
    have near : (list values).at? (i :: j :: indices) =
        (list (values.flatMap items)).at? ((i * dim + j) :: indices) := by
      change values[i]?.bind (fun v => v.items[j]?.bind (at? indices)) =
        (values.flatMap items)[i * dim + j]?.bind (at? indices)
      rw [getElem?_flatMap_items nested.length_items below, Option.bind_assoc]
    have far : place (n :: dim :: dims) (i :: j :: indices) =
        place (n :: dims) ((i * dim + j) :: indices) := by
      simp only [place, List.prod_cons]
      ring
    rw [near, ih nested.tail, ← far, List.length_cons, atDepth]

end Value

section

variable {α : Type} {size count m : Nat} {as : List α}

theorem length_piece (whole : as.length = m * size) {k : Nat} (inside : k < m) :
    ((as.drop (k * size)).take size).length = size := by
  have room : (k + 1) * size ≤ m * size := Nat.mul_le_mul_right size inside
  rw [Nat.succ_mul] at room
  rw [List.length_take, List.length_drop, whole]
  omega

theorem flatten_chunks (enough : as.length ≤ count * size) :
    (chunks size count as).flatten = as := by
  induction count generalizing as with
  | zero =>
    rw [Nat.zero_mul, Nat.le_zero, List.length_eq_zero_iff] at enough
    subst enough
    rfl
  | succ count ih =>
    cases as with
    | nil => rfl
    | cons a as =>
      have rest : ((a :: as).drop size).length ≤ count * size := by
        rw [List.length_drop]
        rw [Nat.succ_mul] at enough
        omega
      rw [chunks, List.flatten_cons, ih rest, List.take_append_drop]
      exact List.cons_ne_nil a as

end

namespace Tensor

open Value

def element (t : Tensor) (width k : Nat) : List UInt8 := (t.bytes.drop (k * width)).take width

/-- Bytes, lowest first, beside the value that is exactly the number they stand for. -/
inductive Stores : NativeType → List UInt8 → Value → Prop
  | int {s : IntegerType} {i : Int} : s.isSigned = true → s.holds i →
    Stores (.integer s) (s.bytes i) (.int i)
  | uint {s : IntegerType} {n : Nat} : s.isSigned = false → s.holds n →
    Stores (.integer s) (s.bytes n) (.uint n)
  | float {s : FloatType} {bits wide : Nat} : bits < pow2 (8 * s.width) →
    (FloatType.double.decode wide).Same (s.decode bits) →
      Stores (.float s) (floatBytes s bits) (.float wide)

theorem digits_natOfBytes (block : List UInt8) :
    (List.range block.length).map (fun k => UInt8.ofNat (natOfBytes block / pow2 (8 * k) % 256)) =
      block := by
  induction block with
  | nil => rfl
  | cons b block ih =>
    have small := b.toNat_lt
    have first : UInt8.ofNat (natOfBytes (b :: block) / pow2 (8 * 0) % 256) = b := by
      have digit : natOfBytes (b :: block) / pow2 (8 * 0) % 256 = b.toNat := by
        rw [natOfBytes, Nat.mul_zero, pow2_zero]
        omega
      rw [digit, UInt8.ofNat_toNat]
    have later (k : Nat) : natOfBytes (b :: block) / pow2 (8 * (k + 1)) =
        natOfBytes block / pow2 (8 * k) := by
      have shift : pow2 (8 * (k + 1)) = 256 * pow2 (8 * k) := by
        rw [Nat.mul_add, Nat.add_comm, pow2_add]
        rfl
      rw [shift, ← Nat.div_div_eq_div_mul, natOfBytes]
      congr 1
      omega
    rw [List.length_cons, List.range_succ_eq_map, List.map_cons, first, List.map_map]
    simp only [Function.comp_def, Nat.succ_eq_add_one, later]
    rw [ih]

variable {block : List UInt8}

theorem bytes_ofPattern {s : IntegerType} (whole : block.length = s.width) :
    s.bytes (s.ofPattern (natOfBytes block)) = block := by
  have small := natOfBytes_lt block
  rw [whole] at small
  have pattern : (s.ofPattern (natOfBytes block) % pow2 (8 * s.width)).toNat = natOfBytes block := by
    rw [IntegerType.ofPattern]
    split
    · rw [Int.sub_emod_right, ← Int.natCast_emod, Int.toNat_natCast, Nat.mod_eq_of_lt small]
    · rw [← Int.natCast_emod, Int.toNat_natCast, Nat.mod_eq_of_lt small]
  rw [IntegerType.bytes, pattern, ← whole, digits_natOfBytes]

theorem floatBytes_natOfBytes {s : FloatType} (whole : block.length = s.width) :
    floatBytes s (natOfBytes block) = block := by
  rw [floatBytes, ← whole, digits_natOfBytes]

theorem stores_scalar {native : NativeType} {width : Nat} (known : native.width = some width)
    (whole : block.length = width) : Stores native block (scalar native (natOfBytes block)) := by
  have small := natOfBytes_lt block
  cases native with
  | integer s =>
    cases known
    rw [whole] at small
    have held := IntegerType.holds_ofPattern small
    have own := bytes_ofPattern whole
    rw [scalar]
    split
    case isTrue signed =>
      have stored := Stores.int signed held
      rwa [own] at stored
    case isFalse unsigned =>
      rw [Bool.not_eq_true] at unsigned
      rw [IntegerType.ofPattern_unsigned unsigned] at held own
      have stored := Stores.uint unsigned held
      rwa [own] at stored
  | float s =>
    cases known
    rw [whole] at small
    have inside : natOfBytes block < 2 * s.signBit := by cases s <;> exact small
    have stored := Stores.float small (FloatType.same_convert_double inside)
    rwa [floatBytes_natOfBytes whole] at stored
  | boolean | text | binary => cases known

variable {t : Tensor} {width : Nat}

theorem scalars_eq (known : t.native.width = some width) (countable : t.IsCountable width)
    (sized : t.bytes.length = t.shape.prod * width) (aligned : t.address % width = 0) :
    t.scalars = .ok ((List.range t.shape.prod).map fun k =>
      scalar t.native (natOfBytes (t.element width k))) := by
  have read : t.patterns =
      .ok ((List.range t.shape.prod).map fun k => natOfBytes (t.element width k)) := by
    rw [patterns_of_countable known countable, if_neg (not_not.2 sized), if_neg (not_not.2 aligned),
      chunks_eq (width_pos known) sized (Nat.le_refl _), List.map_map]
    rfl
  exact scalars_eq_ok.2 ⟨_, read, List.map_map⟩

theorem exists_fold (shape : List Nat) {dims : List Nat} {values : List Value} {n : Nat}
    (filled : 0 ∉ dims) (whole : values.length = n * dims.prod) :
    ∃ rows, fold shape dims values = .ok rows ∧ rows.length = n ∧ NestedAs dims.reverse rows ∧
      atDepth dims.length rows = values := by
  -- The innermost dimension comes first. What it leaves to gather are lists, which end up below all
  -- others, as many as the other dimensions ask for.
  induction dims generalizing values with
  | nil =>
    rw [List.prod_nil, Nat.mul_one] at whole
    exact ⟨values, rfl, whole, nofun, rfl⟩
  | cons dim dims ih =>
    obtain ⟨other, filled⟩ := List.ne_and_not_mem_of_not_mem_cons filled
    have positive : 0 < dim := Nat.pos_of_ne_zero (Ne.symm other)
    have many : values.length = n * dims.prod * dim := by
      rw [whole, List.prod_cons]
      ring
    have enough : n * dims.prod ≤ values.length := many ▸ Nat.le_mul_of_pos_right _ positive
    have cut := chunks_eq positive many enough
    have count : ((chunks dim values.length values).map Value.list).length = n * dims.prod := by
      rw [cut, List.length_map, List.length_map, List.length_range]
    obtain ⟨rows, done, length, nested, flat⟩ := ih filled count
    refine ⟨rows, ?_, length, ?_, ?_⟩
    · rw [fold, if_neg (Ne.symm other), done]
    · rw [List.reverse_cons]
      apply nested.concat
      rw [List.length_reverse, flat, cut, List.forall_mem_map, List.forall_mem_map]
      intro k inside
      exact ⟨_, rfl, length_piece many (List.mem_range.1 inside)⟩
    · have all : values.length ≤ values.length * dim := Nat.le_mul_of_pos_right _ positive
      calc atDepth (dims.length + 1) rows
          = ((chunks dim values.length values).map Value.list).flatMap items := by
            rw [atDepth_succ, flat]
        _ = (chunks dim values.length values).flatten := by rw [List.flatMap_map]; exact List.flatMap_id
        _ = values := flatten_chunks all

theorem prod_headD_mul_drop (shape : List Nat) : shape.headD 1 * (shape.drop 1).prod = shape.prod := by
  cases shape with
  | nil => rfl
  | cons dim rest => exact List.prod_cons.symm

theorem values_of_fold {scalars rows : List Value} (read : t.scalars = .ok scalars)
    (done : fold t.shape (t.shape.drop 1).reverse scalars = .ok rows) : t.values = .ok rows := by
  rw [values, read]
  exact reporting_eq_ok.2 done

/-- A tensor of numbers with as many bytes as its shape asks for, in the right place, becomes lists
unless a dimension behind the first is zero. They are as long as the shape says at each depth, and
hold the numbers in their order, so that the last index runs fastest; without dimensions there is one
number. Bytes are never more than a word counts, so neither are the elements. -/
theorem values_row_major (known : t.native.width = some width)
    (sized : t.bytes.length = t.shape.prod * width) (fits : t.bytes.length < pow2 64)
    (aligned : t.address % width = 0) (filled : 0 ∉ t.shape.drop 1) :
    ∃ rows, t.values = .ok rows ∧
      rows.length = t.shape.headD 1 ∧
      NestedAs (t.shape.drop 1) rows ∧
      List.Forall₂ (Stores t.native) ((List.range t.shape.prod).map (t.element width))
        (atDepth (t.shape.length - 1) rows) ∧
      ∀ indices, List.Forall₂ (· < ·) indices (t.shape.headD 1 :: t.shape.drop 1) →
        ∃ v, (Value.list rows).at? indices = some v ∧
          Stores t.native (t.element width (place (t.shape.headD 1 :: t.shape.drop 1) indices)) v := by
  have countable := isCountable_of_filled known filled (sized ▸ fits)
  have read := scalars_eq known countable sized aligned
  have stores (k : Nat) (inside : k < t.shape.prod) :
      Stores t.native (t.element width k) (scalar t.native (natOfBytes (t.element width k))) :=
    stores_scalar known (length_piece sized inside)
  have whole : ((List.range t.shape.prod).map fun k =>
      scalar t.native (natOfBytes (t.element width k))).length =
        t.shape.headD 1 * (t.shape.drop 1).reverse.prod := by
    rw [List.length_map, List.length_range, (List.reverse_perm _).prod_eq, prod_headD_mul_drop]
  obtain ⟨rows, done, length, nested, flat⟩ :=
    exists_fold t.shape (mt List.mem_reverse.1 filled) whole
  rw [List.reverse_reverse] at nested
  rw [List.length_reverse] at flat
  refine ⟨rows, values_of_fold read done, length, nested, ?_, ?_⟩
  · rw [← List.length_drop, flat, List.forall₂_map_left_iff, List.forall₂_map_right_iff,
      List.forall₂_same]
    exact fun k member => stores k (List.mem_range.1 member)
  · intro indices inside
    have within := place_lt inside
    rw [List.prod_cons, prod_headD_mul_drop] at within
    cases inside with
    | cons below inside =>
      refine ⟨_, ?_, stores _ within⟩
      rw [at?_list nested inside, flat, List.getElem?_map, List.getElem?_range within]
      rfl

theorem values_row_major_rows :
    let t := ofIntegers .int16 [1, -2, 3, 4, -5, 6] [2, 3]
    t.native.width = some 2 ∧ t.bytes.length = t.shape.prod * 2 ∧ t.bytes.length < pow2 64 ∧
      t.address % 2 = 0 ∧ 0 ∉ t.shape.drop 1 ∧
      ∃ rows, t.values = .ok rows ∧ rows.length = 2 ∧ NestedAs [3] rows ∧
        (atDepth 1 rows).length = 6 ∧
        ∃ v, (Value.list rows).at? [1, 1] = some v ∧ Stores (.integer .int16) [0xfb, 0xff] v := by
  intro t
  have sized : t.bytes.length = t.shape.prod * 2 := by decide
  have fits : t.bytes.length < pow2 64 := by decide
  obtain ⟨rows, done, length, nested, flat, found⟩ :=
    values_row_major (t := t) rfl sized fits rfl (by decide)
  refine ⟨rfl, sized, fits, rfl, by decide, rows, done, length, nested, flat.length_eq.symm, ?_⟩
  exact found [1, 1] (.cons (by decide) (.cons (by decide) .nil))

end Tensor

end EntityLog
