import EntityLog.Proofs.Coercion.Inference
import EntityLog.Proofs.Schema.IntegerTypes

namespace EntityLog

namespace Value

/-- Whole numbers are of 64 bits, and the items of all lists at one depth fit in one column. -/
structure WithinLimits (values : List Value) : Prop where
  ints : ∀ k i, .int i ∈ atDepth k values → IntegerType.int64.holds i
  uints : ∀ k (n : Nat), .uint n ∈ atDepth k values → IntegerType.uint64.holds n
  sizes : ∀ k, ((atDepth (k + 1) values).length : Int) ≤ int32Max

structure Suits (values : List Value) (d : Nat) (flat : FlatType) : Prop where
  leaves : LeavesAt d values
  promote : Promote (atDepth d values) flat
  signs : flat = .integer .uint64 → ∀ i, .int i ∈ atDepth d values → 0 ≤ i

/-- Up to the order of elements and to nulls among them, in lists of any depth. -/
inductive Rearranged : List Value → List Value → Prop
  | order {values others : List Value} : values.Perm others → Rearranged values others
  | null (values : List Value) : Rearranged values (.null :: values)
  | inside {own items : List Value} (values : List Value) :
    Rearranged own items → Rearranged (.list own :: values) (.list items :: values)
  | symm {values others : List Value} : Rearranged values others → Rearranged others values
  | trans {values others more : List Value} :
    Rearranged values others → Rearranged others more → Rearranged values more

end Value

theorem exists_buildCells {α : Type} {convert : Value → Except Refusal α} {values : List Value} :
    (∃ cells, buildCells convert values = .ok cells) ↔
      ∀ v ∈ values, v = .null ∨ ∃ c, convert v = .ok c := by
  induction values with
  | nil => exact iff_of_true ⟨[], rfl⟩ fun _ none => absurd none List.not_mem_nil
  | cons v values ih =>
    rw [List.forall_mem_cons, ← ih]
    by_cases null : v = .null
    · subst null
      rw [and_iff_right (.inl rfl), buildCells]
      simp only [map_eq_ok]
      constructor
      · rintro ⟨_, rest, built, _⟩
        exact ⟨rest, built⟩
      · rintro ⟨rest, built⟩
        exact ⟨_, rest, built, rfl⟩
    · rw [buildCells, or_iff_right null]
      · simp only [bind_eq_ok, map_eq_ok]
        constructor
        · rintro ⟨_, c, converted, rest, built, _⟩
          exact ⟨⟨c, converted⟩, rest, built⟩
        · rintro ⟨⟨c, converted⟩, rest, built⟩
          exact ⟨_, c, converted, rest, built, rfl⟩
      · exact null

section

open Value

variable {values : List Value} {flat : FlatType}

theorem exists_toInteger_int64 {v : Value} (upTo : Inferred.UpTo .int v)
    (ints : ∀ i, v = .int i → IntegerType.int64.holds i) : ∃ i, v.toInteger .int64 = .ok i := by
  obtain ⟨kind, number, bound⟩ := upTo
  simp only [toInteger_eq_ok]
  cases v with
  | bool b => exact ⟨_, rfl, IntegerType.holds_bool _ b, nofun⟩
  | int i => exact ⟨i, rfl, ints i rfl, nofun⟩
  | uint n =>
    cases number
    cases Nat.not_succ_le_self 1 bound
  | float bits =>
    cases number
    cases Nat.not_succ_le_self 1 (Nat.le_of_succ_le bound)
  | null | text _ | bytes _ | list _ | tensor _ | array _ => cases number

theorem exists_toInteger_uint64 {v : Value} (upTo : Inferred.UpTo .uint v)
    (ints : ∀ i, v = .int i → IntegerType.int64.holds i)
    (uints : ∀ n : Nat, v = .uint n → IntegerType.uint64.holds n) :
    (∃ i, v.toInteger .uint64 = .ok i) ↔ ∀ i, v = .int i → 0 ≤ i := by
  obtain ⟨kind, number, bound⟩ := upTo
  simp only [toInteger_eq_ok]
  cases v with
  | bool b => exact iff_of_true ⟨_, rfl, IntegerType.holds_bool _ b, nofun⟩ nofun
  | int i =>
    simp only [int.injEq, forall_eq']
    constructor
    · rintro ⟨own, rfl, held, _⟩
      exact IntegerType.nonneg_of_holds rfl held
    · exact fun nonneg => ⟨i, rfl, IntegerType.holds_uint64 (ints i rfl) nonneg, nofun⟩
  | uint n => exact iff_of_true ⟨n, rfl, uints n rfl, nofun⟩ nofun
  | float bits =>
    cases number
    cases Nat.not_succ_le_self 2 bound
  | null | text _ | bytes _ | list _ | tensor _ | array _ => cases number

theorem exists_map_buildCells {α : Type} {wrap : List (Option α) → FlatArray}
    {convert : Value → Except Refusal α} (leaves : ∀ v ∈ values, v = .null ∨ v.isLeaf) :
    (∃ a, wrap <$> buildCells convert values = .ok a) ↔
      ∀ v ∈ values, v.isLeaf → ∃ c, convert v = .ok c := by
  simp only [map_eq_ok]
  calc (∃ a cells, buildCells convert values = .ok cells ∧ wrap cells = a)
      ↔ ∃ cells, buildCells convert values = .ok cells := by simp
    _ ↔ ∀ v ∈ values, v = .null ∨ ∃ c, convert v = .ok c := exists_buildCells
    _ ↔ ∀ v ∈ values, v.isLeaf → ∃ c, convert v = .ok c := by
      refine forall₂_congr fun v member => ⟨?_, fun ok => (leaves v member).imp_right ok⟩
      rintro (rfl | ok) leaf
      · cases leaf
      · exact ok

theorem exists_buildFlat (promote : Promote values flat) (leaves : ∀ v ∈ values, v = .null ∨ v.isLeaf)
    (ints : ∀ i, .int i ∈ values → IntegerType.int64.holds i)
    (uints : ∀ n : Nat, .uint n ∈ values → IntegerType.uint64.holds n) :
    (∃ a, buildFlat values flat = .ok a) ↔
      (flat = .integer .uint64 → ∀ i, .int i ∈ values → 0 ≤ i) := by
  cases promote with
  | text all =>
    refine iff_of_true ((exists_map_buildCells leaves).2 fun v member leaf => ?_) nofun
    have is := all v member leaf
    cases v <;> cases is
    exact ⟨_, rfl⟩
  | bytes all =>
    refine iff_of_true ((exists_map_buildCells leaves).2 fun v member leaf => ?_) nofun
    have is := all v member leaf
    cases v <;> cases is
    exact ⟨_, rfl⟩
  | @numbers greatest attained all =>
    cases greatest with
    | bool =>
      refine iff_of_true ((exists_map_buildCells leaves).2 fun v member leaf => ?_) nofun
      obtain ⟨kind, number, bound⟩ := all v member leaf
      cases kind with
      | bool =>
        cases v <;> cases number
        exact ⟨_, rfl⟩
      | int | uint | float => cases bound
    | int =>
      refine iff_of_true ((exists_map_buildCells leaves).2 fun v member leaf => ?_) nofun
      exact exists_toInteger_int64 (all v member leaf) fun i is => ints i (is ▸ member)
    | uint =>
      refine (exists_map_buildCells leaves).trans ?_
      have each (v : Value) (member : v ∈ values) (leaf : v.isLeaf) :=
        exists_toInteger_uint64 (all v member leaf) (fun i is => ints i (is ▸ member))
          (fun n is => uints n (is ▸ member))
      constructor
      · intro ok _ i member
        exact (each _ member rfl).1 (ok _ member rfl) i rfl
      · intro nonneg v member leaf
        exact (each v member leaf).2 fun i is => nonneg rfl i (is ▸ member)
    | float =>
      refine iff_of_true ((exists_map_buildCells leaves).2 fun v member leaf => ?_) nofun
      obtain ⟨kind, number, _⟩ := all v member leaf
      cases v <;> cases number <;> exact ⟨_, rfl⟩

end

theorem exists_splitLists {values : List Value} (lists : ∀ v ∈ values, v = .null ∨ v.kind = .list) :
    ∃ slots, splitLists none values = .ok (slots, values.flatMap Value.items) := by
  induction values with
  | nil => exact ⟨[], rfl⟩
  | cons v values ih =>
    obtain ⟨here, later⟩ := List.forall_mem_cons.1 lists
    obtain ⟨slots, split⟩ := ih later
    rcases here with rfl | list
    · exact ⟨_, splitLists_cons_null.2 ⟨slots, _, split, rfl, rfl⟩⟩
    · cases v <;> cases list
      exact ⟨_, splitLists_cons_list.2 ⟨nofun, slots, _, split, rfl, rfl⟩⟩

theorem DataType.sizesPositive_listOf (d : Nat) (flat : FlatType) :
    (listOf^[d] (.flat flat)).SizesPositive := by
  induction d with
  | zero => trivial
  | succ d ih => rwa [Function.iterate_succ_apply']

theorem checks_of_sum_le {lengths : List Nat} (total : (lengths.sum : Int) ≤ int32Max) :
    checkLengths .regular lengths = .ok () ∧ checkBounds .regular lengths = .ok () := by
  constructor
  · refine if_neg fun exceeds => ?_
    obtain ⟨n, member, exceeds⟩ := List.any_eq_true.1 exceeds
    have := List.le_sum_of_mem member
    have := of_decide_eq_true exceeds
    omega
  · rw [← sum_map_ofNat] at total
    obtain ⟨bounds, built⟩ := (exists_listBounds _).2 ⟨fun n => nonneg_of_mem_map_ofNat, total⟩
    rw [checkBounds, built]
    rfl

open Value in
theorem exists_buildArray {d : Nat} {flat : FlatType} {values : List Value}
    (leaves : LeavesAt d values) (sizes : ∀ k, ((atDepth (k + 1) values).length : Int) ≤ int32Max) :
    (∃ a, buildArray values (DataType.listOf^[d] (.flat flat)) = .ok a) ↔
      ∃ a, buildFlat (atDepth d values) flat = .ok a := by
  induction d generalizing values with
  | zero =>
    simp only [Function.iterate_zero, id_eq, buildArray, map_eq_ok, atDepth]
    constructor
    · rintro ⟨_, a, built, _⟩
      exact ⟨a, built⟩
    · rintro ⟨a, built⟩
      exact ⟨_, a, built, rfl⟩
  | succ d ih =>
    obtain ⟨lists, below⟩ := leavesAt_succ.1 leaves
    obtain ⟨slots, split⟩ := exists_splitLists lists
    rw [Function.iterate_succ_apply', DataType.listOf, atDepth, ← ih below fun k => sizes (k + 1)]
    simp only [buildArray_list_eq_ok]
    constructor
    · rintro ⟨_, slots', children, items, split', _, built, _⟩
      rw [split] at split'
      cases split'
      exact ⟨items, built⟩
    · rintro ⟨items, built⟩
      obtain ⟨_, room, _⟩ := (splits_of_splitLists split).lengths
      have total : ((slots.map Slot.length).sum : Int) ≤ int32Max := room ▸ sizes 0
      obtain ⟨lengths, bounds⟩ := checks_of_sum_le total
      refine ⟨_, slots, _, items, split, lengths, built, bounds, TypedArray.tryLists_eq_ok.2
        ⟨?_, ?_, (fun required => by cases required), type_buildArray built, rfl⟩⟩
      · have each := forall₂_buildArray (DataType.sizesPositive_listOf d flat) built
        rw [Nat.zero_add, ← room, ← TypedArray.length_rows, each.length_eq]
      · intro valid mask
        rw [eq_of_maskOf mask, List.length_map, List.length_map]

namespace Value

section

variable {d k : Nat} {values others : List Value} {flat : FlatType}

theorem LeavesAt.leaves (leaves : LeavesAt d values) : ∀ v ∈ atDepth d values, v = .null ∨ v.isLeaf := by
  intro v member
  rcases (leavesAt_iff.1 leaves).2 d v member with null | ⟨leaf, _⟩ | ⟨_, above⟩
  · exact .inl null
  · exact .inr leaf
  · exact absurd above (Nat.lt_irrefl d)

def Alike (values others : List Value) : Prop :=
  ∀ k, (∀ v, v ≠ .null → v.kind ≠ .list → (v ∈ atDepth k values ↔ v ∈ atDepth k others)) ∧
    ((∃ v ∈ atDepth k values, v.kind = .list) ↔ ∃ v ∈ atDepth k others, v.kind = .list)

theorem mem_atDepth_congr (same : ∀ v, v ∈ values ↔ v ∈ others) (v : Value) :
    v ∈ atDepth k values ↔ v ∈ atDepth k others := by
  induction k generalizing values others with
  | zero => exact same v
  | succ k ih =>
    apply ih
    simp only [List.mem_flatMap, same, implies_true]

theorem atDepth_append (values others : List Value) :
    atDepth k (values ++ others) = atDepth k values ++ atDepth k others := by
  induction k generalizing values others with
  | zero => rfl
  | succ k ih => rw [atDepth, List.flatMap_append, ih, atDepth, atDepth]

theorem Rearranged.alike (same : Rearranged values others) : Alike values others := by
  induction same with
  | order perm =>
    intro k
    have members := mem_atDepth_congr (k := k) fun v => perm.mem_iff (a := v)
    exact ⟨fun v _ _ => members v, exists_congr fun v => and_congr_left' (members v)⟩
  | null values =>
    intro k
    cases k with
    | zero =>
      refine ⟨fun v null _ => ?_, ?_⟩
      · rw [atDepth, atDepth, List.mem_cons, or_iff_right null]
      · simp only [atDepth, List.exists_mem_cons_iff, Value.kind, reduceCtorEq, false_or]
    | succ k => exact ⟨fun v _ _ => Iff.rfl, Iff.rfl⟩
  | inside values _ ih =>
    intro k
    cases k with
    | zero =>
      refine ⟨fun v _ list => ?_, iff_of_true ⟨_, List.mem_cons_self, rfl⟩ ⟨_, List.mem_cons_self, rfl⟩⟩
      have other (own : List Value) : v ≠ .list own := fun is => list (is ▸ rfl)
      simp only [atDepth, List.mem_cons, other, false_or]
    | succ k =>
      obtain ⟨members, lists⟩ := ih k
      simp only [atDepth, List.flatMap_cons, items, atDepth_append, List.mem_append]
      refine ⟨fun v null list => or_congr_left (members v null list), ?_⟩
      simp only [or_and_right, exists_or, lists]
  | symm _ ih =>
    intro k
    exact ⟨fun v null list => ((ih k).1 v null list).symm, (ih k).2.symm⟩
  | trans _ _ ih ih' =>
    intro k
    exact ⟨fun v null list => ((ih k).1 v null list).trans ((ih' k).1 v null list),
      (ih k).2.trans (ih' k).2⟩

theorem Alike.mem_iff (alike : Alike values others) {v : Value} (leaf : v.isLeaf) :
    v ∈ atDepth k values ↔ v ∈ atDepth k others := by
  apply (alike k).1
  · rintro rfl
    cases leaf
  · exact (kind_of_isLeaf leaf).2.2

theorem Alike.leavesAt (alike : Alike values others) (leaves : LeavesAt d values) :
    LeavesAt d others := by
  refine ⟨fun k v member => ?_, ?_, fun k v member leaf => ?_, fun k v member list => ?_⟩
  · by_cases null : v = .null
    · subst null
      exact ⟨nofun, nofun⟩
    by_cases list : v.kind = .list
    · rw [list]
      exact ⟨nofun, nofun⟩
    exact leaves.native k v (((alike k).1 v null list).2 member)
  · obtain ⟨v, member, leaf⟩ := leaves.present
    exact ⟨v, (alike.mem_iff leaf).1 member, leaf⟩
  · exact leaves.level k v ((alike.mem_iff leaf).2 member) leaf
  · obtain ⟨w, here, list'⟩ := (alike k).2.2 ⟨v, member, list⟩
    exact leaves.above k w here list'

theorem Alike.promote (alike : Alike values others) (promote : Promote (atDepth d values) flat) :
    Promote (atDepth d others) flat := by
  cases promote with
  | text all => exact .text fun v member leaf => all v ((alike.mem_iff leaf).2 member) leaf
  | bytes all => exact .bytes fun v member leaf => all v ((alike.mem_iff leaf).2 member) leaf
  | numbers attained all =>
    obtain ⟨v, member, number⟩ := attained
    exact .numbers ⟨v, (alike.mem_iff (isLeaf_of_numeric? number)).1 member, number⟩
      fun v member leaf => all v ((alike.mem_iff leaf).2 member) leaf

theorem Rearranged.suits (same : Rearranged values others) (suits : Suits values d flat) :
    Suits others d flat := by
  refine ⟨same.alike.leavesAt suits.leaves, same.alike.promote suits.promote, ?_⟩
  intro unsigned i member
  exact suits.signs unsigned i ((same.alike.mem_iff rfl).2 member)

theorem Rearranged.withinLimits (same : Rearranged values others) (limits : WithinLimits values)
    (sizes : ∀ k, ((atDepth (k + 1) others).length : Int) ≤ int32Max) : WithinLimits others := by
  refine ⟨fun k i member => ?_, fun k n member => ?_, sizes⟩
  · exact limits.ints k i ((same.alike.mem_iff rfl).2 member)
  · exact limits.uints k n ((same.alike.mem_iff rfl).2 member)

end

end Value

section

open Value

variable {values : List Value}

theorem coerce_list_none_eq_ok {a : TypedArray} : (coerce (.list values) none).result = .ok a ↔
    ∃ t, inferType values = .ok t ∧ buildArray values t = .ok a := by
  constructor
  · intro done
    obtain ⟨t, known, built | ⟨rfl, _⟩⟩ := coerce_list done
    · exact ⟨t, known, built⟩
    · cases known
  · rintro ⟨t, known, built⟩
    exact fromItems_eq_ok.2 ⟨values, t, rfl, known, built⟩

theorem exists_coerce_list_none (limits : WithinLimits values) (t : DataType) :
    (∃ a, (coerce (.list values) none).result = .ok a ∧ a.type = t) ↔
      ∃ d flat, Suits values d flat ∧ t = DataType.listOf^[d] (.flat flat) := by
  -- Whatever the depth, only signs are left to check once the type is known.
  have built {d : Nat} {flat : FlatType} (leaves : LeavesAt d values)
      (promote : Promote (atDepth d values) flat) :=
    (exists_buildArray leaves limits.sizes).trans
      (exists_buildFlat promote leaves.leaves (limits.ints d) (limits.uints d))
  constructor
  · rintro ⟨a, done, rfl⟩
    obtain ⟨t, known, array⟩ := coerce_list_none_eq_ok.1 done
    obtain ⟨d, flat, leaves, promote, rfl⟩ := inferType_eq_ok.1 known
    exact ⟨d, flat, ⟨leaves, promote, (built leaves promote).1 ⟨a, array⟩⟩, type_buildArray array⟩
  · rintro ⟨d, flat, suits, rfl⟩
    obtain ⟨a, array⟩ := (built suits.leaves suits.promote).2 suits.signs
    have known := inferType_eq_ok.2 ⟨d, flat, suits.leaves, suits.promote, rfl⟩
    exact ⟨a, coerce_list_none_eq_ok.2 ⟨_, known, array⟩, type_buildArray array⟩

/-- Lists are coerced without a target exactly if all leaves lie at one depth and have a type in
common that holds them; to as many lists of that type, in whatever order and with whatever nulls. -/
theorem coerce_list_none (limits : WithinLimits values) :
    ((∃ a, (coerce (.list values) none).result = .ok a) ↔ ∃ d flat, Suits values d flat) ∧
    (∀ a, (coerce (.list values) none).result = .ok a →
      ∃ d flat, Suits values d flat ∧ a.type = DataType.listOf^[d] (.flat flat)) ∧
    ∀ others, Rearranged values others →
      (∀ k, ((atDepth (k + 1) others).length : Int) ≤ int32Max) → ∀ t,
      (∃ a, (coerce (.list values) none).result = .ok a ∧ a.type = t) ↔
        ∃ a, (coerce (.list others) none).result = .ok a ∧ a.type = t := by
  have typed := exists_coerce_list_none limits
  refine ⟨⟨?_, ?_⟩, ?_, ?_⟩
  · rintro ⟨a, done⟩
    obtain ⟨d, flat, suits, _⟩ := (typed a.type).1 ⟨a, done, rfl⟩
    exact ⟨d, flat, suits⟩
  · rintro ⟨d, flat, suits⟩
    obtain ⟨a, done, _⟩ := (typed _).2 ⟨d, flat, suits, rfl⟩
    exact ⟨a, done⟩
  · exact fun a done => (typed a.type).1 ⟨a, done, rfl⟩
  · intro others same sizes t
    rw [typed, exists_coerce_list_none (same.withinLimits limits sizes)]
    exact exists₂_congr fun d flat => and_congr_left' ⟨same.suits, same.symm.suits⟩

theorem coerce_list_none_numbers :
    ∃ a, (coerce (.list [.list [.bool true, .uint 3], .list [.null, .int 1]]) none).result = .ok a ∧
      a.type = .list .regular (.item (.flat (.integer .uint64))) := by
  let numbers : List Value := [.null, .list [.int 1], .list [.bool true, .uint 3]]
  let others : List Value := [.list [.bool true, .uint 3], .list [.null, .int 1]]
  have limits : WithinLimits numbers := by
    refine ⟨fun k i => ?_, fun k n => ?_, fun k => ?_⟩
    · rcases k with _ | _ | k <;> simp [numbers, atDepth, items, atDepth_nil]
      rintro rfl
      decide
    · rcases k with _ | _ | k <;> simp [numbers, atDepth, items, atDepth_nil]
      rintro rfl
      decide
    · rcases k with _ | k <;> simp [numbers, atDepth, items, atDepth_nil] <;> decide
  have sizes (k : Nat) : ((atDepth (k + 1) others).length : Int) ≤ int32Max := by
    rcases k with _ | k <;> simp [others, atDepth, items, atDepth_nil] <;> decide
  have same : Rearranged numbers others :=
    .trans (.symm (.null _)) (.trans (.inside _ (.null _)) (.order (.swap ..)))
  have unsigned : ∃ a, (coerce (.list numbers) none).result = .ok a ∧
      a.type = .list .regular (.item (.flat (.integer .uint64))) :=
    ⟨.lists .regular (.item (.flat (.integer .uint64))) 0
      (.masked [⟨0, false⟩, ⟨1, true⟩, ⟨2, true⟩])
      (.flat (.integers .uint64 [some 1, some 1, some 3])), by with_unfolding_all rfl, rfl⟩
  exact ((coerce_list_none limits).2.2 others same sizes _).1 unsigned

end

end EntityLog
