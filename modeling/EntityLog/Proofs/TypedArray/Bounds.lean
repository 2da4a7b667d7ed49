import EntityLog.Proofs.TypedArray.Lists

namespace EntityLog

section

variable {total b : Int} {lengths bounds : List Int}

theorem between_of_mem_scanl (nonneg : ∀ n ∈ lengths, 0 ≤ n)
    (member : b ∈ lengths.scanl (· + ·) total) : total ≤ b ∧ b ≤ total + lengths.sum := by
  induction lengths generalizing total with
  | nil =>
    rw [List.scanl_nil, List.mem_singleton] at member
    simp [member]
  | cons n lengths ih =>
    obtain ⟨first, later⟩ := List.forall_mem_cons.1 nonneg
    have rest := List.sum_nonneg later
    rw [List.scanl_cons] at member
    rw [List.sum_cons]
    rcases List.mem_cons.1 member with rfl | inside
    · omega
    · have := ih later inside
      omega

theorem pairwise_scanl (nonneg : ∀ n ∈ lengths, 0 ≤ n) :
    (lengths.scanl (· + ·) total).Pairwise (· ≤ ·) := by
  induction lengths generalizing total with
  | nil =>
    rw [List.scanl_nil]
    exact List.pairwise_singleton _ _
  | cons n lengths ih =>
    obtain ⟨first, later⟩ := List.forall_mem_cons.1 nonneg
    rw [List.scanl_cons, List.pairwise_cons]
    refine ⟨fun b member => ?_, ih later⟩
    have := (between_of_mem_scanl later member).1
    omega

theorem map_toInt_scanl {words : List Int32} {word : Int32} (nonneg : ∀ n ∈ words, 0 ≤ n.toInt)
    (fits : word.toInt + (words.map Int32.toInt).sum ≤ int32Max) :
    (words.scanl (· + ·) word).map Int32.toInt =
      (words.map Int32.toInt).scanl (· + ·) word.toInt := by
  induction words generalizing word with
  | nil => simp
  | cons n words ih =>
    obtain ⟨first, later⟩ := List.forall_mem_cons.1 nonneg
    rw [List.map_cons, List.sum_cons] at fits
    have rest : 0 ≤ (words.map Int32.toInt).sum := List.sum_nonneg (List.forall_mem_map.2 later)
    have exact : (word + n).toInt = word.toInt + n.toInt := by
      have low := word.le_toInt
      have limit : int32Max = 2147483647 := rfl
      rw [Int32.toInt_add]
      apply Int.bmod_eq_of_le <;> omega
    rw [List.scanl_cons, List.map_cons, List.map_cons, List.scanl_cons, ih later, exact]
    rw [exact]
    omega

theorem scanl_of_boundsFrom (done : boundsFrom total lengths = .ok bounds) :
    lengths.scanl (· + ·) total = bounds := by
  induction lengths generalizing total bounds with
  | nil =>
    cases done
    exact List.scanl_nil
  | cons n lengths ih =>
    rw [boundsFrom] at done
    split at done
    · cases done
    split at done
    · cases done
    obtain ⟨rest, later, rfl⟩ := map_eq_ok.1 done
    rw [List.scanl_cons, ih later]

/-- The first length that is negative, or too much for the ones before it, and what is said of it. -/
inductive RefusesBounds : List Int → ArrayError → Prop
  | negative {before after : List Int} {n : Int} : (∀ m ∈ before, 0 ≤ m) →
    before.sum ≤ int32Max → n < 0 → RefusesBounds (before ++ n :: after) (.negativeLength n)
  | overflow {before after : List Int} {n : Int} : (∀ m ∈ before, 0 ≤ m) →
    before.sum ≤ int32Max → 0 ≤ n → int32Max < before.sum + n →
      RefusesBounds (before ++ n :: after) .offsetOverflow

theorem refusesBounds_append {before : List Int} {cause : ArrayError}
    (nonneg : ∀ m ∈ before, 0 ≤ m) (room : before.sum ≤ int32Max)
    (refused : boundsFrom before.sum lengths = .error cause) :
    RefusesBounds (before ++ lengths) cause := by
  induction lengths generalizing before with
  | nil => cases refused
  | cons n lengths ih =>
    rw [boundsFrom] at refused
    split at refused
    case isTrue negative =>
      cases refused
      exact .negative nonneg room negative
    case isFalse positive =>
      split at refused
      case isTrue exceeds =>
        cases refused
        exact .overflow nonneg room (Int.not_lt.1 positive) exceeds
      case isFalse fits =>
        have sum : (before ++ [n]).sum = before.sum + n := by
          rw [List.sum_append, List.sum_singleton]
        have later : boundsFrom (before ++ [n]).sum lengths = .error cause := by
          rw [sum]
          cases rest : boundsFrom (before.sum + n) lengths with
          | ok bounds =>
            rw [rest] at refused
            cases refused
          | error other =>
            rw [rest] at refused
            cases refused
            rfl
        have positive := List.forall_mem_singleton.2 (Int.not_lt.1 positive)
        have all := ih (List.forall_mem_append.2 ⟨nonneg, positive⟩) (sum ▸ Int.not_lt.1 fits) later
        rwa [List.append_assoc] at all

/-- The bounds of lists of given lengths, from zero on, one more than there are lists. -/
structure AreBounds (lengths bounds : List Int) : Prop where
  count : bounds.length = lengths.length + 1
  first : bounds.head? = some 0
  sorted : bounds.Pairwise (· ≤ ·)
  narrow : ∀ b ∈ bounds, b ≤ int32Max
  gap : ∀ i n, lengths[i]? = some n →
    ∃ start, bounds[i]? = some start ∧ bounds[i + 1]? = some (start + n)
  exact : ∀ words : List Int32, words.map Int32.toInt = lengths →
    (words.scanl (· + ·) 0).map Int32.toInt = bounds

theorem getElem?_scanl_zero_add {i : Nat} (inside : i ≤ lengths.length) :
    (lengths.scanl (· + ·) 0)[i]? = some (lengths.take i).sum := by
  rw [List.getElem?_scanl, if_pos inside, List.sum_eq_foldl]

theorem areBounds_of_listBounds (done : listBounds lengths = .ok bounds) :
    AreBounds lengths bounds := by
  obtain ⟨nonneg, fits⟩ := (exists_listBounds lengths).1 ⟨bounds, done⟩
  obtain rfl := scanl_of_boundsFrom done
  refine ⟨List.length_scanl, List.head?_scanl, pairwise_scanl nonneg, fun b member => ?_,
    fun i n given => ?_, ?_⟩
  · have := (between_of_mem_scanl nonneg member).2
    omega
  · have inside : i ≤ lengths.length := Nat.le_of_lt (List.getElem?_eq_some_iff.1 given).1
    have start := getElem?_scanl_zero_add inside
    refine ⟨_, start, ?_⟩
    rw [List.getElem?_succ_scanl, start, given]
    rfl
  · rintro words rfl
    exact map_toInt_scanl (List.forall_mem_map.1 nonneg) (by simpa using fits)

theorem sum_take_of_bounds {i : Nat} {start : Int} (made : listBounds lengths = .ok bounds)
    (bound : bounds[i]? = some start) : (lengths.take i).sum = start := by
  obtain rfl := scanl_of_boundsFrom made
  have inside : i < lengths.length + 1 := by
    rw [← List.length_scanl]
    exact (List.getElem?_eq_some_iff.1 bound).1
  rw [getElem?_scanl_zero_add (Nat.le_of_lt_succ inside)] at bound
  exact Option.some.inj bound

theorem add_le_sum_of_bounds {i : Nat} {start n : Int} (made : listBounds lengths = .ok bounds)
    (bound : bounds[i]? = some start) (length : lengths[i]? = some n) :
    start + n ≤ lengths.sum := by
  obtain ⟨nonneg, _⟩ := (exists_listBounds lengths).1 ⟨bounds, made⟩
  obtain ⟨own, here, next⟩ := (areBounds_of_listBounds made).gap i n length
  obtain rfl : own = start := Option.some.inj (here.symm.trans bound)
  obtain rfl := scanl_of_boundsFrom made
  have last := (between_of_mem_scanl nonneg (List.mem_of_getElem? next)).2
  rwa [Int.zero_add] at last

end

namespace TypedArray

/-- The items that a list takes, of a null one too. -/
def listAt? (i : Nat) : TypedArray → Option TypedArray
  | lists _ _ skipped slots items =>
    slots.lengths[i]?.map fun n => items.slice (skipped + (slots.lengths.take i).sum) n
  | _ => none

variable {items a : TypedArray} {lengths : List Int} {mask : Option (List Bool)}

theorem exists_wrapInLists : (∃ a, items.wrapInLists lengths mask = .ok a) ↔
    ((∀ n ∈ lengths, 0 ≤ n) ∧ lengths.sum ≤ int32Max) ∧ lengths.sum ≤ items.length ∧
      ∀ valid, mask = some valid → valid.length = lengths.length := by
  simp only [wrapInLists_eq_ok, exists_and_left, exists_eq', and_true]
  refine and_congr_right fun ⟨nonneg, _⟩ => and_congr_left' ?_
  rw [← sum_map_toNat nonneg, Int.ofNat_le]

theorem masked_map_toNat (masked : ∀ valid, mask = some valid → valid.length = lengths.length) :
    ∀ valid, mask = some valid → valid.length = (lengths.map Int.toNat).length := by
  rwa [List.length_map]

theorem listAt?_wrapInLists {bounds : List Int} {i : Nat} {start n : Int}
    (wrapped : items.wrapInLists lengths mask = .ok a) (made : listBounds lengths = .ok bounds)
    (bound : bounds[i]? = some start) (length : lengths[i]? = some n) :
    start + n ≤ items.length ∧
      a.listAt? i = some (items.slice start.toNat n.toNat) ∧
      a.rows[i]? = some (if mask.any (·[i]? = some false) then .null
        else .list (items.slice start.toNat n.toNat).rows) := by
  have reaches := add_le_sum_of_bounds made bound length
  have enough := (exists_wrapInLists.1 ⟨a, wrapped⟩).2.1
  obtain ⟨⟨nonneg, _⟩, _, masked, rfl⟩ := wrapInLists_eq_ok.1 wrapped
  have masked := masked_map_toNat masked
  have before : ((lengths.map Int.toNat).take i).sum = start.toNat := by
    have exact : (((lengths.take i).map Int.toNat).sum : Int) = (lengths.take i).sum :=
      sum_map_toNat fun m member => nonneg m (List.mem_of_mem_take member)
    rw [← List.map_take, ← sum_take_of_bounds made bound, ← exact, Int.toNat_natCast]
  have taken : (lengths.map Int.toNat)[i]? = some n.toNat := by
    rw [List.getElem?_map, length]
    rfl
  refine ⟨reaches.trans enough, ?_, ?_⟩
  · rw [listAt?, Slots.lengths_ofMask masked, taken, Option.map_some, Nat.zero_add, before]
  · rw [rows, getElem?_cutItems, Slots.getElem?_ofMask masked, taken, List.map_take,
      Slots.lengths_toList, Slots.lengths_ofMask masked, before, rows_slice]
    cases mask.any (·[i]? = some false) <;> rfl

theorem listLengths_wrapInLists (wrapped : items.wrapInLists lengths mask = .ok a) :
    ∃ found, a.listLengths = some found ∧ found.map Int.ofNat = lengths := by
  obtain ⟨⟨nonneg, _⟩, _, masked, rfl⟩ := wrapInLists_eq_ok.1 wrapped
  refine ⟨_, congrArg some (Slots.lengths_ofMask (masked_map_toNat masked)), ?_⟩
  have same : ∀ n ∈ lengths, (Int.ofNat ∘ Int.toNat) n = id n :=
    fun n member => Int.toNat_of_nonneg (nonneg n member)
  rw [List.map_map, List.map_congr_left same, List.map_id]

/-- Bounds exist exactly if no length is negative and all lengths together are within 32 bits; the
first length that is not so is told. An array is cut at them exactly if it has so many items, and a
mask says so for each list: it stays the items of the lists, of which each takes those between its
bounds. -/
theorem lists_of_lengths :
    (∀ lengths : List Int,
      ((∃ bounds, listBounds lengths = .ok bounds) ↔
        (∀ n ∈ lengths, 0 ≤ n) ∧ lengths.sum ≤ int32Max) ∧
      (∀ bounds, listBounds lengths = .ok bounds → AreBounds lengths bounds) ∧
      ∀ cause, listBounds lengths = .error cause → RefusesBounds lengths cause) ∧
    ∀ (items : TypedArray) (lengths : List Int) (mask : Option (List Bool)),
      ((∃ a, items.wrapInLists lengths mask = .ok a) ↔
        ((∀ n ∈ lengths, 0 ≤ n) ∧ lengths.sum ≤ int32Max) ∧ lengths.sum ≤ items.length ∧
          ∀ valid, mask = some valid → valid.length = lengths.length) ∧
      ∀ a, items.wrapInLists lengths mask = .ok a →
        (∃ found, a.listLengths = some found ∧ found.map Int.ofNat = lengths) ∧
        (∃ slots, a = .lists .regular (.item items.type) 0 slots items) ∧
        ∀ bounds, listBounds lengths = .ok bounds → ∀ (i : Nat) (start n : Int),
          bounds[i]? = some start → lengths[i]? = some n →
            start + n ≤ items.length ∧
            a.listAt? i = some (items.slice start.toNat n.toNat) ∧
            a.rows[i]? = some (if mask.any (·[i]? = some false) then .null
              else .list (items.slice start.toNat n.toNat).rows) := by
  have room : ([] : List Int).sum ≤ int32Max := by decide
  refine ⟨fun lengths => ⟨exists_listBounds lengths, fun bounds => areBounds_of_listBounds,
    fun cause => refusesBounds_append (List.forall_mem_nil _) room⟩,
    fun items lengths mask => ⟨exists_wrapInLists, fun a wrapped =>
      ⟨listLengths_wrapInLists wrapped, ?_, ?_⟩⟩⟩
  · obtain ⟨_, _, _, rfl⟩ := wrapInLists_eq_ok.1 wrapped
    exact ⟨_, rfl⟩
  · exact fun bounds made i start n => listAt?_wrapInLists wrapped made

theorem lists_of_lengths_masked :
    let items : TypedArray :=
      .flat (.integers .int64 [some 1, some 2, some 3, some 4, some 5, some 6])
    listBounds [2, 0, 3] = .ok [0, 2, 2, 5] ∧ AreBounds [2, 0, 3] [0, 2, 2, 5] ∧
      RefusesBounds [2, -1] (.negativeLength (-1)) ∧ RefusesBounds [int32Max, 1] .offsetOverflow ∧
      ∃ a, items.wrapInLists [2, 0, 3] (some [true, false, true]) = .ok a ∧
        (∃ found, a.listLengths = some found ∧ found.map Int.ofNat = [2, 0, 3]) ∧
        a.rows[1]? = some .null ∧
        a.rows[2]? = some (.list [.integer 3, .integer 4, .integer 5]) := by
  intro items
  have made : listBounds [2, 0, 3] = .ok [0, 2, 2, 5] := by rfl
  obtain ⟨bounds, lists⟩ := lists_of_lengths
  obtain ⟨exists_iff, read⟩ := lists items [2, 0, 3] (some [true, false, true])
  obtain ⟨a, wrapped⟩ := exists_iff.2 ⟨by decide, by decide, by rintro valid ⟨⟩; rfl⟩
  obtain ⟨found, _, rows⟩ := read a wrapped
  exact ⟨made, (bounds _).2.1 _ made, (bounds _).2.2 _ (by rfl), (bounds _).2.2 _ (by rfl), a, wrapped,
    found, (rows _ made 1 2 0 rfl rfl).2.2, (rows _ made 2 2 3 rfl rfl).2.2⟩

end TypedArray

end EntityLog
