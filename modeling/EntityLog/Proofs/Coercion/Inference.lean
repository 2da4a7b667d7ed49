import EntityLog.Proofs.Coercion.Places

/-!
Which lists have a type of their own, and which one. It is told by the values at each depth: the
leaves lie at one depth, with lists above them only, and promote to one type. Neither their order
nor nulls among them count.
-/

namespace EntityLog

namespace Value

def numeric? : Value → Option Numeric
  | bool _ => some .bool
  | int _ => some .int
  | uint _ => some .uint
  | float _ => some .float
  | _ => none

def isLeaf : Value → Bool
  | bool _ | int _ | uint _ | float _ | text _ | bytes _ => true
  | null | list _ | tensor _ | array _ => false

/-- The values that lie in as many lists within each other. -/
def atDepth : Nat → List Value → List Value
  | 0, values => values
  | d + 1, values => atDepth d (values.flatMap items)

/-- All leaves lie at one depth and all lists above it, and no value is a tensor or an array. -/
structure LeavesAt (d : Nat) (values : List Value) : Prop where
  native : ∀ k, ∀ v ∈ atDepth k values, v.kind ≠ .tensor ∧ v.kind ≠ .array
  present : ∃ v ∈ atDepth d values, v.isLeaf
  level : ∀ k, ∀ v ∈ atDepth k values, v.isLeaf → k = d
  above : ∀ k, ∀ v ∈ atDepth k values, v.kind = .list → k < d

end Value

def Numeric.type : Numeric → FlatType
  | bool => .boolean
  | int => .integer .int64
  | uint => .integer .uint64
  | float => .float .double

/-- The leaves among values are all text, all bytes, or all numbers up to a greatest kind. -/
inductive Promote (values : List Value) : FlatType → Prop
  | text : (∀ v ∈ values, v.isLeaf → v.kind = .text) → Promote values (.text .regular)
  | bytes : (∀ v ∈ values, v.isLeaf → v.kind = .bytes) → Promote values (.binary .regular)
  | numbers {greatest : Numeric} : (∃ v ∈ values, v.numeric? = some greatest) →
    (∀ v ∈ values, v.isLeaf → ∃ kind, v.numeric? = some kind ∧ kind.rank ≤ greatest.rank) →
      Promote values greatest.type

theorem Numeric.rank_injective {kind kind' : Numeric} (same : kind.rank = kind'.rank) :
    kind = kind' := by
  cases kind <;> cases kind' <;> first | rfl | cases same

theorem Numeric.promote_cases (kind kind' : Numeric) :
    kind.promote kind' = kind ∧ kind'.rank ≤ kind.rank ∨
      kind.promote kind' = kind' ∧ kind.rank ≤ kind'.rank := by
  by_cases less : kind.rank ≤ kind'.rank
  · exact .inr ⟨if_pos less, less⟩
  · exact .inl ⟨if_neg less, Nat.le_of_not_le less⟩

def Value.Among (best each : Value → Prop) (values : List Value) : Prop :=
  (∃ v ∈ values, best v) ∧ ∀ v ∈ values, v = .null ∨ each v

namespace Value

section

variable {nulls values others : List Value} {best each : Value → Prop}

theorem flatMap_items_of_nulls (all : ∀ v ∈ nulls, v = .null) : nulls.flatMap items = [] := by
  rw [List.flatMap_eq_nil_iff]
  intro v member
  rw [all v member]
  rfl

theorem among_append (first : Among best each values) (second : ∀ v ∈ others, v = .null ∨ each v) :
    Among best each (values ++ others) := by
  obtain ⟨⟨v, member, is⟩, rest⟩ := first
  exact ⟨⟨v, List.mem_append_left _ member, is⟩, List.forall_mem_append.2 ⟨rest, second⟩⟩

theorem among_append_nulls (all : ∀ v ∈ nulls, v = .null) (null : ¬best .null) :
    Among best each (values ++ nulls) ↔ Among best each values := by
  constructor
  · rintro ⟨⟨v, member, is⟩, rest⟩
    rcases List.mem_append.1 member with own | other
    · exact ⟨⟨v, own, is⟩, (List.forall_mem_append.1 rest).1⟩
    · exact absurd (all v other ▸ is) null
  · exact fun first => among_append first fun v member => .inl (all v member)

theorem among_congr (same : ∀ v, v ∈ values ↔ v ∈ others) :
    Among best each values ↔ Among best each others := by
  simp only [Among, same]

theorem nulls_or_among {sort : Value → Prop} {values : List Value}
    (all : ∀ v ∈ values, v = .null ∨ sort v) :
    (∀ v ∈ values, v = .null) ∨ Among sort sort values := by
  by_cases some : ∃ v ∈ values, sort v
  · exact .inr ⟨some, all⟩
  · exact .inl fun v member => (all v member).resolve_right fun is => some ⟨v, member, is⟩

theorem among_singleton {best each : Value → Prop} {v : Value} (is : best v) (also : each v) :
    Among best each [v] :=
  ⟨⟨v, List.mem_singleton_self v, is⟩, List.forall_mem_singleton.2 (.inr also)⟩

end

section

variable {d k : Nat} {v : Value} {values : List Value}

theorem kind_of_isLeaf (leaf : v.isLeaf) : v.kind ≠ .tensor ∧ v.kind ≠ .array ∧ v.kind ≠ .list := by
  cases v with
  | bool _ | int _ | uint _ | float _ | text _ | bytes _ => exact ⟨nofun, nofun, nofun⟩
  | null | list _ | tensor _ | array _ => cases leaf

theorem isLeaf_of_numeric? {kind : Numeric} (number : v.numeric? = some kind) : v.isLeaf := by
  cases v <;> first | rfl | cases number

theorem isLeaf_of_kind (kind : v.kind = .text ∨ v.kind = .bytes) : v.isLeaf := by
  cases v <;> simp_all [isLeaf, Value.kind]

theorem Among.imp {best each best' each' : Value → Prop} (among : Among best each values)
    (some : ∀ v ∈ values, best v → best' v) (all : ∀ v ∈ values, each v → each' v) :
    Among best' each' values := by
  obtain ⟨⟨v, member, is⟩, rest⟩ := among
  exact ⟨⟨v, member, some v member is⟩, fun w member => (rest w member).imp_right (all w member)⟩

theorem cases_of_native (native : v.kind ≠ .tensor ∧ v.kind ≠ .array) :
    v = .null ∨ v.isLeaf ∨ v.kind = .list := by
  cases v with
  | null => exact .inl rfl
  | bool _ | int _ | uint _ | float _ | text _ | bytes _ => exact .inr (.inl rfl)
  | list _ => exact .inr (.inr rfl)
  | tensor _ => exact absurd rfl native.1
  | array _ => exact absurd rfl native.2

theorem forall_atDepth {P : Nat → Value → Prop} :
    (∀ k, ∀ v ∈ atDepth k values, P k v) ↔
      (∀ v ∈ values, P 0 v) ∧ ∀ k, ∀ v ∈ atDepth k (values.flatMap items), P (k + 1) v := by
  constructor
  · exact fun each => ⟨each 0, fun k => each (k + 1)⟩
  · rintro ⟨here, below⟩ k
    cases k with
    | zero => exact here
    | succ k => exact below k

def Placed (d k : Nat) (v : Value) : Prop := v = .null ∨ v.isLeaf ∧ k = d ∨ v.kind = .list ∧ k < d

theorem leavesAt_iff : LeavesAt d values ↔
    (∃ v ∈ atDepth d values, v.isLeaf) ∧ ∀ k, ∀ v ∈ atDepth k values, Placed d k v := by
  constructor
  · intro leaves
    refine ⟨leaves.present, fun k v member => ?_⟩
    refine (cases_of_native (leaves.native k v member)).imp_right (Or.imp ?_ ?_)
    · exact fun leaf => ⟨leaf, leaves.level k v member leaf⟩
    · exact fun list => ⟨list, leaves.above k v member list⟩
  · rintro ⟨present, placed⟩
    refine ⟨fun k v member => ?_, present, fun k v member leaf => ?_, fun k v member list => ?_⟩
    · rcases placed k v member with rfl | ⟨leaf, _⟩ | ⟨list, _⟩
      · exact ⟨nofun, nofun⟩
      · exact ⟨(kind_of_isLeaf leaf).1, (kind_of_isLeaf leaf).2.1⟩
      · rw [list]
        exact ⟨nofun, nofun⟩
    · rcases placed k v member with rfl | ⟨_, level⟩ | ⟨list, _⟩
      · cases leaf
      · exact level
      · exact absurd list (kind_of_isLeaf leaf).2.2
    · rcases placed k v member with rfl | ⟨leaf, _⟩ | ⟨_, above⟩
      · cases list
      · exact absurd list (kind_of_isLeaf leaf).2.2
      · exact above

theorem atDepth_nil (k : Nat) : atDepth k [] = [] := by
  induction k with
  | zero => rfl
  | succ k ih => exact ih

theorem flatMap_items_of_leaves (all : ∀ v ∈ values, v = .null ∨ v.isLeaf) :
    values.flatMap items = [] := by
  rw [List.flatMap_eq_nil_iff]
  intro v member
  rcases all v member with rfl | leaf
  · rfl
  · cases v <;> first | rfl | cases leaf

theorem leavesAt_zero : LeavesAt 0 values ↔ Among (·.isLeaf) (·.isLeaf) values := by
  rw [leavesAt_iff, forall_atDepth]
  refine and_congr_right' ⟨fun ⟨here, _⟩ v member => ?_, fun all => ⟨fun v member => ?_, fun k => ?_⟩⟩
  · simpa [Placed] using here v member
  · simpa [Placed] using all v member
  · rw [flatMap_items_of_leaves all, atDepth_nil]
    exact nofun

theorem leavesAt_succ : LeavesAt (d + 1) values ↔
    (∀ v ∈ values, v = .null ∨ v.kind = .list) ∧ LeavesAt d (values.flatMap items) := by
  rw [leavesAt_iff, leavesAt_iff, forall_atDepth]
  simp only [Placed, Nat.add_right_cancel_iff, Nat.add_lt_add_iff_right, Nat.succ_pos, and_true,
    atDepth, (Nat.succ_ne_zero d).symm, and_false, false_or]
  exact and_left_comm

end

end Value

namespace Inferred

open Value Numeric

def UpTo (greatest : Numeric) (v : Value) : Prop :=
  ∃ kind, v.numeric? = some kind ∧ kind.rank ≤ greatest.rank

theorem UpTo.mono {greatest greater : Numeric} {v : Value} (upTo : UpTo greatest v)
    (less : greatest.rank ≤ greater.rank) : UpTo greater v := by
  obtain ⟨kind, number, bound⟩ := upTo
  exact ⟨kind, number, Nat.le_trans bound less⟩

def Admits : Inferred → Value → Prop
  | unknown, _ => False
  | numeric greatest, v => UpTo greatest v
  | text, v => v.kind = .text
  | bytes, v => v.kind = .bytes
  | list _, v => v.kind = .list

/-- What is inferred of values, told by the values alone. -/
def Fits : Inferred → List Value → Prop
  | unknown, values => ∀ v ∈ values, v = .null
  | numeric greatest, values => Among (·.numeric? = some greatest) (UpTo greatest) values
  | text, values => Among (·.kind = .text) (·.kind = .text) values
  | bytes, values => Among (·.kind = .bytes) (·.kind = .bytes) values
  | list inner, values =>
    Among (·.kind = .list) (·.kind = .list) values ∧ inner.Fits (values.flatMap items)

section

variable {nulls values others : List Value} {best each : Value → Prop}

theorem fits_congr {found : Inferred} (same : ∀ v, v ∈ values ↔ v ∈ others) :
    Fits found values ↔ Fits found others := by
  induction found generalizing values others with
  | unknown => simp only [Fits, same]
  | numeric _ | text | bytes => exact among_congr same
  | list inner ih =>
    have below : ∀ v, v ∈ values.flatMap items ↔ v ∈ others.flatMap items := by
      simp only [List.mem_flatMap, same, implies_true]
    exact and_congr (among_congr same) (ih below)

theorem fits_append_comm {found : Inferred} : Fits found (values ++ others) ↔ Fits found (others ++ values) :=
  fits_congr fun v => by simp only [List.mem_append, or_comm]

theorem fits_append_nulls {found : Inferred} (all : ∀ v ∈ nulls, v = .null) :
    Fits found (values ++ nulls) ↔ Fits found values := by
  cases found with
  | unknown => exact List.forall_mem_append.trans (and_iff_left all)
  | numeric _ | text | bytes => exact among_append_nulls all nofun
  | list inner =>
    rw [Fits, Fits, List.flatMap_append, flatMap_items_of_nulls all, List.append_nil,
      among_append_nulls all nofun]

end

theorem fits_merge {first second found : Inferred} {values others : List Value}
    (fits : Fits first values) (more : Fits second others) (merged : first.merge second = .ok found) :
    Fits found (values ++ others) := by
  induction first generalizing second found values others with
  | unknown =>
    cases merged
    rwa [fits_append_comm, fits_append_nulls fits]
  | numeric kind =>
    cases second with
    | unknown =>
      cases merged
      rwa [fits_append_nulls more]
    | numeric kind' =>
      cases merged
      obtain own | other := promote_cases kind kind'
      · rw [own.1]
        refine among_append fits fun v member => (more.2 v member).imp_right ?_
        exact fun upTo => upTo.mono own.2
      · rw [other.1, fits_append_comm]
        refine among_append more fun v member => (fits.2 v member).imp_right ?_
        exact fun upTo => upTo.mono other.2
    | text | bytes | list _ => cases merged
  | text =>
    cases second with
    | unknown =>
      cases merged
      rwa [fits_append_nulls more]
    | text =>
      cases merged
      exact among_append fits more.2
    | numeric _ | bytes | list _ => cases merged
  | bytes =>
    cases second with
    | unknown =>
      cases merged
      rwa [fits_append_nulls more]
    | bytes =>
      cases merged
      exact among_append fits more.2
    | numeric _ | text | list _ => cases merged
  | list inner ih =>
    cases second with
    | unknown =>
      cases merged
      rwa [fits_append_nulls more]
    | list inner' =>
      obtain ⟨all, below, rfl⟩ := map_eq_ok.1 merged
      refine ⟨among_append fits.1 more.1.2, ?_⟩
      rw [List.flatMap_append]
      exact ih fits.2 more.2 below
    | numeric _ | text | bytes => cases merged

theorem merge_unknown (found : Inferred) : found.merge unknown = .ok found := by
  cases found <;> rfl

theorem nulls_or_greatest {bound : Numeric} {values : List Value}
    (all : ∀ v ∈ values, v = .null ∨ UpTo bound v) :
    (∀ v ∈ values, v = .null) ∨ ∃ greatest, Fits (numeric greatest) values := by
  induction values with
  | nil => exact .inl fun v none => absurd none List.not_mem_nil
  | cons v values ih =>
    obtain ⟨here, later⟩ := List.forall_mem_cons.1 all
    have rest := ih later
    rcases here with rfl | ⟨kind, number, _⟩
    · refine rest.imp (fun nulls => List.forall_mem_cons.2 ⟨rfl, nulls⟩) ?_
      rintro ⟨greatest, ⟨w, member, is⟩, each⟩
      exact ⟨greatest, ⟨w, List.mem_cons_of_mem _ member, is⟩, List.forall_mem_cons.2 ⟨.inl rfl, each⟩⟩
    · have one : Fits (numeric kind) [v] :=
        ⟨⟨v, List.mem_singleton_self v, number⟩,
          List.forall_mem_singleton.2 (.inr ⟨kind, number, Nat.le_refl _⟩)⟩
      rcases rest with nulls | ⟨greatest, fits⟩
      · exact .inr ⟨kind, (fits_append_nulls nulls).2 one⟩
      · exact .inr ⟨kind.promote greatest, fits_merge one fits rfl⟩

theorem fits_numeric_unique {greatest greatest' : Numeric} {values : List Value}
    (fits : Fits (numeric greatest) values) (fits' : Fits (numeric greatest') values) :
    greatest = greatest' := by
  have bound {k k' : Numeric} (fits : Fits (numeric k) values) (fits' : Fits (numeric k') values) :
      k.rank ≤ k'.rank := by
    obtain ⟨⟨v, member, is⟩, _⟩ := fits
    rcases fits'.2 v member with rfl | ⟨kind, number, bound⟩
    · cases is
    · rw [is] at number
      cases number
      exact bound
  exact rank_injective (Nat.le_antisymm (bound fits fits') (bound fits' fits))

theorem admits_of_fits {found : Inferred} {values : List Value} (fits : Fits found values) :
    ∀ v ∈ values, v = .null ∨ found.Admits v := by
  cases found with
  | unknown => exact fun v member => .inl (fits v member)
  | numeric _ | text | bytes => exact fits.2
  | list inner => exact fits.1.2

theorem not_admits_null (found : Inferred) : ¬found.Admits .null := by
  cases found with
  | numeric _ =>
    rintro ⟨_, none, _⟩
    cases none
  | unknown | text | bytes | list _ => exact nofun

theorem exists_admits {first second : Inferred} {values : List Value} (fits : Fits first values)
    (other : Fits second values) (known : first ≠ unknown) :
    ∃ v, first.Admits v ∧ second.Admits v := by
  obtain ⟨v, member, own⟩ : ∃ v ∈ values, first.Admits v := by
    cases first with
    | unknown => exact absurd rfl known
    | numeric greatest =>
      obtain ⟨⟨v, member, is⟩, _⟩ := fits
      exact ⟨v, member, greatest, is, Nat.le_refl _⟩
    | text | bytes => exact fits.1
    | list inner => exact fits.1.1
  refine ⟨v, own, (admits_of_fits other v member).resolve_left ?_⟩
  rintro rfl
  exact not_admits_null first own

theorem fits_unique {first second : Inferred} {values : List Value} (fits : Fits first values)
    (other : Fits second values) : first = second := by
  induction first generalizing second values with
  | unknown =>
    cases second with
    | unknown => rfl
    | numeric _ | text | bytes | list _ =>
      obtain ⟨_, _, none⟩ := exists_admits other fits nofun
      cases none
  | numeric kind =>
    cases second with
    | numeric kind' => rw [fits_numeric_unique fits other]
    | unknown | text | bytes | list _ =>
      obtain ⟨v, ⟨_, number, _⟩, is⟩ := exists_admits fits other nofun
      cases v <;> cases number <;> cases is
  | text =>
    cases second with
    | text => rfl
    | unknown | numeric _ | bytes | list _ =>
      obtain ⟨v, is, is'⟩ := exists_admits fits other nofun
      cases v <;> cases is
      simp [Admits, UpTo, kind, numeric?] at is'
  | bytes =>
    cases second with
    | bytes => rfl
    | unknown | numeric _ | text | list _ =>
      obtain ⟨v, is, is'⟩ := exists_admits fits other nofun
      cases v <;> cases is
      simp [Admits, UpTo, kind, numeric?] at is'
  | list inner ih =>
    cases second with
    | list inner' => rw [ih fits.2 other.2]
    | unknown | numeric _ | text | bytes =>
      obtain ⟨v, is, is'⟩ := exists_admits fits other nofun
      cases v <;> cases is
      simp [Admits, UpTo, kind, numeric?] at is'

section

variable {found : Inferred} {values others : List Value}

theorem exists_merge_of_nulls (fits : Fits found (values ++ others))
    (rest : (¬∀ v ∈ values, v = .null) → (¬∀ v ∈ others, v = .null) →
      ∃ first second, Fits first values ∧ Fits second others ∧ first.merge second = .ok found) :
    ∃ first second, Fits first values ∧ Fits second others ∧ first.merge second = .ok found := by
  by_cases nulls : ∀ v ∈ values, v = .null
  · rw [fits_append_comm, fits_append_nulls nulls] at fits
    exact ⟨unknown, found, nulls, fits, rfl⟩
  by_cases nulls' : ∀ v ∈ others, v = .null
  · rw [fits_append_nulls nulls'] at fits
    exact ⟨found, unknown, fits, nulls', merge_unknown found⟩
  exact rest nulls nulls'

theorem exists_merge (fits : Fits found (values ++ others)) :
    ∃ first second, Fits first values ∧ Fits second others ∧ first.merge second = .ok found := by
  induction found generalizing values others with
  | unknown =>
    obtain ⟨nulls, nulls'⟩ := List.forall_mem_append.1 fits
    exact ⟨unknown, unknown, nulls, nulls', rfl⟩
  | numeric greatest =>
    refine exists_merge_of_nulls fits fun nulls nulls' => ?_
    obtain ⟨each, each'⟩ := List.forall_mem_append.1 fits.2
    obtain ⟨first, own⟩ := (nulls_or_greatest each).resolve_left nulls
    obtain ⟨second, own'⟩ := (nulls_or_greatest each').resolve_left nulls'
    refine ⟨numeric first, numeric second, own, own', ?_⟩
    rw [fits_numeric_unique fits (fits_merge own own' rfl)]
    rfl
  | text =>
    refine exists_merge_of_nulls fits fun nulls nulls' => ?_
    obtain ⟨each, each'⟩ := List.forall_mem_append.1 fits.2
    exact ⟨text, text, (nulls_or_among each).resolve_left nulls,
      (nulls_or_among each').resolve_left nulls', rfl⟩
  | bytes =>
    refine exists_merge_of_nulls fits fun nulls nulls' => ?_
    obtain ⟨each, each'⟩ := List.forall_mem_append.1 fits.2
    exact ⟨bytes, bytes, (nulls_or_among each).resolve_left nulls,
      (nulls_or_among each').resolve_left nulls', rfl⟩
  | list inner ih =>
    refine exists_merge_of_nulls fits fun nulls nulls' => ?_
    obtain ⟨each, each'⟩ := List.forall_mem_append.1 fits.1.2
    have below := fits.2
    rw [List.flatMap_append] at below
    obtain ⟨first, second, own, own', merged⟩ := ih below
    refine ⟨list first, list second, ⟨(nulls_or_among each).resolve_left nulls, own⟩,
      ⟨(nulls_or_among each').resolve_left nulls', own'⟩, ?_⟩
    exact map_eq_ok.2 ⟨inner, merged, rfl⟩

end

theorem eq_iff_fits {first found : Inferred} {values : List Value} (fits : Fits first values) :
    first = found ↔ Fits found values :=
  ⟨fun same => same ▸ fits, fits_unique fits⟩

theorem fits_numeric_singleton {kind : Numeric} {v : Value} (number : v.numeric? = some kind) :
    Fits (numeric kind) [v] :=
  among_singleton number ⟨kind, number, Nat.le_refl _⟩

theorem fits_list_singleton {found : Inferred} {own : List Value} :
    Fits found [.list own] ↔ ∃ inner, Fits inner own ∧ list inner = found := by
  constructor
  · intro fits
    have admits := (admits_of_fits fits _ (List.mem_singleton_self _)).resolve_left nofun
    cases found with
    | list inner =>
      have below := fits.2
      rw [List.flatMap_singleton] at below
      exact ⟨inner, below, rfl⟩
    | numeric _ =>
      obtain ⟨_, none, _⟩ := admits
      cases none
    | unknown | text | bytes => cases admits
  · rintro ⟨inner, below, rfl⟩
    refine ⟨among_singleton rfl rfl, ?_⟩
    rwa [List.flatMap_singleton]

theorem not_fits_singleton {found : Inferred} {v : Value} (kind : v.kind = .tensor ∨ v.kind = .array) :
    ¬Fits found [v] := by
  intro fits
  rcases admits_of_fits fits _ (List.mem_singleton_self _) with rfl | admits
  · rcases kind with tensor | array
    · cases tensor
    · cases array
  · cases found with
    | numeric _ =>
      obtain ⟨_, number, _⟩ := admits
      cases v <;> simp [numeric?, Value.kind] at number kind
    | unknown => exact admits
    | text | bytes | list _ => simp_all [Admits]

mutual

theorem ofValue_eq_ok {v : Value} {found : Inferred} : ofValue v = .ok found ↔ Fits found [v] := by
  match v with
  | .list own =>
    rw [ofValue, map_eq_ok, fits_list_singleton]
    have nothing : Fits unknown [] := nofun
    exact exists_congr fun inner => and_congr_left' (ofValues_eq_ok nothing)
  | .null =>
    rw [ofValue, Except.ok.injEq]
    have nulls : Fits unknown [.null] := List.forall_mem_singleton.2 rfl
    exact eq_iff_fits nulls
  | .bool _ | .int _ | .uint _ | .float _ =>
    rw [ofValue, Except.ok.injEq]
    exact eq_iff_fits (fits_numeric_singleton rfl)
  | .text s =>
    rw [ofValue, Except.ok.injEq]
    have texts : Fits text [.text s] := among_singleton rfl rfl
    exact eq_iff_fits texts
  | .bytes b =>
    rw [ofValue, Except.ok.injEq]
    have all : Fits bytes [.bytes b] := among_singleton rfl rfl
    exact eq_iff_fits all
  | .tensor _ => exact iff_of_false nofun (not_fits_singleton (.inl rfl))
  | .array _ => exact iff_of_false nofun (not_fits_singleton (.inr rfl))

theorem ofValues_eq_ok {known found : Inferred} {seen values : List Value} (fits : Fits known seen) :
    ofValues known values = .ok found ↔ Fits found (seen ++ values) := by
  match values with
  | [] =>
    rw [ofValues, List.append_nil, Except.ok.injEq]
    exact eq_iff_fits fits
  | v :: values =>
    rw [ofValues, List.append_cons]
    simp only [bind_eq_ok]
    constructor
    · rintro ⟨own, read, more, merged, rest⟩
      have later := fits_merge fits (ofValue_eq_ok.1 read) merged
      exact (ofValues_eq_ok later).1 rest
    · intro all
      obtain ⟨more, _, both, _, _⟩ := exists_merge all
      obtain ⟨first, own, former, here, merged⟩ := exists_merge both
      obtain rfl := fits_unique former fits
      exact ⟨own, ofValue_eq_ok.2 here, more, merged, (ofValues_eq_ok both).2 all⟩

end

theorem type_numeric (kind : Numeric) : (numeric kind).type = .ok (.flat kind.type) := by
  cases kind <;> rfl

theorem leaves_of_fits {found : Inferred} {values : List Value} {t : DataType}
    (fits : Fits found values) (known : found.type = .ok t) : ∃ d flat, LeavesAt d values ∧
      Promote (atDepth d values) flat ∧ t = DataType.listOf^[d] (.flat flat) := by
  induction found generalizing values t with
  | unknown => cases known
  | numeric greatest =>
    rw [type_numeric] at known
    cases known
    have leaves : Among (·.isLeaf) (·.isLeaf) values := by
      refine fits.imp (fun v _ => isLeaf_of_numeric?) ?_
      rintro v _ ⟨kind, number, _⟩
      exact isLeaf_of_numeric? number
    refine ⟨0, greatest.type, leavesAt_zero.2 leaves, .numbers fits.1 fun v member leaf => ?_, rfl⟩
    rcases fits.2 v member with rfl | upTo
    · cases leaf
    · exact upTo
  | text =>
    cases known
    have leaves := fits.imp (fun v _ is => isLeaf_of_kind (.inl is)) (fun v _ is => isLeaf_of_kind (.inl is))
    refine ⟨0, .text .regular, leavesAt_zero.2 leaves, .text fun v member leaf => ?_, rfl⟩
    rcases fits.2 v member with rfl | is
    · cases leaf
    · exact is
  | bytes =>
    cases known
    have leaves := fits.imp (fun v _ is => isLeaf_of_kind (.inr is)) (fun v _ is => isLeaf_of_kind (.inr is))
    refine ⟨0, .binary .regular, leavesAt_zero.2 leaves, .bytes fun v member leaf => ?_, rfl⟩
    rcases fits.2 v member with rfl | is
    · cases leaf
    · exact is
  | list inner ih =>
    obtain ⟨type, below, rfl⟩ := map_eq_ok.1 known
    obtain ⟨d, flat, leaves, promote, rfl⟩ := ih fits.2 below
    refine ⟨d + 1, flat, leavesAt_succ.2 ⟨fits.1.2, leaves⟩, promote, ?_⟩
    rw [Function.iterate_succ_apply']

theorem fits_of_leaves {d : Nat} {values : List Value} {flat : FlatType} (leaves : LeavesAt d values)
    (promote : Promote (atDepth d values) flat) :
    ∃ found, Fits found values ∧ found.type = .ok (DataType.listOf^[d] (.flat flat)) := by
  induction d generalizing values with
  | zero =>
    have among := leavesAt_zero.1 leaves
    cases promote with
    | text all => exact ⟨text, among.imp all all, rfl⟩
    | bytes all => exact ⟨bytes, among.imp all all, rfl⟩
    | @numbers greatest attained all =>
      exact ⟨numeric greatest, ⟨attained, (among.imp all all).2⟩, type_numeric greatest⟩
  | succ d ih =>
    obtain ⟨lists, below⟩ := leavesAt_succ.1 leaves
    obtain ⟨inner, fits, known⟩ := ih below promote
    have some : ∃ v ∈ values, v.kind = .list := by
      by_contra none
      have nulls : ∀ v ∈ values, v = .null := fun v member =>
        (lists v member).resolve_right fun list => none ⟨v, member, list⟩
      obtain ⟨v, member, _⟩ := below.present
      rw [flatMap_items_of_nulls nulls, atDepth_nil] at member
      cases member
    refine ⟨list inner, ⟨⟨some, lists⟩, fits⟩, ?_⟩
    rw [type, known, Function.iterate_succ_apply']
    rfl

end Inferred

open Inferred Value in
theorem inferType_eq_ok {values : List Value} {t : DataType} : inferType values = .ok t ↔
    ∃ d flat, LeavesAt d values ∧ Promote (atDepth d values) flat ∧
      t = DataType.listOf^[d] (.flat flat) := by
  have nothing : Fits unknown [] := nofun
  rw [inferType, bind_eq_ok]
  constructor
  · rintro ⟨found, inferred, known⟩
    exact leaves_of_fits ((ofValues_eq_ok nothing).1 inferred) known
  · rintro ⟨d, flat, leaves, promote, rfl⟩
    obtain ⟨found, fits, known⟩ := fits_of_leaves leaves promote
    exact ⟨found, (ofValues_eq_ok nothing).2 fits, known⟩

end EntityLog
