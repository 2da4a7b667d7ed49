import EntityLog.Proofs.Coercion.Types
import EntityLog.Proofs.Number.Exact
import EntityLog.Proofs.Schema.IntegerTypes
import EntityLog.Proofs.Text.Utf8
import Mathlib.Data.List.Forall2

/-!
Every value keeps its place. The array of a list has an element for each value: null for null, and
otherwise what the value converts to, lists item by item. Level by level, the items of all lists are
built in one array and cut into lists again, where each takes its own. Only lists of size zero may be
lost, where no null among them tells their number.
-/

namespace EntityLog

namespace Value

def Denotes : Value → Int → Prop
  | bool b, i => i = if b then 1 else 0
  | int own, i => i = own
  | uint own, i => i = own
  | float bits, i => (FloatType.double.decode bits).exact = some (i : ℚ)
  | _, _ => False

def Widens : Value → Nat → Prop
  | bool b, wide => FloatType.double.Rounds (.finite false (if b then 1 else 0) 0) wide
  | int i, wide => FloatType.double.Rounds (.finite (i < 0) i.natAbs 0) wide
  | uint n, wide => FloatType.double.Rounds (.finite false n 0) wide
  | float bits, wide => wide = bits
  | _, _ => False

def items : Value → List Value
  | list own => own
  | null | bool _ | int _ | uint _ | float _ | text _ | bytes _ | tensor _ | array _ => []

def content? : Value → Option (List UInt8)
  | text s => some (Text.Utf8.encode s)
  | bytes b => some b
  | _ => none

variable {v : Value} {i : Int}

theorem toInt64_eq_ok : v.toInt64 = .ok i ↔
    v.Denotes i ∧ (v.kind = .uint ∨ v.kind = .float → IntegerType.int64.holds i) := by
  cases v with
  | bool b => simp [toInt64, Denotes, kind, @eq_comm _ i]
  | int own => simp [toInt64, Denotes, kind, @eq_comm _ i]
  | uint own =>
    rw [toInt64, ite_ok_error_eq_ok]
    constructor
    · exact fun ⟨held, same⟩ => ⟨same.symm, fun _ => same ▸ held⟩
    · exact fun ⟨same, held⟩ => ⟨same ▸ held (.inl rfl), same.symm⟩
  | float bits =>
    rw [toInt64, Denotes, ← FloatValue.toInt?_eq_some]
    cases (FloatType.double.decode bits).toInt? with
    | none => exact iff_of_false nofun fun both => by cases both.1
    | some own =>
      dsimp only
      rw [ite_ok_error_eq_ok, Option.some.injEq]
      constructor
      · exact fun ⟨held, same⟩ => ⟨same, fun _ => same ▸ held⟩
      · exact fun ⟨same, held⟩ => ⟨same ▸ held (.inr rfl), same⟩
  | null | text _ | bytes _ | list _ | tensor _ | array _ => exact iff_of_false nofun fun both => both.1

theorem toUInt64_eq_ok : v.toUInt64 = .ok i ↔
    v.Denotes i ∧ 0 ≤ i ∧ (v.kind = .float → IntegerType.int64.holds i) := by
  have signed (other : v.kind ≠ .uint) :
      (do let i ← v.toInt64; if i < 0 then .error (.negative i) else .ok i : Except Refusal Int) = .ok i ↔
        v.Denotes i ∧ 0 ≤ i ∧ (v.kind = .float → IntegerType.int64.holds i) := by
    simp only [bind_eq_ok, ite_error_ok_eq_ok, toInt64_eq_ok, other, false_or]
    constructor
    · rintro ⟨own, ⟨denotes, bound⟩, nonneg, rfl⟩
      exact ⟨denotes, Int.not_lt.1 nonneg, bound⟩
    · exact fun ⟨denotes, nonneg, bound⟩ => ⟨i, ⟨denotes, bound⟩, Int.not_lt.2 nonneg, rfl⟩
  cases v with
  | uint own =>
    rw [toUInt64, Except.ok.injEq]
    exact ⟨fun same => ⟨same.symm, same ▸ Int.natCast_nonneg own, nofun⟩, fun both => both.1.symm⟩
  | null | bool _ | int _ | float _ | text _ | bytes _ | list _ | tensor _ | array _ => exact signed nofun

theorem toInteger_eq_ok {t : IntegerType} : v.toInteger t = .ok i ↔
    v.Denotes i ∧ t.holds i ∧ (v.kind = .float → IntegerType.int64.holds i) := by
  cases signed : t.isSigned with
  | true =>
    have narrow {i : Int} (held : t.holds i) : IntegerType.int64.holds i :=
      IntegerType.holds_int64 (IntegerType.ne_uint64_of_isSigned signed) held
    rw [toInteger, if_pos signed, bind_eq_ok]
    simp only [ite_ok_error_eq_ok, toInt64_eq_ok]
    constructor
    · rintro ⟨own, ⟨denotes, _⟩, held, rfl⟩
      exact ⟨denotes, held, fun _ => narrow held⟩
    · exact fun ⟨denotes, held, _⟩ => ⟨i, ⟨denotes, fun _ => narrow held⟩, held, rfl⟩
  | false =>
    have nonneg (held : t.holds i) : 0 ≤ i := IntegerType.nonneg_of_holds signed held
    rw [toInteger, signed, if_neg Bool.false_ne_true, bind_eq_ok]
    simp only [ite_ok_error_eq_ok, toUInt64_eq_ok]
    constructor
    · rintro ⟨own, ⟨denotes, _, bound⟩, held, rfl⟩
      exact ⟨denotes, held, bound⟩
    · exact fun ⟨denotes, held, bound⟩ => ⟨i, ⟨denotes, nonneg held, bound⟩, held, rfl⟩

theorem widens_of_toFloat {wide : Nat} (h : v.toFloat = .ok wide) : v.Widens wide := by
  cases v with
  | bool b =>
    cases h
    cases b
    · exact FloatType.rounds_ofInt .double 0
    · exact FloatType.rounds_ofInt .double 1
  | int i =>
    cases h
    exact FloatType.rounds_ofInt .double i
  | uint n =>
    cases h
    have rounds := FloatType.rounds_ofInt .double n
    rwa [Int.natAbs_natCast, decide_eq_false (Int.not_lt.2 (Int.natCast_nonneg n))] at rounds
  | float bits => exact (Except.ok.inj h).symm
  | null | text _ | bytes _ | list _ | tensor _ | array _ => cases h

theorem content?_of_toText {s : String} (h : v.toText = .ok s) :
    v.content? = some (Text.Utf8.encode s) := by
  cases v with
  | text own => rw [← Except.ok.inj h, content?]
  | bytes b => rw [Text.Utf8.encode_of_decode (mapError_eq_ok.1 h), content?]
  | null | bool _ | int _ | uint _ | float _ | list _ | tensor _ | array _ => cases h

theorem content?_of_toBytes {b : List UInt8} (h : v.toBytes = .ok b) : v.content? = some b := by
  cases v with
  | text own => rw [← Except.ok.inj h, content?]
  | bytes own => rw [← Except.ok.inj h, content?]
  | null | bool _ | int _ | uint _ | float _ | list _ | tensor _ | array _ => cases h

end Value

def FloatType.Narrows : FloatType → Nat → Nat → Prop
  | .double, wide, bits => bits = wide
  | .single, wide, bits => single.Rounds (double.decode wide) bits
  | .half, wide, bits =>
    ∃ middle, single.Rounds (double.decode wide) middle ∧ half.Rounds (single.decode middle) bits

theorem FloatType.narrows_castBits (t : FloatType) (wide : Nat) :
    t.Narrows wide (double.castBits t wide) := by
  cases t with
  | half => exact ⟨_, rounds_encode single _, rounds_encode half _⟩
  | single => exact rounds_encode single _
  | double => rfl

inductive ConvertsCell : FlatType → Value → Element → Prop
  | boolean {b : Bool} : ConvertsCell .boolean (.bool b) (.boolean b)
  | integer {t : IntegerType} {v : Value} {i : Int} :
    v.Denotes i → t.holds i → ConvertsCell (.integer t) v (.integer i)
  | float {t : FloatType} {v : Value} {wide bits : Nat} :
    v.Widens wide → t.Narrows wide bits → ConvertsCell (.float t) v (.float bits)
  | text {l : Layout} {v : Value} {s : String} :
    v.content? = some (Text.Utf8.encode s) → ConvertsCell (.text l) v (.text s)
  | binary {l : Layout} {v : Value} {b : List UInt8} :
    v.content? = some b → ConvertsCell (.binary l) v (.bytes b)

/-- What a value is as an element of a type: null if it is null, and a list item by item. -/
def Converts : DataType → Value → Element → Prop
  | .flat t, v, e => v = .null ∧ e = .null ∨ ConvertsCell t v e
  | .list _ ⟨_, t, _, _⟩, v, e =>
    v = .null ∧ e = .null ∨
      ∃ own items, v = .list own ∧ e = .list items ∧ List.Forall₂ (Converts t) own items
  | .fixedList size ⟨_, t, _, _⟩, v, e =>
    v = .null ∧ e = .null ∨
      ∃ own items, v = .list own ∧ e = .list items ∧ (own.length : Int) = size ∧
        List.Forall₂ (Converts t) own items
  | _, _, _ => False

theorem ConvertsCell.ne_null {t : FlatType} {v : Value} {e : Element} (h : ConvertsCell t v e) :
    v ≠ .null ∧ e ≠ .null := by
  constructor
  · rintro rfl
    cases h with
    | integer denotes _ => exact denotes
    | float widens _ => exact widens
    | text content => cases content
    | binary content => cases content
  · rintro rfl
    cases h

theorem Converts.null_iff {t : DataType} {v : Value} {e : Element} (h : Converts t v e) :
    e = .null ↔ v = .null := by
  cases t with
  | flat t =>
    rcases h with ⟨rfl, rfl⟩ | cell
    · exact iff_of_true rfl rfl
    · exact iff_of_false cell.ne_null.2 cell.ne_null.1
  | list _ item =>
    obtain ⟨_, _, _, _⟩ := item
    rcases h with ⟨rfl, rfl⟩ | ⟨own, items, rfl, rfl, _⟩
    · exact iff_of_true rfl rfl
    · exact iff_of_false nofun nofun
  | fixedList _ item =>
    obtain ⟨_, _, _, _⟩ := item
    rcases h with ⟨rfl, rfl⟩ | ⟨own, items, rfl, rfl, _⟩
    · exact iff_of_true rfl rfl
    · exact iff_of_false nofun nofun
  | struct _ => cases h
  | union _ _ => cases h
  | map _ _ => cases h
  | dictionary _ _ => cases h
  | runEnd _ _ => cases h

theorem forall₂_buildCells {α : Type} {convert : Value → Except Refusal α} {t : FlatType}
    {wrap : α → Element}
    (cell : ∀ {v : Value} {c : α}, convert v = .ok c → ConvertsCell t v (wrap c))
    {values : List Value} {cells : List (Option α)} (h : buildCells convert values = .ok cells) :
    List.Forall₂ (Converts (.flat t)) values (cells.map (·.elim .null wrap)) := by
  induction values generalizing cells with
  | nil =>
    cases h
    exact .nil
  | cons v values ih =>
    by_cases null : v = .null
    · subst null
      obtain ⟨rest, built, rfl⟩ := map_eq_ok.1 h
      exact .cons (.inl ⟨rfl, rfl⟩) (ih built)
    · rw [buildCells] at h
      · obtain ⟨c, converted, h⟩ := bind_eq_ok.1 h
        obtain ⟨rest, built, rfl⟩ := map_eq_ok.1 h
        exact .cons (.inr (cell converted)) (ih built)
      · exact null

theorem forall₂_buildNulls {values : List Value} {n : Nat} (h : buildNulls values = .ok n) :
    List.Forall₂ (Converts (.flat .null)) values (List.replicate n .null) := by
  induction values generalizing n with
  | nil =>
    cases h
    exact .nil
  | cons v values ih =>
    by_cases null : v = .null
    · subst null
      obtain ⟨rest, built, rfl⟩ := map_eq_ok.1 h
      exact .cons (.inl ⟨rfl, rfl⟩) (ih built)
    · rw [buildNulls] at h
      · cases h
      · exact null

theorem forall₂_buildFlat {values : List Value} {t : FlatType} {a : FlatArray}
    (h : buildFlat values t = .ok a) :
    List.Forall₂ (Converts (.flat t)) values a.elements := by
  unfold buildFlat at h
  split at h
  case h_1 =>
    obtain ⟨n, built, rfl⟩ := map_eq_ok.1 h
    exact forall₂_buildNulls built
  case h_2 =>
    obtain ⟨cells, built, rfl⟩ := map_eq_ok.1 h
    apply forall₂_buildCells _ built
    intro v b read
    cases v with
    | bool own => exact Except.ok.inj read ▸ .boolean
    | null | int _ | uint _ | float _ | text _ | bytes _ | list _ | tensor _ | array _ => cases read
  case h_3 t =>
    obtain ⟨cells, built, rfl⟩ := map_eq_ok.1 h
    apply forall₂_buildCells _ built
    intro v i read
    obtain ⟨denotes, holds, _⟩ := Value.toInteger_eq_ok.1 read
    exact .integer denotes holds
  case h_4 t =>
    obtain ⟨cells, built, rfl⟩ := map_eq_ok.1 h
    apply forall₂_buildCells _ built
    intro v bits read
    obtain ⟨wide, widened, rfl⟩ := map_eq_ok.1 read
    exact .float (Value.widens_of_toFloat widened) (t.narrows_castBits wide)
  case h_5 | h_6 =>
    obtain ⟨cells, built, rfl⟩ := map_eq_ok.1 h
    exact forall₂_buildCells (fun read => .text (Value.content?_of_toText read)) built
  case h_7 | h_8 =>
    obtain ⟨cells, built, rfl⟩ := map_eq_ok.1 h
    exact forall₂_buildCells (fun read => .binary (Value.content?_of_toBytes read)) built
  case h_9 => cases h

theorem cutFixed_eq_cutItems {size : Nat} {slots : List Slot}
    (lengths : ∀ slot ∈ slots, slot.length = size) (items : List Element) :
    TypedArray.cutFixed size (slots.map Slot.valid) items = TypedArray.cutItems slots items := by
  induction slots generalizing items with
  | nil => rfl
  | cons slot slots ih =>
    have own := lengths slot List.mem_cons_self
    rw [List.map_cons, TypedArray.cutFixed, TypedArray.cutItems, own,
      ih fun later member => lengths later (List.mem_cons_of_mem _ member)]

theorem splitLists_cons_null {size : Option Nat} {values : List Value} {slots : List Slot}
    {children : List Value} :
    splitLists size (.null :: values) = .ok (slots, children) ↔ ∃ slots' children',
      splitLists size values = .ok (slots', children') ∧
      ⟨size.getD 0, false⟩ :: slots' = slots ∧
      List.replicate (size.getD 0) .null ++ children' = children := by
  rw [splitLists]
  simp only [bind_eq_ok, pure_eq_ok, Prod.exists, Prod.mk.injEq]

theorem splitLists_cons_list {size : Option Nat} {own values : List Value} {slots : List Slot}
    {children : List Value} :
    splitLists size (.list own :: values) = .ok (slots, children) ↔
      (∀ n, size = some n → own.length = n) ∧ ∃ slots' children',
        splitLists size values = .ok (slots', children') ∧
        ⟨own.length, true⟩ :: slots' = slots ∧ own ++ children' = children := by
  cases size with
  | none =>
    rw [splitLists]
    · simp only [bind_eq_ok, pure_eq_ok, Prod.exists, Prod.mk.injEq]
      refine ⟨fun h => ⟨?_, h⟩, And.right⟩
      intro n none
      cases none
    · intro n none
      cases none
  | some n =>
    rw [splitLists]
    simp only [check_eq_ok, bind_eq_ok, pure_eq_ok, Prod.exists, Prod.mk.injEq, ne_eq,
      Decidable.not_not, Option.some.injEq, forall_eq']

theorem splitLists_cons_other {size : Option Nat} {v : Value} {values : List Value}
    (null : v ≠ .null) (list : ∀ own, v ≠ .list own) {split : List Slot × List Value} :
    splitLists size (v :: values) ≠ .ok split := by
  rw [splitLists]
  · exact nofun
  · exact null
  · exact list

/-- Values that are lists, taken apart: each leaves a slot and its items, a null as many nulls as all
lists have. -/
inductive Splits (size : Option Nat) : List Value → List Slot → List Value → Prop
  | nil : Splits size [] [] []
  | null {values children : List Value} {slots : List Slot} : Splits size values slots children →
    Splits size (.null :: values) (⟨size.getD 0, false⟩ :: slots)
      (List.replicate (size.getD 0) .null ++ children)
  | list {own values children : List Value} {slots : List Slot} :
    (∀ n, size = some n → own.length = n) → Splits size values slots children →
      Splits size (.list own :: values) (⟨own.length, true⟩ :: slots) (own ++ children)

section

variable {size : Option Nat} {values children : List Value} {slots : List Slot}

theorem splits_of_splitLists (h : splitLists size values = .ok (slots, children)) :
    Splits size values slots children := by
  induction values generalizing slots children with
  | nil =>
    cases h
    exact .nil
  | cons v values ih =>
    by_cases null : v = .null
    · subst null
      obtain ⟨slots', children', split, rfl, rfl⟩ := splitLists_cons_null.1 h
      exact .null (ih split)
    by_cases list : ∃ own, v = .list own
    · obtain ⟨own, rfl⟩ := list
      obtain ⟨fits, slots', children', split, rfl, rfl⟩ := splitLists_cons_list.1 h
      exact .list fits (ih split)
    · exact absurd h (splitLists_cons_other null fun own is => list ⟨own, is⟩)

namespace Splits

theorem lengths (h : Splits size values slots children) :
    slots.length = values.length ∧ children.length = (slots.map Slot.length).sum ∧
      ∀ n, size = some n → ∀ slot ∈ slots, slot.length = n := by
  induction h with
  | nil => exact ⟨rfl, rfl, fun _ _ _ none => absurd none List.not_mem_nil⟩
  | null _ ih =>
    obtain ⟨count, room, lengths⟩ := ih
    refine ⟨congrArg Nat.succ count, ?_, ?_⟩
    · rw [List.length_append, List.length_replicate, room, List.map_cons, List.sum_cons]
    · rintro n rfl slot (_ | ⟨_, member⟩)
      · rfl
      · exact lengths n rfl slot member
  | list fits _ ih =>
    obtain ⟨count, room, lengths⟩ := ih
    refine ⟨congrArg Nat.succ count, ?_, ?_⟩
    · rw [List.length_append, room, List.map_cons, List.sum_cons]
    · rintro n rfl slot (_ | ⟨_, member⟩)
      · exact fits n rfl
      · exact lengths n rfl slot member

theorem room {n : Nat} (h : Splits (some n) values slots children) :
    children.length = slots.length * n := by
  obtain ⟨_, room, lengths⟩ := h.lengths
  have same : slots.map Slot.length = List.replicate slots.length n := by
    rw [List.eq_replicate_iff]
    refine ⟨List.length_map _, fun own member => ?_⟩
    obtain ⟨slot, inside, rfl⟩ := List.mem_map.1 member
    exact lengths n rfl slot inside
  rw [room, same, List.sum_replicate_nat]

theorem forall₂_cutItems {R : Value → Element → Prop} {items : List Element}
    (h : Splits size values slots children) (built : List.Forall₂ R children items) :
    List.Forall₂ (fun v e => v = .null ∧ e = .null ∨
        ∃ own items, v = .list own ∧ e = .list items ∧ (∀ n, size = some n → own.length = n) ∧
          List.Forall₂ R own items) values (TypedArray.cutItems slots items) := by
  induction h generalizing items with
  | nil => exact .nil
  | null _ ih =>
    -- A null of a fixed size has put as many nulls among the items, which no list may take.
    have later := List.forall₂_drop (size.getD 0) built
    rw [List.drop_left' List.length_replicate] at later
    exact .cons (.inl ⟨rfl, rfl⟩) (ih later)
  | @list own _ _ _ fits _ ih =>
    have here := List.forall₂_take own.length built
    have later := List.forall₂_drop own.length built
    rw [List.take_left' rfl] at here
    rw [List.drop_left' rfl] at later
    exact .cons (.inr ⟨own, _, rfl, rfl, fits, here⟩) (ih later)

theorem invalid_iff (h : Splits size values slots children) :
    false ∈ slots.map Slot.valid ↔ .null ∈ values := by
  induction h with
  | nil => exact iff_of_false List.not_mem_nil List.not_mem_nil
  | null => exact iff_of_true List.mem_cons_self List.mem_cons_self
  | list _ _ ih => simpa using ih

theorem children_eq (h : Splits size values slots children) (all : .null ∉ values) :
    children = values.flatMap Value.items := by
  induction h with
  | nil => rfl
  | null => exact absurd List.mem_cons_self all
  | list _ _ ih => rw [List.flatMap_cons, Value.items, ih (List.not_mem_of_not_mem_cons all)]

theorem null_mem {n : Nat} (positive : 0 < n) (h : Splits (some n) values slots children)
    (null : .null ∈ values) : .null ∈ children := by
  induction h with
  | nil => cases null
  | null =>
    exact List.mem_append_left _ (List.mem_replicate.2 ⟨Nat.pos_iff_ne_zero.1 positive, rfl⟩)
  | list _ _ ih =>
    exact List.mem_append_right _ (ih ((List.mem_cons.1 null).resolve_left nofun))

end Splits

end

/-- Lists whose number no array tells. None is null, so that there is no mask; and they are of size
zero, or all that they have is such lists, so that the items do not tell it either. -/
def Value.Uncounted (values : List Value) : DataType → Prop
  | .fixedList size ⟨_, t, _, _⟩ =>
    values ≠ [] ∧ .null ∉ values ∧ (size = 0 ∨ Uncounted (values.flatMap items) t)
  | _ => False

theorem Value.Uncounted.present {values : List Value} {t : DataType} (h : Uncounted values t) :
    values ≠ [] ∧ .null ∉ values := by
  cases t with
  | fixedList _ item =>
    obtain ⟨_, _, _, _⟩ := item
    exact ⟨h.1, h.2.1⟩
  | flat _ => cases h
  | list _ _ => cases h
  | struct _ => cases h
  | union _ _ => cases h
  | map _ _ => cases h
  | dictionary _ _ => cases h
  | runEnd _ _ => cases h

def DataType.SizesPositive : DataType → Prop
  | .list _ ⟨_, t, _, _⟩ => t.SizesPositive
  | .fixedList size ⟨_, t, _, _⟩ => 0 < size ∧ t.SizesPositive
  | _ => True

theorem DataType.SizesPositive.not_uncounted {t : DataType} (sizes : t.SizesPositive)
    {values : List Value} : ¬Value.Uncounted values t := by
  match t with
  | .fixedList size ⟨_, t, _, _⟩ =>
    rintro ⟨_, _, zero | deeper⟩
    · exact absurd sizes.1 (zero ▸ Int.lt_irrefl 0)
    · exact not_uncounted (t := t) sizes.2 deeper
  | .flat _ | .list _ _ | .struct _ | .union _ _ | .map _ _ | .dictionary _ _ | .runEnd _ _ =>
    exact id

theorem maskOf_eq_none {valid : List Bool} : maskOf valid = none ↔ false ∉ valid := by
  unfold maskOf
  split
  case isTrue all =>
    refine iff_of_true rfl fun invalid => ?_
    cases List.all_eq_true.1 all _ invalid
  case isFalse some =>
    refine iff_of_false nofun fun all => some (List.all_eq_true.2 fun own member => ?_)
    cases own with
    | true => rfl
    | false => exact absurd member all

theorem eq_of_maskOf {valid mask : List Bool} (h : maskOf valid = some mask) : mask = valid := by
  unfold maskOf at h
  split at h
  · cases h
  · exact (Option.some.inj h).symm

theorem getD_maskOf (valid : List Bool) :
    (maskOf valid).getD (List.replicate valid.length true) = valid := by
  unfold maskOf
  split
  case isTrue all =>
    rw [Option.getD_none, eq_comm, List.eq_replicate_iff]
    exact ⟨rfl, fun v member => List.all_eq_true.1 all v member⟩
  case isFalse => rfl

theorem length_buildArray_of_uncounted {t : DataType} {values : List Value}
    (uncounted : Value.Uncounted values t) {a : TypedArray} (h : buildArray values t = .ok a) :
    a.length = 0 := by
  match t with
  | .fixedList size ⟨name, t, nullable, metadata⟩ =>
    obtain ⟨_, all, lost⟩ := uncounted
    obtain ⟨slots, children, items, nonneg, split, built, lists⟩ := buildArray_fixedList_eq_ok.1 h
    obtain ⟨_, _, _, _, rfl⟩ := TypedArray.tryFixedLists_eq_ok.1 lists
    have splits := splits_of_splitLists split
    have unmasked : maskOf (slots.map Slot.valid) = none :=
      maskOf_eq_none.2 (mt splits.invalid_iff.1 all)
    rw [unmasked, TypedArray.length, Option.getD_none, List.length_replicate, TypedArray.fixedCount]
    rcases lost with rfl | deeper
    · rfl
    · rw [← splits.children_eq all] at deeper
      rw [length_buildArray_of_uncounted (t := t) deeper built, Nat.zero_div, Option.elim_none,
        ite_self]
  | .flat _ | .list _ _ | .struct _ | .union _ _ | .map _ _ | .dictionary _ _ | .runEnd _ _ =>
    cases uncounted

section

variable {t : DataType} {values children : List Value} {slots : List Slot} {items : TypedArray}

theorem Splits.not_uncounted_of_room (splits : Splits none values slots children)
    (built : buildArray children t = .ok items) (room : (slots.map Slot.length).sum ≤ items.length) :
    ¬Value.Uncounted children t := by
  intro uncounted
  have positive := List.length_pos_iff.2 uncounted.present.1
  have none := length_buildArray_of_uncounted uncounted built
  have total := splits.lengths.2.1
  omega

variable {size : Int} {item : Field}

theorem Splits.not_uncounted_items (splits : Splits (some size.toNat) values slots children)
    (counted : ¬Value.Uncounted values (.fixedList size item)) :
    ¬Value.Uncounted children item.type := by
  obtain ⟨_, t, _, _⟩ := item
  intro uncounted
  by_cases null : .null ∈ values
  · have positive : 0 < size.toNat := by
      have present := List.length_pos_iff.2 uncounted.present.1
      rw [splits.room] at present
      exact Nat.pos_of_mul_pos_left present
    exact uncounted.present.2 (splits.null_mem positive null)
  · rw [splits.children_eq null] at uncounted
    refine counted ⟨?_, null, .inr uncounted⟩
    rintro rfl
    exact uncounted.present.1 rfl

theorem Splits.fixedCount_eq (splits : Splits (some size.toNat) values slots children)
    (counted : ¬Value.Uncounted values (.fixedList size item)) (nonneg : 0 ≤ size)
    (total : items.length = slots.length * size.toNat) :
    TypedArray.fixedCount size (maskOf (slots.map Slot.valid)) items = slots.length := by
  obtain ⟨_, t, _, _⟩ := item
  rw [TypedArray.fixedCount]
  split
  case isTrue zero =>
    cases mask : maskOf (slots.map Slot.valid) with
    | none =>
      have all := mt splits.invalid_iff.2 (maskOf_eq_none.1 mask)
      have none : values = [] := by_contra fun some => counted ⟨some, all, .inl zero⟩
      rw [splits.lengths.1, none]
      rfl
    | some valid => exact (congrArg List.length (eq_of_maskOf mask)).trans (List.length_map _)
  case isFalse positive => rw [total, Nat.mul_div_cancel _ (by omega)]

end

theorem forall₂_buildArray_of_counted {t : DataType} {values : List Value}
    (counted : ¬Value.Uncounted values t) {a : TypedArray} (h : buildArray values t = .ok a) :
    List.Forall₂ (Converts t) values a.rows := by
  match t with
  | .flat t =>
    rw [buildArray] at h
    obtain ⟨cells, built, rfl⟩ := map_eq_ok.1 h
    exact forall₂_buildFlat built
  | .list w ⟨name, t, nullable, metadata⟩ =>
    obtain ⟨slots, children, items, split, _, built, _, lists⟩ := buildArray_list_eq_ok.1 h
    obtain ⟨room, _, _, _, rfl⟩ := TypedArray.tryLists_eq_ok.1 lists
    have splits := splits_of_splitLists split
    have inner := splits.not_uncounted_of_room built (by omega)
    rw [TypedArray.rows, Slots.toList_ofMask_maskOf, List.drop_zero]
    have own := forall₂_buildArray_of_counted (t := t) inner built
    refine (splits.forall₂_cutItems own).imp ?_
    rintro v e (null | ⟨own, items, list, elements, _, each⟩)
    · exact .inl null
    · exact .inr ⟨own, items, list, elements, each⟩
  | .fixedList size ⟨name, t, nullable, metadata⟩ =>
    obtain ⟨slots, children, items, nonneg, split, built, lists⟩ := buildArray_fixedList_eq_ok.1 h
    obtain ⟨_, _, _, _, rfl⟩ := TypedArray.tryFixedLists_eq_ok.1 lists
    have splits := splits_of_splitLists split
    have own := forall₂_buildArray_of_counted (t := t) (splits.not_uncounted_items counted) built
    have total : items.length = slots.length * size.toNat := by
      rw [← TypedArray.length_rows, ← own.length_eq, splits.room]
    rw [splits.fixedCount_eq counted nonneg total, TypedArray.rows,
      TypedArray.rows_slice_all _ (Nat.le_of_eq total)]
    have valid := getD_maskOf (slots.map Slot.valid)
    rw [List.length_map] at valid
    rw [valid, cutFixed_eq_cutItems (splits.lengths.2.2 _ rfl)]
    refine (splits.forall₂_cutItems own).imp ?_
    rintro v e (null | ⟨own, items, list, elements, fits, each⟩)
    · exact .inl null
    · have length := fits _ rfl
      exact .inr ⟨own, items, list, elements, by omega, each⟩
  | .struct _ => cases h
  | .union _ _ => cases h
  | .map _ _ => cases h
  | .dictionary _ _ => cases h
  | .runEnd _ _ => cases h

theorem forall₂_buildArray {t : DataType} (sizes : t.SizesPositive) {values : List Value}
    {a : TypedArray} (h : buildArray values t = .ok a) :
    List.Forall₂ (Converts t) values a.rows :=
  forall₂_buildArray_of_counted sizes.not_uncounted h

theorem DataType.IsInferred.sizesPositive {t : DataType} (h : t.IsInferred) : t.SizesPositive := by
  induction h with
  | native n => cases n <;> trivial
  | listOf _ ih => exact ih

theorem coerce_list {values : List Value} {target : Option DataType} {a : TypedArray}
    (h : (coerce (.list values) target).result = .ok a) :
    ∃ t, target.elim (inferType values) .ok = .ok t ∧
      (buildArray values t = .ok a ∨ values = [] ∧ a = .empty t) := by
  have last (h : fromItems (.list values) target = .ok a) :
      ∃ t, target.elim (inferType values) .ok = .ok t ∧ buildArray values t = .ok a := by
    obtain ⟨items, t, own, known, built⟩ := fromItems_eq_ok.1 h
    cases own
    exact ⟨t, known, built⟩
  cases target with
  | none =>
    obtain ⟨t, known, built⟩ := last h
    exact ⟨t, known, .inl built⟩
  | some t =>
    rw [coerce_some_eq fun _ array => by cases array] at h
    split at h
    case isTrue nothing =>
      have array := TypedArray.eq_empty_of_emptyDeep (mapError_eq_ok.1 h)
      exact ⟨t, rfl, .inr ⟨List.isEmpty_iff.1 nothing, array⟩⟩
    case isFalse =>
      obtain ⟨t, known, built⟩ := last h
      exact ⟨t, known, .inl built⟩

/-- The array of a list has an element for each value, and in its place what the value converts
to. -/
theorem forall₂_coerce_list {values : List Value} {target : Option DataType} {a : TypedArray}
    (sizes : ∀ t, target = some t → t.SizesPositive)
    (h : (coerce (.list values) target).result = .ok a) :
    ∃ t, target.elim (inferType values) .ok = .ok t ∧ a.type = t ∧ a.length = values.length ∧
      List.Forall₂ (fun v e => (e = .null ↔ v = .null) ∧ Converts t v e) values a.rows := by
  obtain ⟨t, known, built⟩ := coerce_list h
  have positive : t.SizesPositive := by
    cases target with
    | none => exact (isInferred_inferType known).sizesPositive
    | some t' => exact Except.ok.inj known ▸ sizes t' rfl
  have each : a.type = t ∧ List.Forall₂ (Converts t) values a.rows := by
    rcases built with built | ⟨rfl, rfl⟩
    · exact ⟨type_buildArray built, forall₂_buildArray positive built⟩
    · rw [TypedArray.rows_empty]
      exact ⟨TypedArray.type_ofElements [] t, .nil⟩
  refine ⟨t, known, each.1, ?_, each.2.imp fun v e converts => ⟨converts.null_iff, converts⟩⟩
  rw [← TypedArray.length_rows, each.2.length_eq]

theorem forall₂_coerce_list_pairs :
    ∃ a, (coerce (.list [.list [.int 1, .null], .null, .list [.uint 3, .bool true]])
        (some (.fixedList 2 (.item (.integer .int8))))).result = .ok a ∧
      a.type = .fixedList 2 (.item (.integer .int8)) ∧ a.length = 3 ∧
      a.rows = [.list [.integer 1, .null], .null, .list [.integer 3, .integer 1]] := by
  let pairs : TypedArray := .fixedLists 2 (.item (.integer .int8)) [true, false, true]
    (.flat (.integers .int8 [some 1, none, none, none, some 3, some 1]))
  have built : (coerce (.list [.list [.int 1, .null], .null, .list [.uint 3, .bool true]])
      (some (.fixedList 2 (.item (.integer .int8))))).result = .ok pairs := by
    with_unfolding_all rfl
  have sizes : ∀ t, some (DataType.fixedList 2 (.item (.integer .int8))) = some t →
      t.SizesPositive := by
    rintro t ⟨⟩
    exact ⟨by decide, trivial⟩
  obtain ⟨t, known, type, length, _⟩ := forall₂_coerce_list sizes built
  exact ⟨pairs, built, type.trans (Except.ok.inj known).symm, length, rfl⟩

/-- With a target, a list keeps all its values and theirs, unless nothing tells how many there are; then
none is left. -/
theorem coerce_list_counted {values : List Value} {t : DataType} {a : TypedArray}
    (h : (coerce (.list values) (some t)).result = .ok a) :
    a.type = t ∧ (a.length = values.length ↔ ¬Value.Uncounted values t) ∧
      (List.Forall₂ (fun v e => (e = .null ↔ v = .null) ∧ Converts t v e) values a.rows ↔
        ¬Value.Uncounted values t) ∧
      (Value.Uncounted values t → a.length = 0) := by
  obtain ⟨_, ⟨⟩, built⟩ := coerce_list h
  have kept (counted : ¬Value.Uncounted values t) : List.Forall₂ (Converts t) values a.rows := by
    rcases built with built | ⟨rfl, rfl⟩
    · exact forall₂_buildArray_of_counted counted built
    · rw [TypedArray.rows_empty]
      exact .nil
  have lost (uncounted : Value.Uncounted values t) : a.length = 0 := by
    rcases built with built | ⟨rfl, _⟩
    · exact length_buildArray_of_uncounted uncounted built
    · exact absurd rfl uncounted.present.1
  have short (same : a.length = values.length) : ¬Value.Uncounted values t := fun uncounted =>
    uncounted.present.1 (List.length_eq_zero_iff.1 (same.symm.trans (lost uncounted)))
  refine ⟨?_, ⟨short, fun counted => ?_⟩, ⟨fun each => short ?_, fun counted => ?_⟩, lost⟩
  · rcases built with built | ⟨_, rfl⟩
    · exact type_buildArray built
    · exact TypedArray.type_ofElements [] t
  · rw [← TypedArray.length_rows, (kept counted).length_eq]
  · rw [← TypedArray.length_rows, each.length_eq]
  · exact (kept counted).imp fun v e converts => ⟨converts.null_iff, converts⟩

theorem coerce_list_counted_pairs :
    ∃ a, (coerce (.list [.null, .list [.list [], .null]])
        (some (.fixedList 2 (.item (.fixedList 0 (.item .int64)))))).result = .ok a ∧
      a.type = .fixedList 2 (.item (.fixedList 0 (.item .int64))) ∧ a.length = 2 ∧
      a.rows = [.null, .list [.list [], .null]] := by
  let hollow : TypedArray := .fixedLists 0 (.item .int64) [false, false, true, false]
    (.flat (.integers .int64 []))
  let pairs : TypedArray := .fixedLists 2 (.item (.fixedList 0 (.item .int64))) [false, true] hollow
  have built : (coerce (.list [.null, .list [.list [], .null]])
      (some (.fixedList 2 (.item (.fixedList 0 (.item .int64)))))).result = .ok pairs := by
    with_unfolding_all rfl
  obtain ⟨type, length, _⟩ := coerce_list_counted built
  exact ⟨pairs, built, type, length.2 fun uncounted => uncounted.2.1 List.mem_cons_self, rfl⟩

/-- Two lists of size zero, neither of them null, are gone. -/
theorem coerce_list_uncounted :
    ∃ a, (coerce (.list [.list [], .list []]) (some (.fixedList 0 (.item .int64)))).result = .ok a ∧
      a.length = 0 ∧ a.rows = [] :=
  ⟨.fixedLists 0 (.item .int64) [] (.flat (.integers .int64 [])), by with_unfolding_all rfl, rfl, rfl⟩

/-- A number just above the middle of two patterns of half precision becomes the lower one: it is
the middle itself in single precision. -/
theorem coerce_half_not_nearest :
    (coerce (.list [.float 0x3ff0020000001000]) (some (.flat (.float .half)))).result =
        .ok (.flat (.floats .half [some 0x3c00])) ∧
      ¬FloatType.half.Rounds (FloatType.double.decode 0x3ff0020000001000) 0x3c00 := by
  refine ⟨by with_unfolding_all rfl, ?_⟩
  have value : FloatType.double.decode 0x3ff0020000001000 =
      .finite false 0x10020000001000 (-52) := by decide
  have lower : FloatType.half.magnitude 0x3c00 = 1 := by
    norm_num [FloatType.magnitude, FloatType.significand, FloatType.scale, FloatType.minExponent,
      FloatType.fractionBits, FloatType.exponentBits, pow2]
  have upper : FloatType.half.magnitude 0x3c01 = 1 + 2 ^ (-10 : Int) := by
    norm_num [FloatType.magnitude, FloatType.significand, FloatType.scale, FloatType.minExponent,
      FloatType.fractionBits, FloatType.exponentBits, pow2]
  rw [value]
  rintro ⟨m, nearest, is⟩
  obtain rfl : 0x3c00 = m := by simpa using is
  have farther := (nearest.2 0x3c01 (by decide)).1
  rw [lower, upper] at farther
  norm_num [abs_of_neg, abs_of_pos] at farther

end EntityLog
