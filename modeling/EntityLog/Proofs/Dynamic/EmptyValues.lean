import EntityLog.Proofs.Coercion.Targets
import EntityLog.Proofs.Coercion.Tensors
import EntityLog.Proofs.Coercion.TensorSizes
import EntityLog.Proofs.Dynamic.Agreement

/-!
Empty values of components whose type is pinned. Nothing at all becomes an array without cells. A
tensor without elements does if it can be cast, or else taken apart; but text and bytes without content
are one cell, or do not suit the type. So what is dropped as long as there is no pin may be an instance,
or an error, once there is one.
-/

namespace EntityLog

variable {t : DataType} {a : TypedArray}

namespace DataType.IsInferred

theorem isPlain (h : t.IsInferred) : t.IsPlain := by
  induction h with
  | native n => cases n <;> trivial
  | listOf _ ih => exact ih

theorem exists_buildArray_nil (h : t.IsInferred) : ∃ a, buildArray [] t = .ok a := by
  induction h with
  | native n => cases n <;> exact ⟨_, rfl⟩
  | @listOf t _ ih =>
    obtain ⟨items, built⟩ := ih
    have lists : ∃ b, TypedArray.tryLists .regular (.item t) 0 [] none items = .ok b :=
      ⟨_, TypedArray.tryLists_eq_ok.2
        ⟨Nat.zero_le _, nofun, (fun required => by cases required), type_buildArray built, rfl⟩⟩
    obtain ⟨b, lists⟩ := lists
    exact ⟨b, buildArray_list_eq_ok.2 ⟨[], [], items, rfl, rfl, built, rfl, lists⟩⟩

end DataType.IsInferred

theorem length_buildArray_nil (h : buildArray [] t = .ok a) : a.length = 0 := by
  have counted : ¬Value.Uncounted [] t := fun uncounted => uncounted.present.1 rfl
  rw [← TypedArray.length_rows, ← (forall₂_buildArray_of_counted counted h).length_eq]
  rfl

namespace Tensor

variable {s : Tensor}

def IsBlank (s : Tensor) : Prop :=
  ∃ width, s.native.width = some width ∧ s.bytes = [] ∧ s.address % width = 0

/-- Numbers are cast to every flat type that values have, but floats not to bytes. -/
def CastsBlank (s : Tensor) (t : DataType) : Prop :=
  (∃ flat, t = .flat flat) ∧ (t = .binary .regular → ∀ u, s.native ≠ .float u)

theorem isCountable_of_count_zero (no : s.count = .ok 0) (width : Nat) :
    s.IsCountable width ∧ s.shape.prod = 0 := by
  rw [count_eq] at no
  split at no
  case isTrue counted =>
    have product := Except.ok.inj no
    exact ⟨⟨counted, by rw [product, Nat.zero_mul]; decide⟩, product⟩
  case isFalse => cases no

theorem patterns_of_count_zero (no : s.count = .ok 0) :
    (s.IsBlank → s.patterns = .ok []) ∧
      (¬s.IsBlank → ∃ cause, s.patterns = .error (.error cause)) := by
  cases known : s.native.width with
  | none =>
    constructor
    · rintro ⟨_, known', _⟩
      cases known.symm.trans known'
    · refine fun _ => ⟨.tensorOf s.native, ?_⟩
      rw [patterns, no]
      simp only [known]
      rfl
  | some width =>
    obtain ⟨countable, product⟩ := isCountable_of_count_zero no width
    rw [patterns_of_countable known countable, product, Nat.zero_mul]
    by_cases bytes : s.bytes = []
    · rw [if_neg (by rw [bytes]; exact not_not.2 rfl)]
      by_cases address : s.address % width = 0
      · rw [if_neg (not_not.2 address)]
        exact ⟨fun _ => rfl, fun other => absurd ⟨width, known, bytes, address⟩ other⟩
      · rw [if_pos address]
        refine ⟨?_, fun _ => ⟨_, rfl⟩⟩
        rintro ⟨_, known', _, aligned⟩
        cases known.symm.trans known'
        exact absurd aligned address
    · rw [if_pos (mt List.length_eq_zero_iff.1 bytes)]
      refine ⟨?_, fun _ => ⟨_, rfl⟩⟩
      rintro ⟨_, _, blank, _⟩
      exact absurd blank bytes

theorem flatArray_of_blank (read : s.patterns = .ok []) :
    (∃ u, s.native = .integer u ∧ s.flatArray = .ok (.integers u [])) ∨
      ∃ u, s.native = .float u ∧ s.flatArray = .ok (.floats u []) := by
  rcases cases_of_patterns read with ⟨u, native⟩ | ⟨u, native⟩
  · exact .inl ⟨u, native, flatArray_eq_ok.2 ⟨[], read, .inl ⟨u, native, rfl⟩⟩⟩
  · exact .inr ⟨u, native, flatArray_eq_ok.2 ⟨[], read, .inr ⟨u, native, rfl⟩⟩⟩

theorem exists_cast_blank (read : s.patterns = .ok []) {n : NativeType} (casts : s.CastsBlank n.type) :
    ∃ flat cells, n.type = .flat flat ∧ s.flatArray = .ok cells ∧ cells.IsNumeric ∧
      cells = .ofElements [] cells.type ∧ cells.cast? flat = some (.ok (.ofElements [] flat)) := by
  rcases flatArray_of_blank read with ⟨u, _, own⟩ | ⟨u, native, own⟩
  · cases n <;> exact ⟨_, _, rfl, own, .inl ⟨u, [], rfl⟩, rfl, rfl⟩
  · cases n with
    | binary => exact absurd native (casts.2 rfl u)
    | boolean | integer _ | float _ | text => exact ⟨_, _, rfl, own, .inr ⟨u, [], rfl⟩, rfl, rfl⟩

theorem fromTensor_of_castsBlank (read : s.patterns = .ok []) {n : NativeType}
    (casts : s.CastsBlank n.type) :
    Strategy.fromTensor (.tensor s) (some n.type) = .ok (.empty n.type) := by
  obtain ⟨flat, cells, is, own, numeric, blank, cast⟩ := exists_cast_blank read casts
  rw [is]
  refine fromTensor_eq_ok.2 ⟨cells, own, ?_⟩
  by_cases same : cells.type = flat
  · rw [same] at blank
    exact .inl ⟨same, congrArg TypedArray.flat blank⟩
  · exact .inr ⟨same, (TypedArray.cast_numeric_eq_ok numeric same).2 ⟨_, cast, rfl⟩⟩

theorem fromTensor_listOf {cells : FlatArray} (own : s.flatArray = .ok cells) (t : DataType) :
    Strategy.fromTensor (.tensor s) (some t.listOf) =
      .error (.error (.cannotConvert (some t.listOf) .tensorIsFlat)) := by
  have differ : (TypedArray.flat cells).type ≠ t.listOf := by
    intro same
    cases same
  rw [Strategy.fromTensor, own]
  exact (if_neg differ).trans (if_pos rfl)

theorem fromTensor_floats_binary {u : FloatType} (own : s.flatArray = .ok (.floats u [])) :
    ∃ cause, Strategy.fromTensor (.tensor s) (some (.binary .regular)) = .error (.error cause) := by
  have differ : (FlatArray.floats u []).type ≠ .binary .regular := by
    intro same
    cases same
  obtain ⟨cause, refused⟩ : ∃ cause, castTo (.flat (.binary .regular)) (.flat (.floats u [])) =
      .error (.error cause) := by
    rw [castTo, TypedArray.cast_numeric (.inr ⟨u, [], rfl⟩) differ]
    exact ⟨_, rfl⟩
  refine ⟨cause, ?_⟩
  rw [Strategy.fromTensor, own]
  exact (if_neg fun same => differ (DataType.flat.inj same)).trans refused

theorem fromTensor_of_not_castsBlank (read : s.patterns = .ok []) (inferred : t.IsInferred)
    (other : ¬s.CastsBlank t) :
    ∃ cause, Strategy.fromTensor (.tensor s) (some t) = .error (.error cause) := by
  cases inferred with
  | @listOf t _ =>
    rcases flatArray_of_blank read with ⟨_, _, own⟩ | ⟨_, _, own⟩ <;>
      exact ⟨_, fromTensor_listOf own t⟩
  | native n =>
    have flat : ∃ flat, n.type = .flat flat := by cases n <;> exact ⟨_, rfl⟩
    rcases flatArray_of_blank read with ⟨u, native, _⟩ | ⟨u, _, own⟩
    · refine absurd ⟨flat, fun _ u' float => ?_⟩ other
      cases native.symm.trans float
    · cases n with
      | binary => exact fromTensor_floats_binary own
      | boolean | integer _ | float _ | text => exact absurd ⟨flat, fun is => by cases is⟩ other

theorem fold_nil (shape dims : List Nat) :
    fold shape dims [] = if 0 ∈ dims then .error (.tensorShape shape) else .ok [] := by
  induction dims with
  | nil => rfl
  | cons dim dims ih =>
    rw [fold]
    by_cases zero : dim = 0
    · rw [if_pos zero, if_pos (zero ▸ List.mem_cons_self)]
    · have rest : (chunks dim ([] : List Value).length []).map Value.list = [] := rfl
      rw [if_neg zero, rest, ih]
      refine if_congr ?_ rfl rfl
      rw [List.mem_cons, or_iff_right (Ne.symm zero)]

theorem values_of_blank (read : s.patterns = .ok []) :
    s.values = reporting (if 0 ∈ s.shape.drop 1 then .error (.tensorShape s.shape) else .ok []) := by
  have own : s.scalars = .ok [] := scalars_eq_ok.2 ⟨[], read, rfl⟩
  rw [values, own]
  show reporting (fold s.shape (s.shape.drop 1).reverse []) = _
  simp only [fold_nil, List.mem_reverse]

theorem coerce_blank (read : s.patterns = .ok []) (inferred : t.IsInferred) :
    (s.CastsBlank t ∨ 0 ∉ s.shape.drop 1 →
      ∃ a, (coerce (.tensor s) (some t)).result = .ok a ∧ a.length = 0) ∧
    (¬(s.CastsBlank t ∨ 0 ∉ s.shape.drop 1) →
      ∃ cause, (coerce (.tensor s) (some t)).result = .error (.error cause)) := by
  show (_ → ∃ a, (tryStrategies (.tensor s) (some t) [.tensor, .text, .scalar]).result = _ ∧ _) ∧
    (_ → ∃ cause, (tryStrategies (.tensor s) (some t) [.tensor, .text, .scalar]).result = _)
  by_cases casts : s.CastsBlank t
  · cases inferred with
    | native n =>
      rw [tryStrategies, Strategy.run, fromTensor_of_castsBlank read casts]
      exact ⟨fun _ => ⟨_, rfl, TypedArray.length_empty _⟩, fun other => absurd (.inl casts) other⟩
    | listOf _ =>
      obtain ⟨⟨_, flat⟩, _⟩ := casts
      cases flat
  · obtain ⟨cause, refused⟩ := fromTensor_of_not_castsBlank read inferred casts
    have last : (tryStrategies (.tensor s) (some t) [.tensor, .text, .scalar]).result =
        fromItems (.tensor s) (some t) := by
      rw [tryStrategies, Strategy.run, refused]
      rfl
    rw [last, or_iff_right casts, fromItems, itemsOf, values_of_blank read]
    by_cases inner : 0 ∈ s.shape.drop 1
    · rw [if_pos inner]
      exact ⟨fun other => absurd inner other, fun _ => ⟨_, rfl⟩⟩
    · obtain ⟨a, built⟩ := inferred.exists_buildArray_nil
      rw [if_neg inner]
      refine ⟨fun _ => ⟨a, ?_, length_buildArray_nil built⟩, fun other => absurd inner other⟩
      show convertError (some t) (reporting (buildArray [] t)) = .ok a
      rw [built]
      rfl

end Tensor

def DataType.HoldsContent (t : DataType) : Prop := t = .utf8 ∨ t = .binary .regular

/-- An empty value of which an array of the type without cells is made. Nothing at all is one for any
type, and text and bytes are for none. -/
def Value.Clears : Value → DataType → Prop
  | null, _ | list _, _ => True
  | tensor s, t => s.IsBlank ∧ (s.CastsBlank t ∨ 0 ∉ s.shape.drop 1)
  | bool _, _ | int _, _ | uint _, _ | float _, _ | text _, _ | bytes _, _ | array _, _ => False

section

variable {v : Value}

theorem coerce_content (inferred : t.IsInferred) (content : v = .text "" ∨ v = .bytes []) :
    (t.HoldsContent → ∃ a, (coerce v (some t)).result = .ok a ∧ a.length = 1) ∧
      (¬t.HoldsContent → ∃ cause, (coerce v (some t)).result = .error (.error cause)) := by
  constructor
  · rintro (rfl | rfl) <;> rcases content with rfl | rfl <;>
      exact ⟨_, by with_unfolding_all rfl, rfl⟩
  · intro other
    rcases content with rfl | rfl <;> cases inferred with
    | listOf _ => exact ⟨_, rfl⟩
    | native n =>
      cases n with
      | boolean | float _ => exact ⟨_, rfl⟩
      | integer u => cases u <;> exact ⟨_, rfl⟩
      | text => exact absurd (.inl rfl) other
      | binary => exact absurd (.inr rfl) other

theorem count_of_isEmpty {s : Tensor} (content : (Value.tensor s).isEmpty = .ok true) :
    s.count = .ok 0 := by
  rw [Value.isEmpty] at content
  cases counted : s.count with
  | ok n =>
    rw [counted] at content
    rw [of_decide_eq_true (Except.ok.inj content)]
  | error _ =>
    rw [counted] at content
    cases content

theorem coerce_empty (native : ∀ array, v ≠ .array array) (content : v.isEmpty = .ok true)
    (inferred : t.IsInferred) :
    (v.Clears t → ∃ a, (coerce v (some t)).result = .ok a ∧ a.length = 0) ∧
    (v.isLeaf → t.HoldsContent → ∃ a, (coerce v (some t)).result = .ok a ∧ a.length = 1) ∧
    (¬v.Clears t → ¬(v.isLeaf ∧ t.HoldsContent) →
      ∃ cause, (coerce v (some t)).result = .error (.error cause)) := by
  have nothing (no : v.isNothing) : ∃ a, (coerce v (some t)).result = .ok a ∧ a.length = 0 :=
    ⟨_, coerce_nothing inferred.isPlain no, TypedArray.length_empty t⟩
  cases v with
  | null => exact ⟨fun _ => nothing rfl, nofun, fun other => absurd trivial other⟩
  | list items =>
    have no : items.isEmpty := Except.ok.inj content
    exact ⟨fun _ => nothing no, nofun, fun other => absurd trivial other⟩
  | text s =>
    obtain rfl : s = "" := by simpa using Except.ok.inj content
    obtain ⟨held, refused⟩ := coerce_content inferred (.inl rfl)
    exact ⟨nofun, fun _ => held, fun _ other => refused fun holds => other ⟨rfl, holds⟩⟩
  | bytes b =>
    obtain rfl : b = [] := by simpa using Except.ok.inj content
    obtain ⟨held, refused⟩ := coerce_content inferred (.inr rfl)
    exact ⟨nofun, fun _ => held, fun _ other => refused fun holds => other ⟨rfl, holds⟩⟩
  | tensor s =>
    obtain ⟨read, unread⟩ := Tensor.patterns_of_count_zero (count_of_isEmpty content)
    by_cases blank : s.IsBlank
    · obtain ⟨cleared, refused⟩ := Tensor.coerce_blank (read blank) inferred
      exact ⟨fun clears => cleared clears.2, nofun,
        fun other _ => refused fun clears => other ⟨blank, clears⟩⟩
    · obtain ⟨cause, unread⟩ := unread blank
      exact ⟨fun clears => absurd clears.1 blank, nofun,
        fun _ _ => ⟨.cannotConvert (some t) cause, Tensor.coerce_of_patterns_error unread (some t)⟩⟩
  | bool _ | int _ | uint _ | float _ => cases content
  | array a => exact absurd rfl (native a)

end

namespace TypeRegistry

variable {c : TypingCall}

theorem call_of_unpinned {r : TypeRegistry} (native : c.IsNative)
    (content : c.value.isEmpty = .ok true) (unknown : r.get? c.descriptor = none) :
    (r.call c).1 = if c.dropsUntyped then .ok ⟨c.descriptor, none⟩
      else .error (.error (.untyped c.descriptor)) := by
  obtain ⟨d, v, drops⟩ := c
  have typed : (Typing.exec (typedArray d v drops) { registry := r }).1 =
      if drops then .ok none else .error (.error (.untyped d)) := by
    unfold typedArray
    split
    case h_1 a => exact absurd rfl (native a)
    case h_2 =>
      simp only [Typing.exec_bind, Typing.exec_registry, show r.get? d = none from unknown,
        show v.isEmpty = .ok true from content]
      cases drops <;> rfl
  simp only [call, DynamicBatch.ofValue, Typing.exec_bind]
  rcases ran : Typing.exec (typedArray d v drops) { registry := r } with ⟨result, after⟩
  rw [ran] at typed
  cases drops with
  | true => cases typed; rfl
  | false => cases typed; rfl

/-- An empty value of a component whose type is pinned gives no cells exactly if it clears the type.
Text and bytes give an instance where the type holds them, and everything else is inconsistent with the
type; while the same value is dropped, or refused as untyped, as long as there is no pin. -/
theorem call_empty (calls : List TypingCall) (native : c.IsNative)
    (content : c.value.isEmpty = .ok true) {t : RegisteredType}
    (pinned : (empty.run calls).get? c.descriptor = some t) :
    ((∃ a, ((empty.run calls).call c).1 = .ok ⟨c.descriptor, some a⟩ ∧ a.type = t.type ∧
        a.length = 0) ↔ c.value.Clears t.type) ∧
    (c.value.isLeaf → t.type.HoldsContent →
      ∃ a, ((empty.run calls).call c).1 = .ok ⟨c.descriptor, some a⟩ ∧ a.type = t.type ∧
        a.length = 1) ∧
    (¬c.value.Clears t.type → ¬(c.value.isLeaf ∧ t.type.HoldsContent) →
      ∃ cause, ((empty.run calls).call c).1 =
        .error (.error (.inconsistent c.descriptor t.type cause))) ∧
    ∀ r : TypeRegistry, r.get? c.descriptor = none →
      (r.call c).1 = if c.dropsUntyped then .ok ⟨c.descriptor, none⟩
        else .error (.error (.untyped c.descriptor)) := by
  have inferred := isInferred_of_pin pinned
  have typed {a : TypedArray} (done : (coerce c.value (some t.type)).result = .ok a) :
      a.type = t.type := type_coerce native inferred.isNative.cases done
  obtain ⟨cleared, held, refused⟩ := coerce_empty native content inferred
  have outcome := call_of_pinned native pinned
  refine ⟨⟨?exact, fun clears => ?clears⟩, fun leaf holds => ?held, fun other unheld => ?refused,
    fun r unknown => call_of_unpinned native content unknown⟩
  case exact =>
    rintro ⟨a, done, _, length⟩
    by_contra other
    rw [outcome] at done
    by_cases holds : c.value.isLeaf ∧ t.type.HoldsContent
    · obtain ⟨b, done', one⟩ := held holds.1 holds.2
      rw [done'] at done
      cases done
      omega
    · obtain ⟨cause, failed⟩ := refused other holds
      rw [failed] at done
      cases done
  case clears =>
    obtain ⟨a, done, no⟩ := cleared clears
    exact ⟨a, call_pinned native pinned done, typed done, no⟩
  case held =>
    obtain ⟨a, done, one⟩ := held leaf holds
    exact ⟨a, call_pinned native pinned done, typed done, one⟩
  case refused =>
    obtain ⟨cause, failed⟩ := refused other unheld
    rw [outcome, failed]
    exact ⟨cause, rfl⟩

theorem call_empty_rows :
    let c : TypingCall := ⟨{ component := "grid" },
      .tensor { bytes := [], native := .float .double, shape := [0, 3] }, true⟩
    let r := empty.run [⟨c.descriptor, .list [.list [.int 1, .int 2], .null], true⟩]
    r.get? c.descriptor = some ⟨some (.integer .int64), .listOf .int64⟩ ∧
      c.value.isEmpty = .ok true ∧
      ∃ a, (r.call c).1 = .ok ⟨c.descriptor, some a⟩ ∧ a.type = .listOf .int64 ∧ a.length = 0 := by
  intro c r
  have pinned : r.get? c.descriptor = some ⟨some (.integer .int64), .listOf .int64⟩ := by
    decide +kernel
  have clears : c.value.Clears (.listOf .int64) := ⟨⟨8, rfl, rfl, rfl⟩, .inr (by decide)⟩
  exact ⟨pinned, rfl, (call_empty [⟨c.descriptor, .list [.list [.int 1, .int 2], .null], true⟩]
    (c := c) nofun rfl pinned).1.2 clears⟩

/-- Text without content is dropped at first, but an instance once text is pinned; and so are two rows of
nothing, but an error once rows are. -/
theorem call_empty_text :
    let label : TypingCall := ⟨{ component := "label" }, .text "", true⟩
    let grid : TypingCall := ⟨{ component := "grid" },
      .tensor { bytes := [], native := .float .double, shape := [2, 0] }, true⟩
    let r := empty.run [⟨label.descriptor, .text "typed", true⟩,
      ⟨grid.descriptor, .list [.list [.int 1]], true⟩]
    (label.value.isEmpty = .ok true ∧ (empty.call label).1 = .ok ⟨label.descriptor, none⟩ ∧
      r.get? label.descriptor = some ⟨some .text, .utf8⟩ ∧
      ∃ a, (r.call label).1 = .ok ⟨label.descriptor, some a⟩ ∧ a.length = 1) ∧
    grid.value.isEmpty = .ok true ∧ (empty.call grid).1 = .ok ⟨grid.descriptor, none⟩ ∧
      r.get? grid.descriptor = some ⟨some (.integer .int64), .listOf .int64⟩ ∧
      ∃ cause, (r.call grid).1 =
        .error (.error (.inconsistent grid.descriptor (.listOf .int64) cause)) := by
  intro label grid r
  refine ⟨⟨rfl, by with_unfolding_all rfl, by decide +kernel, ?one⟩, rfl,
    by with_unfolding_all rfl, by decide +kernel, ?refused⟩
  case one => exact ⟨.flat (.texts .regular [some ""]), by with_unfolding_all rfl, rfl⟩
  case refused => exact ⟨_, by with_unfolding_all rfl⟩

end TypeRegistry

end EntityLog
