import EntityLog.Coercion
import EntityLog.Proofs.TypedArray.EmptyArrays

namespace EntityLog

def DataType.innermost : DataType → DataType
  | .list _ ⟨_, t, _, _⟩ => t.innermost
  | .fixedList _ ⟨_, t, _, _⟩ => t.innermost
  | t => t

def DataType.IsNative (t : DataType) : Prop :=
  ∃ native, NativeType.ofType t = some native ∧ native.type = t.innermost

namespace DataType

theorem isNative_type (native : NativeType) : native.type.IsNative := by
  refine ⟨native, ?_, ?_⟩ <;> cases native <;> rfl

/-- A type that values have without a target: a native one, or lists of it to any depth. -/
inductive IsInferred : DataType → Prop
  | native (n : NativeType) : IsInferred n.type
  | listOf {t : DataType} : IsInferred t → IsInferred (listOf t)

theorem IsInferred.isNative {t : DataType} (h : t.IsInferred) : t.IsNative := by
  induction h with
  | native n => exact isNative_type n
  | listOf _ ih => exact ih

theorem IsNative.cases {t : DataType} (h : t.IsNative) :
    (∃ flat, t = .flat flat) ∨ t.isNested = true := by
  obtain ⟨native, known, _⟩ := h
  cases t with
  | flat flat => exact .inl ⟨flat, rfl⟩
  | list _ _ => exact .inr rfl
  | fixedList _ _ => exact .inr rfl
  | struct _ => cases known
  | union _ _ => cases known
  | map _ _ => cases known
  | dictionary _ _ => cases known
  | runEnd _ _ => cases known

end DataType

namespace FlatArray

theorem type_toDecimals {α : Type} {precision scale : Int} {convert : α → Except ArrayError Int}
    {cells : List (Option α)} {a : FlatArray}
    (h : toDecimals precision scale convert cells = .ok a) : a.type = .decimal precision scale := by
  simp only [toDecimals, bind_eq_ok, pure_eq_ok] at h
  obtain ⟨_, _, _, _, rfl⟩ := h
  rfl

theorem type_integersToDecimals {precision scale : Int} {cells : List (Option Int)} {a : FlatArray}
    (h : integersToDecimals precision scale cells = .ok a) : a.type = .decimal precision scale := by
  unfold integersToDecimals at h
  dsimp only at h
  by_cases fits : Fixed.holds (pow10 scale.natAbs)
  · rw [if_pos fits] at h
    exact type_toDecimals h
  · rw [if_neg fits] at h
    cases h

theorem type_integersToTimes {source : IntegerType} {cells : List (Option Int)}
    {target : TemporalType} {a : FlatArray}
    (h : integersToTimes source cells target = some (.ok a)) : a.type = .temporal target := by
  unfold integersToTimes at h
  split at h
  case h_1 | h_2 | h_6 =>
    obtain ⟨_, _, rfl⟩ := map_eq_ok.1 (Option.some.inj h)
    rfl
  case h_3 | h_4 | h_5 | h_7 =>
    cases h
    rfl
  case h_8 => cases h

theorem type_castIntegers {source : IntegerType} {cells : List (Option Int)} {target : FlatType}
    {a : FlatArray} (h : castIntegers source cells target = some (.ok a)) : a.type = target := by
  cases target with
  | boolean => cases h; rfl
  | integer t =>
    obtain ⟨_, _, rfl⟩ := map_eq_ok.1 (Option.some.inj h)
    rfl
  | float t => cases h; rfl
  | decimal p s => exact type_integersToDecimals (Option.some.inj h)
  | text l => cases h; rfl
  | binary l => cases l <;> cases h <;> rfl
  | temporal t => exact type_integersToTimes h
  | null => cases h
  | fixedBinary n => cases h

theorem type_castFloats {source : FloatType} {cells : List (Option Nat)} {target : FlatType}
    {a : FlatArray} (h : castFloats source cells target = some (.ok a)) : a.type = target := by
  cases target with
  | boolean => cases h; rfl
  | integer t =>
    obtain ⟨_, _, rfl⟩ := map_eq_ok.1 (Option.some.inj h)
    rfl
  | float t => cases h; rfl
  | decimal p s =>
    simp only [castFloats] at h
    split at h
    · cases h
    · exact type_toDecimals (Option.some.inj h)
  | text l => cases h; rfl
  | temporal t =>
    simp only [castFloats] at h
    split at h
    case h_1 | h_2 =>
      obtain ⟨_, _, rfl⟩ := map_eq_ok.1 (Option.some.inj h)
      rfl
    case h_3 => cases h
  | null => cases h
  | binary l => cases h
  | fixedBinary n => cases h

def IsNumeric (a : FlatArray) : Prop :=
  (∃ t cells, a = integers t cells) ∨ ∃ t cells, a = floats t cells

theorem IsNumeric.type_cast? {cells a : FlatArray} (numeric : cells.IsNumeric) {target : FlatType}
    (h : cells.cast? target = some (.ok a)) : a.type = target := by
  rcases numeric with ⟨t, ns, rfl⟩ | ⟨t, ns, rfl⟩
  · obtain ⟨result, own, ok⟩ := Option.map_eq_some_iff.1 h
    exact type_castIntegers (own.trans (congrArg some (reporting_eq_ok.1 ok)))
  · obtain ⟨result, own, ok⟩ := Option.map_eq_some_iff.1 h
    exact type_castFloats (own.trans (congrArg some (reporting_eq_ok.1 ok)))

theorem IsNumeric.castCells {cells : FlatArray} (numeric : cells.IsNumeric) (source : TypedArray)
    (target : FlatType) : source.castCells cells (.flat target) =
      some ((cells.cast? target).elim (source.refuse (.flat target)) (.flat <$> ·)) := by
  rcases numeric with ⟨t, ns, rfl⟩ | ⟨t, ns, rfl⟩ <;> rfl

end FlatArray

namespace TypedArray

theorem type_cast_numeric {cells : FlatArray} (numeric : cells.IsNumeric) {target : FlatType}
    {a : TypedArray} (h : (flat cells).cast (.flat target) = .ok a) : a.type = .flat target := by
  rw [cast, type, castFrom] at h
  unfold castInto at h
  dsimp only at h
  split at h
  · cases h
    assumption
  · rw [numeric.castCells] at h
    cases own : cells.cast? target with
    | none => simp [own, refuse] at h
    | some result =>
      simp only [own, Option.elim_some, map_eq_ok] at h
      obtain ⟨b, rfl, rfl⟩ := h
      rw [type, numeric.type_cast? own]

end TypedArray

theorem type_buildFlat {values : List Value} {t : FlatType} {a : FlatArray}
    (h : buildFlat values t = .ok a) : a.type = t := by
  unfold buildFlat at h
  split at h
  case h_9 => cases h
  all_goals
    obtain ⟨_, _, rfl⟩ := map_eq_ok.1 h
    rfl

theorem buildArray_list_eq_ok {values : List Value} {w : ListWidth} {item : Field} {a : TypedArray} :
    buildArray values (.list w item) = .ok a ↔ ∃ slots children items,
      splitLists none values = .ok (slots, children) ∧
      checkLengths w (slots.map Slot.length) = .ok () ∧
      buildArray children item.type = .ok items ∧
      checkBounds w (slots.map Slot.length) = .ok () ∧
      TypedArray.tryLists w item 0 (slots.map Slot.length) (maskOf (slots.map Slot.valid)) items =
        .ok a := by
  obtain ⟨name, type, nullable, metadata⟩ := item
  rw [buildArray]
  simp only [bind_eq_ok, mapError_eq_ok, Prod.exists]
  constructor
  · rintro ⟨slots, children, split, ⟨⟩, lengths, items, built, ⟨⟩, bounds, lists⟩
    exact ⟨slots, children, items, split, lengths, built, bounds, lists⟩
  · rintro ⟨slots, children, items, split, lengths, built, bounds, lists⟩
    exact ⟨slots, children, split, ⟨⟩, lengths, items, built, ⟨⟩, bounds, lists⟩

theorem buildArray_fixedList_eq_ok {values : List Value} {size : Int} {item : Field}
    {a : TypedArray} :
    buildArray values (.fixedList size item) = .ok a ↔ ∃ slots children items,
      0 ≤ size ∧
      splitLists (some size.toNat) values = .ok (slots, children) ∧
      buildArray children item.type = .ok items ∧
      TypedArray.tryFixedLists size item (maskOf (slots.map Slot.valid)) items = .ok a := by
  obtain ⟨name, type, nullable, metadata⟩ := item
  rw [buildArray]
  simp only [check_eq_ok, bind_eq_ok, mapError_eq_ok, Prod.exists, Int.not_lt]
  constructor
  · rintro ⟨nonneg, slots, children, split, items, built, lists⟩
    exact ⟨slots, children, items, nonneg, split, built, lists⟩
  · rintro ⟨slots, children, items, nonneg, split, built, lists⟩
    exact ⟨nonneg, slots, children, split, items, built, lists⟩

theorem type_buildArray {values : List Value} {t : DataType} {a : TypedArray}
    (h : buildArray values t = .ok a) : a.type = t := by
  cases t with
  | flat t =>
    rw [buildArray] at h
    obtain ⟨cells, built, rfl⟩ := map_eq_ok.1 h
    rw [TypedArray.type, type_buildFlat built]
  | list w item =>
    obtain ⟨_, _, _, _, _, _, _, lists⟩ := buildArray_list_eq_ok.1 h
    exact TypedArray.type_tryLists lists
  | fixedList size item =>
    obtain ⟨_, _, _, _, _, _, lists⟩ := buildArray_fixedList_eq_ok.1 h
    exact TypedArray.type_tryFixedLists lists
  | struct _ => cases h
  | union _ _ => cases h
  | map _ _ => cases h
  | dictionary _ _ => cases h
  | runEnd _ _ => cases h

@[simp] theorem convertError_eq_ok {α : Type} {target : Option DataType}
    {result : Except (Failure Refusal) α} {a : α} :
    convertError target result = .ok a ↔ result = .ok a :=
  mapError_eq_ok

theorem Tensor.isNumeric_flatArray {t : Tensor} {cells : FlatArray} (h : t.flatArray = .ok cells) :
    cells.IsNumeric := by
  obtain ⟨patterns, _, built⟩ := bind_eq_ok.1 h
  split at built
  case h_1 type _ =>
    cases built
    exact .inl ⟨type, _, rfl⟩
  case h_2 type _ =>
    cases built
    exact .inr ⟨type, _, rfl⟩
  case h_3 => cases built

theorem Inferred.isInferred_type {found : Inferred} {t : DataType} (h : found.type = .ok t) :
    t.IsInferred := by
  induction found generalizing t with
  | unknown => cases h
  | numeric kind =>
    cases kind with
    | bool => cases h; exact .native .boolean
    | int => cases h; exact .native (.integer .int64)
    | uint => cases h; exact .native (.integer .uint64)
    | float => cases h; exact .native (.float .double)
  | text => cases h; exact .native .text
  | bytes => cases h; exact .native .binary
  | list items ih =>
    obtain ⟨inner, known, rfl⟩ := map_eq_ok.1 h
    exact .listOf (ih known)

theorem isInferred_inferType {values : List Value} {t : DataType} (h : inferType values = .ok t) :
    t.IsInferred := by
  obtain ⟨_, _, known⟩ := bind_eq_ok.1 h
  exact Inferred.isInferred_type known

namespace Strategy

theorem type_fromTensor {value : Value} {t : DataType} {a : TypedArray}
    (h : fromTensor value (some t) = .ok a) (shape : (∃ flat, t = .flat flat) ∨ t.isNested = true) :
    a.type = t := by
  unfold fromTensor at h
  split at h
  case h_1 tensor =>
    obtain ⟨cells, read, h⟩ := bind_eq_ok.1 h
    have numeric := Tensor.isNumeric_flatArray (convertError_eq_ok.1 read)
    dsimp only at h
    split at h
    case isTrue same =>
      cases h
      exact same
    case isFalse =>
      split at h
      case isTrue => cases h
      case isFalse flat =>
        obtain ⟨flat, rfl⟩ := shape.resolve_right flat
        exact TypedArray.type_cast_numeric numeric (mapError_eq_ok.1 h)
  case h_2 => cases h

theorem isInferred_fromTensor {value : Value} {a : TypedArray} (h : fromTensor value none = .ok a) :
    a.type.IsInferred := by
  unfold fromTensor at h
  split at h
  case h_1 tensor =>
    obtain ⟨cells, read, h⟩ := bind_eq_ok.1 h
    cases h
    rcases Tensor.isNumeric_flatArray (convertError_eq_ok.1 read) with ⟨t, ns, rfl⟩ | ⟨t, ns, rfl⟩
    · exact .native (.integer t)
    · exact .native (.float t)
  case h_2 => cases h

theorem type_fromText {value : Value} {t : DataType} {a : TypedArray}
    (h : fromText value (some t) = .ok a) : a.type = t := by
  unfold fromText at h
  split at h
  case h_1 none | h_6 none => cases none
  case h_2 same | h_3 same | h_4 same | h_5 same | h_7 same | h_8 same =>
    cases same
    cases h
    rfl
  case h_9 same | h_10 same =>
    cases same
    obtain ⟨_, _, h⟩ := bind_eq_ok.1 h
    cases h
    rfl
  case h_11 | h_12 | h_13 => cases h

theorem isInferred_fromText {value : Value} {a : TypedArray} (h : fromText value none = .ok a) :
    a.type.IsInferred := by
  cases value with
  | text s => cases h; exact .native .text
  | bytes b => cases h; exact .native .binary
  | null | bool _ | int _ | uint _ | float _ | list _ | tensor _ | array _ => cases h

theorem isInferred_scalarType {value : Value} {t : DataType} (h : scalarType value = some t) :
    t.IsInferred := by
  cases value with
  | bool _ => cases h; exact .native .boolean
  | int _ => cases h; exact .native (.integer .int64)
  | uint _ => cases h; exact .native (.integer .uint64)
  | float _ => cases h; exact .native (.float .double)
  | null | text _ | bytes _ | list _ | tensor _ | array _ => cases h

theorem fromScalar_eq_ok {value : Value} {target : Option DataType} {a : TypedArray} :
    fromScalar value target = .ok a ↔
      ∃ own, scalarType value = some own ∧ buildArray [value] (target.getD own) = .ok a := by
  unfold fromScalar
  cases scalarType value <;> simp

theorem type_run {strategy : Strategy} {value : Value} {t : DataType} {a : TypedArray}
    (h : strategy.run value (some t) = .ok a)
    (shape : (∃ flat, t = .flat flat) ∨ t.isNested = true) : a.type = t := by
  cases strategy with
  | tensor => exact type_fromTensor h shape
  | text => exact type_fromText h
  | scalar =>
    obtain ⟨_, _, built⟩ := fromScalar_eq_ok.1 h
    exact type_buildArray built

theorem isInferred_run {strategy : Strategy} {value : Value} {a : TypedArray}
    (h : strategy.run value none = .ok a) : a.type.IsInferred := by
  cases strategy with
  | tensor => exact isInferred_fromTensor h
  | text => exact isInferred_fromText h
  | scalar =>
    obtain ⟨own, scalar, built⟩ := fromScalar_eq_ok.1 h
    rw [type_buildArray built]
    exact isInferred_scalarType scalar

end Strategy

theorem fromItems_eq_ok {value : Value} {target : Option DataType} {a : TypedArray} :
    fromItems value target = .ok a ↔ ∃ items t,
      itemsOf value target = .ok items ∧
      target.elim (inferType items) .ok = .ok t ∧
      buildArray items t = .ok a := by
  cases target <;> simp [fromItems, bind_eq_ok]

theorem tryStrategies_eq_ok {value : Value} {target : Option DataType} {strategies : List Strategy}
    {a : TypedArray} (h : (tryStrategies value target strategies).result = .ok a) :
    (∃ strategy ∈ strategies, strategy.run value target = .ok a) ∨ fromItems value target = .ok a := by
  induction strategies with
  | nil => exact .inr h
  | cons strategy strategies ih =>
    rw [tryStrategies] at h
    split at h
    · rcases ih h with ⟨later, member, done⟩ | last
      · exact .inl ⟨later, List.mem_cons_of_mem strategy member, done⟩
      · exact .inr last
    · exact .inl ⟨strategy, List.mem_cons_self, h⟩

theorem TypedArray.type_emptyDeep {t : DataType} {a : TypedArray} (h : emptyDeep t = .ok a) :
    a.type = t := by
  rw [eq_empty_of_emptyDeep h]
  exact type_ofElements [] t

theorem coerce_some_eq {value : Value} (native : ∀ array, value ≠ .array array) (t : DataType) :
    coerce value (some t) =
      if value.isNothing then ⟨[], (TypedArray.emptyDeep t).mapError .fault⟩
      else tryStrategies value (some t) [.tensor, .text, .scalar] := by
  cases value with
  | array a => exact absurd rfl (native a)
  | null | bool _ | int _ | uint _ | float _ | text _ | bytes _ | list _ | tensor _ => rfl

theorem coerce_none_eq {value : Value} (native : ∀ array, value ≠ .array array) :
    coerce value none = tryStrategies value none [.tensor, .text, .scalar] := by
  cases value with
  | array a => exact absurd rfl (native a)
  | null | bool _ | int _ | uint _ | float _ | text _ | bytes _ | list _ | tensor _ => rfl

theorem type_coerce {value : Value} {t : DataType} {a : TypedArray}
    (native : ∀ array, value ≠ .array array) (shape : (∃ flat, t = .flat flat) ∨ t.isNested = true)
    (h : (coerce value (some t)).result = .ok a) : a.type = t := by
  rw [coerce_some_eq native] at h
  split at h
  · exact TypedArray.type_emptyDeep (mapError_eq_ok.1 h)
  · rcases tryStrategies_eq_ok h with ⟨_, _, done⟩ | last
    · exact Strategy.type_run done shape
    · obtain ⟨_, _, _, known, built⟩ := fromItems_eq_ok.1 last
      cases known
      exact type_buildArray built

theorem isInferred_coerce {value : Value} {a : TypedArray} (native : ∀ array, value ≠ .array array)
    (h : (coerce value none).result = .ok a) : a.type.IsInferred := by
  rw [coerce_none_eq native] at h
  rcases tryStrategies_eq_ok h with ⟨_, _, done⟩ | last
  · exact Strategy.isInferred_run done
  · obtain ⟨items, t, _, known, built⟩ := fromItems_eq_ok.1 last
    rw [type_buildArray built]
    exact isInferred_inferType known

end EntityLog
