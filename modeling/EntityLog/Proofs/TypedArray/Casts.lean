import EntityLog.Proofs.Coercion.Types

namespace EntityLog

namespace FlatArray

variable {target : FlatType} {a : FlatArray}

theorem type_castBooleans {cells : List (Option Bool)} (h : castBooleans cells target = some (.ok a)) :
    a.type = target := by
  cases target with
  | integer _ | float _ | text _ => cases h; rfl
  | null | boolean | binary _ | fixedBinary _ | decimal _ _ | temporal _ => cases h

theorem type_textsToDecimals {precision scale : Int} {cells : List (Option String)}
    (h : textsToDecimals precision scale cells = .ok a) : a.type = .decimal precision scale := by
  unfold textsToDecimals at h
  split at h
  · cases h
  · split at h
    · cases h
    · exact type_toDecimals h

theorem type_textsToTimes {cells : List (Option String)} {target : TemporalType}
    (h : textsToTimes cells target = some (.ok a)) : a.type = .temporal target := by
  cases target with
  | date32 | date64 | time64 =>
    obtain ⟨_, _, rfl⟩ := map_eq_ok.1 (Option.some.inj h)
    rfl
  | timestamp unit zone =>
    obtain ⟨_, _, h⟩ := bind_eq_ok.1 (Option.some.inj h)
    obtain ⟨_, _, h⟩ := bind_eq_ok.1 h
    cases h
    rfl
  | duration _ => cases h

theorem type_castTexts {cells : List (Option String)} (h : castTexts cells target = some (.ok a)) :
    a.type = target := by
  cases target with
  | boolean | integer _ =>
    obtain ⟨_, _, rfl⟩ := map_eq_ok.1 (Option.some.inj h)
    rfl
  | float t =>
    cases t with
    | half => cases h
    | single | double =>
      obtain ⟨_, _, rfl⟩ := map_eq_ok.1 (Option.some.inj h)
      rfl
  | decimal _ _ => exact type_textsToDecimals (Option.some.inj h)
  | text _ | binary _ => cases h; rfl
  | temporal _ => exact type_textsToTimes h
  | null | fixedBinary _ => cases h

theorem type_binariesToTexts {layout : Layout} {margins : Margins}
    {cells : List (Option (List UInt8))} (h : binariesToTexts layout margins cells = .ok a) :
    a.type = .text layout := by
  unfold binariesToTexts at h
  dsimp only at h
  split at h
  · cases h
  · split at h <;> cases h
    rfl

theorem type_castBinaries {layout : Layout} {margins : Margins} {cells : List (Option (List UInt8))}
    (h : castBinaries layout margins cells target = some (.ok a)) : a.type = target := by
  unfold castBinaries at h
  split at h
  case h_1 =>
    split at h
    · obtain ⟨_, _, rfl⟩ := map_eq_ok.1 (reporting_eq_ok.1 (Option.some.inj h))
      rfl
    · exact type_binariesToTexts (reporting_eq_ok.1 (Option.some.inj h))
  case h_2 => exact type_binariesToTexts (reporting_eq_ok.1 (Option.some.inj h))
  case h_3 =>
    cases h
    rfl
  case h_4 =>
    split at h
    · cases h
    · unfold binariesToFixed at h
      split at h
      · cases h
      · split at h <;> cases h
        rfl
  case h_5 => cases h

theorem type_toTimestamps {unit : TimeUnit} {zone : Option String} {cells : List (Option Int)}
    (h : toTimestamps unit zone cells = .ok a) : a.type = .temporal (.timestamp unit zone) := by
  cases zone with
  | none => cases h; rfl
  | some name =>
    obtain ⟨_, _, rfl⟩ := map_eq_ok.1 h
    rfl

theorem type_timestampsToTimestamps {source target : TimeUnit} {sourceZone targetZone : Option String}
    {cells : List (Option Int)}
    (h : timestampsToTimestamps source target sourceZone targetZone cells = .ok a) :
    a.type = .temporal (.timestamp target targetZone) := by
  obtain ⟨_, _, h⟩ := bind_eq_ok.1 h
  cases sourceZone with
  | none => exact type_toTimestamps h
  | some _ => cases h; rfl

theorem type_datesToTimestamps {source target : TimeUnit} {factor : Int} {zone : Option String}
    {cells : List (Option Int)} (h : datesToTimestamps source target factor zone cells = .ok a) :
    a.type = .temporal (.timestamp target zone) := by
  obtain ⟨_, _, h⟩ := bind_eq_ok.1 h
  exact type_toTimestamps h

theorem type_castTimestamps {unit : TimeUnit} {zone : Option String} {cells : List (Option Int)}
    {target : TemporalType} (h : castTimestamps unit zone cells target = some (.ok a)) :
    a.type = .temporal target := by
  cases target with
  | timestamp _ _ => exact type_timestampsToTimestamps (Option.some.inj h)
  | date32 | date64 | time64 =>
    obtain ⟨_, _, rfl⟩ := map_eq_ok.1 (reporting_eq_ok.1 (Option.some.inj h))
    rfl
  | duration _ => cases h

theorem type_castDates32 {cells : List (Option Int)} {target : TemporalType}
    (h : castDates32 cells target = some (.ok a)) : a.type = .temporal target := by
  cases target with
  | date64 => cases h; rfl
  | timestamp _ _ => exact type_datesToTimestamps (Option.some.inj h)
  | date32 | time64 | duration _ => cases h

theorem type_castDates64 {cells : List (Option Int)} {target : TemporalType}
    (h : castDates64 cells target = some (.ok a)) : a.type = .temporal target := by
  cases target with
  | date32 => cases h; rfl
  | timestamp _ _ => exact type_datesToTimestamps (Option.some.inj h)
  | date64 | time64 | duration _ => cases h

theorem type_castBetweenTimes {source target : TemporalType} {cells : List (Option Int)}
    (h : castBetweenTimes source cells target = some (.ok a)) : a.type = .temporal target := by
  unfold castBetweenTimes at h
  split at h
  case isTrue same =>
    cases h
    exact congrArg FlatType.temporal same
  case isFalse =>
    split at h
    case h_1 => exact type_castTimestamps h
    case h_2 => exact type_castDates32 h
    case h_3 => exact type_castDates64 h
    case h_4 =>
      obtain ⟨_, _, rfl⟩ := map_eq_ok.1 (reporting_eq_ok.1 (Option.some.inj h))
      rfl
    case h_5 => cases h

theorem type_timesToNumbers {source : TemporalType} {cells : List (Option Int)}
    (h : timesToNumbers source cells target = some (.ok a)) : a.type = target := by
  unfold timesToNumbers at h
  split at h
  case h_12 => cases h
  all_goals first
    | exact type_castIntegers h
    | cases h; exact type_ofElements _ _

theorem type_castTimes {source : TemporalType} {cells : List (Option Int)}
    (h : castTimes source cells target = some (.ok a)) : a.type = target := by
  unfold castTimes at h
  split at h
  case h_1 =>
    obtain ⟨_, _, h⟩ := bind_eq_ok.1 (reporting_eq_ok.1 (Option.some.inj h))
    obtain ⟨_, _, h⟩ := bind_eq_ok.1 h
    cases h
    rfl
  case h_2 => exact type_castBetweenTimes h
  case h_3 =>
    obtain ⟨result, own, ok⟩ := Option.map_eq_some_iff.1 h
    exact type_timesToNumbers (own.trans (congrArg some (reporting_eq_ok.1 ok)))

theorem type_cast? {cells : FlatArray} (h : cells.cast? target = some (.ok a)) : a.type = target := by
  cases cells with
  | nulls n => cases h; exact type_ofElements _ _
  | booleans cells =>
    obtain ⟨result, own, ok⟩ := Option.map_eq_some_iff.1 h
    exact type_castBooleans (own.trans (congrArg some (reporting_eq_ok.1 ok)))
  | integers t cells => exact IsNumeric.type_cast? (.inl ⟨t, cells, rfl⟩) h
  | floats t cells => exact IsNumeric.type_cast? (.inr ⟨t, cells, rfl⟩) h
  | texts _ cells =>
    obtain ⟨result, own, ok⟩ := Option.map_eq_some_iff.1 h
    exact type_castTexts (own.trans (congrArg some (reporting_eq_ok.1 ok)))
  | binaries _ _ _ => exact type_castBinaries h
  | fixedBinaries _ _ =>
    cases target with
    | binary _ => cases h; rfl
    | null | boolean | integer _ | float _ | text _ | fixedBinary _ | decimal _ _ | temporal _ => cases h
  | decimals _ _ _ => cases h
  | temporals _ _ => exact type_castTimes h

end FlatArray

def DataType.StoresOnce : DataType → Prop
  | .dictionary _ _ | .runEnd _ _ => True
  | _ => False

/-- Lists of one size, cast to lists of the same items, keep the field that their items have. -/
def DataType.KeepsItem : DataType → DataType → Prop
  | .fixedList _ item, .list _ item' => item'.type = item.type ∧ item' ≠ item
  | .dictionary _ value, t => value.KeepsItem t
  | _, _ => False

theorem DataType.KeepsItem.exists_list {s t : DataType} (kept : s.KeepsItem t) :
    ∃ w item, t = .list w item := by
  match s with
  | .fixedList _ _ =>
    cases t with
    | list w item => exact ⟨w, item, rfl⟩
    | flat _ | fixedList _ _ | struct _ | union _ _ | map _ _ | dictionary _ _ | runEnd _ _ =>
      exact False.elim kept
  | .dictionary _ value => exact exists_list (s := value) kept
  | .flat _ | .list _ _ | .struct _ | .union _ _ | .map _ _ | .runEnd _ _ => exact False.elim kept

namespace TypedArray

variable {source a : TypedArray} {t : DataType}

theorem refuse_ne_ok : source.refuse t ≠ .ok a := nofun

theorem type_castInto {own : DataType → Option (CastResult TypedArray)} (apart : ¬t.StoresOnce)
    (h : castInto source own t = .ok a) : a.type = t ∨ own t = some (.ok a) := by
  unfold castInto at h
  dsimp only at h
  split at h
  case isTrue same =>
    cases h
    exact .inl same
  case isFalse =>
    split at h
    case h_1 result given => exact .inr (h ▸ given)
    case h_2 =>
      split at h
      case h_1 | h_2 => exact absurd trivial apart
      case h_3 =>
        obtain ⟨_, _, built⟩ := bind_eq_ok.1 h
        exact .inl (type_tryLists (reporting_eq_ok.1 built))
      case h_4 =>
        split at h
        case isTrue one =>
          obtain ⟨_, _, built⟩ := bind_eq_ok.1 h
          exact .inl (one ▸ type_tryFixedLists (reporting_eq_ok.1 built))
        case isFalse => exact absurd h refuse_ne_ok
      case h_5 => exact absurd h refuse_ne_ok

theorem type_castCells {cells : FlatArray} (h : source.castCells cells t = some (.ok a)) :
    a.type = t := by
  unfold castCells at h
  split at h
  case h_1 n t =>
    unfold castNulls at h
    split at h
    case h_1 | h_2 | h_3 | h_4 => cases h
    case h_5 =>
      have given := Option.some.inj h
      split at given <;> cases given
      exact type_ofElements _ _
  case h_2 t _ =>
    cases own : cells.cast? t with
    | none =>
      rw [own] at h
      exact absurd (Option.some.inj h) refuse_ne_ok
    | some result =>
      rw [own] at h
      obtain ⟨b, rfl, rfl⟩ := map_eq_ok.1 (Option.some.inj h)
      rw [type, FlatArray.type_cast? own]
  case h_3 => cases h

theorem type_tryStructs {fields : List Field} {valid : List Bool} {columns : List TypedArray}
    (h : tryStructs fields valid columns = .ok a) : a.type = .struct fields := by
  simp only [tryStructs, check_eq_ok] at h
  obtain ⟨_, _, h⟩ := h
  split at h <;> cases h
  rfl

theorem type_listsToTexts {layout : Layout} (h : source.listsToTexts layout = .ok a) :
    a.type = .text layout := by
  obtain ⟨_, _, h⟩ := bind_eq_ok.1 h
  obtain ⟨_, _, h⟩ := bind_eq_ok.1 h
  cases h
  rfl

theorem type_castFrom_flat {s : FlatType} (apart : ¬t.StoresOnce)
    (h : castFrom (.flat s) t source = .ok a) : a.type = t := by
  unfold castFrom at h
  split at h
  case h_1 => exact (type_castInto apart h).elim id type_castCells
  case h_2 => exact absurd h refuse_ne_ok

theorem type_castFrom_list {w : ListWidth} {item : Field} (apart : ¬t.StoresOnce)
    (h : castFrom (.list w item) t source = .ok a) : a.type = t := by
  obtain ⟨name, type, nullable, metadata⟩ := item
  unfold castFrom at h
  split at h
  case h_1 =>
    refine (type_castInto apart h).elim id fun own => ?_
    split at own
    case h_1 | h_2 => exact absurd trivial apart
    case h_3 =>
      obtain ⟨_, _, built⟩ := bind_eq_ok.1 (Option.some.inj own)
      exact type_tryLists (reporting_eq_ok.1 built)
    case h_4 =>
      obtain ⟨_, own⟩ := check_eq_ok.1 (Option.some.inj own)
      obtain ⟨_, _, own⟩ := bind_eq_ok.1 own
      obtain ⟨_, _, built⟩ := bind_eq_ok.1 own
      exact type_tryFixedLists (reporting_eq_ok.1 built)
    case h_5 | h_6 => exact type_listsToTexts (reporting_eq_ok.1 (Option.some.inj own))
    case h_7 => cases own
  case h_2 => exact absurd h refuse_ne_ok

theorem type_castFrom_struct {fields : List Field} (apart : ¬t.StoresOnce)
    (h : castFrom (.struct fields) t source = .ok a) : a.type = t := by
  unfold castFrom at h
  split at h
  case h_1 =>
    refine (type_castInto apart h).elim id fun own => ?_
    split at own
    case h_1 =>
      obtain ⟨_, _, built⟩ := bind_eq_ok.1 (Option.some.inj own)
      exact type_tryStructs (reporting_eq_ok.1 built)
    case h_2 => cases own
  case h_2 => exact absurd h refuse_ne_ok

theorem type_castFrom {s t : DataType} {source a : TypedArray} (apart : ¬t.StoresOnce)
    (same : ∀ w item, t = .list w item → source.type = s) (h : castFrom s t source = .ok a) :
    a.type = t ∨ s.KeepsItem t := by
  match s with
  | .flat _ => exact .inl (type_castFrom_flat apart h)
  | .list _ _ => exact .inl (type_castFrom_list apart h)
  | .struct _ => exact .inl (type_castFrom_struct apart h)
  | .fixedList size ⟨name, type, nullable, metadata⟩ =>
    unfold castFrom at h
    split at h
    case h_1 n item valid items =>
      rcases type_castInto apart h with type | own
      · exact .inl type
      split at own
      case h_1 | h_2 => exact absurd trivial apart
      case h_3 =>
        have own := Option.some.inj own
        split at own
        case isTrue one =>
          obtain ⟨_, _, built⟩ := bind_eq_ok.1 own
          exact .inl (one ▸ type_tryFixedLists (reporting_eq_ok.1 built))
        case isFalse => cases own
      case h_4 w item' =>
        have own := Option.some.inj own
        dsimp only at own
        split at own
        case isTrue kept =>
          cases own
          have whole := same w item' rfl
          rw [TypedArray.type, DataType.fixedList.injEq] at whole
          obtain ⟨_, rfl⟩ := whole
          by_cases alike : item' = ⟨name, type, nullable, metadata⟩
          · exact .inl (alike ▸ rfl)
          · exact .inr ⟨kept, alike⟩
        case isFalse =>
          obtain ⟨_, _, own⟩ := bind_eq_ok.1 own
          obtain ⟨_, _, own⟩ := bind_eq_ok.1 own
          cases own
          exact .inl rfl
      case h_5 list =>
        have own := Option.some.inj own
        split at own
        case isTrue =>
          have flat (w : ListWidth) (item : Field) (is : t = .list w item) : items.type = type :=
            absurd is (list w item)
          rcases type_castFrom apart flat own with type | kept
          · exact .inl type
          · obtain ⟨w, item, is⟩ := kept.exists_list
            exact absurd is (list w item)
        case isFalse => exact absurd own refuse_ne_ok
    case h_2 => exact absurd h refuse_ne_ok
  | .dictionary key value =>
    unfold castFrom at h
    split at h
    case h_1 key' keys values =>
      rcases type_castInto apart h with type | own
      · exact .inl type
      split at own
      case h_1 | h_2 => exact absurd trivial apart
      case h_3 =>
        obtain ⟨b, cast, rfl⟩ := map_eq_ok.1 (Option.some.inj own)
        rw [select, type_ofElements]
        have stored (w : ListWidth) (item : Field) (list : t = .list w item) : values.type = value := by
          have whole := same w item list
          rw [type, DataType.dictionary.injEq] at whole
          exact whole.2
        exact type_castFrom (s := value) apart stored cast
    case h_2 => exact absurd h refuse_ne_ok
  | .union _ _ | .map _ _ | .runEnd _ _ =>
    unfold castFrom at h
    split at h
    case isTrue is =>
      cases h
      exact .inl is
    case isFalse => exact absurd h refuse_ne_ok

theorem type_cast (apart : ¬t.StoresOnce) (h : source.cast t = .ok a) :
    a.type = t ∨ source.type.KeepsItem t :=
  type_castFrom apart (fun _ _ _ => rfl) h

example : (fixedLists 1 (.item .int64) [true] (flat (.integers .int64 [some 7]))).cast
      (.list .regular ⟨"count", .int64, true, []⟩) =
    .ok (lists .regular (.item .int64) 0 (.plain [1]) (flat (.integers .int64 [some 7]))) := by
  with_unfolding_all rfl

end TypedArray

end EntityLog
