import EntityLog.Proofs.TypedArray.Rows
import EntityLog.Time.Column

namespace EntityLog.TimeColumn

theorem length_present {cells : List (Option Int)} (full : none ∉ cells) :
    (present cells).length = cells.length := by
  induction cells with
  | nil => rfl
  | cons cell cells ih =>
    cases cell with
    | none => exact absurd List.mem_cons_self full
    | some v =>
      have later : none ∉ cells := fun member => full (List.mem_cons_of_mem _ member)
      exact congrArg (· + 1) (ih later)

theorem length_scaled (unit : TimeUnit) (cells : List (Option Int)) :
    (scaled unit cells).length = (present cells).length :=
  List.length_map _

theorem none_notMem {cells : List (Option Int)} {elements : List Element}
    (are : elements = cells.map (·.elim .null .integer))
    (unmarked : ¬0 < (elements.map (!·.isNull)).countP (!·)) : none ∉ cells := by
  intro absent
  apply unmarked
  rw [are, List.countP_pos_iff]
  exact ⟨false, List.mem_map_of_mem (List.mem_map_of_mem absent), rfl⟩

theorem rowCount_read {name : TimelineName} {a : TypedArray} {c : TimeColumn}
    (h : read name a = .ok c) : c.rowCount = a.length := by
  unfold read at h
  split at h
  case isTrue => cases h
  case isFalse unmarked =>
    split at h
    case h_1 cells => cases h; exact length_present (none_notMem rfl unmarked)
    case h_2 cells => cases h; exact length_present (none_notMem rfl unmarked)
    case h_3 cells => cases h; exact length_present (none_notMem rfl unmarked)
    case h_4 cells =>
      split at h
      · cases h
      · cases h
        exact length_present (none_notMem rfl unmarked)
    case h_5 unit _ cells =>
      cases h
      exact (length_scaled unit cells).trans (length_present (none_notMem rfl unmarked))
    case h_6 unit cells =>
      cases h
      exact (length_scaled unit cells).trans (length_present (none_notMem rfl unmarked))
    case h_7 => cases h

end EntityLog.TimeColumn
