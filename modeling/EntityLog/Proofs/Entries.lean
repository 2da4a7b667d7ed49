import EntityLog.Entries
import Mathlib.Data.List.Dedup
import Mathlib.Data.List.Induction

namespace EntityLog.Entries

variable {κ α : Type} [DecidableEq κ]

theorem mem_of_get? {key : κ} {value : α} {entries : Entries κ α}
    (h : get? key entries = some value) : (key, value) ∈ entries := by
  induction entries with
  | nil => cases h
  | cons entry rest ih =>
    obtain ⟨k, v⟩ := entry
    rw [get?] at h
    split at h
    case isTrue same =>
      cases h
      exact same ▸ List.mem_cons_self
    case isFalse => exact List.mem_cons_of_mem _ (ih h)

theorem mem_put {key : κ} {value : α} {entries : Entries κ α} {entry : κ × α}
    (h : entry ∈ put key value entries) : entry ∈ entries ∨ entry = (key, value) := by
  induction entries with
  | nil => exact .inr (List.mem_singleton.1 h)
  | cons first rest ih =>
    obtain ⟨k, v⟩ := first
    rw [put] at h
    split at h
    case isTrue same =>
      rcases List.mem_cons.1 h with here | later
      · exact .inr (same ▸ here)
      · exact .inl (List.mem_cons_of_mem _ later)
    case isFalse =>
      rcases List.mem_cons.1 h with rfl | later
      · exact .inl List.mem_cons_self
      · exact (ih later).imp_left (List.mem_cons_of_mem _)

theorem get?_eq_none {key : κ} {entries : Entries κ α} :
    get? key entries = none ↔ ∀ entry ∈ entries, entry.1 ≠ key := by
  induction entries with
  | nil => simp [get?]
  | cons entry rest ih =>
    obtain ⟨k, v⟩ := entry
    by_cases same : k = key <;> simp [get?, same, ih]

theorem put_of_get?_eq_none {key : κ} {entries : Entries κ α} (h : get? key entries = none)
    (value : α) : put key value entries = entries ++ [(key, value)] := by
  induction entries with
  | nil => rfl
  | cons entry rest ih =>
    obtain ⟨k, v⟩ := entry
    rw [get?] at h
    split at h
    case isTrue => cases h
    case isFalse other => rw [put, if_neg other, ih h, List.cons_append]

theorem get?_isSome {key : κ} {entries : Entries κ α} :
    (get? key entries).isSome ↔ key ∈ entries.keys := by
  induction entries with
  | nil => simp [get?, keys]
  | cons entry rest ih =>
    obtain ⟨k, v⟩ := entry
    rw [get?, keys, List.map_cons, List.mem_cons]
    by_cases same : k = key
    · rw [if_pos same]
      exact ⟨fun _ => .inl same.symm, fun _ => rfl⟩
    · rw [if_neg same, ih]
      exact ⟨.inr, fun known => known.resolve_left (Ne.symm same)⟩

theorem get?_of_mem {key : κ} {entries : Entries κ α} (known : key ∈ entries.keys) :
    ∃ value, get? key entries = some value :=
  Option.isSome_iff_exists.1 (get?_isSome.2 known)

theorem get?_of_notMem {key : κ} {entries : Entries κ α} (new : key ∉ entries.keys) :
    get? key entries = none := by
  rwa [← get?_isSome, Option.not_isSome_iff_eq_none] at new

theorem put_put (key : κ) (first value : α) (entries : Entries κ α) :
    put key value (put key first entries) = put key value entries := by
  induction entries with
  | nil => simp [put]
  | cons entry rest ih =>
    obtain ⟨k, v⟩ := entry
    by_cases same : k = key <;> simp [put, same, ih]

theorem get?_map {f : κ → α} {key : κ} {order : List κ} :
    get? key (order.map fun k => (k, f k)) = if key ∈ order then some (f key) else none := by
  induction order with
  | nil => rfl
  | cons k order ih =>
    rw [List.map_cons, get?, ih]
    by_cases same : k = key
    · rw [if_pos same, same, if_pos List.mem_cons_self]
    · simp [same, Ne.symm same]

theorem put_map {f : κ → α} {key : κ} {order : List κ} (distinct : order.Nodup) (value : α) :
    put key value (order.map fun k => (k, f k)) =
      (if key ∈ order then order else order ++ [key]).map
        fun k => (k, if k = key then value else f k) := by
  induction order with
  | nil => simp [put]
  | cons k order ih =>
    obtain ⟨new, later⟩ := List.nodup_cons.1 distinct
    rw [List.map_cons, put]
    by_cases same : k = key
    · subst same
      have others : ∀ j ∈ order, (j, f j) = (j, if j = k then value else f j) := by
        intro j member
        have other : j ≠ k := fun same => new (same ▸ member)
        rw [if_neg other]
      rw [if_pos rfl, if_pos List.mem_cons_self, List.map_cons, if_pos rfl,
        List.map_congr_left others]
    · rw [if_neg same, ih later]
      by_cases known : key ∈ order <;> simp [known, same, Ne.symm same]

theorem keys_put (key : κ) (value : α) (entries : Entries κ α) :
    (put key value entries).keys =
      if key ∈ entries.keys then entries.keys else entries.keys ++ [key] := by
  induction entries with
  | nil => rfl
  | cons entry rest ih =>
    obtain ⟨k, v⟩ := entry
    simp only [keys] at ih ⊢
    by_cases same : k = key
    · simp [put, same]
    · by_cases known : key ∈ rest.map (·.1) <;> simp [put, same, Ne.symm same, ih, known]

theorem map_some_values {entries : Entries κ α} (distinct : entries.keys.Nodup) :
    entries.values.map some = entries.keys.map (get? · entries) := by
  induction entries with
  | nil => rfl
  | cons entry rest ih =>
    obtain ⟨k, v⟩ := entry
    obtain ⟨new, later⟩ := List.nodup_cons.1 distinct
    have here : get? k ((k, v) :: rest) = some v := if_pos rfl
    have others : (keys rest).map (get? · ((k, v) :: rest)) = (keys rest).map (get? · rest) := by
      refine List.map_congr_left fun key member => if_neg ?_
      rintro rfl
      exact new member
    change some v :: (values rest).map some =
      get? k ((k, v) :: rest) :: (keys rest).map (get? · ((k, v) :: rest))
    rw [here, others, ih later]

theorem get?_eq_some {key : κ} {value : α} {entries : Entries κ α} (distinct : entries.keys.Nodup) :
    get? key entries = some value ↔ (key, value) ∈ entries := by
  refine ⟨mem_of_get?, fun member => ?_⟩
  induction entries with
  | nil => cases member
  | cons entry rest ih =>
    obtain ⟨k, v⟩ := entry
    obtain ⟨new, later⟩ := List.nodup_cons.1 distinct
    rcases List.mem_cons.1 member with here | member
    · cases here
      exact if_pos rfl
    · have other : k ≠ key := by
        rintro rfl
        exact new (List.mem_map.2 ⟨_, member, rfl⟩)
      rw [get?, if_neg other, ih later member]

theorem get?_perm {entries others : Entries κ α} (same : entries.Perm others)
    (distinct : entries.keys.Nodup) (key : κ) : get? key entries = get? key others := by
  have distinct' : others.keys.Nodup := (same.map _).nodup_iff.1 distinct
  refine Option.ext fun value => ?_
  rw [get?_eq_some distinct, get?_eq_some distinct', same.mem_iff]

section

variable {key : String} {value : α} {entries : Entries String α} {pairs : List (String × α)}

theorem mem_keys_insert {k : String} :
    k ∈ (insert key value entries).keys ↔ k = key ∨ k ∈ entries.keys := by
  rw [← get?_isSome, ← get?_isSome, get?_insert]
  by_cases same : k = key <;> simp [same]

theorem mem_insert {entry : String × α} (member : entry ∈ insert key value entries) :
    entry = (key, value) ∨ entry ∈ entries := by
  induction entries with
  | nil => exact .inl (List.mem_singleton.1 member)
  | cons first rest ih =>
    obtain ⟨k, v⟩ := first
    rw [insert] at member
    split at member
    case isTrue => exact List.mem_cons.1 member
    case isFalse =>
      split at member
      case isTrue => exact (List.mem_cons.1 member).imp_right (List.mem_cons_of_mem _)
      case isFalse =>
        rcases List.mem_cons.1 member with rfl | later
        · exact .inr List.mem_cons_self
        · exact (ih later).imp_right (List.mem_cons_of_mem _)

theorem pairwise_insert (sorted : entries.keys.Pairwise (· < ·)) (key : String) (value : α) :
    (insert key value entries).keys.Pairwise (· < ·) := by
  induction entries with
  | nil => exact List.pairwise_singleton _ _
  | cons first rest ih =>
    obtain ⟨k, v⟩ := first
    obtain ⟨least, later⟩ := List.pairwise_cons.1 sorted
    rw [insert]
    split
    case isTrue less =>
      refine List.pairwise_cons.2 ⟨?_, sorted⟩
      exact List.forall_mem_cons.2 ⟨less, fun other member => String.lt_trans less (least other member)⟩
    case isFalse notLess =>
      split
      case isTrue same => exact same ▸ sorted
      case isFalse different =>
        refine List.pairwise_cons.2 ⟨fun other member => ?_, ih later⟩
        rcases mem_keys_insert.1 member with rfl | member
        · exact Std.lt_of_le_of_ne (String.not_lt.1 notLess) (Ne.symm different)
        · exact least other member

theorem ofList_concat (pairs : List (String × α)) (pair : String × α) :
    ofList (pairs ++ [pair]) = insert pair.1 pair.2 (ofList pairs) :=
  List.foldl_append

theorem pairwise_ofList (pairs : List (String × α)) : (ofList pairs).keys.Pairwise (· < ·) := by
  induction pairs using List.reverseRecOn with
  | nil => exact .nil
  | append_singleton pairs pair ih => exact ofList_concat pairs pair ▸ pairwise_insert ih pair.1 pair.2

theorem mem_ofList {pair : String × α} (member : pair ∈ ofList pairs) : pair ∈ pairs := by
  induction pairs using List.reverseRecOn with
  | nil => cases member
  | append_singleton pairs last ih =>
    rw [ofList_concat] at member
    refine List.mem_append.2 ((mem_insert member).symm.imp ih fun same => ?_)
    exact List.mem_singleton.2 same

theorem mem_keys_ofList {k : String} : k ∈ (ofList pairs).keys ↔ k ∈ keys pairs := by
  induction pairs using List.reverseRecOn with
  | nil => rfl
  | append_singleton pairs last ih =>
    rw [ofList_concat, mem_keys_insert, ih, keys, keys, List.map_append, List.mem_append, or_comm,
      List.map_singleton, List.mem_singleton]

theorem length_ofList : (ofList pairs).length = pairs.length ↔ (keys pairs).Nodup := by
  have distinct : (ofList pairs).keys.Nodup := (pairwise_ofList pairs).nodup
  have alike : (ofList pairs).keys.Perm (keys pairs).dedup :=
    (List.perm_ext_iff_of_nodup distinct (List.nodup_dedup _)).2 fun k => by
      rw [mem_keys_ofList, List.mem_dedup]
  have count := alike.length_eq
  rw [keys, List.length_map] at count
  rw [count, ← List.dedup_eq_self]
  constructor
  · intro all
    exact (List.dedup_sublist _).eq_of_length (all.trans (List.length_map _).symm)
  · intro same
    rw [same, keys, List.length_map]

end

end EntityLog.Entries

namespace EntityLog

theorem eraseDups_concat {α : Type} [DecidableEq α] (values : List α) (a : α) :
    (values ++ [a]).eraseDups = values.eraseDups ++ if a ∈ values then [] else [a] := by
  rw [List.eraseDups_append]
  by_cases known : a ∈ values <;> simp [List.removeAll, known, List.eraseDups_cons]

theorem nodup_eraseDups {α : Type} [DecidableEq α] (values : List α) : values.eraseDups.Nodup := by
  induction values using List.reverseRecOn with
  | nil => exact List.nodup_nil
  | append_singleton values a ih =>
    rw [eraseDups_concat]
    by_cases known : a ∈ values <;> simp [known, ih, List.nodup_append, List.mem_eraseDups]
    rintro b member rfl
    exact known member

theorem Entries.keys_foldl_put {κ α : Type} [DecidableEq κ] (key : α → κ) (values : List α) :
    (values.foldl (fun entries a => put (key a) a entries) []).keys = (values.map key).eraseDups := by
  induction values using List.reverseRecOn with
  | nil => rfl
  | append_singleton values a ih =>
    rw [List.foldl_append, List.foldl_cons, List.foldl_nil, keys_put, ih, List.map_append,
      List.map_singleton, eraseDups_concat]
    by_cases known : key a ∈ values.map key <;> simp [List.mem_eraseDups, known]

theorem Entries.get?_foldl_put {κ α : Type} [DecidableEq κ] (key : α → κ) (k : κ) (values : List α) :
    get? k (values.foldl (fun entries a => put (key a) a entries) []) =
      (values.filter (key · = k)).getLast? := by
  induction values using List.reverseRecOn with
  | nil => rfl
  | append_singleton values a ih =>
    rw [List.foldl_append, List.foldl_cons, List.foldl_nil, get?_put, ih, List.filter_append]
    by_cases same : key a = k
    · simp [same]
    · simp [same, Ne.symm same]

section

variable {κ α β : Type} [DecidableEq κ]

/-- Of the values with one key the first, unless the key was seen before. -/
def firstsBy (key : α → κ) (seen : List κ) : List α → List α
  | [] => []
  | a :: rest =>
    if key a ∈ seen then firstsBy key seen rest else a :: firstsBy key (seen ++ [key a]) rest

def repeatsBy (key : α → κ) (seen : List κ) : List α → List α
  | [] => []
  | a :: rest =>
    if key a ∈ seen then a :: repeatsBy key seen rest else repeatsBy key (seen ++ [key a]) rest

variable {key : α → κ} {seen : List κ} {values : List α}

theorem mem_firstsBy_or_repeatsBy {a : α} (member : a ∈ values) :
    a ∈ firstsBy key seen values ∨ a ∈ repeatsBy key seen values := by
  induction values generalizing seen with
  | nil => cases member
  | cons first values ih =>
    rw [firstsBy, repeatsBy]
    by_cases known : key first ∈ seen
    · rw [if_pos known, if_pos known]
      rcases List.mem_cons.1 member with rfl | later
      · exact .inr List.mem_cons_self
      · exact (ih later).imp_right (List.mem_cons_of_mem _)
    · rw [if_neg known, if_neg known]
      rcases List.mem_cons.1 member with rfl | later
      · exact .inl List.mem_cons_self
      · exact (ih later).imp_left (List.mem_cons_of_mem _)

theorem firstsBy_eq_nil : firstsBy key [] values = [] ↔ values = [] := by
  cases values <;> simp [firstsBy]

theorem firstsBy_map (key : β → κ) (seen : List κ) (f : α → β) (values : List α) :
    firstsBy key seen (values.map f) = (firstsBy (fun a => key (f a)) seen values).map f := by
  induction values generalizing seen with
  | nil => rfl
  | cons a values ih =>
    rw [List.map_cons, firstsBy, firstsBy, ih, ih]
    split <;> rfl

theorem repeatsBy_map (key : β → κ) (seen : List κ) (f : α → β) (values : List α) :
    repeatsBy key seen (values.map f) = (repeatsBy (fun a => key (f a)) seen values).map f := by
  induction values generalizing seen with
  | nil => rfl
  | cons a values ih =>
    rw [List.map_cons, repeatsBy, repeatsBy, ih, ih]
    split <;> rfl

theorem firstsBy_eq_self (distinct : (values.map key).Nodup) (new : ∀ a ∈ values, key a ∉ seen) :
    firstsBy key seen values = values := by
  induction values generalizing seen with
  | nil => rfl
  | cons a values ih =>
    obtain ⟨own, later⟩ := List.nodup_cons.1 distinct
    obtain ⟨here, others⟩ := List.forall_mem_cons.1 new
    rw [firstsBy, if_neg here, ih later]
    intro b member known
    rcases List.mem_append.1 known with before | same
    · exact others b member before
    · exact own (List.mem_singleton.1 same ▸ List.mem_map_of_mem member)

theorem repeatsBy_eq_nil (distinct : (values.map key).Nodup) (new : ∀ a ∈ values, key a ∉ seen) :
    repeatsBy key seen values = [] := by
  induction values generalizing seen with
  | nil => rfl
  | cons a values ih =>
    obtain ⟨own, later⟩ := List.nodup_cons.1 distinct
    obtain ⟨here, others⟩ := List.forall_mem_cons.1 new
    rw [repeatsBy, if_neg here]
    apply ih later
    intro b member known
    rcases List.mem_append.1 known with before | same
    · exact others b member before
    · exact own (List.mem_singleton.1 same ▸ List.mem_map_of_mem member)

theorem mem_map_firstsBy {k : κ} :
    k ∈ (firstsBy key seen values).map key ↔ k ∈ values.map key ∧ k ∉ seen := by
  induction values generalizing seen with
  | nil => simp [firstsBy]
  | cons a values ih =>
    rw [firstsBy]
    by_cases known : key a ∈ seen
    · rw [if_pos known, ih, List.map_cons, List.mem_cons]
      constructor
      · exact fun both => ⟨.inr both.1, both.2⟩
      · rintro ⟨rfl | later, new⟩
        · exact absurd known new
        · exact ⟨later, new⟩
    · rw [if_neg known, List.map_cons, List.map_cons, List.mem_cons, List.mem_cons, ih,
        List.mem_append, List.mem_singleton]
      by_cases same : k = key a
      · simp [same, known]
      · simp [same]

theorem foldl_firstsBy {σ τ : Type} {step : σ → α → σ} {value : α → β} {tell : α → τ} {P : σ → Prop}
    (kept : σ → Entries κ β) (told : σ → List τ)
    (each : ∀ s, P s → ∀ a ∈ values, P (step s a) ∧
      (key a ∈ (kept s).keys → kept (step s a) = kept s ∧ told (step s a) = told s ++ [tell a]) ∧
      (key a ∉ (kept s).keys →
        kept (step s a) = kept s ++ [(key a, value a)] ∧ told (step s a) = told s))
    {s : σ} (holds : P s) :
    P (values.foldl step s) ∧
      kept (values.foldl step s) =
        kept s ++ (firstsBy key (kept s).keys values).map (fun a => (key a, value a)) ∧
      told (values.foldl step s) =
        told s ++ (repeatsBy key (kept s).keys values).map tell := by
  induction values generalizing s with
  | nil => exact ⟨holds, (List.append_nil _).symm, (List.append_nil _).symm⟩
  | cons a values ih =>
    obtain ⟨holdsNext, again, new⟩ := each s holds a List.mem_cons_self
    obtain ⟨all, keptAll, toldAll⟩ :=
      ih (fun s holds b member => each s holds b (List.mem_cons_of_mem a member)) holdsNext
    refine ⟨all, keptAll.trans ?_, toldAll.trans ?_⟩
    · rw [firstsBy]
      by_cases known : key a ∈ (kept s).keys
      · rw [if_pos known, (again known).1]
      · rw [if_neg known, (new known).1]
        simp [Entries.keys]
    · rw [repeatsBy]
      by_cases known : key a ∈ (kept s).keys
      · rw [if_pos known, (again known).1, (again known).2]
        simp
      · rw [if_neg known, (new known).1, (new known).2]
        simp [Entries.keys]

end

end EntityLog
