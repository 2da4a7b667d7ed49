import EntityLog.Proofs.Component.FullNames
import EntityLog.Proofs.Entries
import EntityLog.Registry

namespace EntityLog

namespace TypeRegistry

open ComponentDescriptor

def pinAll (calls : List (ComponentDescriptor × RegisteredType)) : TypeRegistry :=
  calls.foldl (fun r (d, t) => r.pin d t) empty

variable {r : TypeRegistry} {d : ComponentDescriptor} {t : RegisteredType} {name : String}

theorem nodup_pin (distinct : r.pins.keys.Nodup) (d : ComponentDescriptor) (t : RegisteredType) :
    (r.pin d t).pins.keys.Nodup := by
  unfold pin
  cases known : r.get? d with
  | some _ => exact distinct
  | none =>
    have new : d ∉ r.pins.keys := by
      rw [← Entries.get?_isSome]
      exact Option.not_isSome_iff_eq_none.2 known
    dsimp only
    rw [Entries.keys_put, if_neg new]
    exact distinct.append (List.nodup_singleton d) (List.disjoint_singleton.2 new)

theorem nodup_pinAll (calls : List (ComponentDescriptor × RegisteredType)) :
    (pinAll calls).pins.keys.Nodup := by
  induction calls using List.reverseRecOn with
  | nil => exact List.nodup_nil
  | append_singleton calls call ih =>
    rw [pinAll, List.foldl_append]
    exact nodup_pin ih call.1 call.2

theorem get?_pinAll (calls : List (ComponentDescriptor × RegisteredType)) (d : ComponentDescriptor) :
    (pinAll calls).get? d = Entries.get? d calls := by
  have all (r : TypeRegistry) : (calls.foldl (fun r (d, t) => r.pin d t) r).get? d =
      (r.get? d).or (Entries.get? d calls) := by
    induction calls generalizing r with
    | nil => simp [Entries.get?]
    | cons call calls ih =>
      obtain ⟨e, t⟩ := call
      rw [List.foldl_cons, ih, get?_pin, Entries.get?]
      by_cases same : d = e
      · subst same
        cases r.get? d <;> simp
      · rw [if_neg same, if_neg (Ne.symm same)]
  exact all empty

theorem mem_keys_snapshot : name ∈ r.snapshot.keys ↔ ∃ d ∈ r.pins.keys, d.fullName = name := by
  rw [snapshot, Entries.mem_keys_ofList]
  simp [Entries.keys]

theorem mem_pins_of_snapshot (shown : r.snapshot.get? name = some t) :
    ∃ d, d.fullName = name ∧ (d, t) ∈ r.pins := by
  obtain ⟨⟨d, _⟩, member, is⟩ := List.mem_map.1 (Entries.mem_ofList (Entries.mem_of_get? shown))
  cases is
  exact ⟨d, rfl, member⟩

theorem length_snapshot (distinct : r.pins.keys.Nodup) :
    r.snapshot.length = r.length ↔ Set.InjOn fullName {d | d ∈ r.pins.keys} := by
  have names : Entries.keys (r.pins.map fun (d, t) => (d.fullName, t)) = r.pins.keys.map fullName := by
    simp [Entries.keys]
  calc r.snapshot.length = r.length
    _ ↔ r.snapshot.length = (r.pins.map fun (d, t) => (d.fullName, t)).length := by
        rw [List.length_map, length]
    _ ↔ (r.pins.keys.map fullName).Nodup := by rw [snapshot, Entries.length_ofList, names]
    _ ↔ Set.InjOn fullName {d | d ∈ r.pins.keys} := List.nodup_map_iff_inj_on distinct

theorem get?_snapshot (distinct : r.pins.keys.Nodup) (apart : Set.InjOn fullName {d | d ∈ r.pins.keys})
    (known : d ∈ r.pins.keys) : r.snapshot.get? d.fullName = r.get? d := by
  obtain ⟨t, shown⟩ := Entries.get?_of_mem (mem_keys_snapshot.2 ⟨d, known, rfl⟩)
  obtain ⟨e, same, member⟩ := mem_pins_of_snapshot shown
  obtain rfl : e = d := apart (List.mem_map.2 ⟨_, member, rfl⟩) known same
  rw [shown, get?, (Entries.get?_eq_some distinct).2 member]

/-- Whatever is pinned on an empty registry, in whatever order its pins are listed: each descriptor has
one pin, the first that came, and the snapshot shows the names of all, in their order and each with the
type of one that has it. It has as many entries as there are pins iff no two descriptors have one name,
as none have that are readable, and then each name has the type of its own. -/
theorem snapshot_pinAll (calls : List (ComponentDescriptor × RegisteredType)) {r : TypeRegistry}
    (listed : r.pins.Perm (pinAll calls).pins) :
    r.length = (Entries.keys calls).dedup.length ∧
      (∀ d, r.get? d = Entries.get? d calls) ∧
      r.snapshot.keys.Pairwise (· < ·) ∧
      (∀ name, name ∈ r.snapshot.keys ↔ ∃ d ∈ Entries.keys calls, d.fullName = name) ∧
      (∀ name t, r.snapshot.get? name = some t → ∃ d, d.fullName = name ∧ r.get? d = some t) ∧
      (r.snapshot.length = r.length ↔ Set.InjOn fullName {d | d ∈ Entries.keys calls}) ∧
      ((∀ d ∈ Entries.keys calls, d.IsReadable) → r.snapshot.length = r.length) ∧
      (r.snapshot.length = r.length →
        ∀ d ∈ Entries.keys calls, r.snapshot.get? d.fullName = r.get? d) := by
  have distinct : r.pins.keys.Nodup := (listed.map _).nodup_iff.2 (nodup_pinAll calls)
  have first (d : ComponentDescriptor) : r.get? d = Entries.get? d calls :=
    (Entries.get?_perm listed distinct d).trans (get?_pinAll calls d)
  have known (d : ComponentDescriptor) : d ∈ r.pins.keys ↔ d ∈ Entries.keys calls := by
    rw [← Entries.get?_isSome, ← Entries.get?_isSome, ← first, get?]
  have all : r.snapshot.length = r.length ↔ Set.InjOn fullName {d | d ∈ Entries.keys calls} := by
    simp only [length_snapshot distinct, known]
  refine ⟨?_, first, Entries.pairwise_ofList _, fun name => ?_, fun name t shown => ?_, all,
    fun readable => all.2 (injOn_fullName.mono readable), fun apart d member => ?_⟩
  · have alike : r.pins.keys.Perm (Entries.keys calls).dedup :=
      (List.perm_ext_iff_of_nodup distinct (List.nodup_dedup _)).2 fun d => by rw [known, List.mem_dedup]
    rw [← alike.length_eq, Entries.keys, List.length_map, length]
  · simp only [mem_keys_snapshot, known]
  · obtain ⟨d, is, member⟩ := mem_pins_of_snapshot shown
    exact ⟨d, is, (Entries.get?_eq_some distinct).2 member⟩
  · exact get?_snapshot distinct ((length_snapshot distinct).1 apart) ((known d).2 member)

theorem snapshot_pinAll_readable :
    let pose : ComponentDescriptor := ⟨some "camera", "pose", some "Pose"⟩
    let alone : ComponentDescriptor := ⟨none, "pose", none⟩
    let r : TypeRegistry := ⟨[(alone, .ofType .int64), (pose, .ofType .float64)]⟩
    let calls := [(pose, .ofType .float64), (alone, .ofType .int64), (pose, .ofType .utf8)]
    r.pins.Perm (pinAll calls).pins ∧
      r.snapshot.length = 2 ∧
      r.snapshot.get? "camera:Pose#pose" = some (.ofType .float64) ∧
      r.snapshot.get? "pose" = some (.ofType .int64) := by
  intro pose alone r calls
  have listed : r.pins.Perm (pinAll calls).pins := .swap _ _ _
  obtain ⟨-, first, -, -, -, -, all, own⟩ := snapshot_pinAll calls listed
  have readable : pose.IsReadable := ⟨by simp [pose], by simp [pose], nofun, nofun⟩
  have readable' : alone.IsReadable := ⟨nofun, nofun, by simp [alone], by simp [alone]⟩
  have length : r.snapshot.length = 2 := all (by simp [Entries.keys, calls, readable, readable'])
  refine ⟨listed, length, ?_, ?_⟩
  · exact own length pose (by decide)
  · exact own length alone (by decide)

/-- Two descriptors with one name are two pins, but only one is shown. -/
theorem snapshot_pinAll_ambiguous :
    let r := pinAll [(.partialOf "camera:pose", .ofType .float64),
      (⟨some "camera", "pose", none⟩, .ofType .float64)]
    r.length = 2 ∧ r.snapshot = [("camera:pose", .ofType .float64)] :=
  ⟨rfl, by with_unfolding_all rfl⟩

end TypeRegistry

end EntityLog
