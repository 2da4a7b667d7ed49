import EntityLog.Proofs.Entries
import EntityLog.Proofs.Recording.Reports
import Mathlib.Data.List.Induction

namespace EntityLog

namespace ComponentBatch

def component (b : ComponentBatch) : ComponentIdentifier := b.descriptor.component

def entry (b : ComponentBatch) : ComponentDescriptor × TypedArray := (b.descriptor, b.array)

def isFirst (batches : List ComponentBatch) (place : ComponentBatch × Nat) : Bool :=
  place.1.component ∉ (batches.take place.2).map component

def firstOccurrences (batches : List ComponentBatch) : List ComponentBatch :=
  (batches.zipIdx.filter (isFirst batches)).map (·.1)

def laterOccurrences (batches : List ComponentBatch) : List ComponentBatch :=
  (batches.zipIdx.filter (!isFirst batches ·)).map (·.1)

variable {batches : List ComponentBatch}

theorem isFirst_append {place : ComponentBatch × Nat} (inside : place ∈ batches.zipIdx)
    (later : List ComponentBatch) : isFirst (batches ++ later) place = isFirst batches place := by
  have bound : place.2 ≤ batches.length := Nat.le_of_lt (List.snd_lt_of_mem_zipIdx inside)
  rw [isFirst, isFirst, List.take_append_of_le_length bound]

theorem firstOccurrences_concat (batches : List ComponentBatch) (b : ComponentBatch) :
    firstOccurrences (batches ++ [b]) =
      firstOccurrences batches ++ if b.component ∈ batches.map component then [] else [b] := by
  have same : batches.zipIdx.filter (isFirst (batches ++ [b])) =
      batches.zipIdx.filter (isFirst batches) :=
    List.filter_congr fun _ inside => isFirst_append inside [b]
  rw [firstOccurrences, List.zipIdx_append, List.filter_append, List.map_append, same]
  by_cases seen : b.component ∈ batches.map component <;>
    simp [firstOccurrences, isFirst, seen]

theorem laterOccurrences_concat (batches : List ComponentBatch) (b : ComponentBatch) :
    laterOccurrences (batches ++ [b]) =
      laterOccurrences batches ++ if b.component ∈ batches.map component then [b] else [] := by
  have same : batches.zipIdx.filter (!isFirst (batches ++ [b]) ·) =
      batches.zipIdx.filter (!isFirst batches ·) :=
    List.filter_congr fun _ inside => congrArg _ (isFirst_append inside [b])
  rw [laterOccurrences, List.zipIdx_append, List.filter_append, List.map_append, same]
  by_cases seen : b.component ∈ batches.map component <;>
    simp [laterOccurrences, isFirst, seen]

theorem laterOccurrences_eq_nil (distinct : (batches.map component).Nodup) :
    laterOccurrences batches = [] := by
  induction batches using List.reverseRecOn with
  | nil => rfl
  | append_singleton batches b ih =>
    rw [List.map_append, List.nodup_append] at distinct
    obtain ⟨earlier, _, apart⟩ := distinct
    have new : b.component ∉ batches.map component := fun known =>
      apart _ known _ (List.mem_singleton_self _) rfl
    rw [laterOccurrences_concat, ih earlier, if_neg new, List.append_nil]

theorem filter_firstOccurrences (batches : List ComponentBatch) (name : ComponentIdentifier) :
    (firstOccurrences batches).filter (·.component = name) =
      (batches.find? (·.component = name)).toList := by
  induction batches using List.reverseRecOn with
  | nil => rfl
  | append_singleton batches b ih =>
    rw [firstOccurrences_concat, List.filter_append, ih, List.find?_append]
    cases found : batches.find? (·.component = name) with
    | some first =>
      have known : name ∈ batches.map component := by
        have here : first.component = name := by simpa using List.find?_some found
        exact here ▸ List.mem_map_of_mem (List.mem_of_find?_eq_some found)
      by_cases same : b.component = name
      · simp [same, known]
      · split <;> simp [same]
    | none =>
      by_cases same : b.component = name
      · have unknown : b.component ∉ batches.map component := by
          intro known
          obtain ⟨first, member, here⟩ := List.mem_map.1 known
          have other := List.find?_eq_none.1 found first member
          exact other (decide_eq_true (here.trans same))
        rw [if_neg unknown]
        simp [same]
      · split <;> simp [same]

end ComponentBatch

namespace MergedRow

open ComponentBatch

theorem firsts_of_mem {seen : List ComponentIdentifier} {b : ComponentBatch}
    (known : b.component ∈ seen) (batches : List ComponentBatch) :
    firsts seen (b :: batches) =
      ((firsts seen batches).1, b.component :: (firsts seen batches).2) :=
  if_pos known

theorem firsts_of_not_mem {seen : List ComponentIdentifier} {b : ComponentBatch}
    (new : b.component ∉ seen) (batches : List ComponentBatch) :
    firsts seen (b :: batches) =
      (b :: (firsts (b.component :: seen) batches).1, (firsts (b.component :: seen) batches).2) :=
  if_neg new

theorem firsts_concat (seen : List ComponentIdentifier) (batches : List ComponentBatch)
    (b : ComponentBatch) :
    firsts seen (batches ++ [b]) =
      if b.component ∈ seen ++ batches.map component then
        ((firsts seen batches).1, (firsts seen batches).2 ++ [b.component])
      else ((firsts seen batches).1 ++ [b], (firsts seen batches).2) := by
  -- The scan grows what it has seen from the front, and so the induction is for all of that.
  induction batches generalizing seen with
  | nil =>
    rw [List.nil_append, List.map_nil, List.append_nil]
    split
    case isTrue known => exact firsts_of_mem known []
    case isFalse new => exact firsts_of_not_mem new []
  | cons first batches ih =>
    by_cases known : first.component ∈ seen
    · have same : b.component ∈ seen ++ (first :: batches).map component ↔
          b.component ∈ seen ++ batches.map component := by
        simp only [List.map_cons, List.mem_append, List.mem_cons]
        constructor
        · rintro (old | here | later)
          · exact .inl old
          · exact .inl (here ▸ known)
          · exact .inr later
        · exact Or.imp_right .inr
      rw [List.cons_append, firsts_of_mem known, ih, firsts_of_mem known]
      simp only [same]
      split <;> rfl
    · have same : b.component ∈ seen ++ (first :: batches).map component ↔
          b.component ∈ (first.component :: seen) ++ batches.map component := by
        simp only [List.map_cons, List.mem_append, List.mem_cons]
        exact or_left_comm.trans or_assoc.symm
      rw [List.cons_append, firsts_of_not_mem known, ih, firsts_of_not_mem known]
      simp only [same]
      split <;> rfl

theorem firsts_eq (batches : List ComponentBatch) :
    firsts [] batches = (firstOccurrences batches, (laterOccurrences batches).map component) := by
  induction batches using List.reverseRecOn with
  | nil => rfl
  | append_singleton batches b ih =>
    rw [firsts_concat, ih, firstOccurrences_concat, laterOccurrences_concat]
    by_cases seen : b.component ∈ batches.map component <;> simp [seen]

theorem foldl_max_eq (lengths : List Nat) : lengths.foldl max 0 = lengths.max?.getD 0 := by
  cases lengths with
  | nil => rfl
  | cons n lengths => rw [List.max?_cons', Option.getD_some, List.foldl_cons, Nat.zero_max]

def instances (batches : List ComponentBatch) (given : Option Nat) : Nat :=
  given.getD (((firstOccurrences batches).map ComponentBatch.length).max?.getD 0)

def splatBatches (batches : List ComponentBatch) (given : Option Nat) : List ComponentBatch :=
  (firstOccurrences batches).filter fun b => b.length = 1 ∧ 1 < instances batches given

def instancedBatches (batches : List ComponentBatch) (given : Option Nat) : List ComponentBatch :=
  (firstOccurrences batches).filter fun b => ¬(b.length = 1 ∧ 1 < instances batches given)

/-- The key that splats come with, unless there are none or they bring it. -/
def keyOf (splats : List ComponentBatch) : Entries ComponentDescriptor TypedArray :=
  if splats = [] ∨ ∃ b ∈ splats, b.descriptor = instanceKeyDescriptor then []
  else [(instanceKeyDescriptor, splatKey)]

theorem withKey_map_entry (splats : List ComponentBatch) :
    withKey (splats.map entry) = splats.map entry ++ keyOf splats := by
  have bring : (Entries.get? instanceKeyDescriptor (splats.map entry)).isSome ↔
      ∃ b ∈ splats, b.descriptor = instanceKeyDescriptor := by
    rw [← Option.ne_none_iff_isSome, ne_eq, Entries.get?_eq_none]
    simp [entry]
  simp only [withKey, keyOf, List.isEmpty_iff, List.map_eq_nil_iff, bring]
  split
  · rw [List.append_nil]
  · rfl

theorem ofBatches_eq (batches : List ComponentBatch) (given : Option Nat) :
    ofBatches batches given = {
      splats := (splatBatches batches given).map entry ++ keyOf (splatBatches batches given)
      instanced := (instancedBatches batches given).map entry
      repeats := (laterOccurrences batches).map component } := by
  have splat : isSplat (instances batches given) =
      fun b => decide (b.length = 1 ∧ 1 < instances batches given) := by
    funext b
    rw [isSplat, Bool.decide_and]
  have other : (!isSplat (instances batches given) ·) =
      fun b => decide ¬(b.length = 1 ∧ 1 < instances batches given) := by
    funext b
    rw [splat, decide_not]
  simp only [ofBatches, firsts_eq, foldl_max_eq]
  rw [← withKey_map_entry, splatBatches, instancedBatches, ← splat, ← other]
  rfl

theorem filter_splatBatches_append (batches : List ComponentBatch) (given : Option Nat)
    (name : ComponentIdentifier) :
    (splatBatches batches given ++ instancedBatches batches given).filter (·.component = name) =
      (batches.find? (·.component = name)).toList := by
  have swap (keep : ComponentBatch → Bool) :
      ((firstOccurrences batches).filter keep).filter (·.component = name) =
        (batches.find? (·.component = name)).toList.filter keep := by
    rw [← filter_firstOccurrences, List.filter_filter, List.filter_filter]
    simp only [Bool.and_comm]
  rw [List.filter_append, splatBatches, instancedBatches, swap, swap]
  cases batches.find? (·.component = name) with
  | none => rfl
  | some first =>
    simp only [Option.toList_some, List.filter_cons, List.filter_nil, decide_not]
    cases decide (first.length = 1 ∧ 1 < instances batches given) <;> rfl

end MergedRow

def Message.rows (path : EntityPath) (time : TimePoint) (isStatic : Bool)
    (components : Entries ComponentDescriptor TypedArray) : List Message :=
  if components = [] then [] else [.row { path, time, isStatic, components }]

def LogOptions.time (options : LogOptions) (r : Recorder) (tick : Nat) : TimePoint :=
  if options.isStatic then .empty else r.stamp tick

namespace Call

open ComponentBatch

@[simp] theorem exec_sendRow (path : EntityPath) (time : TimePoint) (isStatic : Bool)
    (components : Entries ComponentDescriptor TypedArray) (r : Recorder) (t : Trail) :
    exec (sendRow path time isStatic components) r t =
      (.ok (), { t with sent := t.sent ++ Message.rows path time isStatic components }) := by
  cases components with
  | nil => simp [sendRow, Message.rows]
  | cons c components => simp [sendRow, Message.rows]

def warningTexts (path : EntityPath) (parts : List RowPart) : List String :=
  (parts.flatMap RowPart.errors).map (fun cause => (RecordingError.serialization cause).message) ++
    (laterOccurrences (parts.flatMap RowPart.batches)).map fun b =>
      (repeatedInRow path b.component).text

def rowMessages (path : EntityPath) (options : LogOptions) (time : TimePoint)
    (batches : List ComponentBatch) : List Message :=
  let splats := MergedRow.splatBatches batches options.instances
  let others := MergedRow.instancedBatches batches options.instances
  Message.rows path time options.isStatic (splats.map entry ++ MergedRow.keyOf splats) ++
    Message.rows path time options.isStatic (others.map entry)

theorem exec_logParts {r : Recorder} {parts : List RowPart} {options : LogOptions}
    (clean : r.policy options.strict = true → parts.flatMap RowPart.errors = []) (path : EntityPath)
    (t : Trail) :
    exec (logParts path parts options) r t = (.ok (), {
      tick := t.tick + (warningTexts path parts).length + if options.isStatic then 0 else 1
      sent := t.sent ++ r.warnings t.tick (warningTexts path parts) ++
        rowMessages path options
          (options.time r (t.tick + (warningTexts path parts).length))
          (parts.flatMap RowPart.batches)
      notes := t.notes ++ parts.flatMap RowPart.notes ++
        (warningTexts path parts).map (⟨.warn, ·⟩) }) := by
  let complaints : List Complaint :=
    ((parts.flatMap RowPart.errors).map fun cause => .failure (.serialization cause)) ++
      (MergedRow.ofBatches (parts.flatMap RowPart.batches) options.instances).repeats.map
        (repeatedInRow path)
  have mild : r.policy options.strict = true →
      ∀ complaint ∈ complaints, ¬complaint.IsFailure := by
    intro strict complaint member
    simp only [complaints] at member
    rw [clean strict, List.map_nil, List.nil_append] at member
    obtain ⟨name, _, rfl⟩ := List.mem_map.1 member
    exact id
  have texts : complaints.map Complaint.text = warningTexts path parts := by
    simp [complaints, warningTexts, MergedRow.ofBatches_eq, Complaint.text, Function.comp_def]
  have reported (t : Trail) : exec (report (r.policy options.strict) complaints) r t =
      (.ok (), t.warned r (warningTexts path parts)) := by
    rw [exec_report mild, texts]
  simp only [complaints] at reported
  simp only [logParts, exec_bind, exec_note, exec_read, reported]
  cases static : options.isStatic with
  | true => simp [exec_bind, Trail.warned, rowMessages, LogOptions.time, static, MergedRow.ofBatches_eq]
  | false => simp [exec_bind, Trail.warned, rowMessages, LogOptions.time, static, MergedRow.ofBatches_eq]

end Call

/-- Logging parts sends a warning for each error and for each batch that is not the first of its
component, and then the first batches, each in one of two rows of the same time. -/
theorem Stream.run_logParts {s : Stream} {r : Recorder} (enabled : s.recorder = some r)
    (path : EntityPath) (parts : List RowPart) (options : LogOptions)
    (clean : r.policy options.strict = true → parts.flatMap RowPart.errors = []) :
    ∃ after notes, s.run (Call.logParts path parts options) =
        (.ok (), { s with recorder := some after }, notes) ∧
      after.sink.held = r.sink.held ++ r.warnings r.tick (Call.warningTexts path parts) ++
        Call.rowMessages path options
          (options.time r (r.tick + (Call.warningTexts path parts).length))
          (parts.flatMap RowPart.batches) ∧
      ∀ name : ComponentIdentifier,
        (MergedRow.splatBatches (parts.flatMap RowPart.batches) options.instances ++
          MergedRow.instancedBatches (parts.flatMap RowPart.batches) options.instances).filter
            (·.component = name) =
          ((parts.flatMap RowPart.batches).find? (·.component = name)).toList := by
  refine ⟨_, _, run_eq enabled (Call.exec_logParts clean path _), ?_, ?_⟩
  · exact (List.append_assoc _ _ _).symm
  · exact MergedRow.filter_splatBatches_append _ _

theorem Stream.run_logParts_splat :
    ∃ after notes,
      (Stream.mk (some ⟨"points", true, [], 0, .empty, fun _ => 0, ⟨.memory, [], 0⟩⟩) none).run
        (Call.logParts ⟨["points"]⟩
          [.raw [none, some ⟨.flat (.nulls 3), .partialOf "position", none⟩],
            .raw [some ⟨.flat (.nulls 1), .partialOf "color", none⟩,
              some ⟨.flat (.nulls 2), .partialOf "position", none⟩]] {}) =
        (.ok (), ⟨some after, none⟩, notes) ∧
      after.sink.held.map (fun message => message.components.keys.map (·.component)) =
        [["rerun.archetypes.TextLogIndicator", "TextLog:text", "TextLog:level"],
          ["color", instanceKey], ["position"]] := by
  obtain ⟨after, notes, ran, held, _⟩ := @run_logParts
    ⟨some ⟨"points", true, [], 0, .empty, fun _ => 0, ⟨.memory, [], 0⟩⟩, none⟩ _ rfl ⟨["points"]⟩
    [.raw [none, some ⟨.flat (.nulls 3), .partialOf "position", none⟩],
      .raw [some ⟨.flat (.nulls 1), .partialOf "color", none⟩,
        some ⟨.flat (.nulls 2), .partialOf "position", none⟩]] {} (fun _ => rfl)
  refine ⟨after, notes, ran, ?_⟩
  rw [held]
  decide

end EntityLog
