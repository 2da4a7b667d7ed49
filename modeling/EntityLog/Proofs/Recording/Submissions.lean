import EntityLog.Proofs.Recording.Tables
import Mathlib.Data.List.Nodup

namespace EntityLog

namespace ComponentDescriptor

theorem isIndicator_indicator (archetype : ArchetypeName) :
    (indicator archetype).isIndicator = true := by
  simp [isIndicator, indicator]

theorem indicator_injective : Function.Injective indicator := by
  intro a b same
  exact Option.some.inj (congrArg archetype same)

end ComponentDescriptor

namespace Submission

variable {path : EntityPath} {rows : Nat} {s : Submission}

theorem addTime_of_mem {c : TimeColumn} (known : c.name ∈ s.timelines.keys) (path : EntityPath) :
    addTime path s c = s.complain (repeated path (.timeline c.name)) := by
  obtain ⟨earlier, seen⟩ := Entries.get?_of_mem known
  rw [addTime, seen]

theorem addLists_of_mem {d : ComponentDescriptor} (known : d ∈ s.components.keys) (path : EntityPath)
    (lists : TypedArray) : addLists path s d lists = s.complain (repeated path (.component d)) := by
  obtain ⟨earlier, seen⟩ := Entries.get?_of_mem known
  rw [addLists, seen]

theorem addIndicator_of_mem {archetype : ArchetypeName}
    (known : .indicator archetype ∈ s.components.keys) (path : EntityPath) :
    addIndicator path s archetype =
      s.complain (repeated path (.component (.indicator archetype))) := by
  obtain ⟨earlier, seen⟩ := Entries.get?_of_mem known
  rw [addIndicator, seen]

theorem addIndicator_of_notMem {archetype : ArchetypeName}
    (new : .indicator archetype ∉ s.components.keys) (path : EntityPath) :
    addIndicator path s archetype =
      { s with
        components := s.components ++ [(.indicator archetype, .nullLists .null s.rowCount)] } := by
  have none := Entries.get?_of_notMem new
  rw [addIndicator, none]
  dsimp only
  rw [Entries.put_of_get?_eq_none none]

theorem foldl_addIndicator (archetypes : List ArchetypeName) (path : EntityPath) (s : Submission) :
    let after := archetypes.foldl (addIndicator path) s
    (after.first = s.first ∧ after.timelines = s.timelines) ∧
      after.components = s.components ++
        (firstsBy ComponentDescriptor.indicator s.components.keys archetypes).map (fun archetype =>
          (.indicator archetype, .nullLists .null s.rowCount)) ∧
      after.complaints = s.complaints ++
        (repeatsBy ComponentDescriptor.indicator s.components.keys archetypes).map fun archetype =>
          repeated path (.component (.indicator archetype)) := by
  refine foldl_firstsBy (P := fun t => t.first = s.first ∧ t.timelines = s.timelines)
    components complaints ?_ ⟨rfl, rfl⟩
  rintro t ⟨first, timelines⟩ archetype _
  by_cases known : .indicator archetype ∈ t.components.keys
  · rw [addIndicator_of_mem known]
    exact ⟨⟨first, timelines⟩, fun _ => ⟨rfl, rfl⟩, absurd known⟩
  · have count : t.rowCount = s.rowCount := by rw [rowCount, first, ← rowCount]
    rw [addIndicator_of_notMem known, count]
    exact ⟨⟨first, timelines⟩, fun again => absurd again known, fun _ => ⟨rfl, rfl⟩⟩

namespace Even

theorem fit_kept (even : s.Even rows) (column : ColumnName) :
    ∃ after, s.fit column rows = .ok after ∧ after.timelines = s.timelines ∧
      after.components = s.components ∧ after.complaints = s.complaints := by
  obtain ⟨after, fits, _⟩ := even.fit column
  obtain ⟨timelines, components, _⟩ := fit_eq_ok fits
  exact ⟨after, fits, timelines, components, complaints_fit fits⟩

theorem addTime_of_notMem (even : s.Even rows) {c : TimeColumn} (count : c.rowCount = rows)
    (new : c.name ∉ s.timelines.keys) (path : EntityPath) :
    (Submission.addTime path s c).timelines = s.timelines ++ [(c.name, c)] ∧
      (Submission.addTime path s c).components = s.components ∧
      (Submission.addTime path s c).complaints = s.complaints := by
  have none := Entries.get?_of_notMem new
  obtain ⟨fitted, fits, timelines, components, complaints⟩ := even.fit_kept (.timeline c.name)
  rw [Submission.addTime, none, count, fits]
  refine ⟨?_, components, complaints⟩
  change fitted.timelines.put c.name c = _
  rw [timelines, Entries.put_of_get?_eq_none none]

theorem addLists_of_notMem (even : s.Even rows) {d : ComponentDescriptor} {lists : TypedArray}
    (count : lists.length = rows) (new : d ∉ s.components.keys) (path : EntityPath) :
    (Submission.addLists path s d lists).components = s.components ++ [(d, lists)] ∧
      (Submission.addLists path s d lists).timelines = s.timelines ∧
      (Submission.addLists path s d lists).complaints = s.complaints := by
  have none := Entries.get?_of_notMem new
  obtain ⟨fitted, fits, timelines, components, complaints⟩ := even.fit_kept (.component d)
  rw [Submission.addLists, none, count, fits]
  refine ⟨?_, timelines, complaints⟩
  change fitted.components.put d lists = _
  rw [components, Entries.put_of_get?_eq_none none]

theorem foldl_addTime {times : List TimeColumn} (even : s.Even rows)
    (timed : ∀ c ∈ times, c.rowCount = rows) (path : EntityPath) :
    let after := times.foldl (Submission.addTime path) s
    (after.Even rows ∧ after.components = s.components) ∧
      after.timelines =
        s.timelines ++ (firstsBy TimeColumn.name s.timelines.keys times).map (fun c => (c.name, c)) ∧
      after.complaints = s.complaints ++
        (repeatsBy TimeColumn.name s.timelines.keys times).map fun c =>
          Submission.repeated path (.timeline c.name) := by
  refine foldl_firstsBy (P := fun t => t.Even rows ∧ t.components = s.components)
    timelines complaints ?_ ⟨even, rfl⟩
  rintro t ⟨evenly, same⟩ c member
  have count := timed c member
  by_cases known : c.name ∈ t.timelines.keys
  · rw [addTime_of_mem known]
    exact ⟨⟨evenly.repeated _, same⟩, fun _ => ⟨rfl, rfl⟩, absurd known⟩
  · obtain ⟨timelines, components, complaints⟩ := evenly.addTime_of_notMem count known path
    exact ⟨⟨evenly.addTime count, components.trans same⟩, fun again => absurd again known,
      fun _ => ⟨timelines, complaints⟩⟩

theorem foldl_addLists {entries : List (ComponentDescriptor × TypedArray)} (even : s.Even rows)
    (filled : ∀ e ∈ entries, e.2.length = rows) (path : EntityPath) :
    let after := entries.foldl (fun s e => Submission.addLists path s e.1 e.2) s
    (after.Even rows ∧ after.timelines = s.timelines) ∧
      after.components = s.components ++ firstsBy Prod.fst s.components.keys entries ∧
      after.complaints = s.complaints ++
        (repeatsBy Prod.fst s.components.keys entries).map fun e =>
          Submission.repeated path (.component e.1) := by
  have pairs : firstsBy Prod.fst s.components.keys entries =
      (firstsBy Prod.fst s.components.keys entries).map fun e => (e.1, e.2) :=
    (List.map_id _).symm
  rw [pairs]
  refine foldl_firstsBy (P := fun t => t.Even rows ∧ t.timelines = s.timelines)
    components complaints ?_ ⟨even, rfl⟩
  rintro t ⟨evenly, same⟩ e member
  have count := filled e member
  by_cases known : e.1 ∈ t.components.keys
  · rw [addLists_of_mem known]
    exact ⟨⟨evenly.repeated _, same⟩, fun _ => ⟨rfl, rfl⟩, absurd known⟩
  · obtain ⟨components, timelines, complaints⟩ := evenly.addLists_of_notMem count known path
    exact ⟨⟨evenly.addLists e.1 count, timelines.trans same⟩, fun again => absurd again known,
      fun _ => ⟨components, complaints⟩⟩

theorem foldl_addInput {inputs : List ColumnInput} (filled : ∀ input ∈ inputs, input.HasRows rows)
    (path : EntityPath) (s : Submission) :
    inputs.foldl (Submission.addInput path) s =
      (inputs.filterMap ColumnInput.lists?).foldl
        (fun s e => Submission.addLists path s e.1 e.2) s := by
  induction inputs generalizing s with
  | nil => rfl
  | cons input inputs ih =>
    obtain ⟨has, others⟩ := List.forall_mem_cons.1 filled
    rw [List.foldl_cons, ih others, List.filterMap_cons]
    rcases addInput_cases path s input with
      ⟨archetype, rfl, same⟩ | ⟨e, lists, same⟩ | ⟨_, unmarked, none, _⟩
    · rw [same]
      rfl
    · rw [same, lists, List.foldl_cons]
    · rcases has with ⟨archetype, marker⟩ | ⟨_, known, _⟩
      · exact absurd marker (unmarked archetype)
      · cases none.symm.trans known

end Even

theorem rowCount_foldl (path : EntityPath) (times : List TimeColumn) (inputs : List ColumnInput) :
    (inputs.foldl (addInput path) (times.foldl (addTime path) {})).rowCount =
      rowsOf times inputs := by
  obtain ⟨timed, setTimes, _⟩ := agrees_empty.addTimes path times
  obtain ⟨_, setInputs, _⟩ := timed.addInputs path inputs
  rw [rowCount_eq, setInputs, setTimes]
  rfl

def listsIn (inputs : List ColumnInput) : List (ComponentDescriptor × TypedArray) :=
  inputs.filterMap ColumnInput.lists?

theorem ofInputs_even {times : List TimeColumn} {inputs : List ColumnInput}
    (timed : ∀ c ∈ times, c.rowCount = rows) (filled : ∀ input ∈ inputs, input.HasRows rows)
    (distinct : (indicators inputs).Nodup)
    (new : ∀ archetype ∈ indicators inputs,
      .indicator archetype ∉ (listsIn inputs).map Prod.fst)
    (path : EntityPath) :
    let s := ofInputs path times inputs
    s.timelines = (firstsBy TimeColumn.name [] times).map (fun c => (c.name, c)) ∧
      s.components = firstsBy Prod.fst [] (listsIn inputs) ++
        (indicators inputs).map (fun archetype =>
          (.indicator archetype, .nullLists .null (rowsOf times inputs))) ∧
      s.complaints =
        (repeatsBy TimeColumn.name [] times).map (fun c => repeated path (.timeline c.name)) ++
          (repeatsBy Prod.fst [] (listsIn inputs)).map fun e => repeated path (.component e.1) := by
  have lengths : ∀ e ∈ listsIn inputs, e.2.length = rows := by
    intro e member
    obtain ⟨input, inside, lists⟩ := List.mem_filterMap.1 member
    rcases filled input inside with ⟨archetype, rfl⟩ | ⟨_, known, count⟩
    · cases lists
    · cases lists.symm.trans known
      exact count
  obtain ⟨⟨timely, none⟩, timelines, timesTold⟩ := even_empty.foldl_addTime timed path
  obtain ⟨⟨_, same⟩, components, listsTold⟩ := timely.foldl_addLists lengths path
  rw [listsIn, ← Even.foldl_addInput filled] at same components listsTold
  obtain ⟨⟨_, sameTimes⟩, marked, markersTold⟩ := foldl_addIndicator (indicators inputs) path
    (inputs.foldl (addInput path) (times.foldl (addTime path) {}))
  rw [none] at components listsTold
  have keys : ∀ archetype ∈ indicators inputs, .indicator archetype ∉
      (inputs.foldl (addInput path) (times.foldl (addTime path) {})).components.keys := by
    intro archetype member known
    rw [components] at known
    exact new archetype member (mem_map_firstsBy.1 known).1
  have markers : ((indicators inputs).map ComponentDescriptor.indicator).Nodup :=
    distinct.map ComponentDescriptor.indicator_injective
  rw [firstsBy_eq_self markers keys, rowCount_foldl, components] at marked
  rw [repeatsBy_eq_nil markers keys, listsTold, timesTold] at markersTold
  exact ⟨(sameTimes.trans same).trans timelines, marked, markersTold.trans (List.append_nil _)⟩

end Submission

end EntityLog
