import EntityLog.Proofs.Entries
import EntityLog.Proofs.Recording.Reports
import EntityLog.Proofs.TypedArray.Rows

namespace EntityLog

def listsOf : Except PartitionError ComponentColumn → Option (ComponentDescriptor × TypedArray)
  | .ok column => column.toLists.toOption.map (column.descriptor, ·)
  | .error _ => none

namespace ColumnInput

def lists? : ColumnInput → Option (ComponentDescriptor × TypedArray)
  | batch b => listsOf (b.intoStorage.partition none)
  | column c => listsOf (.ok c)
  | indicator _ => none

def rowCount? (input : ColumnInput) : Option Nat := input.lists?.map (·.2.length)

end ColumnInput

namespace TypedArray

theorem length_nullLists (t : DataType) (n : Nat) : (nullLists t n).length = n := by
  simp [nullLists, length, Slots.count, Slots.lengths]

theorem rows_nullLists (t : DataType) (n : Nat) :
    (nullLists t n).rows = List.replicate n .null := by
  have cut (n : Nat) (items : List Element) :
      cutItems (List.replicate n ⟨0, false⟩) items = List.replicate n .null := by
    induction n with
    | zero => rfl
    | succ n ih => rw [List.replicate_succ, List.replicate_succ, cutItems, ← ih]; rfl
  exact cut n _

end TypedArray

namespace Submission

variable {path : EntityPath} {s : Submission}

/-- All that is kept has as many rows as the first column, and nothing is kept without one. -/
structure Agrees (s : Submission) : Prop where
  unset : s.first = none → s.timelines = [] ∧ s.components = []
  timelines : ∀ e ∈ s.timelines, e.1 = e.2.name ∧ e.2.rowCount = s.rowCount
  components : ∀ e ∈ s.components, e.2.length = s.rowCount

theorem agrees_empty : Agrees {} where
  unset _ := ⟨rfl, rfl⟩
  timelines _ member := absurd member List.not_mem_nil
  components _ member := absurd member List.not_mem_nil

def expected (s : Submission) : Option Nat := s.first.map (·.2)

theorem rowCount_eq (s : Submission) : s.rowCount = s.expected.getD 0 := by
  rw [rowCount, expected]
  cases s.first <;> rfl

theorem Agrees.or_of_some (agrees : s.Agrees)
    (kept : (∃ name c, s.timelines.get? name = some c) ∨ ∃ d lists, s.components.get? d = some lists)
    (length : Nat) : s.expected.or (some length) = s.expected := by
  cases set : s.first with
  | none =>
    obtain ⟨times, lists⟩ := agrees.unset set
    rw [times, lists] at kept
    rcases kept with ⟨_, _, found⟩ | ⟨_, _, found⟩ <;> cases found
  | some first => rw [expected, set, Option.map_some, Option.some_or]

theorem agrees_of_expected {n : Nat} (set : s.expected = some n)
    (timelines : ∀ e ∈ s.timelines, e.1 = e.2.name ∧ e.2.rowCount = n)
    (components : ∀ e ∈ s.components, e.2.length = n) : s.Agrees := by
  have count : s.rowCount = n := by rw [rowCount_eq, set, Option.getD_some]
  refine ⟨?_, count ▸ timelines, count ▸ components⟩
  intro unset
  rw [expected, unset] at set
  cases set

theorem fit_eq_ok {column : ColumnName} {length : Nat} {after : Submission}
    (h : s.fit column length = .ok after) :
    after.timelines = s.timelines ∧ after.components = s.components ∧
      after.expected = some length ∧ s.expected.or (some length) = some length := by
  unfold fit at h
  split at h
  case h_1 unset =>
    cases h
    refine ⟨rfl, rfl, rfl, ?_⟩
    rw [expected, unset, Option.map_none, Option.none_or]
  case h_2 first expected known =>
    split at h
    case isTrue same =>
      cases h
      have set : s.expected = some length := same ▸ congrArg _ known
      exact ⟨rfl, rfl, set, by rw [set, Option.some_or]⟩
    case isFalse => cases h

theorem fit_eq_error {column : ColumnName} {length : Nat} {cause : SubmissionError}
    (h : s.fit column length = .error cause) : s.expected.or (some length) = s.expected := by
  unfold fit at h
  split at h
  case h_1 => cases h
  case h_2 first expected known => rw [Submission.expected, known, Option.map_some, Option.some_or]

theorem Agrees.fit (agrees : s.Agrees) {column : ColumnName} {length : Nat} {after : Submission}
    (h : s.fit column length = .ok after) :
    (∀ e ∈ s.timelines, e.1 = e.2.name ∧ e.2.rowCount = length) ∧
      ∀ e ∈ s.components, e.2.length = length := by
  cases set : s.first with
  | none =>
    obtain ⟨times, lists⟩ := agrees.unset set
    rw [times, lists]
    exact ⟨fun _ member => absurd member List.not_mem_nil,
      fun _ member => absurd member List.not_mem_nil⟩
  | some first =>
    have count : s.rowCount = length := by
      have same := (fit_eq_ok h).2.2.2
      rw [expected, set, Option.map_some, Option.some_or] at same
      rw [rowCount, set, Option.elim_some, Option.some.inj same]
    exact count ▸ ⟨agrees.timelines, agrees.components⟩

theorem Agrees.complain (agrees : s.Agrees) (complaint : Complaint) :
    (s.complain complaint).Agrees :=
  ⟨agrees.unset, agrees.timelines, agrees.components⟩

theorem addTime_cases (path : EntityPath) (s : Submission) (c : TimeColumn) :
    (∃ earlier, s.timelines.get? c.name = some earlier ∧
      addTime path s c = s.complain (repeated path (.timeline c.name))) ∨
    (∃ cause, s.fit (.timeline c.name) c.rowCount = .error cause ∧
      addTime path s c = s.fail cause) ∨
    ∃ after, s.timelines.get? c.name = none ∧ s.fit (.timeline c.name) c.rowCount = .ok after ∧
      addTime path s c = { after with timelines := after.timelines.put c.name c } := by
  unfold addTime
  cases s.timelines.get? c.name with
  | some earlier => exact .inl ⟨earlier, rfl, rfl⟩
  | none =>
    cases s.fit (.timeline c.name) c.rowCount with
    | error cause => exact .inr (.inl ⟨cause, rfl, rfl⟩)
    | ok after => exact .inr (.inr ⟨after, rfl, rfl, rfl⟩)

theorem addLists_cases (path : EntityPath) (s : Submission) (d : ComponentDescriptor)
    (added : TypedArray) :
    (∃ earlier, s.components.get? d = some earlier ∧
      addLists path s d added = s.complain (repeated path (.component d))) ∨
    (∃ cause, s.fit (.component d) added.length = .error cause ∧
      addLists path s d added = s.fail cause) ∨
    ∃ after, s.components.get? d = none ∧ s.fit (.component d) added.length = .ok after ∧
      addLists path s d added = { after with components := after.components.put d added } := by
  unfold addLists
  cases s.components.get? d with
  | some earlier => exact .inl ⟨earlier, rfl, rfl⟩
  | none =>
    cases s.fit (.component d) added.length with
    | error cause => exact .inr (.inl ⟨cause, rfl, rfl⟩)
    | ok after => exact .inr (.inr ⟨after, rfl, rfl, rfl⟩)

theorem Agrees.addTime (agrees : s.Agrees) (path : EntityPath) (c : TimeColumn) :
    (addTime path s c).Agrees ∧
      (addTime path s c).expected = s.expected.or (some c.rowCount) ∧
      (addTime path s c).components = s.components := by
  rcases addTime_cases path s c with
    ⟨earlier, seen, same⟩ | ⟨cause, tried, same⟩ | ⟨after, seen, tried, same⟩
  · rw [same]
    -- The column of that name has set the count, so to drop this one does not lose it.
    exact ⟨agrees.complain _, (agrees.or_of_some (.inl ⟨_, _, seen⟩) _).symm, rfl⟩
  · rw [same]
    exact ⟨agrees.complain _, (fit_eq_error tried).symm, rfl⟩
  · obtain ⟨times, lists⟩ := agrees.fit tried
    obtain ⟨sameTimes, sameLists, set, first⟩ := fit_eq_ok tried
    rw [same]
    refine ⟨agrees_of_expected set ?_ ?_, set.trans first.symm, sameLists⟩
    · dsimp only
      intro e member
      rw [sameTimes, Entries.put_of_get?_eq_none seen, List.mem_append, List.mem_singleton]
        at member
      rcases member with old | rfl
      · exact times e old
      · exact ⟨rfl, rfl⟩
    · exact sameLists ▸ lists

theorem Agrees.addLists (agrees : s.Agrees) (path : EntityPath) (d : ComponentDescriptor)
    (added : TypedArray) :
    (addLists path s d added).Agrees ∧
      (addLists path s d added).expected = s.expected.or (some added.length) ∧
      ∀ e ∈ (addLists path s d added).components, e ∈ s.components ∨ e = (d, added) := by
  rcases addLists_cases path s d added with
    ⟨earlier, seen, same⟩ | ⟨cause, tried, same⟩ | ⟨after, seen, tried, same⟩
  · rw [same]
    exact ⟨agrees.complain _, (agrees.or_of_some (.inr ⟨_, _, seen⟩) _).symm, fun _ => .inl⟩
  · rw [same]
    exact ⟨agrees.complain _, (fit_eq_error tried).symm, fun _ => .inl⟩
  · obtain ⟨times, lists⟩ := agrees.fit tried
    obtain ⟨sameTimes, sameLists, set, first⟩ := fit_eq_ok tried
    have grown : ∀ e ∈ after.components.put d added, e ∈ s.components ∨ e = (d, added) := by
      intro e member
      rw [sameLists, Entries.put_of_get?_eq_none seen, List.mem_append, List.mem_singleton]
        at member
      exact member
    rw [same]
    refine ⟨agrees_of_expected set ?_ ?_, set.trans first.symm, grown⟩
    · exact sameTimes ▸ times
    · intro e member
      rcases grown e member with old | rfl
      · exact lists e old
      · rfl

theorem addInput_cases (path : EntityPath) (s : Submission) (input : ColumnInput) :
    (∃ archetype, input = .indicator archetype ∧ addInput path s input = s) ∨
    (∃ e, input.lists? = some e ∧ addInput path s input = addLists path s e.1 e.2) ∨
    ∃ cause, (∀ archetype, input ≠ .indicator archetype) ∧ input.lists? = none ∧
      addInput path s input = s.fail cause := by
  have column (column : Except PartitionError ComponentColumn) :
      (∃ e, listsOf column = some e ∧ addColumn path s column = addLists path s e.1 e.2) ∨
        ∃ cause, listsOf column = none ∧ addColumn path s column = s.fail cause := by
    cases column with
    | error cause => exact .inr ⟨_, rfl, rfl⟩
    | ok column =>
      rw [listsOf, addColumn]
      cases column.toLists with
      | error cause => exact .inr ⟨_, rfl, rfl⟩
      | ok lists => exact .inl ⟨_, rfl, rfl⟩
  cases input with
  | batch b =>
    exact .inr ((column (b.intoStorage.partition none)).imp id fun ⟨cause, failed⟩ =>
      ⟨cause, nofun, failed⟩)
  | column c =>
    exact .inr ((column (.ok c)).imp id fun ⟨cause, failed⟩ => ⟨cause, nofun, failed⟩)
  | indicator archetype => exact .inl ⟨archetype, rfl, rfl⟩

theorem Agrees.addInput (agrees : s.Agrees) (path : EntityPath) (input : ColumnInput) :
    (addInput path s input).Agrees ∧
      (addInput path s input).expected = s.expected.or input.rowCount? ∧
      ∀ e ∈ (addInput path s input).components, e ∈ s.components ∨ input.lists? = some e := by
  rcases addInput_cases path s input with
    ⟨archetype, rfl, same⟩ | ⟨e, lists, same⟩ | ⟨cause, _, none, same⟩
  · exact ⟨agrees, Option.or_none.symm, fun _ => .inl⟩
  · obtain ⟨kept, set, grown⟩ := agrees.addLists path e.1 e.2
    rw [same, ColumnInput.rowCount?, lists]
    exact ⟨kept, set, fun e member => (grown e member).imp_right fun h => congrArg some h.symm⟩
  · rw [same, ColumnInput.rowCount?, none, Option.map_none, Option.or_none]
    exact ⟨agrees.complain _, rfl, fun _ => .inl⟩

theorem Agrees.addTimes (agrees : s.Agrees) (path : EntityPath) (times : List TimeColumn) :
    (times.foldl (Submission.addTime path) s).Agrees ∧
      (times.foldl (Submission.addTime path) s).expected =
        s.expected.or (times.map TimeColumn.rowCount).head? ∧
      (times.foldl (Submission.addTime path) s).components = s.components := by
  induction times generalizing s with
  | nil => exact ⟨agrees, Option.or_none.symm, rfl⟩
  | cons c times ih =>
    obtain ⟨kept, set, same⟩ := agrees.addTime path c
    obtain ⟨keptAll, setAll, sameAll⟩ := ih kept
    refine ⟨keptAll, ?_, sameAll.trans same⟩
    rw [List.foldl_cons, setAll, set, Option.or_assoc, Option.some_or, List.map_cons, List.head?_cons]

theorem Agrees.addInputs (agrees : s.Agrees) (path : EntityPath) (inputs : List ColumnInput) :
    (inputs.foldl (Submission.addInput path) s).Agrees ∧
      (inputs.foldl (Submission.addInput path) s).expected =
        s.expected.or (inputs.filterMap ColumnInput.rowCount?).head? ∧
      ∀ e ∈ (inputs.foldl (Submission.addInput path) s).components,
        e ∈ s.components ∨ ∃ input ∈ inputs, input.lists? = some e := by
  induction inputs generalizing s with
  | nil => exact ⟨agrees, Option.or_none.symm, fun _ => .inl⟩
  | cons input inputs ih =>
    obtain ⟨kept, set, grown⟩ := agrees.addInput path input
    obtain ⟨keptAll, setAll, grownAll⟩ := ih kept
    refine ⟨keptAll, ?_, ?_⟩
    · rw [List.foldl_cons, setAll, set, Option.or_assoc, List.filterMap_cons]
      cases input.rowCount? with
      | none => rw [Option.none_or]
      | some n => rw [Option.some_or, List.head?_cons]
    · intro e member
      rcases grownAll e member with earlier | ⟨later, inside, lists⟩
      · rcases grown e earlier with old | lists
        · exact .inl old
        · exact .inr ⟨input, List.mem_cons_self, lists⟩
      · exact .inr ⟨later, List.mem_cons_of_mem _ inside, lists⟩

theorem addIndicator_spec (path : EntityPath) (s : Submission) (archetype : ArchetypeName) :
    (addIndicator path s archetype).first = s.first ∧
      (addIndicator path s archetype).timelines = s.timelines ∧
      (∀ e ∈ (addIndicator path s archetype).components,
        e ∈ s.components ∨ e = (.indicator archetype, .nullLists .null s.rowCount)) ∧
      ((addIndicator path s archetype).components.get? (.indicator archetype)).isSome ∧
      ∀ d, (s.components.get? d).isSome →
        ((addIndicator path s archetype).components.get? d).isSome := by
  unfold addIndicator
  dsimp only
  cases seen : s.components.get? (.indicator archetype) with
  | some lists => exact ⟨rfl, rfl, fun _ => .inl, by rw [complain, seen]; rfl, fun _ => id⟩
  | none =>
    refine ⟨rfl, rfl, ?_, by rw [Entries.get?_put, if_pos rfl]; rfl, ?_⟩
    · intro e member
      rw [Entries.put_of_get?_eq_none seen, List.mem_append, List.mem_singleton] at member
      exact member
    · intro d there
      rw [Entries.get?_put]
      split
      · rfl
      · exact there

theorem addIndicators_spec (path : EntityPath) (s : Submission) (archetypes : List ArchetypeName) :
    (archetypes.foldl (addIndicator path) s).first = s.first ∧
      (archetypes.foldl (addIndicator path) s).timelines = s.timelines ∧
      (∀ e ∈ (archetypes.foldl (addIndicator path) s).components, e ∈ s.components ∨
        ∃ archetype ∈ archetypes, e = (.indicator archetype, .nullLists .null s.rowCount)) ∧
      (∀ archetype ∈ archetypes,
        ((archetypes.foldl (addIndicator path) s).components.get? (.indicator archetype)).isSome) ∧
      ∀ d, (s.components.get? d).isSome →
        ((archetypes.foldl (addIndicator path) s).components.get? d).isSome := by
  induction archetypes generalizing s with
  | nil => exact ⟨rfl, rfl, fun _ => .inl, fun _ none => absurd none List.not_mem_nil, fun _ => id⟩
  | cons archetype archetypes ih =>
    obtain ⟨first, times, grown, there, kept⟩ := addIndicator_spec path s archetype
    obtain ⟨firstAll, timesAll, grownAll, thereAll, keptAll⟩ := ih (addIndicator path s archetype)
    refine ⟨firstAll.trans first, timesAll.trans times, ?_, ?_, fun d h => keptAll d (kept d h)⟩
    · intro e member
      rcases grownAll e member with earlier | ⟨later, inside, null⟩
      · rcases grown e earlier with old | null
        · exact .inl old
        · exact .inr ⟨archetype, List.mem_cons_self, null⟩
      · rw [rowCount, first] at null
        exact .inr ⟨later, List.mem_cons_of_mem _ inside, null⟩
    · intro later inside
      rcases List.mem_cons.1 inside with rfl | inside
      · exact keptAll _ there
      · exact thereAll later inside

theorem mem_indicators {inputs : List ColumnInput} {archetype : ArchetypeName} :
    archetype ∈ indicators inputs ↔ .indicator archetype ∈ inputs := by
  rw [indicators, List.mem_filterMap]
  constructor
  · rintro ⟨input, inside, is⟩
    split at is
    · exact Option.some.inj is ▸ inside
    · cases is
  · exact fun inside => ⟨_, inside, rfl⟩

theorem ofInputs_induction {P : Submission → Prop} {times : List TimeColumn}
    {inputs : List ColumnInput} (empty : P {})
    (time : ∀ s c, P s → c ∈ times → P (addTime path s c))
    (input : ∀ s input, P s → input ∈ inputs → P (addInput path s input))
    (indicator : ∀ s archetype, P s → P (addIndicator path s archetype)) :
    P (ofInputs path times inputs) := by
  have timed : P (times.foldl (addTime path) {}) :=
    List.foldlRecOn times _ empty fun s kept c => time s c kept
  have filled : P (inputs.foldl (addInput path) (times.foldl (addTime path) {})) :=
    List.foldlRecOn inputs _ timed fun s kept i => input s i kept
  exact List.foldlRecOn (indicators inputs) _ filled fun s kept archetype _ =>
    indicator s archetype kept

def rowsOf (times : List TimeColumn) (inputs : List ColumnInput) : Nat :=
  ((times.map TimeColumn.rowCount).head?.or
    (inputs.filterMap ColumnInput.rowCount?).head?).getD 0

theorem ofInputs_spec (path : EntityPath) (times : List TimeColumn) (inputs : List ColumnInput) :
    (∀ e ∈ (ofInputs path times inputs).timelines,
      e.1 = e.2.name ∧ e.2.rowCount = rowsOf times inputs) ∧
    (∀ e ∈ (ofInputs path times inputs).components, e.2.length = rowsOf times inputs) ∧
    (∀ e ∈ (ofInputs path times inputs).components,
      (∃ input ∈ inputs, input.lists? = some e) ∨ ∃ archetype,
        .indicator archetype ∈ inputs ∧ e.1 = .indicator archetype ∧
          e.2.rows = List.replicate (rowsOf times inputs) .null) ∧
    ∀ archetype, .indicator archetype ∈ inputs →
      ((ofInputs path times inputs).components.get? (.indicator archetype)).isSome := by
  obtain ⟨timed, setTimes, none⟩ := agrees_empty.addTimes path times
  obtain ⟨filled, setInputs, grown⟩ := timed.addInputs path inputs
  obtain ⟨_, sameTimes, marked, there, _⟩ := addIndicators_spec path
    (inputs.foldl (addInput path) (times.foldl (addTime path) {})) (indicators inputs)
  have count : (inputs.foldl (addInput path) (times.foldl (addTime path) {})).rowCount =
      rowsOf times inputs := by
    rw [rowCount_eq, setInputs, setTimes]
    rfl
  rw [count] at marked
  refine ⟨?timelines, ?lengths, ?sources, fun archetype inside => there _ (mem_indicators.2 inside)⟩
  case timelines =>
    intro e member
    exact count ▸ filled.timelines e (sameTimes ▸ member)
  case lengths =>
    intro e member
    rcases marked e member with column | ⟨archetype, _, rfl⟩
    · exact count ▸ filled.components e column
    · exact TypedArray.length_nullLists _ _
  case sources =>
    intro e member
    rcases marked e member with column | ⟨archetype, inside, rfl⟩
    · rcases grown e column with early | input
      · rw [none] at early
        exact absurd early List.not_mem_nil
      · exact .inl input
    · exact .inr ⟨archetype, mem_indicators.1 inside, rfl, TypedArray.rows_nullLists _ _⟩

end Submission

theorem Columns.rowCount_eq {c : Columns} {n : Nat} (timelines : ∀ e ∈ c.timelines, e.2.rowCount = n)
    (components : ∀ e ∈ c.components, e.2.length = n) (some : c.components ≠ []) :
    c.rowCount = n := by
  obtain ⟨path, times, lists⟩ := c
  cases times with
  | cons e times => exact timelines e List.mem_cons_self
  | nil =>
    cases lists with
    | cons e lists => exact components e List.mem_cons_self
    | nil => exact absurd rfl some

def Message.columns? : Message → Option Columns
  | row _ => none
  | columns c => some c

theorem Recorder.columns?_warnings (r : Recorder) (tick : Nat) (texts : List String) :
    (r.warnings tick texts).filterMap Message.columns? = [] := by
  induction texts generalizing tick with
  | nil => rfl
  | cons text texts ih => rw [warnings_cons, List.filterMap_cons, warning, Message.columns?, ih]

def Submission.messages (path : EntityPath) (s : Submission) : List Message :=
  if s.components = [] then [] else [.columns ⟨path, s.timelines, s.components⟩]

def Submission.notes (path : EntityPath) (s : Submission) : List Note :=
  if s.components = [] then
    [⟨.debug, "send_columns() to " ++ path.display ++ " without any component, nothing to send"⟩]
  else []

namespace Call

theorem exec_sendColumns_mild {r : Recorder} {path : EntityPath} {times : List TimeColumn}
    {inputs : List ColumnInput} {strict : Option Bool}
    (mild : r.policy strict = true →
      ∀ complaint ∈ (Submission.ofInputs path times inputs).complaints, ¬complaint.IsFailure)
    (t : Trail) :
    exec (sendColumns path times inputs strict) r t =
      let s := Submission.ofInputs path times inputs
      let warned := t.warned r (s.complaints.map Complaint.text)
      (.ok (), { warned with
        sent := warned.sent ++ s.messages path
        notes := warned.notes ++ s.notes path }) := by
  simp only [sendColumns, exec_bind, exec_read, exec_report mild]
  by_cases none : (Submission.ofInputs path times inputs).components = []
  · simp [none, Submission.messages, Submission.notes]
  · simp [none, Submission.messages, Submission.notes]

theorem exec_sendColumns_failure {r : Recorder} {path : EntityPath} {times : List TimeColumn}
    {inputs : List ColumnInput} {strict : Option Bool} {before later : List Complaint}
    {cause : RecordingError} (policy : r.policy strict = true)
    (split : (Submission.ofInputs path times inputs).complaints = before ++ .failure cause :: later)
    (mild : ∀ complaint ∈ before, ¬complaint.IsFailure) (t : Trail) :
    exec (sendColumns path times inputs strict) r t =
      (.error cause, t.warned r (before.map Complaint.text)) := by
  simp only [sendColumns, exec_bind, exec_read, policy, split, exec_report_failure mild]

theorem exec_sendColumns (path : EntityPath) (times : List TimeColumn)
    (inputs : List ColumnInput) (strict : Option Bool) (r : Recorder) (t : Trail) :
    ∃ result after texts columns, exec (sendColumns path times inputs strict) r t = (result, after) ∧
      after.sent = t.sent ++ r.warnings t.tick texts ++ columns ∧
      (columns = [] ∨ (Submission.ofInputs path times inputs).components ≠ [] ∧
        columns = [.columns ⟨path, (Submission.ofInputs path times inputs).timelines,
          (Submission.ofInputs path times inputs).components⟩]) := by
  rcases Complaint.mild_or_failure (r.policy strict)
      (Submission.ofInputs path times inputs).complaints with
    mild | ⟨policy, before, cause, later, split, mild⟩
  · refine ⟨_, _, _, _, exec_sendColumns_mild mild t, rfl, ?_⟩
    unfold Submission.messages
    split
    case isTrue => exact .inl rfl
    case isFalse some => exact .inr ⟨some, rfl⟩
  · exact ⟨_, _, _, [], exec_sendColumns_failure policy split mild t, (List.append_nil _).symm,
      .inl rfl⟩

end Call

/-- At most one message of columns is sent, and all its columns have as many rows. -/
theorem Stream.run_sendColumns {s : Stream} {r : Recorder} (enabled : s.recorder = some r)
    (path : EntityPath) (times : List TimeColumn) (inputs : List ColumnInput)
    (strict : Option Bool) :
    ∃ result after notes sent, s.run (Call.sendColumns path times inputs strict) =
        (result, { s with recorder := some after }, notes) ∧
      after.sink.held = r.sink.held ++ sent ∧
      (sent.filterMap Message.columns?).length ≤ 1 ∧
      ∀ c, .columns c ∈ sent →
        c.rowCount = Submission.rowsOf times inputs ∧
        c.components ≠ [] ∧
        (∀ e ∈ c.timelines, e.1 = e.2.name ∧ e.2.rowCount = Submission.rowsOf times inputs) ∧
        (∀ e ∈ c.components, e.2.length = Submission.rowsOf times inputs) ∧
        (∀ e ∈ c.components, (∃ input ∈ inputs, input.lists? = some e) ∨
          ∃ archetype, .indicator archetype ∈ inputs ∧ e.1 = .indicator archetype ∧
            e.2.rows = List.replicate (Submission.rowsOf times inputs) .null) ∧
        ∀ archetype, .indicator archetype ∈ inputs →
          (c.components.get? (.indicator archetype)).isSome := by
  obtain ⟨result, t, texts, columns, done, sent, shape⟩ :=
    Call.exec_sendColumns path times inputs strict r { tick := r.tick }
  refine ⟨result, _, t.notes, t.sent, run_eq enabled done, rfl, ?_, ?_⟩
  · rw [sent, List.nil_append, List.filterMap_append, Recorder.columns?_warnings, List.nil_append]
    rcases shape with rfl | ⟨_, rfl⟩
    · exact Nat.zero_le 1
    · exact Nat.le_refl 1
  · intro c member
    have columns? : c ∈ columns.filterMap Message.columns? := by
      have there : c ∈ t.sent.filterMap Message.columns? :=
        List.mem_filterMap.2 ⟨.columns c, member, rfl⟩
      rwa [sent, List.nil_append, List.filterMap_append, Recorder.columns?_warnings,
        List.nil_append] at there
    rcases shape with rfl | ⟨some, rfl⟩
    · exact absurd columns? List.not_mem_nil
    · obtain rfl := List.mem_singleton.1 columns?
      obtain ⟨timelines, lengths, sources, indicators⟩ := Submission.ofInputs_spec path times inputs
      refine ⟨?_, some, timelines, lengths, sources, indicators⟩
      exact Columns.rowCount_eq (fun e inside => (timelines e inside).2) lengths some

theorem Stream.run_sendColumns_marked :
    ∃ result after notes sent,
      (Stream.mk (some ⟨"points", false, [], 0, .empty, fun _ => 0, ⟨.memory, [], 0⟩⟩) none).run
        (Call.sendColumns ⟨["points"]⟩ [⟨⟨"frame", .sequence⟩, [4, 2]⟩]
          [.indicator "Points", .batch ⟨.flat (.nulls 3), .partialOf "color", none⟩,
            .batch ⟨.flat (.nulls 2), .partialOf "position", none⟩] none) =
        (result, ⟨some after, none⟩, notes) ∧
      after.sink.held = sent ∧ (∀ c, .columns c ∈ sent → c.rowCount = 2) ∧
      (sent.filterMap Message.columns?).map (·.components.keys.map (·.component)) =
        [["position", "PointsIndicator"]] := by
  obtain ⟨result, after, notes, sent, ran, held, _, rows⟩ := @run_sendColumns
    ⟨some ⟨"points", false, [], 0, .empty, fun _ => 0, ⟨.memory, [], 0⟩⟩, none⟩ _ rfl
    ⟨["points"]⟩ [⟨⟨"frame", .sequence⟩, [4, 2]⟩]
    [.indicator "Points", .batch ⟨.flat (.nulls 3), .partialOf "color", none⟩,
      .batch ⟨.flat (.nulls 2), .partialOf "position", none⟩] none
  refine ⟨result, after, notes, sent, ran, held, fun c member => (rows c member).1, ?_⟩
  have same : after.sink.held = sent := held
  rw [← same]
  cases ran
  decide +kernel

end EntityLog
