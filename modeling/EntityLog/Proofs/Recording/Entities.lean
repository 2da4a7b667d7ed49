import EntityLog.Proofs.Recording.Regrouping
import EntityLog.Proofs.Recording.Submissions

/-!
Sending a table entity by entity. Each entity that has data or archetypes is sent one message, which
is what the table says of the entity; what is left out of a message repeats something in it, and is
warned of, or is a marker that names no archetype.
-/

namespace EntityLog

namespace Table

variable {table : Table} {rows : Nat} {path : EntityPath}

def isSent (table : Table) (path : EntityPath) : Bool :=
  table.data.any fun e =>
    e.1.entityPath = path && (!e.1.isMarker || e.1.descriptor.archetype.isSome)

def rowsOf (table : Table) (path : EntityPath) : Nat :=
  (table.times.map TimeColumn.rowCount ++ (table.columnsOf path).map (·.2.length)).headD 0

/-- What an entity is sent: all times, its own data, and a marker for each of its archetypes. -/
def message (table : Table) (path : EntityPath) : Columns where
  path
  timelines := (firstsBy TimeColumn.name [] table.times).map fun c => (c.name, c)
  components :=
    (firstsBy (·.1.descriptor) [] (table.columnsOf path)).map
        (fun e => (e.1.descriptor, e.2.trimmed)) ++
      (table.archetypesOf path).map fun archetype =>
        (.indicator archetype, .nullLists .null (table.rowsOf path))

def repeats (table : Table) (path : EntityPath) : List Complaint :=
  (repeatsBy TimeColumn.name [] table.times).map
      (fun c => Submission.repeated path (.timeline c.name)) ++
    (repeatsBy (·.1.descriptor) [] (table.columnsOf path)).map fun e =>
      Submission.repeated path (.component e.1.descriptor)

theorem isSent_iff :
    table.isSent path = true ↔ table.columnsOf path ≠ [] ∨ table.archetypesOf path ≠ [] := by
  have exists_of_ne_nil {α : Type} (values : List α) : values ≠ [] ↔ ∃ a, a ∈ values := by
    cases values <;> simp
  rw [isSent, List.any_eq_true, exists_of_ne_nil, exists_of_ne_nil]
  simp only [mem_columnsOf, mem_archetypesOf, Bool.and_eq_true, decide_eq_true_eq,
    Bool.or_eq_true, Bool.not_eq_true', Option.isSome_iff_exists]
  constructor
  · rintro ⟨e, member, same, unmarked | ⟨archetype, named⟩⟩
    · exact .inl ⟨e, member, same, unmarked⟩
    · exact .inr ⟨archetype, e, member, same, named⟩
  · rintro (⟨e, member, same, unmarked⟩ | ⟨archetype, e, member, same, named⟩)
    · exact ⟨e, member, same, .inl unmarked⟩
    · exact ⟨e, member, same, .inr ⟨archetype, named⟩⟩

theorem components_message : (table.message path).components = [] ↔ table.isSent path = false := by
  rw [← Bool.not_eq_true, isSent_iff, message]
  simp [firstsBy_eq_nil]

theorem toLists_data (valid : ∀ c ∈ table, c.IsValid rows) {e : DataColumn × TypedArray}
    (member : e ∈ table.data) :
    (e.1.column e.2).toLists = .ok e.2.trimmed ∧ e.2.trimmed.length = rows := by
  obtain ⟨c, inside, decoded⟩ := List.mem_filterMap.1 member
  unfold TableColumn.data? at decoded
  split at decoded
  case h_1 data component =>
    cases decoded
    obtain ⟨item, type⟩ := ColumnDescriptor.type_of_component component
    obtain ⟨_, _, _, _, _, written⟩ :=
      data.toLists_column ((valid c inside).type.trans type) (valid c inside).lists
    exact ⟨written, (TypedArray.length_trimmed _).trans (valid c inside).length⟩
  case h_2 => cases decoded

theorem hasRows_entity (valid : ∀ c ∈ table, c.IsValid rows) (path : EntityPath) :
    (table.entity path).HasRows rows := by
  intro column member
  obtain ⟨e, inside, rfl⟩ := List.mem_map.1 member
  exact ⟨_, toLists_data valid (mem_columnsOf.1 inside).1⟩

theorem rowCount_times (valid : ∀ c ∈ table, c.IsValid rows) :
    ∀ c ∈ table.times, c.rowCount = rows :=
  (Regrouping.ofTable_spec valid).1 ▸ (Regrouping.even_ofTable valid).1.times

theorem listsIn_entity (valid : ∀ c ∈ table, c.IsValid rows) (path : EntityPath) :
    Submission.listsIn (table.entity path).inputs =
      (table.columnsOf path).map fun e => (e.1.descriptor, e.2.trimmed) := by
  have markers : (table.archetypesOf path).filterMap
      (ColumnInput.lists? ∘ ColumnInput.indicator) = [] :=
    List.filterMap_eq_nil_iff.2 fun _ _ => rfl
  rw [Submission.listsIn, EntityColumns.inputs, List.filterMap_append, List.filterMap_map,
    List.filterMap_map, entity, markers, List.append_nil, List.filterMap_map,
    ← List.filterMap_eq_map]
  apply List.filterMap_congr
  intro e member
  have written := (toLists_data valid (mem_columnsOf.1 member).1).1
  rw [Function.comp_apply, Function.comp_apply, ColumnInput.lists?, listsOf, written]
  rw [DataColumn.descriptor_column]
  rfl

theorem indicators_entity (table : Table) (path : EntityPath) :
    Submission.indicators (table.entity path).inputs = table.archetypesOf path := by
  simp [Submission.indicators, EntityColumns.inputs, entity, Function.comp_def]

theorem rowsOf_entity (valid : ∀ c ∈ table, c.IsValid rows) (path : EntityPath) :
    Submission.rowsOf table.times (table.entity path).inputs = table.rowsOf path := by
  have counts : (table.entity path).inputs.filterMap ColumnInput.rowCount? =
      (table.columnsOf path).map (·.2.length) := by
    have split : ColumnInput.rowCount? = fun input => (ColumnInput.lists? input).map (·.2.length) :=
      rfl
    rw [split, ← List.map_filterMap, ← Submission.listsIn, listsIn_entity valid, List.map_map]
    simp only [Function.comp_def, TypedArray.length_trimmed]
  rw [Submission.rowsOf, counts, rowsOf, List.headD_eq_head?_getD, List.head?_append]

theorem ofInputs_entity (valid : ∀ c ∈ table, c.IsValid rows) (path : EntityPath) :
    let s := Submission.ofInputs path table.times (table.entity path).inputs
    s.timelines = (table.message path).timelines ∧
      s.components = (table.message path).components ∧ s.complaints = table.repeats path := by
  have distinct : (Submission.indicators (table.entity path).inputs).Nodup := by
    rw [indicators_entity]
    exact nodup_eraseDups _
  have new : ∀ archetype ∈ Submission.indicators (table.entity path).inputs,
      .indicator archetype ∉ (Submission.listsIn (table.entity path).inputs).map Prod.fst := by
    intro archetype _ known
    rw [listsIn_entity valid, List.map_map] at known
    obtain ⟨e, member, same⟩ := List.mem_map.1 known
    have unmarked := (mem_columnsOf.1 member).2.2
    have name : e.1.descriptor = .indicator archetype := same
    rw [DataColumn.isMarker, name, ComponentDescriptor.isIndicator_indicator, Bool.or_true]
      at unmarked
    cases unmarked
  obtain ⟨timelines, components, complaints⟩ := Submission.ofInputs_even (rowCount_times valid)
    (hasRows_entity valid path).inputs distinct new path
  refine ⟨timelines, components.trans ?_, complaints.trans ?_⟩
  · rw [listsIn_entity valid, indicators_entity, rowsOf_entity valid, firstsBy_map]
    rfl
  · rw [listsIn_entity valid, repeatsBy_map, List.map_map]
    rfl

end Table

theorem flatMap_ite {α β : Type} (p : α → Bool) (f : α → β) (values : List α) :
    (values.flatMap fun a => if p a then [f a] else []) = (values.filter p).map f := by
  induction values with
  | nil => rfl
  | cons a values ih =>
    rw [List.flatMap_cons, ih, List.filter_cons]
    split <;> rfl

namespace Call

variable {α : Type} {r : Recorder}

theorem exec_forM_columns {items : List α} {call : α → Call Unit} {texts : α → List String}
    {columns : α → List Columns}
    (each : ∀ item ∈ items, ∀ t, ∃ after, exec (call item) r t = (.ok (), after) ∧
      after.sent = t.sent ++ r.warnings t.tick (texts item) ++ (columns item).map .columns)
    (t : Trail) :
    ∃ after sent, exec (items.forM call) r t = (.ok (), after) ∧ after.sent = t.sent ++ sent ∧
      sent.filterMap Message.columns? = items.flatMap columns ∧
      ∀ item ∈ items, ∀ text ∈ texts item, ∃ tick, r.warning tick text ∈ sent := by
  induction items generalizing t with
  | nil =>
    exact ⟨t, [], rfl, (List.append_nil _).symm, rfl, fun _ none => absurd none List.not_mem_nil⟩
  | cons item items ih =>
    obtain ⟨between, first, sentFirst⟩ := each item List.mem_cons_self t
    obtain ⟨after, sent, others, sentOthers, told, warned⟩ :=
      ih (fun item member => each item (List.mem_cons_of_mem _ member)) between
    refine ⟨after, r.warnings t.tick (texts item) ++ (columns item).map .columns ++ sent,
      ?_, ?_, ?_, ?_⟩
    · change exec (call item >>= fun _ => items.forM call) r t = (.ok (), after)
      rw [exec_bind, first]
      exact others
    · rw [sentOthers, sentFirst]
      simp
    · have own : ((columns item).map Message.columns).filterMap Message.columns? = columns item := by
        rw [List.filterMap_map]
        exact List.filterMap_some
      rw [List.filterMap_append, List.filterMap_append, Recorder.columns?_warnings, own, told,
        List.nil_append, List.flatMap_cons]
    · intro other member text inside
      rcases List.mem_cons.1 member with rfl | later
      · obtain ⟨tick, here⟩ := Recorder.mem_warnings inside t.tick
        exact ⟨tick, List.mem_append_left _ (List.mem_append_left _ here)⟩
      · obtain ⟨tick, there⟩ := warned other later text inside
        exact ⟨tick, List.mem_append_right _ there⟩

variable {table : Table} {rows : Nat}

theorem exec_sendEntity (valid : ∀ c ∈ table, c.IsValid rows) (path : EntityPath)
    (strict : Option Bool) (t : Trail) :
    ∃ after, exec (sendColumns path table.times (table.entity path).inputs strict) r t =
        (.ok (), after) ∧
      after.sent = t.sent ++ r.warnings t.tick ((table.repeats path).map Complaint.text) ++
        (if table.isSent path then [table.message path] else []).map .columns := by
  obtain ⟨timelines, components, complaints⟩ := Table.ofInputs_entity valid path
  have mild := (Submission.even_ofInputs (Table.rowCount_times valid)
    (Table.hasRows_entity valid path).inputs path).mild
  refine ⟨_, exec_sendColumns_mild (fun _ => mild) t, ?_⟩
  dsimp only [Trail.warned]
  rw [complaints, Submission.messages, components, timelines]
  cases sent : table.isSent path with
  | false => rw [if_pos (Table.components_message.2 sent)]; rfl
  | true =>
    have some : (table.message path).components ≠ [] := by
      rw [ne_eq, Table.components_message, sent]
      decide
    rw [if_neg some]
    rfl

theorem exec_sendTable (valid : ∀ c ∈ table, c.IsValid rows) {strict : Option Bool}
    (clean : r.policy strict = true → table.filterMap TableColumn.refusal? = []) (t : Trail) :
    ∃ after sent, exec (sendTable table strict) r t = (.ok (), after) ∧ after.sent = t.sent ++ sent ∧
      sent.filterMap Message.columns? = (table.paths.filter table.isSent).map table.message ∧
      ∀ path ∈ table.paths, ∀ complaint ∈ table.repeats path,
        ∃ tick, r.warning tick complaint.text ∈ sent := by
  obtain ⟨times, entities⟩ := Regrouping.ofTable_spec valid
  have complaints := (Regrouping.even_ofTable valid).2
  have mild : r.policy strict = true →
      ∀ complaint ∈ (Regrouping.ofTable table).complaints, ¬complaint.IsFailure := by
    intro policy
    rw [complaints, clean policy]
    exact fun _ none => absurd none List.not_mem_nil
  obtain ⟨after, sent, done, sentAll, columns, warned⟩ := @exec_forM_columns _ r
    (Regrouping.ofTable table).entities
    (fun e => sendColumns e.1 (Regrouping.ofTable table).times e.2.inputs strict)
    (fun e => (table.repeats e.1).map Complaint.text)
    (fun e => if table.isSent e.1 then [table.message e.1] else []) (by
      rw [entities, times]
      intro e member
      obtain ⟨path, _, rfl⟩ := List.mem_map.1 member
      exact exec_sendEntity valid path strict)
    (t.warned r ((Regrouping.ofTable table).complaints.map Complaint.text))
  refine ⟨after, _, ?_, (sentAll.trans (List.append_assoc ..)), ?_, ?_⟩
  · simp only [sendTable, exec_bind, exec_read, exec_report mild]
    exact done
  · rw [List.filterMap_append, Recorder.columns?_warnings, List.nil_append, columns, entities,
      List.flatMap_map]
    exact flatMap_ite table.isSent table.message table.paths
  · intro path member complaint inside
    obtain ⟨tick, here⟩ := warned (path, table.entity path)
      (entities ▸ List.mem_map_of_mem member) _ (List.mem_map_of_mem inside)
    exact ⟨tick, List.mem_append_right _ here⟩

end Call

theorem Stream.run_sendTable_clean {rows : Nat} {table : Table} (valid : ∀ c ∈ table, c.IsValid rows)
    {r : Recorder} {strict : Option Bool}
    (clean : r.policy strict = true → table.filterMap TableColumn.refusal? = [])
    (types : Option TypeRegistry) :
    ∃ after notes sent, (Stream.mk (some r) types).run (Call.sendTable table strict) =
        (.ok (), ⟨some after, types⟩, notes) ∧
      after.sink.held = r.sink.held ++ sent ∧
      sent.filterMap Message.columns? = (table.paths.filter table.isSent).map table.message ∧
      ∀ path ∈ table.paths, ∀ complaint ∈ table.repeats path,
        ∃ tick, r.warning tick complaint.text ∈ sent := by
  obtain ⟨after, sent, done, all, columns, warned⟩ :=
    Call.exec_sendTable valid clean { tick := r.tick }
  rw [List.nil_append] at all
  subst all
  exact ⟨_, _, after.sent, @run_eq ⟨some r, types⟩ r rfl _ _ _ done, rfl, columns, warned⟩

theorem Stream.run_sendTable_refused {rows : Nat} {table : Table}
    (valid : ∀ c ∈ table, c.IsValid rows) {r : Recorder} {strict : Option Bool}
    (policy : r.policy strict = true) {cause : SubmissionError} {others : List SubmissionError}
    (refused : table.filterMap TableColumn.refusal? = cause :: others)
    (types : Option TypeRegistry) :
    (Stream.mk (some r) types).run (Call.sendTable table strict) =
      (.error (.submission cause), ⟨some r, types⟩, []) :=
  run_eq_of_unchanged (Call.exec_sendTable_refused valid policy refused { tick := r.tick })

/-- A valid table on a stream that is on, under the strict policy: the first column that is refused
is the error, and nothing else has happened; or no entity fails, and those that have something to send
are sent their messages, and all that repeats is warned of. -/
theorem Stream.run_sendTable_strict {rows : Nat} {table : Table}
    (valid : ∀ c ∈ table, c.IsValid rows) {r : Recorder} {strict : Option Bool}
    (policy : r.policy strict = true) (types : Option TypeRegistry) :
    let g := Regrouping.ofTable table
    match table.findSome? TableColumn.refusal? with
    | some cause =>
      (Stream.mk (some r) types).run (Call.sendTable table strict) =
        (.error (.submission cause), ⟨some r, types⟩, [])
    | none =>
      (∀ e ∈ g.entities, ∀ t, ∃ after,
        (Call.sendColumns e.1 g.times e.2.inputs strict).exec r t = (.ok (), after)) ∧
      ∃ after notes sent, (Stream.mk (some r) types).run (Call.sendTable table strict) =
          (.ok (), ⟨some after, types⟩, notes) ∧
        after.sink.held = r.sink.held ++ sent ∧
        sent.filterMap Message.columns? = (table.paths.filter table.isSent).map table.message ∧
        ∀ path ∈ table.paths, ∀ complaint ∈ table.repeats path,
          ∃ tick, r.warning tick complaint.text ∈ sent := by
  intro g
  have even := (Regrouping.even_ofTable valid).1
  rw [← List.head?_filterMap]
  cases refused : table.filterMap TableColumn.refusal? with
  | cons cause others => exact run_sendTable_refused valid policy refused types
  | nil =>
    exact ⟨fun e member => Call.exec_sendColumns_even even member strict r,
      run_sendTable_clean valid (fun _ => refused) types⟩

theorem Stream.run_sendTable_strict_nulls :
    let r : Recorder := ⟨"points", true, [], 5, .empty, fun _ => 0, ⟨.memory, [], 0⟩⟩
    let radii : TableColumn := ⟨⟨"points:radii", .listOf .int64, true, []⟩,
      .lists .regular (.item .int64) 1 (.plain [0, 2])
        (.flat (.integers .int64 [some 9, some 3, none]))⟩
    let frame (last : Option Int) : TableColumn :=
      ⟨⟨"frame", .int64, true, [("rerun.kind", "index")]⟩, .flat (.integers .int64 [some 4, last])⟩
    let table (last : Option Int) : Table := [radii, frame last]
    (∀ last, ∀ c ∈ table last, c.IsValid 2) ∧ r.policy none = true ∧
      (Stream.mk (some r) none).run (Call.sendTable (table none) none) =
        (.error (.submission (.time (.containsNulls "frame"))), ⟨some r, none⟩, []) ∧
      ∃ after notes sent m,
        (Stream.mk (some r) none).run (Call.sendTable (table (some 2)) none) =
          (.ok (), ⟨some after, none⟩, notes) ∧
        after.sink.held = sent ∧ sent.filterMap Message.columns? = [m] ∧ m.path = ⟨["points"]⟩ ∧
        m.timelines = [("frame", ⟨⟨"frame", .sequence⟩, [4, 2]⟩)] ∧
        m.components.map (·.2.rows) = [[.list [], .list [.integer 3, .null]]] := by
  intro r radii frame table
  have lists : radii.IsValid 2 :=
    ⟨rfl, rfl, TypedArray.listsFit_lists (by decide) (by decide)⟩
  have valid (last : Option Int) : ∀ c ∈ table last, c.IsValid 2 :=
    List.forall_mem_cons.2 ⟨lists,
      List.forall_mem_singleton.2 ⟨rfl, rfl, TypedArray.listsFit_flat _⟩⟩
  have refused : (table none).findSome? TableColumn.refusal? =
      some (.time (.containsNulls "frame")) := by decide +kernel
  have stopped := @run_sendTable_strict 2 (table none) (valid none) r none rfl none
  rw [refused] at stopped
  have accepted : (table (some 2)).findSome? TableColumn.refusal? = none := by decide +kernel
  have paths : (table (some 2)).paths.filter (table (some 2)).isSent = [⟨["points"]⟩] := by
    decide +kernel
  have sends := @run_sendTable_strict 2 (table (some 2)) (valid (some 2)) r none rfl none
  rw [accepted] at sends
  obtain ⟨_, after, notes, sent, ran, held, columns, _⟩ := sends
  rw [paths] at columns
  exact ⟨valid, rfl, stopped, after, notes, sent, _, ran, held, columns, rfl, by decide +kernel,
    by decide +kernel⟩

/-- Is a message what a table says of an entity: all its times, its own data row by row, and then
one marker for each of its archetypes? -/
structure Table.Sends (table : Table) (path : EntityPath) (m : Columns) : Prop where
  entity : m.path = path
  timelines : m.timelines = (firstsBy TimeColumn.name [] table.times).map fun c => (c.name, c)
  components : m.components.map (fun e => (e.1, e.2.rows)) =
    (firstsBy (·.1.descriptor) [] (table.columnsOf path)).map
        (fun e => (e.1.descriptor, e.2.rows)) ++
      (table.archetypesOf path).map fun archetype =>
        (.indicator archetype, List.replicate (table.rowsOf path) .null)

theorem Table.sends_message (table : Table) (path : EntityPath) :
    table.Sends path (table.message path) := by
  refine ⟨rfl, rfl, ?_⟩
  rw [message, List.map_append, List.map_map, List.map_map]
  simp only [Function.comp_def, TypedArray.rows_trimmed, TypedArray.rows_nullLists]

/-- A valid table on a stream that is on. The call goes through unless the policy is strict and a
column is refused; then each entity with data or archetypes is sent one message, in the order in
which the entities come. -/
theorem Stream.run_sendTable_entities {rows : Nat} {table : Table}
    (valid : ∀ c ∈ table, c.IsValid rows) (r : Recorder) (types : Option TypeRegistry)
    (strict : Option Bool) :
    ∃ result after notes sent,
      (Stream.mk (some r) types).run (Call.sendTable table strict) =
        (result, ⟨some after, types⟩, notes) ∧
      after.sink.held = r.sink.held ++ sent ∧
      (result = .ok () ↔ (r.policy strict = true → ∀ c ∈ table, c.refusal? = none)) ∧
      (result = .ok () → List.Forall₂ table.Sends (table.paths.filter table.isSent)
        (sent.filterMap Message.columns?)) := by
  rw [← List.filterMap_eq_nil_iff]
  by_cases clean : r.policy strict = true → table.filterMap TableColumn.refusal? = []
  · obtain ⟨after, notes, sent, ran, held, columns, _⟩ := run_sendTable_clean valid clean types
    refine ⟨_, after, notes, sent, ran, held, iff_of_true rfl clean, fun _ => ?_⟩
    rw [columns, List.forall₂_map_right_iff, List.forall₂_same]
    exact fun path _ => table.sends_message path
  · obtain ⟨policy, some⟩ := Classical.not_imp.1 clean
    obtain ⟨cause, others, refused⟩ := List.exists_cons_of_ne_nil some
    exact ⟨_, r, _, [], run_sendTable_refused valid policy refused types,
      (List.append_nil _).symm, iff_of_false (fun ok => nomatch ok) clean, fun ok => nomatch ok⟩

theorem Stream.run_sendTable_entities_spelled :
    let r : Recorder := ⟨"points", true, [], 5, .empty, fun _ => 0, ⟨.memory, [], 0⟩⟩
    let lists : TypedArray := .lists .regular (.item .int64) 1 (.masked [⟨1, true⟩, ⟨1, false⟩])
      (.flat (.integers .int64 [some 7, some 9, none]))
    let frame : TableColumn := ⟨⟨"frame", .int64, true, [("rerun.kind", "index")]⟩,
      .flat (.integers .int64 [some 4, some 2])⟩
    let base : TableColumn := ⟨⟨"base:SpeedIndicator", .listOf .int64, true, []⟩, lists⟩
    let speed : TableColumn := ⟨⟨"/arm:speed", .listOf .int64, true, []⟩, lists⟩
    let marker : TableColumn := ⟨⟨"arm:shown", .listOf .int64, true,
      [("rerun.archetype", "Points"), ("rerun.is_indicator", "true")]⟩, lists⟩
    let table : Table := [base, speed, frame, marker]
    (∀ c ∈ table, c.IsValid 2) ∧ ∃ after notes sent m,
      (Stream.mk (some r) none).run (Call.sendTable table none) =
        (.ok (), ⟨some after, none⟩, notes) ∧
      after.sink.held = sent ∧ sent.filterMap Message.columns? = [m] ∧ m.path = ⟨["arm"]⟩ ∧
      m.timelines = [("frame", ⟨⟨"frame", .sequence⟩, [4, 2]⟩)] ∧
      m.components.map (fun e => (e.1.component, e.2.rows)) =
        [("/arm:speed", [.list [.integer 9], .null]), ("PointsIndicator", [.null, .null])] := by
  intro r lists frame base speed marker table
  have fit : lists.ListsFit := TypedArray.listsFit_lists (by decide) (by decide)
  have times : frame.IsValid 2 := ⟨rfl, rfl, TypedArray.listsFit_flat _⟩
  have valid : ∀ c ∈ table, c.IsValid 2 := by
    intro c member
    simp only [table, List.mem_cons, List.not_mem_nil, or_false] at member
    rcases member with rfl | rfl | rfl | rfl
    · exact ⟨rfl, rfl, fit⟩
    · exact ⟨rfl, rfl, fit⟩
    · exact times
    · exact ⟨rfl, rfl, fit⟩
  obtain ⟨result, after, notes, sent, ran, held, ok, sends⟩ :=
    run_sendTable_entities valid r none none
  have accepted : result = .ok () := ok.2 fun _ => by decide +kernel
  have paths : table.paths.filter table.isSent = [⟨["arm"]⟩] := by decide +kernel
  have one := sends accepted
  rw [paths] at one
  obtain ⟨m, others, shape, none, told⟩ := List.forall₂_cons_left_iff.1 one
  cases none
  have components := congrArg (List.map fun e => (e.1.component, e.2)) shape.components
  rw [List.map_map] at components
  rw [accepted] at ran
  refine ⟨valid, after, notes, sent, m, ran, held, told, shape.entity, shape.timelines.trans ?_,
    components.trans ?_⟩
  · decide +kernel
  · decide +kernel

/-- What becomes of a data column when a table is sent: its rows are in the message of its entity; or
it is a marker, and that of its archetype is there if it names one; or it repeats another column, of
which there is a warning. -/
inductive DataColumn.Accounted (r : Recorder) (sent : List Message) (d : DataColumn)
    (a : TypedArray) : Prop
  | kept {m : Columns} {lists : TypedArray} : .columns m ∈ sent → m.path = d.entityPath →
    (d.descriptor, lists) ∈ m.components → lists.rows = a.rows → Accounted r sent d a
  | marker : d.isMarker = true →
    (∀ archetype, d.descriptor.archetype = some archetype → ∃ m, .columns m ∈ sent ∧
      m.path = d.entityPath ∧ .indicator archetype ∈ m.components.keys) → Accounted r sent d a
  | repeated {tick : Nat} :
    r.warning tick (Submission.repeated d.entityPath (.component d.descriptor)).text ∈ sent →
    Accounted r sent d a

theorem Message.mem_columns? {sent : List Message} {m : Columns} :
    m ∈ sent.filterMap columns? ↔ .columns m ∈ sent := by
  rw [List.mem_filterMap]
  constructor
  · rintro ⟨_ | m, member, same⟩
    · cases same
    · cases same
      exact member
  · exact fun member => ⟨_, member, rfl⟩

/-- A valid table under the lenient policy loses no data column without a warning, except for
markers that name no archetype. -/
theorem Stream.run_sendTable_lenient {rows : Nat} {table : Table}
    (valid : ∀ c ∈ table, c.IsValid rows) {r : Recorder} {strict : Option Bool}
    (lenient : r.policy strict = false) (types : Option TypeRegistry) :
    ∃ after notes sent,
      (Stream.mk (some r) types).run (Call.sendTable table strict) =
        (.ok (), ⟨some after, types⟩, notes) ∧
      after.sink.held = r.sink.held ++ sent ∧
      ∀ e ∈ table.data, e.1.Accounted r sent e.2 := by
  have clean : r.policy strict = true → table.filterMap TableColumn.refusal? = [] := by
    rw [lenient]
    exact fun strict => nomatch strict
  obtain ⟨after, notes, sent, ran, held, columns, warned⟩ := run_sendTable_clean valid clean types
  have there {path : EntityPath} (known : path ∈ table.paths) (some : table.isSent path = true) :
      .columns (table.message path) ∈ sent := by
    rw [← Message.mem_columns?, columns]
    exact List.mem_map_of_mem (List.mem_filter.2 ⟨known, some⟩)
  refine ⟨after, notes, sent, ran, held, fun e member => ?_⟩
  have known : e.1.entityPath ∈ table.paths := Table.mem_paths.2 ⟨e, member, rfl⟩
  cases marker : e.1.isMarker with
  | true =>
    refine .marker marker fun archetype named => ?_
    have listed : archetype ∈ table.archetypesOf e.1.entityPath :=
      Table.mem_archetypesOf.2 ⟨e, member, rfl, named⟩
    have some := Table.isSent_iff.2 (.inr (List.ne_nil_of_mem listed))
    exact ⟨_, there known some, rfl,
      List.mem_map.2 ⟨_, List.mem_append_right _ (List.mem_map_of_mem listed), rfl⟩⟩
  | false =>
    have own : e ∈ table.columnsOf e.1.entityPath := Table.mem_columnsOf.2 ⟨member, rfl, marker⟩
    have some := Table.isSent_iff.2 (.inl (List.ne_nil_of_mem own))
    rcases @mem_firstsBy_or_repeatsBy _ _ _ (·.1.descriptor) [] _ e own with first | again
    · refine .kept (there known some) rfl (List.mem_append_left _ ?_) (TypedArray.rows_trimmed e.2)
      exact List.mem_map_of_mem first
    · obtain ⟨_, here⟩ := warned e.1.entityPath known
        (Submission.repeated e.1.entityPath (.component e.1.descriptor))
        (List.mem_append_right _ (List.mem_map_of_mem again))
      exact .repeated here

theorem Stream.run_sendTable_lenient_repeated :
    let r : Recorder := ⟨"points", false, [], 5, .empty, fun _ => 0, ⟨.memory, [], 0⟩⟩
    let column (value : Int) : TableColumn := ⟨⟨"arm:speed", .listOf .int64, true, []⟩,
      .lists .regular (.item .int64) 0 (.plain [1]) (.flat (.integers .int64 [some value]))⟩
    (∀ c ∈ [column 1, column 2], c.IsValid 1) ∧ r.policy none = false ∧ ∃ after notes sent,
      (Stream.mk (some r) none).run (Call.sendTable [column 1, column 2] none) =
        (.ok (), ⟨some after, none⟩, notes) ∧
      after.sink.held = sent ∧ ∀ e ∈ Table.data [column 1, column 2], e.1.Accounted r sent e.2 := by
  intro r column
  have valid : ∀ c ∈ [column 1, column 2], c.IsValid 1 := by
    have one (value : Int) : (column value).IsValid 1 :=
      ⟨rfl, rfl, TypedArray.listsFit_lists (Nat.le_refl 1) (by decide)⟩
    exact List.forall_mem_cons.2 ⟨one 1, List.forall_mem_singleton.2 (one 2)⟩
  exact ⟨valid, rfl, @run_sendTable_lenient 1 _ valid r none rfl none⟩

/-- Rows that vanish without a warning, as they are taken for markers: one column has the flag, the
others only such a name. The one that names an archetype brings its marker back, without rows. -/
theorem Stream.run_sendTable_markers_lost :
    let r : Recorder := ⟨"points", false, [], 5, .empty, fun _ => 0, ⟨.memory, [], 0⟩⟩
    let column (name : String) (metadata : Metadata) : TableColumn :=
      ⟨⟨name, .listOf .int64, true, metadata⟩,
        .lists .regular (.item .int64) 0 (.plain [1]) (.flat (.integers .int64 [some 7]))⟩
    let table : Table :=
      [column "arm:SpeedIndicator" [], column "arm:shown" [("rerun.is_indicator", "true")],
        column "arm:LightIndicator" [("rerun.archetype", "Light")]]
    let ran := (Stream.mk (some r) none).run (Call.sendTable table none)
    (∀ c ∈ table, c.IsValid 1) ∧ r.policy none = false ∧
      table.data.map (·.1.isIndicator) = [false, true, false] ∧ ran.1 = .ok () ∧
      ran.2.1.recorder.map (·.sink.held.length) = some 1 ∧
      ran.2.1.recorder.map (fun after => (after.sink.held.flatMap Message.components).map fun e =>
        (e.1.component, e.2.rows)) = some [("LightIndicator", [])] ∧
      ∀ note ∈ ran.2.2, note.severity ≠ .warn := by
  intro r column table ran
  have one (name : String) (metadata : Metadata) : (column name metadata).IsValid 1 :=
    ⟨rfl, rfl, TypedArray.listsFit_lists (Nat.le_refl 1) (by decide)⟩
  have valid : ∀ c ∈ table, c.IsValid 1 :=
    List.forall_mem_cons.2 ⟨one _ _, List.forall_mem_cons.2 ⟨one _ _,
      List.forall_mem_singleton.2 (one _ _)⟩⟩
  exact ⟨valid, rfl, by decide +kernel, by decide +kernel, by decide +kernel, by decide +kernel,
    by decide +kernel⟩

end EntityLog
