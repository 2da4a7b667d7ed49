import EntityLog.Proofs.Component.Columns
import EntityLog.Proofs.Recording.Keeping

namespace EntityLog

namespace ComponentBatch

variable (b : ComponentBatch)

def unitColumn : ComponentColumn := ⟨b, .plain (List.replicate b.length 1)⟩

def unitLists : TypedArray :=
  .lists .regular (.item b.type) 0 (.plain (List.replicate b.length 1)) b.array

theorem partition_ones : b.partition (some (List.replicate b.length 1)) = .ok b.unitColumn := by
  refine ComponentColumn.ofLengths_eq_ok.2 ⟨⟨?_, ?_⟩, ?_⟩
  · intro n member
    rw [List.eq_of_mem_replicate member]
    exact Int.one_nonneg
  · rw [List.sum_replicate, nsmul_one]
  · rw [List.map_replicate]
    rfl

variable {b}

theorem partition_none (few : b.length ≤ int32Max) : b.partition none = .ok b.unitColumn := by
  rw [partition, ComponentColumn.units, if_neg (Int.not_lt.2 few)]
  exact b.partition_ones

theorem toLists_unitColumn (few : b.length ≤ int32Max) :
    b.unitColumn.toLists = .ok b.unitLists :=
  (ComponentColumn.toLists_eq_ok (ComponentColumn.isCut_of_ofLengths b.partition_ones)).2
    ⟨few, rfl⟩

theorem length_unitLists : b.unitLists.length = b.length := by
  rw [unitLists, TypedArray.length, Slots.count, Slots.lengths, List.length_replicate]

end ComponentBatch

theorem TypedArray.cutItems_ones (items : List Element) :
    cutItems (List.replicate items.length ⟨1, true⟩) items = items.map fun item => .list [item] := by
  induction items with
  | nil => rfl
  | cons item items ih =>
    rw [List.length_cons, List.replicate_succ, cutItems, List.map_cons, ← ih]
    rfl

theorem ComponentBatch.rows_unitLists (b : ComponentBatch) :
    b.unitLists.rows = b.array.rows.map fun cell => .list [cell] := by
  have slots : (Slots.plain (List.replicate b.length 1)).toList =
      List.replicate b.array.rows.length ⟨1, true⟩ := by
    rw [Slots.toList, List.map_replicate, TypedArray.length_rows]
    rfl
  rw [unitLists, TypedArray.rows, slots, List.drop_zero]
  exact TypedArray.cutItems_ones b.array.rows

namespace ColumnInput

/-- An input stays as it is, or is a batch that is cut into rows of one instance. -/
inductive Cut : ColumnInput → ColumnInput → Prop
  | same (input : ColumnInput) : Cut input input
  | ones {b : ComponentBatch} {c : ComponentColumn} (few : b.length ≤ int32Max)
    (done : b.partition (some (List.replicate b.length 1)) = .ok c) : Cut (.batch b) (.column c)

variable {b : ComponentBatch} {input cut : ColumnInput}

theorem offer?_batch (few : b.length ≤ int32Max) :
    (batch b).offer? = some (.lists b.descriptor b.unitLists) := by
  have storage : b.intoStorage.partition none = .ok b.intoStorage.unitColumn :=
    ComponentBatch.partition_none few
  have lists : b.intoStorage.unitColumn.toLists = .ok b.intoStorage.unitLists :=
    ComponentBatch.toLists_unitColumn few
  rw [offer?, storage, Offer.ofColumn, lists]
  rfl

theorem lists?_batch (few : b.length ≤ int32Max) :
    (batch b).lists? = some (b.descriptor, b.unitLists) := by
  have offer := offer?_batch few
  rcases (batch b).offer?_cases with ⟨_, _, _, same⟩ | ⟨e, lists, same⟩ | ⟨_, _, same⟩
  · cases same.symm.trans offer
  · injection same.symm.trans offer with is
    injection is with name array
    rw [lists, ← name, ← array]
  · cases same.symm.trans offer

theorem Cut.offer?_eq (h : Cut input cut) : cut.offer? = input.offer? := by
  cases h with
  | same => rfl
  | @ones b c few done =>
    obtain rfl := Except.ok.inj (b.partition_ones.symm.trans done)
    rw [offer?_batch few, offer?, Offer.ofColumn, ComponentBatch.toLists_unitColumn few]
    rfl

theorem Cut.filterMap_eq {β : Type} {f : ColumnInput → Option β}
    (same : ∀ {input cut}, Cut input cut → f cut = f input) {inputs cuts : List ColumnInput}
    (h : List.Forall₂ Cut inputs cuts) : cuts.filterMap f = inputs.filterMap f := by
  induction h with
  | nil => rfl
  | cons first _ ih => rw [List.filterMap_cons, List.filterMap_cons, same first, ih]

theorem Cut.offers_eq {inputs cuts : List ColumnInput} (h : List.Forall₂ Cut inputs cuts)
    (times : List TimeColumn) : Submission.offers times cuts = Submission.offers times inputs := by
  have markers : Submission.indicators cuts = Submission.indicators inputs :=
    Cut.filterMap_eq (fun first => by cases first <;> rfl) h
  rw [Submission.offers, Submission.offers, markers, Cut.filterMap_eq Cut.offer?_eq h]

end ColumnInput

theorem Call.sendColumns_eq_of_offers {times : List TimeColumn} {inputs others : List ColumnInput}
    (same : Submission.offers times others = Submission.offers times inputs) (path : EntityPath)
    (strict : Option Bool) :
    sendColumns path times others strict = sendColumns path times inputs strict := by
  have submission :
      Submission.ofInputs path times others = Submission.ofInputs path times inputs := by
    rw [Submission.ofInputs_eq_foldl, Submission.ofInputs_eq_foldl, same]
  rw [sendColumns, sendColumns, submission]

theorem Stream.run_sendColumns_keeps {s : Stream} {r : Recorder} (enabled : s.recorder = some r)
    (path : EntityPath) (times : List TimeColumn) (inputs : List ColumnInput)
    (strict : Option Bool) :
    ∃ result after notes sent, s.run (Call.sendColumns path times inputs strict) =
        (result, { s with recorder := some after }, notes) ∧
      after.sink.held = r.sink.held ++ sent ∧
      ∀ c, .columns c ∈ sent →
        c.Keeps times inputs ∧ c.rowCount = Submission.rowsOf times inputs := by
  obtain ⟨result, t, texts, columns, done, sent, shape⟩ :=
    Call.exec_sendColumns path times inputs strict r { tick := r.tick }
  refine ⟨result, _, t.notes, t.sent, run_eq enabled done, rfl, ?_⟩
  intro c member
  have columns? : c ∈ columns.filterMap Message.columns? := by
    have there : c ∈ t.sent.filterMap Message.columns? :=
      List.mem_filterMap.2 ⟨.columns c, member, rfl⟩
    rwa [sent, List.nil_append, List.filterMap_append, Recorder.columns?_warnings,
      List.nil_append] at there
  rcases shape with rfl | ⟨some, rfl⟩
  · exact absurd columns? List.not_mem_nil
  · obtain rfl := List.mem_singleton.1 columns?
    obtain ⟨timelines, lengths, _⟩ := Submission.ofInputs_spec path times inputs
    refine ⟨?_, Columns.rowCount_eq (fun e inside => (timelines e inside).2) lengths some⟩
    have accounts := Submission.accounts_ofInputs path times inputs
    rw [accounts.timelines, accounts.components, Submission.rowsBy_offers]
    exact Columns.keeps_ofOffers path times inputs

theorem Submission.listsIn_append (before later : List ColumnInput) :
    listsIn (before ++ later) = listsIn before ++ listsIn later :=
  List.filterMap_append

theorem Columns.Keeps.get?_unitLists {c : Columns} {times : List TimeColumn}
    {before later : List ColumnInput} {b : ComponentBatch}
    (keeps : c.Keeps times (before ++ .batch b :: later)) (few : b.length ≤ int32Max)
    (fits : b.length = Submission.rowsOf times (before ++ .batch b :: later))
    (first : ∀ e ∈ Submission.listsIn before, e.1 = b.descriptor → e.2.length ≠ b.length) :
    c.components.get? b.descriptor = some b.unitLists := by
  have none : (Submission.listsIn before).find? (fun e =>
      e.1 = b.descriptor ∧ e.2.length = b.length) = none := by
    refine List.find?_eq_none.2 fun e member => ?_
    simpa using first e member
  have own : Submission.listsIn (.batch b :: later) =
      (b.descriptor, b.unitLists) :: Submission.listsIn later :=
    List.filterMap_cons_some (ColumnInput.lists?_batch few)
  rw [keeps.component, ← fits, Submission.listsIn_append, own, List.find?_append, none,
    Option.none_or, List.find?_cons_of_pos (by simp [ComponentBatch.length_unitLists])]
  rfl

/-- To send a batch or its unit column comes to the same, in any call on any stream. If the batch
fits and is the first of its name that does, each row of it in the message is the list of one
instance. -/
theorem Stream.run_sendColumns_units :
    (∀ b : ComponentBatch, ∃ c, b.partition (some (List.replicate b.length 1)) = .ok c) ∧
    ∀ (s : Stream) (path : EntityPath) (times : List TimeColumn) (inputs : List ColumnInput)
        (strict : Option Bool),
      (∀ cuts, List.Forall₂ ColumnInput.Cut inputs cuts →
        s.run (Call.sendColumns path times cuts strict) =
          s.run (Call.sendColumns path times inputs strict)) ∧
      ∀ r, s.recorder = some r → ∃ result after notes sent,
        s.run (Call.sendColumns path times inputs strict) =
          (result, { s with recorder := some after }, notes) ∧
        after.sink.held = r.sink.held ++ sent ∧
        ∀ c, .columns c ∈ sent → ∀ before b later, inputs = before ++ .batch b :: later →
          b.length ≤ int32Max → b.length = c.rowCount →
          (∀ e ∈ Submission.listsIn before, e.1 = b.descriptor → e.2.length ≠ c.rowCount) →
          ∃ lists, c.components.get? b.descriptor = some lists ∧ lists.length = b.length ∧
            lists.rows = b.array.rows.map fun cell => .list [cell] := by
  refine ⟨fun b => ⟨_, b.partition_ones⟩, fun s path times inputs strict => ⟨?same, ?rows⟩⟩
  case same =>
    intro cuts h
    rw [Call.sendColumns_eq_of_offers (ColumnInput.Cut.offers_eq h times)]
  case rows =>
    intro r enabled
    obtain ⟨result, after, notes, sent, ran, held, keeps⟩ :=
      run_sendColumns_keeps enabled path times inputs strict
    refine ⟨result, after, notes, sent, ran, held, ?_⟩
    rintro c member before b later rfl few fits first
    obtain ⟨kept, rows⟩ := keeps c member
    rw [← fits] at first
    exact ⟨_, kept.get?_unitLists few (fits.trans rows) first, ComponentBatch.length_unitLists,
      b.rows_unitLists⟩

theorem Stream.run_sendColumns_units_colors :
    let s : Stream :=
      ⟨some ⟨"points", false, [], 0, .empty, fun _ => 0, ⟨.memory, [], 0⟩⟩, none⟩
    let times : List TimeColumn := [⟨⟨"frame", .sequence⟩, [4, 2]⟩]
    let long : ComponentBatch := ⟨.flat (.nulls 3), .partialOf "color", none⟩
    let b : ComponentBatch :=
      ⟨.flat (.integers .int64 [some 7, none]), .partialOf "color", some "rgb"⟩
    ∃ c result after notes sent, b.partition (some [1, 1]) = .ok c ∧
      s.run (Call.sendColumns ⟨["points"]⟩ times [.indicator "Points", .batch long, .column c]
        none) = (result, { s with recorder := some after }, notes) ∧
      after.sink.held = sent ∧
      ∃ m lists, .columns m ∈ sent ∧ m.components.get? b.descriptor = some lists ∧
        lists.rows = [.list [.integer 7], .list [.null]] := by
  intro s times long b
  have few : b.length ≤ int32Max := by decide
  obtain ⟨ones, calls⟩ := run_sendColumns_units
  obtain ⟨c, done⟩ := ones b
  obtain ⟨same, rows⟩ :=
    calls s ⟨["points"]⟩ times [.indicator "Points", .batch long, .batch b] none
  obtain ⟨result, after, notes, sent, ran, held, lists⟩ := rows _ rfl
  have cut := same [.indicator "Points", .batch long, .column c]
    (.cons (.same _) (.cons (.same _) (.cons (.ones few done) .nil)))
  have once : (sent.filterMap Message.columns?).map (·.rowCount) = [2] := by
    have all : after.sink.held = sent := held
    rw [← all]
    cases ran
    decide +kernel
  obtain ⟨m, one, count⟩ := List.map_eq_singleton_iff.1 once
  have member : .columns m ∈ sent := by
    obtain ⟨message, inside, is⟩ := List.mem_filterMap.1 (one ▸ List.mem_singleton_self m)
    cases message with
    | row => cases is
    | columns => exact Option.some.inj is ▸ inside
  obtain ⟨found, get, _, each⟩ := lists m member [.indicator "Points", .batch long] b [] rfl few
    (count ▸ rfl) (by rw [count]; decide +kernel)
  exact ⟨c, result, after, notes, sent, done, cut.trans ran, held, m, found, member, get, each⟩

end EntityLog
