import EntityLog.Proofs.Component.Columns
import EntityLog.Proofs.Recording.Policies
import EntityLog.Proofs.Time.Columns

namespace EntityLog

def ColumnInput.HasRows (rows : Nat) (input : ColumnInput) : Prop :=
  (∃ archetype, input = .indicator archetype) ∨ ∃ e, input.lists? = some e ∧ e.2.length = rows

namespace Submission

variable {path : EntityPath} {s : Submission} {rows : Nat}

structure Even (rows : Nat) (s : Submission) : Prop where
  first : ∀ n, s.expected = some n → n = rows
  mild : ∀ complaint ∈ s.complaints, ¬complaint.IsFailure

theorem even_empty : Even rows {} where
  first _ none := nomatch none
  mild _ none := absurd none List.not_mem_nil

namespace Even

theorem fit (even : s.Even rows) (column : ColumnName) :
    ∃ after, s.fit column rows = .ok after ∧ after.Even rows := by
  cases tried : s.fit column rows with
  | ok after =>
    obtain ⟨_, _, set, _⟩ := fit_eq_ok tried
    refine ⟨after, rfl, ?_, complaints_fit tried ▸ even.mild⟩
    intro n expected
    exact Option.some.inj (expected.symm.trans set)
  | error cause =>
    unfold Submission.fit at tried
    split at tried
    · cases tried
    case h_2 first expected known =>
      have set : s.expected = some expected := by rw [Submission.expected, known]; rfl
      rw [if_pos (even.first expected set).symm] at tried
      cases tried

theorem repeated (even : s.Even rows) (column : ColumnName) :
    (s.complain (repeated path column)).Even rows :=
  ⟨even.first, List.forall_mem_append.2 ⟨even.mild, List.forall_mem_singleton.2 id⟩⟩

theorem addTime (even : s.Even rows) {c : TimeColumn} (count : c.rowCount = rows) :
    (addTime path s c).Even rows := by
  obtain ⟨fitted, fits, evenly⟩ := even.fit (.timeline c.name)
  rcases addTime_cases path s c with ⟨_, _, same⟩ | ⟨cause, tried, _⟩ | ⟨after, _, tried, same⟩
  · exact same ▸ even.repeated _
  · rw [count, fits] at tried
    cases tried
  · rw [count, fits] at tried
    cases tried
    exact same ▸ ⟨evenly.first, evenly.mild⟩

theorem addLists (even : s.Even rows) (d : ComponentDescriptor) {lists : TypedArray}
    (count : lists.length = rows) : (addLists path s d lists).Even rows := by
  obtain ⟨fitted, fits, evenly⟩ := even.fit (.component d)
  rcases addLists_cases path s d lists with ⟨_, _, same⟩ | ⟨cause, tried, _⟩ | ⟨after, _, tried, same⟩
  · exact same ▸ even.repeated _
  · rw [count, fits] at tried
    cases tried
  · rw [count, fits] at tried
    cases tried
    exact same ▸ ⟨evenly.first, evenly.mild⟩

theorem addInput (even : s.Even rows) {input : ColumnInput} (has : input.HasRows rows) :
    (addInput path s input).Even rows := by
  rcases addInput_cases path s input with
    ⟨_, _, same⟩ | ⟨e, lists, same⟩ | ⟨_, unmarked, none, _⟩
  · exact same.symm ▸ even
  · rcases has with ⟨archetype, rfl⟩ | ⟨_, known, count⟩
    · cases lists
    · cases lists.symm.trans known
      exact same ▸ even.addLists e.1 count
  · rcases has with ⟨archetype, marker⟩ | ⟨_, known, _⟩
    · exact absurd marker (unmarked archetype)
    · cases none.symm.trans known

theorem addIndicator (even : s.Even rows) (archetype : ArchetypeName) :
    (addIndicator path s archetype).Even rows := by
  unfold Submission.addIndicator
  dsimp only
  split
  · exact even.repeated _
  · exact ⟨even.first, even.mild⟩

end Even

theorem even_ofInputs {times : List TimeColumn} {inputs : List ColumnInput}
    (timed : ∀ c ∈ times, c.rowCount = rows) (filled : ∀ input ∈ inputs, input.HasRows rows)
    (path : EntityPath) : (ofInputs path times inputs).Even rows :=
  ofInputs_induction even_empty (fun _ c even member => even.addTime (timed c member))
    (fun _ input even member => even.addInput (filled input member))
    fun _ archetype even => even.addIndicator archetype

end Submission

theorem ColumnDescriptor.ofField_unlisted {f : Field} (kind : ColumnKind.ofField f = .ok .component)
    (unlisted : ∀ item, f.type ≠ .list .regular item) :
    ofField f = .error (.notAList f.name f.type) := by
  rw [ofField, kind]
  simp only [bind, Except.bind]
  rfl

namespace TableColumn

/-- A column of a table has its rows, and the type that its field tells. -/
structure IsValid (rows : Nat) (c : TableColumn) : Prop where
  type : c.array.type = c.field.type
  length : c.array.length = rows
  lists : c.array.ListsFit

/-- What keeps a column from being decoded: a kind that is none, data that are no lists, or times
that cannot be read. -/
def refusal? (c : TableColumn) : Option SubmissionError :=
  match ColumnKind.ofField c.field with
  | .error cause => some (.column cause)
  | .ok .control => none
  | .ok .index =>
    match TimeColumn.read (IndexColumn.ofField c.field).timeline c.array with
    | .ok _ => none
    | .error cause => some (.time cause)
  | .ok .component =>
    match c.field.type with
    | .list .regular _ => none
    | type => some (.column (.notAList c.field.name type))

end TableColumn

def EntityColumns.HasRows (rows : Nat) (e : EntityColumns) : Prop :=
  ∀ c ∈ e.columns, ∃ lists, c.toLists = .ok lists ∧ lists.length = rows

theorem EntityColumns.HasRows.addArchetype {rows : Nat} {e : EntityColumns} (has : e.HasRows rows)
    (archetype : Option ArchetypeName) : (e.addArchetype archetype).HasRows rows := by
  unfold EntityColumns.addArchetype
  split
  · split
    · exact has
    · exact has
  · exact has

theorem EntityColumns.HasRows.inputs {rows : Nat} {e : EntityColumns} (has : e.HasRows rows) :
    ∀ input ∈ e.inputs, input.HasRows rows := by
  intro input member
  rcases List.mem_append.1 member with column | marker
  · obtain ⟨c, inside, rfl⟩ := List.mem_map.1 column
    obtain ⟨lists, done, count⟩ := has c inside
    exact .inr ⟨(c.descriptor, lists), by rw [ColumnInput.lists?, listsOf, done]; rfl, count⟩
  · obtain ⟨archetype, _, rfl⟩ := List.mem_map.1 marker
    exact .inl ⟨archetype, rfl⟩

namespace Regrouping

variable {rows : Nat} {g : Regrouping}

structure Even (rows : Nat) (g : Regrouping) : Prop where
  times : ∀ c ∈ g.times, c.rowCount = rows
  entities : ∀ e ∈ g.entities, e.2.HasRows rows

theorem Even.update (even : g.Even rows) (path : EntityPath) {change : EntityColumns → EntityColumns}
    (keeps : ∀ e, EntityColumns.HasRows rows e → (change e).HasRows rows) :
    (g.update path change).Even rows := by
  refine ⟨even.times, ?_⟩
  have before : ((g.entities.get? path).getD {}).HasRows rows := by
    cases found : g.entities.get? path with
    | none => exact fun _ none => absurd none List.not_mem_nil
    | some e => exact even.entities _ (Entries.mem_of_get? found)
  intro e member
  rcases Entries.mem_put member with old | rfl
  · exact even.entities e old
  · exact keeps _ before

theorem add_cases (g : Regrouping) (c : TableColumn) :
    (∃ cause, c.refusal? = some cause ∧ g.add c = g.fail cause) ∨
      c.refusal? = none ∧
        (g.add c = g ∨
          (∃ name times, TimeColumn.read name c.array = .ok times ∧
            g.add c = { g with times := g.times ++ [times] }) ∨
          ∃ item, c.field.type = .list .regular item ∧
            g.add c = g.addData c.field.name (.ofField c.field) c.array) := by
  unfold add TableColumn.refusal?
  cases kind : ColumnKind.ofField c.field with
  | error cause =>
    rw [ColumnDescriptor.ofField, kind]
    exact .inl ⟨_, rfl, rfl⟩
  | ok is =>
    cases is with
    | control =>
      rw [ColumnDescriptor.ofField, kind]
      exact .inr ⟨rfl, .inl rfl⟩
    | index =>
      rw [ColumnDescriptor.ofField, kind]
      simp only [bind, Except.bind, pure, Except.pure]
      cases read : TimeColumn.read (IndexColumn.ofField c.field).timeline c.array with
      | error cause => exact .inl ⟨_, rfl, rfl⟩
      | ok times => exact .inr ⟨rfl, .inr (.inl ⟨_, times, read, rfl⟩)⟩
    | component =>
      dsimp only
      split
      case h_1 item type =>
        rw [ColumnDescriptor.ofField, kind]
        exact .inr ⟨rfl, .inr (.inr ⟨item, type, by simp only [bind, Except.bind, type]; rfl⟩)⟩
      case h_2 unlisted =>
        rw [ColumnDescriptor.ofField_unlisted kind unlisted]
        exact .inl ⟨_, rfl, rfl⟩

theorem Even.addData (even : g.Even rows) {c : TableColumn} (valid : c.IsValid rows) {item : Field}
    (type : c.field.type = .list .regular item) (name : String) (data : DataColumn) :
    (g.addData name data c.array).Even rows ∧
      (g.addData name data c.array).complaints = g.complaints := by
  have marked := even.update data.entityPath fun _ has => has.addArchetype data.descriptor.archetype
  obtain ⟨skipped, slots, items, array, enough, bounded⟩ := valid.lists item (valid.type.trans type)
  obtain ⟨made, written⟩ := ComponentColumn.ofLists_of_fit enough bounded data.descriptor
  have length : slots.count = rows := by
    rw [← valid.length, array, TypedArray.length]
  unfold Regrouping.addData
  dsimp only
  split
  · exact ⟨marked, rfl⟩
  · simp only [array, made]
    refine ⟨marked.update data.entityPath fun _ has => ?_, rfl⟩
    exact List.forall_mem_append.2
      ⟨has, List.forall_mem_singleton.2 ⟨_, written, length⟩⟩

theorem Even.add (even : g.Even rows) {c : TableColumn} (valid : c.IsValid rows) :
    (g.add c).Even rows ∧
      (g.add c).complaints =
        g.complaints ++ c.refusal?.toList.map fun cause => .failure (.submission cause) := by
  rcases g.add_cases c with ⟨cause, refused, same⟩ | ⟨none, same⟩
  · rw [same, refused]
    exact ⟨⟨even.times, even.entities⟩, rfl⟩
  · rw [none, Option.toList_none, List.map_nil, List.append_nil]
    rcases same with same | ⟨name, times, read, same⟩ | ⟨item, type, same⟩
    · rw [same]
      exact ⟨even, rfl⟩
    · rw [same]
      have count : times.rowCount = rows := (TimeColumn.rowCount_read read).trans valid.length
      exact ⟨⟨List.forall_mem_append.2 ⟨even.times, List.forall_mem_singleton.2 count⟩,
        even.entities⟩, rfl⟩
    · rw [same]
      exact even.addData valid type _ _

theorem even_foldl {table : Table} (valid : ∀ c ∈ table, c.IsValid rows) (even : g.Even rows) :
    (table.foldl add g).Even rows ∧
      (table.foldl add g).complaints =
        g.complaints ++ (table.filterMap TableColumn.refusal?).map fun cause =>
          .failure (.submission cause) := by
  induction table generalizing g with
  | nil => exact ⟨even, (List.append_nil _).symm⟩
  | cons c table ih =>
    obtain ⟨added, first⟩ := even.add (valid c List.mem_cons_self)
    obtain ⟨all, others⟩ := ih (fun c member => valid c (List.mem_cons_of_mem _ member)) added
    refine ⟨all, others.trans ?_⟩
    rw [first, List.append_assoc, ← List.map_append, List.filterMap_cons]
    cases c.refusal? with
    | none => rfl
    | some cause => rfl

theorem even_ofTable {table : Table} (valid : ∀ c ∈ table, c.IsValid rows) :
    (ofTable table).Even rows ∧
      (ofTable table).complaints = (table.filterMap TableColumn.refusal?).map fun cause =>
        .failure (.submission cause) := by
  refine even_foldl valid ⟨?_, ?_⟩
  · exact fun _ none => absurd none List.not_mem_nil
  · exact fun _ none => absurd none List.not_mem_nil

end Regrouping

namespace Call

theorem exec_sendColumns_even {rows : Nat} {g : Regrouping} (even : g.Even rows)
    {e : EntityPath × EntityColumns} (member : e ∈ g.entities) (strict : Option Bool)
    (r : Recorder) (t : Trail) :
    ∃ after, exec (sendColumns e.1 g.times e.2.inputs strict) r t = (.ok (), after) := by
  have mild := (Submission.even_ofInputs even.times (even.entities e member).inputs e.1).mild
  exact ⟨_, exec_sendColumns_mild (fun _ => mild) t⟩

theorem exec_sendTable_refused {rows : Nat} {table : Table} (valid : ∀ c ∈ table, c.IsValid rows)
    {r : Recorder} {strict : Option Bool} (policy : r.policy strict = true)
    {cause : SubmissionError} {others : List SubmissionError}
    (refused : table.filterMap TableColumn.refusal? = cause :: others) (t : Trail) :
    exec (sendTable table strict) r t = (.error (.submission cause), t) := by
  have complaints := (Regrouping.even_ofTable valid).2
  rw [refused] at complaints
  simp only [sendTable, exec_bind, exec_read, policy, complaints, List.map_cons, report, if_true,
    exec_throw]

end Call

end EntityLog
