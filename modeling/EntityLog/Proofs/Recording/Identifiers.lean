import EntityLog.Proofs.Recording.Outcomes

namespace EntityLog

namespace Message

def IsNamed (m : Message) : Prop := (m.components.keys.map ComponentDescriptor.component).Nodup

variable {m : Message}

theorem IsNamed.get?_eq (named : m.IsNamed) {e : ComponentDescriptor × TypedArray}
    (member : e ∈ m.components) : m.get? e.1.component = some e.2 := by
  have there : (m.components.find? (·.1.component = e.1.component)).isSome :=
    List.find?_isSome.2 ⟨e, member, decide_eq_true rfl⟩
  obtain ⟨found, finds⟩ := Option.isSome_iff_exists.1 there
  have same : found.1.component = e.1.component := by simpa using List.find?_some finds
  rw [IsNamed, Entries.keys, List.map_map] at named
  have is : found = e :=
    List.inj_on_of_nodup_map named (List.mem_of_find?_eq_some finds) member same
  rw [get?, finds, is]
  rfl

theorem isNamed_iff (distinct : m.components.keys.Nodup) :
    m.IsNamed ↔ Set.InjOn ComponentDescriptor.component {d | d ∈ m.components.keys} := by
  constructor
  · exact fun named d member e other same => List.inj_on_of_nodup_map named member other same
  · exact fun apart => distinct.map_on fun d member e other same => apart member other same

theorem isNamed_warning (r : Recorder) (tick : Nat) (text : String) :
    (r.warning tick text).components.keys.Nodup ∧ (r.warning tick text).IsNamed := by
  have names : (r.warning tick text).components.keys =
      [.indicator TextLog.archetype, TextLog.textDescriptor, TextLog.levelDescriptor] := rfl
  rw [IsNamed, names]
  decide

end Message

namespace MergedRow

open ComponentBatch

variable (batches : List ComponentBatch) (given : Option Nat)

theorem nodup_firstOccurrences : ((firstOccurrences batches).map component).Nodup := by
  rw [List.nodup_iff_count_le_one]
  intro name
  have named : (· == name) ∘ component = fun b => decide (b.component = name) :=
    funext fun b => beq_eq_decide _ _
  rw [List.count, List.countP_map, List.countP_eq_length_filter, named, filter_firstOccurrences]
  cases batches.find? (·.component = name) <;> simp

theorem nodup_splatBatches : ((splatBatches batches given).map component).Nodup :=
  (nodup_firstOccurrences batches).sublist (List.filter_sublist.map _)

theorem nodup_instancedBatches : ((instancedBatches batches given).map component).Nodup :=
  (nodup_firstOccurrences batches).sublist (List.filter_sublist.map _)

def Unambiguous : Prop :=
  ∀ b ∈ splatBatches batches given, b.component = instanceKey → b.descriptor = instanceKeyDescriptor

variable {batches given}

theorem keyOf_cases (splats : List ComponentBatch) :
    keyOf splats = [] ∧ (splats = [] ∨ ∃ b ∈ splats, b.descriptor = instanceKeyDescriptor) ∨
      keyOf splats = [(instanceKeyDescriptor, splatKey)] ∧ splats ≠ [] ∧
        ∀ b ∈ splats, b.descriptor ≠ instanceKeyDescriptor := by
  unfold keyOf
  split
  case isTrue none => exact .inl ⟨rfl, none⟩
  case isFalse key =>
    rw [not_or, not_exists] at key
    exact .inr ⟨rfl, key.1, fun b member own => key.2 b ⟨member, own⟩⟩

theorem keys_map_entry (batches : List ComponentBatch) :
    Entries.keys (batches.map entry) = batches.map ComponentBatch.descriptor := by
  simp [Entries.keys, entry, Function.comp_def]

end MergedRow

namespace Call

open ComponentBatch MergedRow

variable {path : EntityPath} {options : LogOptions} {time : TimePoint}
  {batches : List ComponentBatch} {m : Message}

theorem keys_of_mem_rowMessages (member : m ∈ rowMessages path options time batches) :
    m.components.keys = (splatBatches batches options.instances).map ComponentBatch.descriptor ++
        (keyOf (splatBatches batches options.instances)).keys ∨
      m.components.keys =
        (instancedBatches batches options.instances).map ComponentBatch.descriptor := by
  rcases List.mem_append.1 member with splats | others
  · rw [Message.mem_rows splats]
    refine .inl ?_
    rw [← keys_map_entry, Message.components, Entries.keys, List.map_append]
    rfl
  · rw [Message.mem_rows others]
    exact .inr (keys_map_entry _)

theorem nodup_keys_rowMessages (member : m ∈ rowMessages path options time batches) :
    m.components.keys.Nodup := by
  have distinct {batches : List ComponentBatch} (named : (batches.map component).Nodup) :
      (batches.map ComponentBatch.descriptor).Nodup := by
    refine List.Nodup.of_map ComponentDescriptor.component ?_
    rwa [List.map_map]
  have splats := distinct (nodup_splatBatches batches options.instances)
  rcases keys_of_mem_rowMessages member with keys | keys
  · rw [keys]
    rcases keyOf_cases (splatBatches batches options.instances) with ⟨none, _⟩ | ⟨key, _, new⟩
    · rw [none]
      exact (List.append_nil _).symm ▸ splats
    · rw [key]
      refine List.nodup_append.2 ⟨splats, List.nodup_singleton _, ?_⟩
      intro d member other key
      obtain ⟨b, inside, rfl⟩ := List.mem_map.1 member
      obtain rfl := List.mem_singleton.1 key
      exact new b inside
  · rw [keys]
    exact distinct (nodup_instancedBatches batches options.instances)

theorem isNamed_rowMessages :
    (∀ m ∈ rowMessages path options time batches, m.IsNamed) ↔
      Unambiguous batches options.instances := by
  have splats := nodup_splatBatches batches options.instances
  constructor
  · intro named b member name
    by_contra other
    have new : ∀ b' ∈ splatBatches batches options.instances,
        b'.descriptor ≠ instanceKeyDescriptor := by
      intro b' inside key
      have same : b'.component = b.component := by rw [component, key, name]; rfl
      exact other (List.inj_on_of_nodup_map splats inside member same ▸ key)
    rcases keyOf_cases (splatBatches batches options.instances) with ⟨_, none⟩ | ⟨key, _, _⟩
    · rcases none with none | ⟨b', inside, key⟩
      · exact List.ne_nil_of_mem member none
      · exact new b' inside key
    · have sent : .row ⟨path, time, options.isStatic,
          (splatBatches batches options.instances).map entry ++
            keyOf (splatBatches batches options.instances)⟩ ∈
          rowMessages path options time batches := by
        refine List.mem_append_left _ ?_
        rw [Message.rows, if_neg]
        · exact List.mem_singleton_self _
        · simp [List.ne_nil_of_mem member]
      have twice := named _ sent
      rw [Message.IsNamed, Message.components, key, Entries.keys, List.map_append, List.map_append,
        List.map_map, List.map_map] at twice
      exact (List.nodup_append.1 twice).2.2 _ (List.mem_map_of_mem member) _
        (List.mem_singleton_self _) name
  · intro unambiguous m member
    rcases keys_of_mem_rowMessages member with keys | keys
    · rw [Message.IsNamed, keys]
      rcases keyOf_cases (splatBatches batches options.instances) with ⟨none, _⟩ | ⟨key, _, new⟩
      · rw [none, List.map_append, List.map_map]
        exact (List.append_nil _).symm ▸ splats
      · rw [key, List.map_append, List.map_map]
        refine List.nodup_append.2 ⟨splats, List.nodup_singleton _, ?_⟩
        intro name member other key
        obtain ⟨b, inside, rfl⟩ := List.mem_map.1 member
        obtain rfl := List.mem_singleton.1 key
        exact fun name => new b inside (unambiguous b inside name)
    · rw [Message.IsNamed, keys, List.map_map]
      exact nodup_instancedBatches batches options.instances

end Call

theorem Columns.mem_keys_ofOffers (path : EntityPath) (rows : Nat) (offers : List Offer)
    (d : ComponentDescriptor) :
    d ∈ (ofOffers path rows offers).components.keys ↔ .component d ∈ Offer.taken rows offers :=
  Offer.mem_keys_kept (Offer.labels_component rows)

namespace Table

variable {table : Table} {rows : Nat} {path : EntityPath}

theorem mem_paths_of_isSent (sent : table.isSent path = true) : path ∈ table.paths := by
  obtain ⟨data, member, is⟩ := List.any_eq_true.1 sent
  rw [Bool.and_eq_true, decide_eq_true_eq] at is
  exact mem_paths.2 ⟨data, member, is.1⟩

theorem keys_message (valid : ∀ c ∈ table, c.IsValid rows) (path : EntityPath) :
    (table.message path).components.keys.Nodup ∧
      ∀ d, d ∈ (table.message path).components.keys ↔
        d ∈ (table.columnsOf path).map (·.1.descriptor) ∨
          d ∈ (table.archetypesOf path).map .indicator := by
  obtain ⟨_, components, _⟩ := ofInputs_entity valid path
  have accounts := Submission.accounts_ofInputs path table.times (table.entity path).inputs
  refine ⟨?_, fun d => ?_⟩
  · rw [← components, accounts.components]
    exact Offer.nodup_keys_kept (Offer.labels_component _) _
  · have data : Entries.keys ((firstsBy (·.1.descriptor) [] (table.columnsOf path)).map
        fun e => (e.1.descriptor, e.2.trimmed)) =
        (firstsBy (·.1.descriptor) [] (table.columnsOf path)).map (·.1.descriptor) := by
      simp [Entries.keys, Function.comp_def]
    have markers : Entries.keys ((table.archetypesOf path).map fun archetype =>
        (ComponentDescriptor.indicator archetype,
          TypedArray.nullLists .null (table.rowsOf path))) =
        (table.archetypesOf path).map .indicator := by
      simp [Entries.keys, Function.comp_def]
    rw [message, Entries.keys, List.map_append, ← Entries.keys, ← Entries.keys, data, markers,
      List.mem_append, mem_map_firstsBy]
    simp

end Table

namespace RecordingCall

/-- Does a call give each name under one descriptor only, as far as it comes to one message? -/
def Unambiguous : RecordingCall → Prop
  | bundle _ b options => MergedRow.Unambiguous b.batches options.instances
  | batches _ bs options => MergedRow.Unambiguous bs options.instances
  | parts _ ps options => MergedRow.Unambiguous (ps.flatMap RowPart.batches) options.instances
  | columns _ times inputs _ => Set.InjOn ComponentDescriptor.component
      {d | .component d ∈ Offer.taken (Submission.rowsOf times inputs)
        (Submission.offers times inputs)}
  | table t _ => ∀ path, Set.InjOn ComponentDescriptor.component
      {d | d ∈ (t.columnsOf path).map (·.1.descriptor) ∨ d ∈ (t.archetypesOf path).map .indicator}

variable {c : RecordingCall} {r : Recorder} {tick : Nat}

theorem nodup_keys_data (valid : c.IsValid) {m : Message} (member : m ∈ c.data r tick) :
    m.components.keys.Nodup := by
  cases c with
  | bundle path b options => exact Call.nodup_keys_rowMessages member
  | batches path bs options => exact Call.nodup_keys_rowMessages member
  | parts path ps options => exact Call.nodup_keys_rowMessages member
  | columns path times inputs strict =>
    simp only [data] at member
    split at member
    case isTrue => cases member
    case isFalse =>
      obtain rfl := List.mem_singleton.1 member
      exact (Columns.keeps_ofOffers path times inputs).components.1
  | table t strict =>
    obtain ⟨rows, valid⟩ := valid
    obtain ⟨path, _, rfl⟩ := List.mem_map.1 member
    exact (Table.keys_message valid path).1

theorem isNamed_data (valid : c.IsValid) (r : Recorder) (tick : Nat) :
    (∀ m ∈ c.data r tick, m.IsNamed) ↔ c.Unambiguous := by
  cases c with
  | bundle path b options =>
    rw [data, data.rows, List.flatMap_singleton]
    exact Call.isNamed_rowMessages
  | batches path bs options =>
    have all : [RowPart.raw (bs.map some)].flatMap RowPart.batches = bs := by
      simp [RowPart.batches]
    rw [data, data.rows, all]
    exact Call.isNamed_rowMessages
  | parts path ps options => exact Call.isNamed_rowMessages
  | columns path times inputs strict =>
    have distinct := (Columns.keeps_ofOffers path times inputs).components.1
    simp only [data, Unambiguous, ← Columns.mem_keys_ofOffers path]
    split
    case isTrue none => simp [none, Entries.keys]
    case isFalse =>
      rw [List.forall_mem_singleton]
      exact Message.isNamed_iff distinct
  | table t strict =>
    obtain ⟨rows, valid⟩ := valid
    simp only [data, Unambiguous, List.forall_mem_map]
    have named (path : EntityPath) : (Message.columns (t.message path)).IsNamed ↔
        Set.InjOn ComponentDescriptor.component
          {d | d ∈ (t.columnsOf path).map (·.1.descriptor) ∨
            d ∈ (t.archetypesOf path).map .indicator} := by
      obtain ⟨distinct, keys⟩ := Table.keys_message valid path
      simp only [← keys]
      exact Message.isNamed_iff distinct
    constructor
    · intro all path
      cases sent : t.isSent path with
      | true =>
        have known := Table.mem_paths_of_isSent sent
        exact (named path).1 (all path (List.mem_filter.2 ⟨known, sent⟩))
      | false =>
        have none := Table.isSent_iff.not.1 (Bool.not_eq_true _ ▸ sent)
        simp only [not_or, not_not] at none
        simp [none]
    · exact fun unambiguous path _ => (named path).2 (unambiguous path)

end RecordingCall

theorem RecordingCall.mem_emissions {c : RecordingCall} (valid : c.IsValid) (r : Recorder)
    (strict : Bool) (tick : Nat) :
    (∀ e ∈ (perform r strict tick c.script).emissions,
      (∃ tick text, e.message = r.warning tick text) ∨ e.message ∈ c.data r tick) ∧
    ((perform r strict tick c.script).result = .ok () → ∀ m ∈ c.data r tick,
      ∃ e ∈ (perform r strict tick c.script).emissions, e.message = m) := by
  have through := goesThrough_script valid r tick
  obtain ⟨earlier, same⟩ := perform_prefix r strict tick c.script
  constructor
  · intro e member
    have there := earlier.subset member
    by_cases role : e.role = .warning
    · have warned : e.message ∈ r.warnings tick (c.complaints.map Complaint.text) := by
        rw [← through.warnings]
        exact List.mem_map_of_mem (List.mem_filter.2 ⟨there, decide_eq_true role⟩)
      obtain ⟨i, _, is⟩ := List.mem_mapIdx.1 warned
      exact .inl ⟨_, _, is.symm⟩
    · right
      rw [← through.data]
      exact List.mem_map_of_mem (List.mem_filter.2 ⟨there, decide_eq_true role⟩)
  · intro done m member
    rw [← through.data] at member
    obtain ⟨e, inside, is⟩ := List.mem_map.1 member
    rw [same done]
    exact ⟨e, (List.mem_filter.1 inside).1, is⟩

/-- Messages of a call on a stream that is on, under any policy. Each has each descriptor once. Each
has one component of each name, which a look-up finds, if the call is not ambiguous; and only then,
if the call goes through. -/
theorem Stream.run_named (r : Recorder) (types : Option TypeRegistry) {c : RecordingCall}
    (valid : c.IsValid) :
    ∃ result after notes sent,
      (Stream.mk (some r) types).run c.steps = (result, ⟨some after, types⟩, notes) ∧
      after.sink.held = r.sink.held ++ sent ∧
      (∀ m ∈ sent, m.components.keys.Nodup) ∧
      (c.Unambiguous → ∀ m ∈ sent, m.IsNamed ∧
        ∀ e ∈ m.components, m.get? e.1.component = some e.2) ∧
      (result = .ok () → (∀ m ∈ sent, m.IsNamed) → c.Unambiguous) := by
  obtain ⟨notes, done⟩ := c.plays_steps { tick := r.tick }
  obtain ⟨sources, all⟩ := RecordingCall.mem_emissions valid r (r.policy c.strict) r.tick
  refine ⟨_, _, _, _, @run_eq ⟨some r, types⟩ r rfl _ _ _ done,
    congrArg (r.sink.held ++ ·) (List.nil_append _), ?_, ?_, ?_⟩
  · refine List.forall_mem_map.2 fun e member => ?_
    rcases sources e member with ⟨tick, text, is⟩ | data
    · rw [is]
      exact (Message.isNamed_warning r tick text).1
    · exact RecordingCall.nodup_keys_data valid data
  · intro unambiguous
    refine List.forall_mem_map.2 fun e member => ?_
    have named : e.message.IsNamed := by
      rcases sources e member with ⟨tick, text, is⟩ | data
      · rw [is]
        exact (Message.isNamed_warning r tick text).2
      · exact (RecordingCall.isNamed_data valid r r.tick).2 unambiguous _ data
    exact ⟨named, fun _ inside => named.get?_eq inside⟩
  · intro went named
    refine (RecordingCall.isNamed_data valid r r.tick).1 fun m member => ?_
    obtain ⟨e, inside, rfl⟩ := all went m member
    exact named _ (List.mem_map_of_mem inside)

theorem Stream.run_named_splat :
    let r : Recorder := ⟨"points", true, [], 5, .empty, fun _ => 0, ⟨.memory, [], 0⟩⟩
    let batch (component : ComponentIdentifier) (count : Nat) : ComponentBatch :=
      ⟨.flat (.nulls count), .partialOf component, none⟩
    let c : RecordingCall :=
      .batches ⟨["points"]⟩ [batch "position" 2, batch "color" 1, batch "position" 3] {}
    c.IsValid ∧ c.Unambiguous ∧
      ∃ after notes sent,
        (Stream.mk (some r) none).run c.steps = (.ok (), ⟨some after, none⟩, notes) ∧
        after.sink.held = sent ∧ (∀ m ∈ sent, m.IsNamed) ∧
        sent.map (fun m => m.components.keys.map (·.component)) =
          [["rerun.archetypes.TextLogIndicator", "TextLog:text", "TextLog:level"],
            ["color", instanceKey], ["position"]] := by
  intro r batch c
  have unambiguous : c.Unambiguous := by
    change ∀ b ∈ MergedRow.splatBatches _ _, _
    decide
  obtain ⟨result, after, notes, sent, ran, held, _, named, _⟩ := @run_named r none c trivial
  have done := congrArg Prod.fst ran
  cases done
  refine ⟨trivial, unambiguous, after, notes, sent, ran, held,
    fun m member => (named unambiguous m member).1, ?_⟩
  have same : after.sink.held = sent := held
  rw [← same]
  cases ran
  decide +kernel

/-- Two columns of one name, which are sent in one message as they belong to two archetypes; and the
key that comes with a splat which has its name, but not its type. -/
theorem Stream.run_ambiguous :
    let r : Recorder := ⟨"points", true, [], 5, .empty, fun _ => 0, ⟨.memory, [], 0⟩⟩
    let names (call : Call Unit) := ((Stream.mk (some r) none).run call).2.1.arrived.map fun m =>
      m.components.keys.map (·.component)
    let color (archetype : ArchetypeName) : ColumnInput :=
      .batch ⟨.flat (.nulls 2), { archetype := some archetype, component := "color" }, none⟩
    let batch (component : ComponentIdentifier) (count : Nat) : ComponentBatch :=
      ⟨.flat (.nulls count), .partialOf component, none⟩
    names (Call.sendColumns ⟨["points"]⟩ [⟨⟨"frame", .sequence⟩, [4, 2]⟩]
        [color "Points", color "Lines"] none) = [["color", "color"]] ∧
      names (Call.logBatches ⟨["points"]⟩ [batch "position" 2, batch instanceKey 1] {}) =
        [[instanceKey, instanceKey], ["position"]] := by
  intro r names color batch
  exact ⟨by decide +kernel, by decide +kernel⟩

end EntityLog
