import EntityLog.Proofs.Recording.Scripts

namespace EntityLog

namespace Message

def tick? : Message → Option TimeCell
  | row r => r.time.get? .logTick
  | columns _ => none

def HasTick (m : Message) (n : Nat) : Prop := m.tick? = some (.ofSequence n)

/-- A static row has no time. Another one has a tick, from `first` on and before `next`, and the
time of the wall clock at it. -/
def IsStamped (clock : Nat → Int) (first next : Nat) : Message → Prop
  | row r =>
    if r.isStatic then r.time = .empty
    else ∃ n, first ≤ n ∧ n < next ∧ r.time.get? .logTick = some (.ofSequence n) ∧
      r.time.get? .logTime = some ⟨.timestamp, clock n⟩
  | columns _ => True

variable {m : Message} {clock : Nat → Int} {first next n k : Nat}

theorem HasTick.unique (here : m.HasTick n) (there : m.HasTick k) : n = k := by
  have same : TimeCell.ofSequence n = .ofSequence k := Option.some.inj (here.symm.trans there)
  exact Int.ofNat.inj (congrArg TimeCell.value same)

theorem IsStamped.range (stamped : m.IsStamped clock first next) (ticked : m.HasTick n) :
    first ≤ n ∧ n < next := by
  cases m with
  | columns c => cases ticked
  | row r =>
    rw [IsStamped] at stamped
    split at stamped
    case isTrue =>
      rw [HasTick, tick?, stamped] at ticked
      cases ticked
    case isFalse =>
      obtain ⟨k, least, most, tick, _⟩ := stamped
      exact HasTick.unique ticked tick ▸ ⟨least, most⟩

theorem IsStamped.widen {earlier later : Nat} (stamped : m.IsStamped clock first next)
    (least : earlier ≤ first) (most : next ≤ later) : m.IsStamped clock earlier later := by
  cases m with
  | columns c => trivial
  | row r =>
    rw [IsStamped] at stamped ⊢
    split
    case isTrue isStatic => rwa [if_pos isStatic] at stamped
    case isFalse moving =>
      rw [if_neg moving] at stamped
      obtain ⟨k, above, below, cells⟩ := stamped
      exact ⟨k, Nat.le_trans least above, Nat.lt_of_lt_of_le below most, cells⟩

theorem mem_rows {path : EntityPath} {time : TimePoint} {isStatic : Bool}
    {components : Entries ComponentDescriptor TypedArray}
    (member : m ∈ rows path time isStatic components) :
    m = .row ⟨path, time, isStatic, components⟩ := by
  rw [rows] at member
  split at member
  case isTrue => cases member
  case isFalse => exact List.mem_singleton.1 member

end Message

namespace Recorder

theorem get?_stamp_logTick (r : Recorder) (tick : Nat) :
    (r.stamp tick).get? .logTick = some (.ofSequence tick) := by
  simp [stamp, TimePoint.get?, TimePoint.insert]

theorem get?_stamp_logTime (r : Recorder) (tick : Nat) :
    (r.stamp tick).get? .logTime = some ⟨.timestamp, r.clock tick⟩ := by
  simp [stamp, timeAt, TimePoint.get?, TimePoint.insert, TimelineName.logTime, TimelineName.logTick]

end Recorder

def Role.IsData : Role → Prop
  | splat | instanced => True
  | warning | columns => False

def Emission.Precedes (a b : Emission) : Prop :=
  ∀ m n, a.message.HasTick m → b.message.HasTick n →
    m ≤ n ∧ (m = n ↔ a.role = .splat ∧ b.role = .instanced)

theorem Emission.precedes_of_ranges {a b : Emission} {clock : Nat → Int} {first next last : Nat}
    (before : a.message.IsStamped clock first next) (after : b.message.IsStamped clock next last)
    (apart : ¬a.role.IsData) : a.Precedes b := by
  intro m n tick later
  have less : m < n := Nat.lt_of_lt_of_le (before.range tick).2 (after.range later).1
  refine ⟨Nat.le_of_lt less, fun same => absurd same (Nat.ne_of_lt less), fun both => ?_⟩
  rw [both.1] at apart
  exact absurd trivial apart

namespace Stage

variable {r : Recorder} {tick n : Nat} {stage : Stage} {e : Emission}

def IsQuiet : Stage → Prop
  | rows .. => False
  | complain _ | columns _ => True

theorem le_nextTick (stage : Stage) (tick : Nat) : tick ≤ stage.nextTick tick := by
  cases stage with
  | complain _ => exact tick.le_succ
  | columns _ => exact tick.le_refl
  | rows path options row =>
    rw [nextTick]
    split
    · exact tick.le_refl
    · exact tick.le_succ

theorem not_isData_of_mem_emit (quiet : stage.IsQuiet) (member : e ∈ stage.emit r tick) :
    ¬e.role.IsData := by
  cases stage with
  | complain _ =>
    cases List.mem_singleton.1 member
    exact id
  | columns _ =>
    cases List.mem_singleton.1 member
    exact id
  | rows path options row => exact absurd quiet id

theorem mem_emit_rows {path : EntityPath} {options : LogOptions} {row : MergedRow}
    (member : e ∈ (rows path options row).emit r tick) :
    ∃ components, e.message = .row ⟨path, options.time r tick, options.isStatic, components⟩ := by
  rcases List.mem_append.1 member with splat | instanced
  · obtain ⟨m, sent, rfl⟩ := List.mem_map.1 splat
    exact ⟨row.splats, Message.mem_rows sent⟩
  · obtain ⟨m, sent, rfl⟩ := List.mem_map.1 instanced
    exact ⟨row.instanced, Message.mem_rows sent⟩

theorem isStamped_row (path : EntityPath) (options : LogOptions)
    (components : Entries ComponentDescriptor TypedArray) {next : Nat}
    (taken : options.isStatic = false → tick < next) :
    (Message.row ⟨path, options.time r tick, options.isStatic, components⟩).IsStamped r.clock tick
      next := by
  rw [Message.IsStamped, LogOptions.time]
  split
  case isTrue => rfl
  case isFalse moving =>
    exact ⟨tick, tick.le_refl, taken (Bool.eq_false_iff.2 moving), r.get?_stamp_logTick tick,
      r.get?_stamp_logTime tick⟩

theorem nextTick_rows {options : LogOptions} (moving : options.isStatic = false) (path : EntityPath)
    (row : MergedRow) (tick : Nat) : (rows path options row).nextTick tick = tick + 1 := by
  rw [nextTick, moving]
  rfl

theorem isStamped_of_mem_emit (member : e ∈ stage.emit r tick) :
    e.message.IsStamped r.clock tick (stage.nextTick tick) := by
  cases stage with
  | columns _ =>
    cases List.mem_singleton.1 member
    trivial
  | complain complaint =>
    cases List.mem_singleton.1 member
    exact isStamped_row warningsPath {} _ fun _ => tick.lt_succ_self
  | rows path options row =>
    obtain ⟨components, sent⟩ := mem_emit_rows member
    rw [sent]
    exact isStamped_row path options components fun moving =>
      nextTick_rows moving path row tick ▸ tick.lt_succ_self

theorem eq_of_hasTick_rows {path : EntityPath} {options : LogOptions} {row : MergedRow}
    (member : e ∈ (rows path options row).emit r tick) (ticked : e.message.HasTick n) :
    n = tick := by
  obtain ⟨least, most⟩ := (isStamped_of_mem_emit member).range ticked
  rw [nextTick] at most
  split at most
  · exact absurd most (Nat.not_lt.2 least)
  · exact Nat.le_antisymm (Nat.le_of_lt_succ most) least

theorem pairwise_rows {path : EntityPath} {time : TimePoint} {isStatic : Bool}
    {components : Entries ComponentDescriptor TypedArray} {role : Role} :
    ((Message.rows path time isStatic components).map (Emission.mk role)).Pairwise
      Emission.Precedes := by
  rw [Message.rows]
  split
  · exact .nil
  · exact List.pairwise_singleton _ _

theorem pairwise_emit (stage : Stage) (r : Recorder) (tick : Nat) :
    (stage.emit r tick).Pairwise Emission.Precedes := by
  cases stage with
  | complain _ => exact List.pairwise_singleton _ _
  | columns _ => exact List.pairwise_singleton _ _
  | rows path options row =>
    refine List.pairwise_append.2 ⟨pairwise_rows, pairwise_rows, ?_⟩
    intro a splat b instanced m n first second
    -- Both rows have the tick that the call uses up.
    have aTick := eq_of_hasTick_rows (List.mem_append_left _ splat) first
    have bTick := eq_of_hasTick_rows (List.mem_append_right _ instanced) second
    obtain ⟨_, _, rfl⟩ := List.mem_map.1 splat
    obtain ⟨_, _, rfl⟩ := List.mem_map.1 instanced
    have same : m = n := aTick.trans bTick.symm
    exact ⟨Nat.le_of_eq same, fun _ => ⟨rfl, rfl⟩, fun _ => same⟩

theorem used_or_empty (least : tick ≤ n) (most : n < stage.nextTick tick) :
    (∃ e ∈ stage.emit r tick, e.message.HasTick n) ∨
      ∃ path options row, stage = rows path options row ∧ options.isStatic = false ∧
        stage.emit r tick = [] := by
  cases stage with
  | columns _ => exact absurd most (Nat.not_lt.2 least)
  | complain _ =>
    have same : n = tick := Nat.le_antisymm (Nat.le_of_lt_succ most) least
    exact .inl ⟨_, List.mem_singleton_self _, same ▸ r.get?_stamp_logTick tick⟩
  | rows path options row =>
    cases isStatic : options.isStatic with
    | true =>
      rw [nextTick, if_pos isStatic] at most
      exact absurd most (Nat.not_lt.2 least)
    | false =>
      rw [nextTick_rows isStatic] at most
      have same : n = tick := Nat.le_antisymm (Nat.le_of_lt_succ most) least
      cases sent : (rows path options row).emit r tick with
      | nil => exact .inr ⟨path, options, row, rfl, isStatic, rfl⟩
      | cons e others =>
        refine .inl ⟨e, List.mem_cons_self, ?_⟩
        obtain ⟨components, message⟩ := mem_emit_rows (sent ▸ List.mem_cons_self)
        rw [message, Message.HasTick, Message.tick?, LogOptions.time, isStatic, same]
        exact r.get?_stamp_logTick tick

end Stage

section

variable {r : Recorder} {strict : Bool} {tick n : Nat} {script : List Stage} {e : Emission}

def RowsLast (script : List Stage) : Prop := script.Pairwise fun stage _ => stage.IsQuiet

theorem le_perform_tick (r : Recorder) (strict : Bool) (tick : Nat) (script : List Stage) :
    tick ≤ (perform r strict tick script).tick := by
  fun_induction perform r strict tick script with
  | case1 tick => exact tick.le_refl
  | case2 tick => exact tick.le_refl
  | case3 tick stage script mild ih => exact Nat.le_trans (stage.le_nextTick tick) ih

theorem isStamped_perform (member : e ∈ (perform r strict tick script).emissions) :
    e.message.IsStamped r.clock tick (perform r strict tick script).tick := by
  fun_induction perform r strict tick script with
  | case1 tick => cases member
  | case2 tick => cases member
  | case3 tick stage script mild ih =>
    rcases List.mem_append.1 member with now | later
    · exact (Stage.isStamped_of_mem_emit now).widen tick.le_refl (le_perform_tick ..)
    · exact (ih later).widen (stage.le_nextTick tick) (Nat.le_refl _)

theorem pairwise_perform (last : RowsLast script) (r : Recorder) (strict : Bool) (tick : Nat) :
    (perform r strict tick script).emissions.Pairwise Emission.Precedes := by
  fun_induction perform r strict tick script with
  | case1 tick => exact .nil
  | case2 tick => exact .nil
  | case3 tick stage script mild ih =>
    obtain ⟨quiet, last⟩ := List.pairwise_cons.1 last
    refine List.pairwise_append.2 ⟨stage.pairwise_emit r tick, ih last, ?_⟩
    intro a now b later
    cases script with
    | nil => cases later
    | cons next script =>
      have apart := Stage.not_isData_of_mem_emit (quiet next List.mem_cons_self) now
      exact Emission.precedes_of_ranges (Stage.isStamped_of_mem_emit now) (isStamped_perform later)
        apart

theorem used_or_skipped (last : RowsLast script) (least : tick ≤ n)
    (most : n < (perform r strict tick script).tick) :
    (∃ e ∈ (perform r strict tick script).emissions, e.message.HasTick n) ∨
      ((perform r strict tick script).result = .ok () ∧
        (perform r strict tick script).tick = n + 1 ∧
        (∃ path options row, .rows path options row ∈ script ∧ options.isStatic = false) ∧
        ∀ e ∈ (perform r strict tick script).emissions, ¬e.role.IsData) := by
  fun_induction perform r strict tick script with
  | case1 tick => exact absurd most (Nat.not_lt.2 least)
  | case2 tick => exact absurd most (Nat.not_lt.2 least)
  | case3 tick stage script mild ih =>
    obtain ⟨quiet, last⟩ := List.pairwise_cons.1 last
    by_cases now : n < stage.nextTick tick
    · rcases Stage.used_or_empty least now with
        ⟨e, sent, used⟩ | ⟨path, options, row, rfl, isStatic, none⟩
      · exact .inl ⟨e, List.mem_append_left _ sent, used⟩
      · cases script with
        | cons next script => exact absurd (quiet next List.mem_cons_self) id
        | nil =>
          have next := Stage.nextTick_rows isStatic path row tick
          obtain rfl : n = tick := by omega
          refine .inr ⟨rfl, next, ⟨path, options, row, List.mem_cons_self, isStatic⟩, ?_⟩
          intro e sent
          rw [none] at sent
          cases sent
    · rcases ih last (Nat.not_lt.1 now) most with
        ⟨e, sent, used⟩ | ⟨ok, final, ⟨path, options, row, member, moving⟩, clear⟩
      · exact .inl ⟨e, List.mem_append_right _ sent, used⟩
      · refine .inr ⟨ok, final, ⟨path, options, row, List.mem_cons_of_mem _ member, moving⟩, ?_⟩
        intro e sent
        rcases List.mem_append.1 sent with first | later
        · exact Stage.not_isData_of_mem_emit (quiet _ member) first
        · exact clear e later

theorem RowsLast.of_quiet (quiet : ∀ stage ∈ script, stage.IsQuiet) : RowsLast script :=
  List.pairwise_of_forall_mem_list fun stage member _ _ => quiet stage member

theorem RowsLast.concat (quiet : ∀ stage ∈ script, stage.IsQuiet) (last : Stage) :
    RowsLast (script ++ [last]) :=
  List.pairwise_append.2
    ⟨RowsLast.of_quiet quiet, List.pairwise_singleton _ _, fun stage member _ _ => quiet stage member⟩

end

def Emission.stamp (e : Emission) : Role × Option TimeCell := (e.role, e.message.tick?)

theorem get?_time_logTick (r : Recorder) (options : LogOptions) (tick : Nat) :
    (options.time r tick).get? .logTick =
      if options.isStatic then none else some (.ofSequence tick) := by
  rw [LogOptions.time]
  split
  · rfl
  · exact r.get?_stamp_logTick tick

theorem map_stamp_rows (path : EntityPath) (time : TimePoint) (isStatic : Bool)
    (components : Entries ComponentDescriptor TypedArray) (role : Role) :
    ((Message.rows path time isStatic components).map (Emission.mk role)).map Emission.stamp =
      if components = [] then [] else [(role, time.get? .logTick)] := by
  rw [Message.rows]
  split <;> rfl

theorem Stage.map_stamp_emit (stage : Stage) (r s : Recorder) (tick : Nat) :
    (stage.emit r tick).map Emission.stamp = (stage.emit s tick).map Emission.stamp := by
  cases stage with
  | columns _ => rfl
  | complain complaint =>
    have tick? (r : Recorder) :
        (r.warning tick complaint.text).tick? = some (.ofSequence tick) := r.get?_stamp_logTick tick
    simp only [emit, List.map_cons, List.map_nil, Emission.stamp, tick?]
  | rows path options row =>
    simp only [emit, List.map_append, map_stamp_rows, get?_time_logTick]

theorem perform_stamps (r s : Recorder) (strict : Bool) (tick : Nat) (script : List Stage) :
    (perform r strict tick script).tick = (perform s strict tick script).tick ∧
      (perform r strict tick script).result = (perform s strict tick script).result ∧
      (perform r strict tick script).emissions.map Emission.stamp =
        (perform s strict tick script).emissions.map Emission.stamp := by
  induction script generalizing tick with
  | nil => exact ⟨rfl, rfl, rfl⟩
  | cons stage script ih =>
    cases failure : stage.failure? strict with
    | some cause =>
      rw [perform_failure failure, perform_failure failure]
      exact ⟨rfl, rfl, rfl⟩
    | none =>
      obtain ⟨next, result, stamps⟩ := ih (stage.nextTick tick)
      rw [perform_cons failure, perform_cons failure]
      refine ⟨next, result, ?_⟩
      simp only [Performance.after, List.map_append, stamps, stage.map_stamp_emit r s]

namespace RecordingCall

theorem quiet_complaints (complaints : List Complaint) :
    ∀ stage ∈ complaints.map Stage.complain, stage.IsQuiet :=
  List.forall_mem_map.2 fun _ _ => trivial

theorem quiet_columnsScript (path : EntityPath) (s : Submission) :
    ∀ stage ∈ columnsScript path s, stage.IsQuiet := by
  refine List.forall_mem_append.2 ⟨quiet_complaints _, ?_⟩
  split
  · exact fun _ none => absurd none List.not_mem_nil
  · exact List.forall_mem_singleton.2 trivial

theorem script_shape (c : RecordingCall) :
    (∀ stage ∈ c.script, stage.IsQuiet) ∨
      ∃ before path options row, c.script = before ++ [.rows path options row] ∧
        (∀ stage ∈ before, stage.IsQuiet) ∧ c.stamps = !options.isStatic := by
  cases c with
  | bundle path b options => exact .inr ⟨_, path, options, _, rfl, quiet_complaints _, rfl⟩
  | batches path bs options => exact .inr ⟨_, path, options, _, rfl, quiet_complaints _, rfl⟩
  | parts path ps options => exact .inr ⟨_, path, options, _, rfl, quiet_complaints _, rfl⟩
  | columns path times inputs strict => exact .inl (quiet_columnsScript path _)
  | table t strict =>
    refine .inl (List.forall_mem_append.2 ⟨quiet_complaints _, fun stage member => ?_⟩)
    obtain ⟨entity, _, member⟩ := List.mem_flatMap.1 member
    exact quiet_columnsScript entity.1 _ stage member

theorem rowsLast_script (c : RecordingCall) : RowsLast c.script := by
  rcases c.script_shape with quiet | ⟨before, path, options, row, shape, quiet, _⟩
  · exact RowsLast.of_quiet quiet
  · exact shape ▸ RowsLast.concat quiet _

theorem stamps_of_rows {c : RecordingCall} {path : EntityPath} {options : LogOptions}
    {row : MergedRow} (member : .rows path options row ∈ c.script)
    (moving : options.isStatic = false) : c.stamps = true := by
  rcases c.script_shape with quiet | ⟨before, _, _, _, shape, quiet, stamps⟩
  · exact absurd (quiet _ member) id
  · rw [shape] at member
    rcases List.mem_append.1 member with early | last
    · exact absurd (quiet _ early) id
    · cases List.mem_singleton.1 last
      rw [stamps, moving]
      rfl

end RecordingCall

end EntityLog
