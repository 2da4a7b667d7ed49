import EntityLog.Proofs.Recording.Journals
import EntityLog.Proofs.Recording.Sinks
import EntityLog.Recording.Thread

namespace EntityLog

namespace TimePoint

def last? (p : TimePoint) (name : TimelineName) : Option TimeCell :=
  Entries.get? name p.cells.reverse

theorem last?_eq_get? {p : TimePoint} (distinct : p.names.Nodup) (name : TimelineName) :
    p.last? name = p.get? name :=
  (Entries.get?_perm (List.reverse_perm p.cells).symm distinct name).symm

@[simp] theorem get?_insert (p : TimePoint) (timeline name : TimelineName) (cell : TimeCell) :
    (p.insert timeline cell).get? name = if name = timeline then some cell else p.get? name :=
  Entries.get?_insert timeline name cell p.cells

@[simp] theorem get?_erase (p : TimePoint) (timeline name : TimelineName) :
    (p.erase timeline).get? name = if name = timeline then none else p.get? name :=
  Entries.get?_erase timeline name p.cells

theorem merge_concat (p : TimePoint) (cells : Entries TimelineName TimeCell)
    (timeline : TimelineName) (cell : TimeCell) :
    p.merge ⟨cells ++ [(timeline, cell)]⟩ = (p.merge ⟨cells⟩).insert timeline cell :=
  List.foldl_append

theorem last?_concat (cells : Entries TimelineName TimeCell) (timeline name : TimelineName)
    (cell : TimeCell) : last? ⟨cells ++ [(timeline, cell)]⟩ name =
      if name = timeline then some cell else last? ⟨cells⟩ name := by
  rw [last?, List.reverse_append, List.reverse_singleton, List.singleton_append, Entries.get?, last?]
  simp only [eq_comm]

theorem get?_merge (p q : TimePoint) (name : TimelineName) :
    (p.merge q).get? name = (q.last? name).or (p.get? name) := by
  obtain ⟨cells⟩ := q
  induction cells using List.reverseRecOn with
  | nil => rfl
  | append_singleton cells last ih =>
    rw [merge_concat, get?_insert, ih, last?_concat]
    split <;> rfl

def adjust (p : TimePoint) : TimeSetting → TimePoint
  | .cell timeline cell => p.insert timeline cell
  | .point q => p.merge q
  | .disable timeline => p.erase timeline
  | .reset => .empty

end TimePoint

namespace TimeSetting

def clears (name : TimelineName) : TimeSetting → Bool
  | disable timeline => name = timeline
  | reset => true
  | cell _ _ | point _ => false

def cell? (name : TimelineName) : TimeSetting → Option TimeCell
  | cell timeline value => if name = timeline then some value else none
  | point p => p.last? name
  | disable _ | reset => none

/-- The last cell that is set for a timeline after all that clears it. -/
def lastCell? (name : TimelineName) (settings : List TimeSetting) : Option TimeCell :=
  (settings.reverse.takeWhile fun s => !s.clears name).findSome? (cell? name)

theorem lastCell?_concat (name : TimelineName) (settings : List TimeSetting) (s : TimeSetting) :
    lastCell? name (settings ++ [s]) =
      if s.clears name then none else (s.cell? name).or (lastCell? name settings) := by
  rw [lastCell?, List.reverse_append, List.reverse_singleton, List.singleton_append,
    List.takeWhile_cons]
  cases s.clears name with
  | true => rfl
  | false => cases h : s.cell? name <;> simp [h, lastCell?]

end TimeSetting

theorem TimePoint.get?_adjust (p : TimePoint) (s : TimeSetting) (name : TimelineName) :
    (p.adjust s).get? name = if s.clears name then none else (s.cell? name).or (p.get? name) := by
  cases s with
  | cell timeline cell =>
    rw [adjust, get?_insert, TimeSetting.cell?]
    split <;> rfl
  | point q => exact get?_merge p q name
  | disable timeline => simp [adjust, TimeSetting.clears, TimeSetting.cell?]
  | reset => rfl

theorem TimePoint.get?_foldl_adjust (settings : List TimeSetting) (name : TimelineName) :
    (settings.foldl adjust .empty).get? name = TimeSetting.lastCell? name settings := by
  induction settings using List.reverseRecOn with
  | nil => rfl
  | append_singleton settings s ih =>
    rw [List.foldl_append, List.foldl_cons, List.foldl_nil, get?_adjust, ih,
      TimeSetting.lastCell?_concat]

def RecordingStep.setting? : RecordingStep → Option TimeSetting
  | time setting => some setting
  | openScope _ | closeScope | call _ => none

namespace Recorder

theorem withTime_of_time {r : Recorder} {p : TimePoint} (same : r.time = p) : r.withTime p = r := by
  rw [withTime, ← same]

theorem adjust_eq (r : Recorder) (s : TimeSetting) :
    r.adjust s = r.withTime (r.time.adjust s) := by
  cases s <;> rfl

def after (r : Recorder) (steps : List RecordingStep) : Recorder :=
  (RecordingHistory.run { recorder := r } steps).recorder

def act (r : Recorder) (s : RecordingStep) : Recorder :=
  (RecordingHistory.step { recorder := r } s).recorder

theorem after_concat (r : Recorder) (steps : List RecordingStep) (s : RecordingStep) :
    r.after (steps ++ [s]) = (r.after steps).act s := by
  rw [after, RecordingHistory.run, List.foldl_append]
  cases s <;> rfl

theorem time_act (r : Recorder) (s : RecordingStep) :
    (r.act s).time = s.setting?.elim r.time r.time.adjust := by
  cases s with
  | time setting => exact congrArg time (r.adjust_eq setting)
  | openScope strict => rfl
  | closeScope =>
    rw [act, RecordingHistory.step, closeScope_eq]
    rfl
  | call c => rfl

theorem time_after (r : Recorder) (steps : List RecordingStep) :
    (r.after steps).time = (steps.filterMap RecordingStep.setting?).foldl TimePoint.adjust r.time := by
  induction steps using List.reverseRecOn with
  | nil => rfl
  | append_singleton steps s ih =>
    rw [after_concat, time_act, ih, List.filterMap_append]
    cases known : s.setting? <;> simp [known]

theorem get?_stamp_other (r : Recorder) (tick : Nat) {name : TimelineName} (time : name ≠ .logTime)
    (counter : name ≠ .logTick) : (r.stamp tick).get? name = r.time.get? name := by
  simp [stamp, timeAt, TimePoint.get?, TimePoint.insert, time, counter]

end Recorder

section

variable {r : Recorder} {strict : Bool} {tick : Nat} {row : Row}

theorem Stage.time_of_mem_emit {stage : Stage} {e : Emission} (member : e ∈ stage.emit r tick)
    (sent : e.message = .row row) (moving : row.isStatic = false) : row.time = r.stamp tick := by
  cases stage with
  | columns _ =>
    cases List.mem_singleton.1 member
    cases sent
  | complain complaint =>
    cases List.mem_singleton.1 member
    cases sent
    rfl
  | rows path options merged =>
    obtain ⟨components, own⟩ := mem_emit_rows member
    cases own.symm.trans sent
    have moving : options.isStatic = false := moving
    rw [LogOptions.time, moving]
    rfl

theorem time_of_mem_perform {script : List Stage} {e : Emission}
    (member : e ∈ (perform r strict tick script).emissions) (sent : e.message = .row row)
    (moving : row.isStatic = false) : ∃ n, tick ≤ n ∧ row.time = r.stamp n := by
  fun_induction perform r strict tick script with
  | case1 tick => cases member
  | case2 tick => cases member
  | case3 tick stage script mild ih =>
    rcases List.mem_append.1 member with now | later
    · exact ⟨tick, tick.le_refl, Stage.time_of_mem_emit now sent moving⟩
    · obtain ⟨n, least, time⟩ := ih later
      exact ⟨n, Nat.le_trans (stage.le_nextTick tick) least, time⟩

theorem time_of_mem_sends {c : RecordingCall} (sent : .row row ∈ r.sends c.steps)
    (moving : row.isStatic = false) : ∃ n, r.tick ≤ n ∧ row.time = r.stamp n := by
  obtain ⟨_, done⟩ := @RecordingCall.plays_steps r c { tick := r.tick }
  rw [Recorder.sends, done, List.nil_append] at sent
  obtain ⟨e, member, own⟩ := List.mem_map.1 sent
  exact time_of_mem_perform member own moving

end

def Row.IsTimed (clock : Nat → Int) (first : Nat) (settings : List TimeSetting) (row : Row) : Prop :=
  (∃ tick, first ≤ tick ∧ row.time.get? .logTick = some (.ofSequence tick) ∧
    row.time.get? .logTime = some ⟨.timestamp, clock tick⟩) ∧
  ∀ name, name ≠ .logTime → name ≠ .logTick →
    row.time.get? name = TimeSetting.lastCell? name settings

theorem Recorder.isTimed_of_mem_sends {r : Recorder} {settings : List TimeSetting}
    (time : ∀ name, r.time.get? name = TimeSetting.lastCell? name settings) {c : RecordingCall}
    {row : Row} (sent : .row row ∈ r.sends c.steps) (moving : row.isStatic = false) :
    row.IsTimed r.clock r.tick settings := by
  obtain ⟨tick, least, stamped⟩ := time_of_mem_sends sent moving
  refine ⟨⟨tick, least, ?_, ?_⟩, fun name other counter => ?_⟩
  · exact stamped ▸ r.get?_stamp_logTick tick
  · exact stamped ▸ r.get?_stamp_logTime tick
  · rw [stamped, r.get?_stamp_other tick other counter, time]

end EntityLog
