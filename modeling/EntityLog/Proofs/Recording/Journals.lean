import EntityLog.Proofs.Recording.Ticks

namespace EntityLog

inductive TimeSetting
  | cell (timeline : TimelineName) (cell : TimeCell)
  | point (p : TimePoint)
  | disable (timeline : TimelineName)
  | reset

def Recorder.adjust (r : Recorder) : TimeSetting → Recorder
  | .cell timeline cell => r.setTime timeline cell
  | .point p => r.setTimePoint p
  | .disable timeline => r.disableTimeline timeline
  | .reset => r.resetTime

theorem Recorder.closeScope_eq (r : Recorder) :
    r.closeScope = { r with strict := r.scopes.headD r.strict, scopes := r.scopes.tail } := by
  cases r with
  | mk _ _ scopes => cases scopes <;> rfl

inductive RecordingStep
  | time (setting : TimeSetting)
  | openScope (strict : Bool)
  | closeScope
  | call (call : RecordingCall)

def RecordingStep.setsTime : RecordingStep → Bool
  | time _ => true
  | openScope _ | closeScope | call _ => false

structure PastCall where
  call : RecordingCall
  result : Except RecordingError Unit
  first : Nat
  next : Nat

structure Entry extends Emission where
  call : Nat

structure RecordingHistory where
  recorder : Recorder
  calls : List PastCall := []
  journal : List Entry := []

namespace RecordingHistory

def play (h : RecordingHistory) (c : RecordingCall) : Performance :=
  perform h.recorder (h.recorder.policy c.strict) h.recorder.tick c.script

def entries (h : RecordingHistory) (c : RecordingCall) : List Entry :=
  (h.play c).emissions.map (⟨·, h.calls.length⟩)

def step (h : RecordingHistory) : RecordingStep → RecordingHistory
  | .time setting => { h with recorder := h.recorder.adjust setting }
  | .openScope strict => { h with recorder := h.recorder.openScope strict }
  | .closeScope => { h with recorder := h.recorder.closeScope }
  | .call c =>
    let (result, after, _) := h.recorder.run c.steps
    { recorder := after
      calls := h.calls ++ [⟨c, result, h.recorder.tick, after.tick⟩]
      journal := h.journal ++ h.entries c }

def run (h : RecordingHistory) (steps : List RecordingStep) : RecordingHistory :=
  steps.foldl step h

def start (applicationId : String) (strict : Bool) (clock : Nat → Int) (kind : SinkKind) :
    RecordingHistory where
  recorder := { applicationId, strict, clock, sink := { kind } }

end RecordingHistory

def Entry.label (e : Entry) : Nat × Role × Option TimeCell := (e.call, e.toEmission.stamp)

/-- Ticks never go back; the only messages that share one are the splats and the rest of a row. -/
def Entry.Precedes (a b : Entry) : Prop :=
  ∀ m n, a.message.HasTick m → b.message.HasTick n →
    m ≤ n ∧ (m = n ↔ a.call = b.call ∧ a.role = .splat ∧ b.role = .instanced)

namespace RecordingHistory

def Uses (h : RecordingHistory) (k n : Nat) : Prop :=
  ∃ e ∈ h.journal, e.call = k ∧ e.message.HasTick n

/-- A call skips its last tick if it was to log a row with a time, and succeeded without any data. -/
def Skips (h : RecordingHistory) (k : Nat) (c : PastCall) (n : Nat) : Prop :=
  c.call.stamps = true ∧ c.result = .ok () ∧ c.next = n + 1 ∧
    ∀ e ∈ h.journal, e.call = k → ¬e.role.IsData

structure Ticked (clock : Nat → Int) (h : RecordingHistory) : Prop where
  clocked : h.recorder.clock = clock
  held : h.recorder.sink.held = h.journal.map fun e => e.message
  past : ∀ c ∈ h.calls, c.next ≤ h.recorder.tick
  stamped : ∀ e ∈ h.journal, ∃ c, h.calls[e.call]? = some c ∧
    e.message.IsStamped clock c.first c.next
  ordered : h.journal.Pairwise Entry.Precedes
  covered : ∀ n < h.recorder.tick, ∃ k c, h.calls[k]? = some c ∧ c.first ≤ n ∧ n < c.next ∧
    (h.Uses k n ∨ h.Skips k c n)

variable {h : RecordingHistory} {clock : Nat → Int}

theorem step_call (h : RecordingHistory) (c : RecordingCall) :
    h.step (.call c) = {
      recorder := { h.recorder with tick := (h.play c).tick }.send
        ((h.play c).emissions.map Emission.message)
      calls := h.calls ++ [⟨c, (h.play c).result, h.recorder.tick, (h.play c).tick⟩]
      journal := h.journal ++ h.entries c } := by
  obtain ⟨notes, done⟩ := @RecordingCall.plays_steps h.recorder c { tick := h.recorder.tick }
  simp only [step, Recorder.run_eq done]
  rfl

theorem mem_entries {c : RecordingCall} {e : Entry} (member : e ∈ h.entries c) :
    e.call = h.calls.length ∧ e.toEmission ∈ (h.play c).emissions := by
  obtain ⟨emission, sent, rfl⟩ := List.mem_map.1 member
  exact ⟨rfl, sent⟩

theorem Ticked.adjust {r : Recorder} (ticked : Ticked clock h) (tick : r.tick = h.recorder.tick)
    (sink : r.sink = h.recorder.sink) (same : r.clock = h.recorder.clock) :
    Ticked clock { h with recorder := r } where
  clocked := same.trans ticked.clocked
  held := (congrArg Sink.held sink).trans ticked.held
  past c member := tick ▸ ticked.past c member
  stamped := ticked.stamped
  ordered := ticked.ordered
  covered n below := ticked.covered n (tick ▸ below)

theorem Ticked.calls_length (ticked : Ticked clock h) {e : Entry} (member : e ∈ h.journal) :
    e.call < h.calls.length := by
  obtain ⟨c, here, _⟩ := ticked.stamped e member
  exact (List.getElem?_eq_some_iff.1 here).1

theorem Ticked.before_tick (ticked : Ticked clock h) {e : Entry} (member : e ∈ h.journal) {n : Nat}
    (own : e.message.HasTick n) : n < h.recorder.tick := by
  obtain ⟨c, here, stamped⟩ := ticked.stamped e member
  exact Nat.lt_of_lt_of_le (stamped.range own).2 (ticked.past c (List.mem_of_getElem? here))

theorem Uses.later {k n : Nat} (used : h.Uses k n) (c : RecordingCall) :
    (h.step (.call c)).Uses k n := by
  obtain ⟨e, member, own⟩ := used
  exact ⟨e, List.mem_append_left _ member, own⟩

theorem Skips.later {k n : Nat} {past : PastCall} (skipped : h.Skips k past n)
    (before : k < h.calls.length) (c : RecordingCall) : (h.step (.call c)).Skips k past n := by
  obtain ⟨stamps, ok, last, clear⟩ := skipped
  refine ⟨stamps, ok, last, List.forall_mem_append.2 ⟨clear, fun e new own => ?_⟩⟩
  exact absurd (own.symm.trans (mem_entries new).1) (Nat.ne_of_lt before)

theorem Ticked.uses_or_skips (ticked : Ticked clock h) (c : RecordingCall) {n : Nat}
    (least : h.recorder.tick ≤ n) (most : n < (h.play c).tick) :
    (h.step (.call c)).Uses h.calls.length n ∨ (h.step (.call c)).Skips h.calls.length
      ⟨c, (h.play c).result, h.recorder.tick, (h.play c).tick⟩ n := by
  rcases used_or_skipped c.rowsLast_script least most with
    ⟨e, sent, used⟩ | ⟨ok, last, ⟨path, options, row, member, moving⟩, clear⟩
  · exact .inl ⟨_, List.mem_append_right _ (List.mem_map_of_mem sent), rfl, used⟩
  · refine .inr ⟨c.stamps_of_rows member moving, ok, last, ?_⟩
    refine List.forall_mem_append.2 ⟨fun e old own => ?_, fun e new _ => ?_⟩
    · exact absurd own (Nat.ne_of_lt (ticked.calls_length old))
    · exact clear e.toEmission (mem_entries new).2

theorem Ticked.isStamped (ticked : Ticked clock h) {c : RecordingCall} {e : Entry}
    (new : e ∈ h.entries c) : e.message.IsStamped clock h.recorder.tick (h.play c).tick :=
  ticked.clocked ▸ isStamped_perform (mem_entries new).2

theorem pairwise_entries (h : RecordingHistory) (c : RecordingCall) :
    (h.entries c).Pairwise Entry.Precedes := by
  refine List.pairwise_map.2 ?_
  refine (pairwise_perform c.rowsLast_script _ _ _).imp fun precedes m n first second => ?_
  simpa using precedes m n first second

theorem Ticked.precedes (ticked : Ticked clock h) {c : RecordingCall} {a b : Entry}
    (old : a ∈ h.journal) (new : b ∈ h.entries c) : a.Precedes b := by
  intro m n first second
  have less : m < n :=
    Nat.lt_of_lt_of_le (ticked.before_tick old first) ((ticked.isStamped new).range second).1
  have other : a.call ≠ b.call := (mem_entries new).1 ▸ Nat.ne_of_lt (ticked.calls_length old)
  exact ⟨Nat.le_of_lt less, fun same => absurd same (Nat.ne_of_lt less),
    fun both => absurd both.1 other⟩

theorem Ticked.call (ticked : Ticked clock h) (c : RecordingCall) :
    Ticked clock (h.step (.call c)) := by
  have kept {k : Nat} {past made : PastCall} (here : h.calls[k]? = some past) :
      (h.calls ++ [made])[k]? = some past :=
    (List.getElem?_append_left (List.getElem?_eq_some_iff.1 here).1).trans here
  rw [step_call]
  constructor
  case clocked => exact ticked.clocked
  case held =>
    simp [Recorder.send, Sink.send, ticked.held, entries, Function.comp_def]
  case past =>
    refine List.forall_mem_append.2 ⟨fun old member => ?_, List.forall_mem_singleton.2 le_rfl⟩
    exact Nat.le_trans (ticked.past old member) (le_perform_tick ..)
  case stamped =>
    refine List.forall_mem_append.2 ⟨fun e member => ?_, fun e new => ?_⟩
    · obtain ⟨past, here, stamped⟩ := ticked.stamped e member
      exact ⟨past, kept here, stamped⟩
    · rw [(mem_entries new).1]
      exact ⟨_, List.getElem?_concat_length, ticked.isStamped new⟩
  case ordered =>
    exact List.pairwise_append.2
      ⟨ticked.ordered, h.pairwise_entries c, fun a old b new => ticked.precedes old new⟩
  case covered =>
    intro n below
    by_cases early : n < h.recorder.tick
    · obtain ⟨k, past, here, least, most, known⟩ := ticked.covered n early
      have before : k < h.calls.length := (List.getElem?_eq_some_iff.1 here).1
      exact ⟨k, past, kept here, least, most, known.imp (·.later c) (·.later before c)⟩
    · exact ⟨_, _, List.getElem?_concat_length, Nat.not_lt.1 early, below,
        ticked.uses_or_skips c (Nat.not_lt.1 early) below⟩

theorem Ticked.step (ticked : Ticked clock h) (s : RecordingStep) : Ticked clock (h.step s) := by
  cases s with
  | time setting => cases setting <;> exact ticked.adjust rfl rfl rfl
  | openScope strict => exact ticked.adjust rfl rfl rfl
  | closeScope =>
    rw [RecordingHistory.step, Recorder.closeScope_eq]
    exact ticked.adjust rfl rfl rfl
  | call c => exact ticked.call c

theorem Ticked.run (ticked : Ticked clock h) (steps : List RecordingStep) :
    Ticked clock (h.run steps) := by
  induction steps generalizing h with
  | nil => exact ticked
  | cons s steps ih => exact ih (ticked.step s)

structure Alike (h k : RecordingHistory) : Prop where
  tick : h.recorder.tick = k.recorder.tick
  strict : h.recorder.strict = k.recorder.strict
  scopes : h.recorder.scopes = k.recorder.scopes
  calls : h.calls = k.calls
  labels : h.journal.map Entry.label = k.journal.map Entry.label

namespace Alike

variable {k : RecordingHistory}

theorem adjust (alike : Alike h k) (setting : TimeSetting) :
    Alike (h.step (.time setting)) k := by
  cases setting <;> exact ⟨alike.tick, alike.strict, alike.scopes, alike.calls, alike.labels⟩

theorem call (alike : Alike h k) (c : RecordingCall) :
    Alike (h.step (.call c)) (k.step (.call c)) := by
  have policy : h.recorder.policy c.strict = k.recorder.policy c.strict := by
    rw [Recorder.policy, Recorder.policy, alike.strict]
  obtain ⟨next, result, stamps⟩ :
      (h.play c).tick = (k.play c).tick ∧ (h.play c).result = (k.play c).result ∧
        (h.play c).emissions.map Emission.stamp = (k.play c).emissions.map Emission.stamp := by
    rw [play, play, policy, alike.tick]
    exact perform_stamps ..
  have labels (h : RecordingHistory) : (h.entries c).map Entry.label =
      ((h.play c).emissions.map Emission.stamp).map ((h.calls.length, ·)) := by
    rw [entries, List.map_map, List.map_map]
    rfl
  rw [step_call, step_call, alike.tick, alike.calls, next, result]
  refine ⟨rfl, alike.strict, alike.scopes, rfl, ?_⟩
  rw [List.map_append, List.map_append, alike.labels, labels, labels, stamps, alike.calls]

theorem step (alike : Alike h k) {s : RecordingStep} (other : s.setsTime = false) :
    Alike (h.step s) (k.step s) := by
  cases s with
  | time setting => cases other
  | openScope strict =>
    exact ⟨alike.tick, rfl, congrArg₂ List.cons alike.strict alike.scopes, alike.calls,
      alike.labels⟩
  | closeScope =>
    simp only [RecordingHistory.step, Recorder.closeScope_eq, alike.strict, alike.scopes]
    exact ⟨alike.tick, rfl, rfl, alike.calls, alike.labels⟩
  | call c => exact alike.call c

theorem run (alike : Alike h k) (steps : List RecordingStep) :
    Alike (h.run steps) (k.run (steps.filter fun s => !s.setsTime)) := by
  induction steps generalizing h k with
  | nil => exact alike
  | cons s steps ih =>
    cases s with
    | time setting => exact ih (alike.adjust setting)
    | openScope strict => exact ih (alike.step rfl)
    | closeScope => exact ih (alike.step rfl)
    | call c => exact ih (alike.step rfl)

end Alike

theorem ticked_start (applicationId : String) (strict : Bool) (clock : Nat → Int)
    (kind : SinkKind) : Ticked clock (start applicationId strict clock kind) where
  clocked := rfl
  held := rfl
  past _ none := absurd none List.not_mem_nil
  stamped _ none := absurd none List.not_mem_nil
  ordered := .nil
  covered _ below := absurd below (Nat.not_lt_zero _)

/-- After any steps on a fresh recorder, whatever its sink and its policy: the rows that were sent
have the ticks of their calls, in order, and no two calls share any; and the calls, their results and
all ticks are the same as without the steps that set the time. -/
theorem ticks_tell_calls (applicationId : String) (strict : Bool) (clock : Nat → Int)
    (kind : SinkKind) (steps : List RecordingStep) :
    let h := (start applicationId strict clock kind).run steps
    let untimed :=
      (start applicationId strict clock kind).run (steps.filter fun s => !s.setsTime)
    h.Ticked clock ∧ h.calls = untimed.calls ∧
      h.journal.map Entry.label = untimed.journal.map Entry.label := by
  intro h untimed
  have alike : Alike h untimed := Alike.run ⟨rfl, rfl, rfl, rfl, rfl⟩ steps
  exact ⟨(ticked_start applicationId strict clock kind).run steps, alike.calls, alike.labels⟩

end RecordingHistory

end EntityLog
