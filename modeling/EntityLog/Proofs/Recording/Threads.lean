import EntityLog.Proofs.Recording.TimeSettings
import EntityLog.Recording.Setup

/-!
The time of a stream. On each timeline it is what was set last, on the stream or on a clone, and not
cleared since. What is done on other streams never shows, although a thread keeps the times of all
streams in one table.
-/

namespace EntityLog

namespace ThreadTimes

def adjust (times : ThreadTimes) (number : Nat) : TimeSetting → ThreadTimes
  | .cell timeline cell => times.setCell number timeline cell
  | .point p => times.setPoint number p
  | .disable timeline => times.disable number timeline
  | .reset => times.reset number

variable (times : ThreadTimes) (number n : Nat)

theorem point_setCell (timeline : TimelineName) (cell : TimeCell) :
    (times.setCell number timeline cell).point n =
      if n = number then (times.point number).insert timeline cell else times.point n := by
  rw [setCell, point, Entries.get?_put]
  split <;> rfl

theorem point_setPoint (p : TimePoint) :
    (times.setPoint number p).point n =
      if n = number then (times.point number).merge p else times.point n := by
  obtain ⟨cells⟩ := p
  induction cells using List.reverseRecOn generalizing n with
  | nil =>
    change times.point n = _
    split
    case isTrue same => exact same ▸ rfl
    case isFalse => rfl
  | append_singleton cells last ih =>
    have before : times.setPoint number ⟨cells ++ [last]⟩ =
        (times.setPoint number ⟨cells⟩).setCell number last.1 last.2 := List.foldl_append
    rw [before, point_setCell, ih, ih, if_pos rfl, TimePoint.merge_concat]
    split <;> rfl

theorem point_change {f : TimePoint → TimePoint} (neutral : f .empty = .empty) :
    (times.change number f).point n =
      if n = number then f (times.point number) else times.point n := by
  rw [change]
  cases known : times.points.get? number with
  | some p =>
    rw [point, Entries.get?_put, point, known]
    split <;> rfl
  | none =>
    have none : times.point number = .empty := by rw [point, known]; rfl
    rw [none, neutral]
    change times.point n = _
    split
    case isTrue same => exact same ▸ none
    case isFalse => rfl

theorem point_adjust (s : TimeSetting) :
    (times.adjust number s).point n =
      if n = number then (times.point number).adjust s else times.point n := by
  cases s with
  | cell timeline cell => exact times.point_setCell number n timeline cell
  | point p => exact times.point_setPoint number n p
  | disable timeline => exact times.point_change number n rfl
  | reset => exact times.point_change number n (f := fun _ => .empty) rfl

end ThreadTimes

inductive ThreadStep
  | create (setup : StreamSetup) (environment : Environment) (clock : Nat → Int)
  | clone (stream : Nat)
  | act (stream : Nat) (step : RecordingStep)

def ThreadStep.created : ThreadStep → List Recorder
  | create setup environment clock => (setup.build environment clock).1.recorder.toList
  | clone _ | act _ _ => []

namespace Thread

def adjust (t : Thread) (stream : Nat) : TimeSetting → Thread
  | .cell timeline cell => t.setTime stream timeline cell
  | .point p => t.setTimePoint stream p
  | .disable timeline => t.disableTimeline stream timeline
  | .reset => t.resetTime stream

def step (t : Thread) : ThreadStep → Thread
  | .create setup environment clock => t.create (setup.build environment clock).1
  | .clone stream => t.clone stream
  | .act stream (.time setting) => t.adjust stream setting
  | .act stream (.openScope strict) => t.modify stream fun r => r.openScope strict
  | .act stream .closeScope => t.modify stream Recorder.closeScope
  | .act stream (.call c) => t.modify stream fun r => (r.run c.steps).2.1

variable {t : Thread} {stream number : Nat}

theorem act_off (off : t.number? stream = none) (s : RecordingStep) :
    t.step (.act stream s) = t := by
  cases s with
  | time setting =>
    cases setting <;>
      simp [step, adjust, setTime, setTimePoint, disableTimeline, resetTime, setTimes, off]
  | openScope strict => simp [step, modify, off]
  | closeScope => simp [step, modify, off]
  | call c => simp [step, modify, off]

theorem adjust_on (on : t.number? stream = some number) (setting : TimeSetting) :
    t.adjust stream setting = { t with times := t.times.adjust number setting } := by
  cases setting <;>
    simp [adjust, setTime, setTimePoint, disableTimeline, resetTime, setTimes, on, ThreadTimes.adjust]

theorem recorder?_adjust (on : t.number? stream = some number) (setting : TimeSetting) (n : Nat) :
    (t.adjust stream setting).recorder? n =
      if n = number then (t.recorder? n).map (·.adjust setting) else t.recorder? n := by
  rw [adjust_on on, recorder?, ThreadTimes.point_adjust]
  split
  case isTrue same =>
    rw [recorder?, Option.map_map]
    congr 1
    funext r
    rw [Function.comp_apply, Recorder.adjust_eq, same]
    rfl
  case isFalse => rfl

theorem modify_on (on : t.number? stream = some number) (change : Recorder → Recorder) :
    t.modify stream change = { t with
      recorders := t.recorders.modify number fun r =>
        change (r.withTime (t.times.point number)) } := by
  rw [modify, on]

theorem recorder?_modify (on : t.number? stream = some number) (change : Recorder → Recorder)
    (keeps : ∀ r, (change r).time = r.time) (n : Nat) :
    (t.modify stream change).recorder? n =
      if n = number then (t.recorder? n).map change else t.recorder? n := by
  rw [modify_on on, recorder?, List.getElem?_modify, recorder?]
  by_cases same : n = number
  · rw [if_pos same, same, Option.map_map]
    cases t.recorders[number]? with
    | none => simp
    | some r =>
      have kept : (change (r.withTime (t.times.point number))).time = t.times.point number :=
        keeps _
      simpa using Recorder.withTime_of_time kept
  · rw [if_neg same]
    simp [Ne.symm same]

theorem recorder?_act (on : t.number? stream = some number) (s : RecordingStep) (n : Nat) :
    (t.step (.act stream s)).recorder? n =
      if n = number then (t.recorder? n).map (·.act s) else t.recorder? n := by
  cases s with
  | time setting => exact recorder?_adjust on setting n
  | openScope strict => exact recorder?_modify on (·.openScope strict) (fun _ => rfl) n
  | closeScope => exact recorder?_modify on Recorder.closeScope (fun r => by rw [r.closeScope_eq]) n
  | call c => exact recorder?_modify on (fun r => (r.run c.steps).2.1) (fun _ => rfl) n

theorem act_on (on : t.number? stream = some number) (s : RecordingStep) :
    ∃ recorders times, t.step (.act stream s) = { t with recorders, times } ∧
      recorders.length = t.recorders.length ∧
      ∀ n, n ≠ number → times.point n = t.times.point n := by
  have modified (change : Recorder → Recorder) :
      ∃ recorders times, t.modify stream change = { t with recorders, times } ∧
        recorders.length = t.recorders.length ∧
        ∀ n, n ≠ number → times.point n = t.times.point n :=
    ⟨_, _, modify_on on change, List.length_modify .., fun _ _ => rfl⟩
  cases s with
  | time setting =>
    refine ⟨t.recorders, t.times.adjust number setting, adjust_on on setting, rfl, ?_⟩
    intro n other
    rw [ThreadTimes.point_adjust, if_neg other]
  | openScope strict => exact modified (·.openScope strict)
  | closeScope => exact modified Recorder.closeScope
  | call c => exact modified fun r => (r.run c.steps).2.1

def sends (t : Thread) (stream : Nat) (call : Call Unit) : List Message :=
  ((t.number? stream).bind t.recorder?).elim [] fun r => r.sends call

end Thread

structure ThreadHistory where
  thread : Thread := {}
  created : List Recorder := []
  acts : List (Nat × RecordingStep) := []

namespace ThreadHistory

def reached (h : ThreadHistory) : ThreadStep → List (Nat × RecordingStep)
  | .act stream s => (h.thread.number? stream).toList.map (·, s)
  | .create .. | .clone _ => []

def step (h : ThreadHistory) (s : ThreadStep) : ThreadHistory where
  thread := h.thread.step s
  created := h.created ++ s.created
  acts := h.acts ++ h.reached s

def run (h : ThreadHistory) (steps : List ThreadStep) : ThreadHistory := steps.foldl step h

def own (h : ThreadHistory) (number : Nat) : List RecordingStep :=
  (h.acts.filter (·.1 = number)).map (·.2)

def settings (h : ThreadHistory) (number : Nat) : List TimeSetting :=
  (h.own number).filterMap RecordingStep.setting?

/-- Each recorder is as if all that was done on other streams had not been. -/
structure Apart (h : ThreadHistory) : Prop where
  numbered : h.thread.recorders.length = h.created.length
  streams : ∀ number, some number ∈ h.thread.streams → number < h.created.length
  untouched : ∀ number, h.created.length ≤ number → h.thread.times.point number = .empty
  reached : ∀ act ∈ h.acts, act.1 < h.created.length
  fresh : ∀ r ∈ h.created, r.time = .empty
  alone : ∀ number, h.thread.recorder? number = h.created[number]?.map (·.after (h.own number))

variable {h : ThreadHistory} {stream number : Nat}

theorem reached_off (off : h.thread.number? stream = none) (s : RecordingStep) :
    h.reached (.act stream s) = [] := by
  rw [reached, off]
  rfl

theorem reached_on (on : h.thread.number? stream = some number)
    (s : RecordingStep) : h.reached (.act stream s) = [(number, s)] := by
  rw [reached, on]
  rfl

theorem step_off (off : h.thread.number? stream = none) (s : RecordingStep) :
    h.step (.act stream s) = h := by
  have created : h.created ++ (ThreadStep.act stream s).created = h.created := List.append_nil _
  rw [step, Thread.act_off off, reached_off off, created, List.append_nil]

theorem own_step (h : ThreadHistory) (s : ThreadStep) (number : Nat) :
    (h.step s).own number = h.own number ++ ((h.reached s).filter (·.1 = number)).map (·.2) := by
  rw [own, step, List.filter_append, List.map_append]
  rfl

theorem Apart.number_lt (apart : Apart h) (on : h.thread.number? stream = some number) :
    number < h.created.length :=
  apart.streams number (List.mem_of_getElem? (Option.join_eq_some_iff.1 on))

theorem Apart.own_new (apart : Apart h) (new : h.created.length ≤ number) :
    h.own number = [] := by
  have none : h.acts.filter (·.1 = number) = [] := by
    refine List.filter_eq_nil_iff.2 fun act member => ?_
    have known := apart.reached act member
    rw [decide_eq_true_eq]
    omega
  rw [own, none]
  rfl

theorem Apart.addRecorder (apart : Apart h) {r : Recorder} (fresh : r.time = .empty) :
    Apart { h with
      thread := { h.thread with recorders := h.thread.recorders ++ [r] }
      created := h.created ++ [r] } := by
  have length : (h.created ++ [r]).length = h.created.length + 1 := List.length_append
  constructor
  case numbered => rw [List.length_append, apart.numbered, length]; rfl
  case streams => exact fun n member => length ▸ Nat.lt_succ_of_lt (apart.streams n member)
  case untouched =>
    intro n new
    rw [length] at new
    exact apart.untouched n (Nat.le_of_succ_le new)
  case reached => exact fun act member => length ▸ Nat.lt_succ_of_lt (apart.reached act member)
  case fresh => exact List.forall_mem_append.2 ⟨apart.fresh, List.forall_mem_singleton.2 fresh⟩
  case alone =>
    intro n
    have old := apart.alone n
    change ((h.thread.recorders ++ [r])[n]?.map fun r => r.withTime (h.thread.times.point n)) =
      (h.created ++ [r])[n]?.map (·.after (h.own n))
    rcases Nat.lt_trichotomy n h.created.length with below | rfl | above
    · rw [List.getElem?_append_left (apart.numbered ▸ below), List.getElem?_append_left below]
      exact old
    · rw [List.getElem?_concat_length, ← apart.numbered, List.getElem?_concat_length, apart.numbered,
        apart.own_new (Nat.le_refl _), apart.untouched _ (Nat.le_refl _)]
      exact congrArg some (Recorder.withTime_of_time fresh)
    · have beyond : (h.created ++ [r]).length ≤ n := length ▸ above
      have numbered : (h.thread.recorders ++ [r]).length = (h.created ++ [r]).length := by
        rw [List.length_append, List.length_append, apart.numbered]
      rw [List.getElem?_eq_none (numbered ▸ beyond), List.getElem?_eq_none beyond]
      rfl

theorem Apart.addStream (apart : Apart h) {stream : Option Nat}
    (known : ∀ number, stream = some number → number < h.created.length) :
    Apart { h with thread := { h.thread with streams := h.thread.streams ++ [stream] } } where
  numbered := apart.numbered
  streams := fun number member => by
    rcases List.mem_append.1 member with old | new
    · exact apart.streams number old
    · exact known number (List.mem_singleton.1 new).symm
  untouched := apart.untouched
  reached := apart.reached
  fresh := apart.fresh
  alone := apart.alone

theorem time_created {setup : StreamSetup} {environment : Environment} {clock : Nat → Int}
    {r : Recorder} (built : (setup.build environment clock).1.recorder = some r) :
    r.time = .empty := by
  rw [StreamSetup.build] at built
  dsimp only at built
  split at built
  · cases built
    rfl
  · cases built

theorem Apart.create (apart : Apart h) (setup : StreamSetup) (environment : Environment)
    (clock : Nat → Int) : Apart (h.step (.create setup environment clock)) := by
  rw [step, Thread.step, Thread.create, ThreadStep.created, ThreadHistory.reached, List.append_nil]
  cases built : (setup.build environment clock).1.recorder with
  | none =>
    rw [Option.toList_none, List.append_nil]
    exact apart.addStream nofun
  | some r =>
    refine (apart.addRecorder (time_created built)).addStream ?_
    rintro _ ⟨⟩
    rw [apart.numbered, List.length_append]
    exact Nat.lt_succ_self _

theorem Apart.clone (apart : Apart h) (stream : Nat) : Apart (h.step (.clone stream)) := by
  rw [step, Thread.step, Thread.clone, ThreadStep.created, ThreadHistory.reached, List.append_nil,
    List.append_nil]
  exact apart.addStream fun number on => apart.number_lt on

theorem Apart.act (apart : Apart h) (stream : Nat) (s : RecordingStep) :
    Apart (h.step (.act stream s)) := by
  have created : (h.step (.act stream s)).created = h.created := List.append_nil _
  cases on : h.thread.number? stream with
  | none => exact (step_off on s).symm ▸ apart
  | some number =>
    have here : number < h.created.length := apart.number_lt on
    obtain ⟨recorders, times, acted, length, others⟩ := Thread.act_on on s
    have thread : (h.step (.act stream s)).thread = { h.thread with recorders, times } := acted
    constructor <;> rw [created]
    case numbered => rw [thread, length, apart.numbered]
    case streams => rw [thread]; exact apart.streams
    case untouched =>
      intro n new
      have other : n ≠ number := Nat.ne_of_gt (Nat.lt_of_lt_of_le here new)
      rw [thread, others n other, apart.untouched n new]
    case reached =>
      rw [step, reached_on on]
      exact List.forall_mem_append.2 ⟨apart.reached, List.forall_mem_singleton.2 here⟩
    case fresh => exact apart.fresh
    case alone =>
      intro n
      have done : (h.step (.act stream s)).thread.recorder? n = _ := Thread.recorder?_act on s n
      rw [done, own_step, reached_on on, apart.alone]
      by_cases same : n = number
      · simp [same, Recorder.after_concat, Function.comp_def]
      · simp [same, Ne.symm same]

theorem Apart.step (apart : Apart h) (s : ThreadStep) : Apart (h.step s) := by
  cases s with
  | create setup environment clock => exact apart.create setup environment clock
  | clone stream => exact apart.clone stream
  | act stream s => exact apart.act stream s

theorem Apart.run (apart : Apart h) (steps : List ThreadStep) : Apart (h.run steps) := by
  induction steps generalizing h with
  | nil => exact apart
  | cons s steps ih => exact ih (apart.step s)

theorem apart_start : Apart {} where
  numbered := rfl
  streams _ none := absurd none List.not_mem_nil
  untouched _ _ := rfl
  reached _ none := absurd none List.not_mem_nil
  fresh _ none := absurd none List.not_mem_nil
  alone _ := rfl

theorem Apart.exists_recorder (apart : Apart h) (on : h.thread.number? stream = some number) :
    ∃ first, h.created[number]? = some first ∧
      h.thread.recorder? number = some (first.after (h.own number)) ∧
      ∀ name, (first.after (h.own number)).time.get? name =
        TimeSetting.lastCell? name (h.settings number) := by
  obtain ⟨first, here⟩ : ∃ first, h.created[number]? = some first :=
    ⟨_, List.getElem?_eq_getElem (apart.number_lt on)⟩
  refine ⟨first, here, ?_, fun name => ?_⟩
  · rw [apart.alone, here]
    rfl
  · rw [Recorder.time_after, apart.fresh first (List.mem_of_getElem? here)]
    exact TimePoint.get?_foldl_adjust (h.settings number) name

/-- After any steps on the streams of a thread: behind a stream that is on is the recorder as it was
created, after the steps on the stream and its clones alone. A row that is sent next has the times
that these set last, timeline by timeline. A point that is set goes over the times and leaves the
others. -/
theorem times_of_streams (steps : List ThreadStep)
    (on : (run {} steps).thread.number? stream = some number) :
    let h := run {} steps
    ∃ first r, h.created[number]? = some first ∧ h.thread.recorder? number = some r ∧
      r = first.after (h.own number) ∧
      (∀ (c : RecordingCall) (row : Row), .row row ∈ h.thread.sends stream c.steps →
        row.isStatic = false → row.IsTimed r.clock r.tick (h.settings number)) ∧
      ∀ p : TimePoint, p.names.Nodup → ∀ name,
        ((h.thread.setTimePoint stream p).recorder? number).bind (·.time.get? name) =
          (p.get? name).or (r.time.get? name) := by
  intro h
  obtain ⟨first, here, known, time⟩ := (apart_start.run steps).exists_recorder on
  refine ⟨first, _, here, known, rfl, fun c row sent moving => ?_, fun p distinct name => ?_⟩
  · rw [Thread.sends, on, Option.bind_some, known] at sent
    exact Recorder.isTimed_of_mem_sends time sent moving
  · have set := Thread.recorder?_adjust on (.point p) number
    rw [if_pos rfl, known] at set
    change ((h.thread.adjust stream (.point p)).recorder? number).bind _ = _
    rw [set, ← TimePoint.last?_eq_get? distinct]
    exact TimePoint.get?_merge _ p name

theorem times_of_streams_clone :
    let setup : StreamSetup :=
      { applicationId := "app", enabled := some true, strict := some false, sink := .memory }
    let steps : List ThreadStep :=
      [.create setup {} fun _ => 0, .create setup {} fun _ => 0, .clone 0,
        .act 0 (.time (.cell "frame" (.ofSequence 1))),
        .act 2 (.time (.point ⟨[("pose", .ofSequence 4)]⟩)),
        .act 0 (.time (.disable .logTime)),
        .act 1 (.time (.cell "frame" (.ofSequence 7))),
        .act 1 (.time .reset)]
    let c : RecordingCall := .batches ⟨["arm"]⟩ [.indicator "Arm"] {}
    let h := run {} steps
    h.thread.number? 2 = some 0 ∧ ∃ row, .row row ∈ h.thread.sends 2 c.steps ∧
      row.time.get? "frame" = some (.ofSequence 1) ∧ row.time.get? "pose" = some (.ofSequence 4) ∧
      ∃ nanos, row.time.get? .logTime = some ⟨.timestamp, nanos⟩ := by
  intro setup steps c h
  have on : h.thread.number? 2 = some 0 := rfl
  have frame : TimeSetting.lastCell? "frame" (h.settings 0) = some (.ofSequence 1) := by
    simp only [h, steps, setup]
    decide
  have pose : TimeSetting.lastCell? "pose" (h.settings 0) = some (.ofSequence 4) := by
    simp only [h, steps, setup]
    decide
  obtain ⟨_, r, _, known, _, timed, _⟩ := times_of_streams steps on
  have sends : h.thread.sends 2 c.steps = r.sends c.steps := by
    rw [Thread.sends, on, Option.bind_some, known]
    rfl
  obtain ⟨row, sent, moving⟩ : ∃ row, .row row ∈ r.sends c.steps ∧ row.isStatic = false :=
    ⟨_, List.mem_cons_self, rfl⟩
  rw [← sends] at sent
  obtain ⟨⟨tick, _, _, wall⟩, cells⟩ := timed c row sent moving
  refine ⟨on, row, sent, ?_, ?_, _, wall⟩
  · exact (cells "frame" (by decide) (by decide)).trans frame
  · exact (cells "pose" (by decide) (by decide)).trans pose

end ThreadHistory

end EntityLog
