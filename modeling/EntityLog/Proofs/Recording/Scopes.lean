import EntityLog.Proofs.Recording.Threads
import EntityLog.Recording.Thread

/-!
Scopes of the strict policy nest. A recorder has one flag, and guards have what it was; these are the
values of the scopes that are open, the innermost first, and then what the recorder was built with.
-/

namespace EntityLog

def RecordingStep.scope (scopes : List Bool) : RecordingStep → List Bool
  | openScope strict => strict :: scopes
  | closeScope => scopes.tail
  | time _ | call _ => scopes

def openScopes (steps : List RecordingStep) : List Bool := steps.foldl RecordingStep.scope []

theorem openScopes_concat (steps : List RecordingStep) (s : RecordingStep) :
    openScopes (steps ++ [s]) = s.scope (openScopes steps) :=
  List.foldl_append

namespace Recorder

def bare (r : Recorder) : Recorder := { r with scopes := [] }

theorem strict_cons_scopes_act {r : Recorder} {scopes : List Bool} {built : Bool}
    (kept : r.strict :: r.scopes = scopes ++ [built]) (s : RecordingStep) :
    (r.act s).strict :: (r.act s).scopes = s.scope scopes ++ [built] := by
  cases s with
  | time setting => cases setting <;> exact kept
  | openScope strict => exact congrArg (strict :: ·) kept
  | closeScope =>
    rw [act, RecordingHistory.step, closeScope_eq, RecordingStep.scope]
    cases scopes with
    | nil =>
      obtain ⟨strict, none⟩ := List.cons.inj kept
      rw [none, strict]
      rfl
    | cons own scopes =>
      obtain ⟨_, outer⟩ := List.cons.inj kept
      rw [outer]
      cases scopes <;> rfl
  | call c => exact kept

theorem strict_cons_scopes {r : Recorder} (none : r.scopes = []) (steps : List RecordingStep) :
    (r.after steps).strict :: (r.after steps).scopes = openScopes steps ++ [r.strict] := by
  induction steps using List.reverseRecOn with
  | nil => exact congrArg (r.strict :: ·) none
  | append_singleton steps s ih =>
    rw [after_concat, openScopes_concat]
    exact strict_cons_scopes_act ih s

theorem strict_after {r : Recorder} (none : r.scopes = []) (steps : List RecordingStep) :
    (r.after steps).strict = (openScopes steps).headD r.strict := by
  have kept := congrArg List.head? (strict_cons_scopes none steps)
  rw [List.head?_cons, List.head?_append, List.head?_singleton] at kept
  rw [List.headD_eq_head?_getD, ← Option.some_inj, kept]
  cases (openScopes steps).head? <;> rfl

theorem perform_bare (r : Recorder) (strict : Bool) (tick : Nat) (script : List Stage) :
    perform r.bare strict tick script = perform r strict tick script := by
  induction script generalizing tick with
  | nil => rfl
  | cons stage script ih =>
    have same : stage.emit r.bare tick = stage.emit r tick := by cases stage <;> rfl
    rw [perform, perform, ih, same]

theorem run_bare (r : Recorder) (c : RecordingCall) :
    (r.bare.run c.steps).2.1 = (r.run c.steps).2.1.bare := by
  have played (r : Recorder) : (r.run c.steps).2.1 = _ :=
    congrArg RecordingHistory.recorder (RecordingHistory.step_call { recorder := r } c)
  rw [played, played, RecordingHistory.play, perform_bare]
  rfl

end Recorder

namespace Thread

variable {t : Thread} {stream number : Nat}

theorem recorder?_setStrict (t : Thread) (number : Nat) (strict : Bool) (n : Nat) :
    (t.setStrict number strict).recorder? n =
      if n = number then (t.recorder? n).map (·.withStrict strict) else t.recorder? n := by
  rw [setStrict, recorder?, List.getElem?_modify, recorder?]
  by_cases same : n = number
  · rw [if_pos same, same]
    cases t.recorders[number]? <;> simp [Recorder.withTime, Recorder.withStrict]
  · rw [if_neg same]
    simp [Ne.symm same]

theorem recorder?_addRecorder (t : Thread) (r : Recorder) (streams : List (Option Nat)) (n : Nat) :
    ({ t with recorders := t.recorders ++ [r], streams } : Thread).recorder? n =
      if n = t.recorders.length then some (r.withTime (t.times.point n)) else t.recorder? n := by
  rw [recorder?, recorder?]
  rcases Nat.lt_trichotomy n t.recorders.length with below | rfl | above
  · rw [if_neg (Nat.ne_of_lt below), List.getElem?_append_left below]
  · rw [if_pos rfl, List.getElem?_concat_length]
    rfl
  · have beyond : (t.recorders ++ [r]).length ≤ n := by rwa [List.length_append]
    rw [if_neg (Nat.ne_of_gt above), List.getElem?_eq_none beyond,
      List.getElem?_eq_none (Nat.le_of_lt above)]

end Thread

namespace StrictGuard

def saved (number : Nat) (guards : List StrictGuard) : List Bool :=
  (guards.filter (·.number = some number)).map previous

variable {number n : Nat} {of : Option Nat} {guards : List StrictGuard}

theorem saved_cons (number : Nat) (guard : StrictGuard) (guards : List StrictGuard) :
    saved number (guard :: guards) =
      if guard.number = some number then guard.previous :: saved number guards
      else saved number guards := by
  rw [saved, List.filter_cons]
  by_cases same : guard.number = some number <;> simp [same, saved]

theorem find?_of_saved {previous : Bool} {outer : List Bool}
    (kept : saved number guards = previous :: outer) :
    guards.find? (·.number = some number) = some ⟨some number, previous⟩ := by
  obtain ⟨guard, rest, kept, is, _⟩ := List.map_eq_cons_iff.1 kept
  have first : guards.find? (·.number = some number) = some guard := by
    rw [← List.head?_filter, kept, List.head?_cons]
  have same : guard.number = some number := by simpa using List.find?_some first
  rw [first, ← same, ← is]

theorem find?_of_saved_nil (none : saved number guards = []) :
    guards.find? (·.number = some number) = .none := by
  rw [← List.head?_filter, List.map_eq_nil_iff.1 none, List.head?_nil]

theorem saved_eraseP (of : Option Nat) (n : Nat) (guards : List StrictGuard) :
    saved n (guards.eraseP (·.number = of)) =
      if of = some n then (saved n guards).tail else saved n guards := by
  induction guards with
  | nil => simp [saved]
  | cons guard guards ih =>
    by_cases same : guard.number = of
    · rw [List.eraseP_cons_of_pos (by simpa using same), saved_cons, same]
      split <;> rfl
    · rw [List.eraseP_cons_of_neg (by simpa using same), saved_cons, saved_cons, ih]
      by_cases here : guard.number = some n
      · have other : of ≠ some n := fun is => same (here.trans is.symm)
        rw [if_neg other, if_neg other]
      · rw [if_neg here, if_neg here]

end StrictGuard

/-- A thread, with the guards that are held, the last one first. -/
structure GuardedThread where
  thread : Thread := {}
  guards : List StrictGuard := []

namespace GuardedThread

def step (g : GuardedThread) : ThreadStep → GuardedThread
  | .act stream (.openScope strict) =>
    let (thread, guard) := g.thread.openScope stream strict
    { thread, guards := guard :: g.guards }
  | .act stream .closeScope =>
    match g.guards.find? (·.number = g.thread.number? stream) with
    | some guard =>
      { thread := g.thread.dropGuard guard
        guards := g.guards.eraseP (·.number = g.thread.number? stream) }
    | none => g
  | s => { g with thread := g.thread.step s }

def run (g : GuardedThread) (steps : List ThreadStep) : GuardedThread := steps.foldl step g

theorem step_closeScope_none {g : GuardedThread} {stream : Nat}
    (none : g.guards.find? (·.number = g.thread.number? stream) = none) :
    g.step (.act stream .closeScope) = g := by
  rw [step, none]

theorem step_closeScope_some {g : GuardedThread} {stream : Nat} {guard : StrictGuard}
    (found : g.guards.find? (·.number = g.thread.number? stream) = some guard) :
    g.step (.act stream .closeScope) =
      ⟨g.thread.dropGuard guard, g.guards.eraseP (·.number = g.thread.number? stream)⟩ := by
  rw [step, found]

/-- The same streams and recorders, but what is kept of scopes is with the guards. -/
structure Matches (g : GuardedThread) (t : Thread) : Prop where
  streams : g.thread.streams = t.streams
  times : g.thread.times = t.times
  count : g.thread.recorders.length = t.recorders.length
  recorders : ∀ n, g.thread.recorder? n = (t.recorder? n).map Recorder.bare
  saved : ∀ n, StrictGuard.saved n g.guards = (t.recorder? n).elim [] Recorder.scopes

theorem scopes_created {setup : StreamSetup} {environment : Environment} {clock : Nat → Int}
    {r : Recorder} (built : (setup.build environment clock).1.recorder = some r) :
    r.scopes = [] := by
  rw [StreamSetup.build] at built
  dsimp only at built
  split at built
  · cases built
    rfl
  · cases built

namespace Matches

variable {g g' : GuardedThread} {t : Thread} {stream number : Nat}

theorem number? (m : g.Matches t) (stream : Nat) :
    g.thread.number? stream = t.number? stream := by
  rw [Thread.number?, Thread.number?, m.streams]

theorem create (m : g.Matches t) {s : Stream} (fresh : ∀ r, s.recorder = some r → r.scopes = []) :
    Matches { g with thread := g.thread.create s } (t.create s) := by
  unfold Thread.create
  cases built : s.recorder with
  | none => exact ⟨congrArg (· ++ [none]) m.streams, m.times, m.count, m.recorders, m.saved⟩
  | some r =>
    have none := fresh r built
    have bare (p : TimePoint) : (r.withTime p).bare = r.withTime p := by
      rw [Recorder.bare, Recorder.withTime, ← none]
    constructor
    case streams => rw [m.streams, m.count]
    case times => exact m.times
    case count => rw [List.length_append, List.length_append, m.count]
    case recorders =>
      intro n
      rw [Thread.recorder?_addRecorder, Thread.recorder?_addRecorder, m.count, m.times, m.recorders]
      by_cases new : n = t.recorders.length
      · rw [if_pos new, if_pos new, Option.map_some, bare]
      · rw [if_neg new, if_neg new]
    case saved =>
      intro n
      have old : StrictGuard.saved n g.guards = _ := m.saved n
      rw [Thread.recorder?_addRecorder]
      by_cases new : n = t.recorders.length
      · have unknown : t.recorder? n = .none := by
          rw [Thread.recorder?, List.getElem?_eq_none (Nat.le_of_eq new.symm)]
          rfl
        rw [unknown] at old
        rw [if_pos new]
        exact old.trans none.symm
      · rw [if_neg new]
        exact old

theorem clone (m : g.Matches t) (stream : Nat) :
    Matches { g with thread := g.thread.clone stream } (t.clone stream) where
  streams := by rw [Thread.clone, Thread.clone, m.streams, m.number?]
  times := m.times
  count := m.count
  recorders := m.recorders
  saved := m.saved

theorem act (m : g.Matches t) (on : t.number? stream = some number) {s : RecordingStep}
    {change : Recorder → Recorder} (streams : g'.thread.streams = g.thread.streams)
    (times : g'.thread.times = (t.step (.act stream s)).times)
    (count : g'.thread.recorders.length = g.thread.recorders.length)
    (changed : ∀ n, g'.thread.recorder? n =
      if n = number then (g.thread.recorder? n).map change else g.thread.recorder? n)
    (same : ∀ r, t.recorder? number = some r → change r.bare = (r.act s).bare)
    (here : StrictGuard.saved number g'.guards =
      (t.recorder? number).elim [] fun r => (r.act s).scopes)
    (others : ∀ n, n ≠ number → StrictGuard.saved n g'.guards = StrictGuard.saved n g.guards) :
    g'.Matches (t.step (.act stream s)) := by
  obtain ⟨_, _, acted, length, _⟩ := Thread.act_on on s
  constructor
  case streams => rw [streams, m.streams, acted]
  case times => exact times
  case count => rw [count, m.count, acted, length]
  case recorders =>
    intro n
    rw [changed, Thread.recorder?_act on, m.recorders]
    split
    case isTrue is =>
      subst is
      cases known : t.recorder? n with
      | none => rfl
      | some r => exact congrArg some (same r known)
    case isFalse => rfl
  case saved =>
    intro n
    rw [Thread.recorder?_act on]
    split
    case isTrue is =>
      rw [is, here]
      cases t.recorder? number <;> rfl
    case isFalse other => rw [others n other, m.saved]

theorem plain (m : g.Matches t) (stream : Nat) {s : RecordingStep}
    (times : ∀ {a b : Thread}, a.streams = b.streams → a.times = b.times →
      (a.step (.act stream s)).times = (b.step (.act stream s)).times)
    (bare : ∀ r : Recorder, r.bare.act s = (r.act s).bare)
    (scopes : ∀ r : Recorder, (r.act s).scopes = r.scopes) :
    Matches { g with thread := g.thread.step (.act stream s) } (t.step (.act stream s)) := by
  cases on : t.number? stream with
  | none =>
    rw [Thread.act_off on, Thread.act_off ((m.number? stream).trans on)]
    exact m
  | some number =>
    have own : g.thread.number? stream = some number := (m.number? stream).trans on
    obtain ⟨_, _, acted, length, _⟩ := Thread.act_on own s
    refine m.act on ?streams (times m.streams m.times) ?count (Thread.recorder?_act own s)
      (fun r _ => bare r) ?here (fun _ _ => rfl)
    case streams => rw [acted]
    case count => rw [acted, length]
    case here =>
      refine (m.saved number).trans ?_
      simp only [scopes]

theorem time (m : g.Matches t) (stream : Nat) (setting : TimeSetting) :
    Matches (g.step (.act stream (.time setting))) (t.step (.act stream (.time setting))) := by
  refine m.plain stream ?times ?bare ?scopes
  case times =>
    intro a b streams times
    have number : a.number? stream = b.number? stream := by
      rw [Thread.number?, Thread.number?, streams]
    cases on : b.number? stream with
    | none => rw [Thread.act_off on, Thread.act_off (number.trans on), times]
    | some n =>
      rw [Thread.step, Thread.step, Thread.adjust_on on, Thread.adjust_on (number.trans on), times]
  case bare => intro r; cases setting <;> rfl
  case scopes => intro r; cases setting <;> rfl

theorem call (m : g.Matches t) (stream : Nat) (c : RecordingCall) :
    Matches (g.step (.act stream (.call c))) (t.step (.act stream (.call c))) := by
  refine m.plain stream ?times (fun r => r.run_bare c) (fun _ => rfl)
  intro a b streams times
  have kept (a : Thread) : (a.step (.act stream (.call c))).times = a.times := by
    rw [Thread.step, Thread.modify]
    split <;> rfl
  rw [kept, kept, times]

theorem openScope (m : g.Matches t) {stream : Nat}
    (there : ∀ number, t.number? stream = some number → ∃ r, t.recorder? number = some r)
    (strict : Bool) :
    Matches (g.step (.act stream (.openScope strict)))
      (t.step (.act stream (.openScope strict))) := by
  cases on : t.number? stream with
  | none =>
    have off : g.step (.act stream (.openScope strict)) =
        { g with guards := ⟨none, false⟩ :: g.guards } := by
      rw [GuardedThread.step, Thread.openScope, (m.number? stream).trans on]
    rw [Thread.act_off on, off]
    exact ⟨m.streams, m.times, m.count, m.recorders, m.saved⟩
  | some number =>
    obtain ⟨r, known⟩ := there number on
    have flag : (g.thread.recorder? number).elim false Recorder.strict = r.strict := by
      rw [m.recorders, known]
      rfl
    have opened : g.step (.act stream (.openScope strict)) =
        ⟨g.thread.setStrict number strict, ⟨some number, r.strict⟩ :: g.guards⟩ := by
      rw [GuardedThread.step, Thread.openScope, (m.number? stream).trans on, ← flag]
    rw [opened]
    refine m.act on rfl ?times (List.length_modify ..)
      (g.thread.recorder?_setStrict number strict) (fun _ _ => rfl) ?here ?others
    case times =>
      rw [Thread.step, Thread.modify_on on]
      exact m.times
    case here =>
      have outer := m.saved number
      rw [known] at outer ⊢
      rw [StrictGuard.saved_cons, if_pos rfl, outer]
      rfl
    case others =>
      intro n other
      rw [StrictGuard.saved_cons, if_neg fun is => other (Option.some.inj is).symm]

theorem closeScope_off (m : g.Matches t) {stream : Nat} (off : t.number? stream = none) :
    Matches (g.step (.act stream .closeScope)) (t.step (.act stream .closeScope)) := by
  have own : g.thread.number? stream = none := (m.number? stream).trans off
  rw [Thread.act_off off]
  cases found : g.guards.find? (·.number = g.thread.number? stream) with
  | none =>
    rw [step_closeScope_none found]
    exact m
  | some guard =>
    have idle : g.thread.dropGuard guard = g.thread := by
      rw [own] at found
      have off : guard.number = none := by simpa using List.find?_some found
      rw [Thread.dropGuard, off]
    rw [step_closeScope_some found, idle, own]
    exact ⟨m.streams, m.times, m.count, m.recorders, fun n =>
      (StrictGuard.saved_eraseP none n g.guards).trans (m.saved n)⟩

theorem times_closeScope (m : g.Matches t) {stream number : Nat}
    (on : t.number? stream = some number) :
    g.thread.times = (t.step (.act stream .closeScope)).times := by
  rw [Thread.step, Thread.modify_on on]
  exact m.times

theorem closeScope_none (m : g.Matches t) {stream number : Nat} {r : Recorder}
    (on : t.number? stream = some number) (known : t.recorder? number = some r)
    (scopes : r.scopes = []) :
    Matches (g.step (.act stream .closeScope)) (t.step (.act stream .closeScope)) := by
  have inner := m.saved number
  rw [known, Option.elim_some, scopes] at inner
  have found : g.guards.find? (·.number = g.thread.number? stream) = none := by
    rw [m.number?, on, StrictGuard.find?_of_saved_nil inner]
  have same : r.act .closeScope = r := by
    rw [Recorder.act, RecordingHistory.step, Recorder.closeScope, scopes]
  have unchanged (n : Nat) : g.thread.recorder? n =
      if n = number then (g.thread.recorder? n).map id else g.thread.recorder? n := by
    rw [Option.map_id_fun, id, ite_self]
  rw [step_closeScope_none found]
  refine m.act on rfl (m.times_closeScope on) rfl unchanged ?same ?here (fun _ _ => rfl)
  case same =>
    rintro _ is
    cases known.symm.trans is
    rw [same, id]
  case here => rw [known, Option.elim_some, same, scopes, inner]

theorem closeScope_some (m : g.Matches t) {stream number : Nat} {r : Recorder}
    (on : t.number? stream = some number) (known : t.recorder? number = some r)
    {previous : Bool} {outer : List Bool} (scopes : r.scopes = previous :: outer) :
    Matches (g.step (.act stream .closeScope)) (t.step (.act stream .closeScope)) := by
  have inner := m.saved number
  rw [known, Option.elim_some, scopes] at inner
  have found : g.guards.find? (·.number = g.thread.number? stream) =
      some ⟨some number, previous⟩ := by
    rw [m.number?, on, StrictGuard.find?_of_saved inner]
  have same : r.act .closeScope = { r with strict := previous, scopes := outer } := by
    rw [Recorder.act, RecordingHistory.step, Recorder.closeScope, scopes]
  rw [step_closeScope_some found, m.number?, on]
  refine m.act on rfl (m.times_closeScope on) (List.length_modify ..)
    (g.thread.recorder?_setStrict number previous) ?same ?here ?others
  case same =>
    rintro _ is
    cases known.symm.trans is
    rw [same]
    rfl
  case here =>
    rw [known, Option.elim_some, same, StrictGuard.saved_eraseP, if_pos rfl, inner,
      List.tail_cons]
  case others =>
    intro n other
    rw [StrictGuard.saved_eraseP, if_neg fun is => other (Option.some.inj is).symm]

theorem closeScope (m : g.Matches t) {stream : Nat}
    (there : ∀ number, t.number? stream = some number → ∃ r, t.recorder? number = some r) :
    Matches (g.step (.act stream .closeScope)) (t.step (.act stream .closeScope)) := by
  cases on : t.number? stream with
  | none => exact m.closeScope_off on
  | some number =>
    obtain ⟨r, known⟩ := there number on
    cases scopes : r.scopes with
    | nil => exact m.closeScope_none on known scopes
    | cons previous outer => exact m.closeScope_some on known scopes

theorem step (m : g.Matches t)
    (there : ∀ stream number, t.number? stream = some number → ∃ r, t.recorder? number = some r)
    (s : ThreadStep) : Matches (g.step s) (t.step s) := by
  cases s with
  | create setup environment clock => exact m.create fun r built => scopes_created built
  | clone stream => exact m.clone stream
  | act stream s =>
    cases s with
    | time setting => exact m.time stream setting
    | openScope strict => exact m.openScope (there stream) strict
    | closeScope => exact m.closeScope (there stream)
    | call c => exact m.call stream c

theorem run {h : ThreadHistory} (m : g.Matches h.thread) (apart : h.Apart)
    (steps : List ThreadStep) : Matches (g.run steps) (h.run steps).thread := by
  induction steps generalizing g h with
  | nil => exact m
  | cons s steps ih =>
    refine ih (m.step (fun stream number on => ?_) s) (apart.step s)
    obtain ⟨first, _, known, _⟩ := apart.exists_recorder on
    exact ⟨_, known⟩

theorem start : Matches {} {} := ⟨rfl, rfl, rfl, fun _ => rfl, fun _ => rfl⟩

end Matches

theorem created_run (h : ThreadHistory) (steps : List ThreadStep) :
    (h.run steps).created = h.created ++ steps.flatMap ThreadStep.created := by
  induction steps generalizing h with
  | nil => exact (List.append_nil _).symm
  | cons s steps ih => exact (ih (h.step s)).trans (List.append_assoc ..)

theorem exists_create {steps : List ThreadStep} {number : Nat} {built : Recorder}
    (here : (ThreadHistory.run {} steps).created[number]? = some built) :
    ∃ setup environment clock, .create setup environment clock ∈ steps ∧
      (setup.build environment clock).1.recorder = some built := by
  have member := List.mem_of_getElem? here
  rw [created_run, List.nil_append] at member
  obtain ⟨s, inside, own⟩ := List.mem_flatMap.1 member
  cases s with
  | create setup environment clock =>
    exact ⟨setup, environment, clock, inside, Option.mem_toList.1 own⟩
  | clone stream => cases own
  | act stream s => cases own

theorem policy_on {t : Thread} {stream number : Nat} {r : Recorder}
    (on : t.number? stream = some number) (known : t.recorder? number = some r)
    (strict : Option Bool) : t.policy stream strict = r.policy strict := by
  rw [Thread.policy, on, Option.bind_some, known]
  rfl

theorem policy_call (t : Thread) (other : Nat) (call : Call Unit) (stream : Nat)
    (strict : Option Bool) :
    (t.modify other fun r => (r.run call).2.1).policy stream strict = t.policy stream strict := by
  cases on : t.number? other with
  | none => rw [Thread.modify, on]
  | some number =>
    have numbers : (t.modify other fun r => (r.run call).2.1).number? stream =
        t.number? stream := by
      rw [Thread.modify_on on]
      rfl
    rw [Thread.policy, Thread.policy, numbers]
    cases t.number? stream with
    | none => rfl
    | some n =>
      have time (r : Recorder) : (r.run call).2.1.time = r.time := rfl
      rw [Option.bind_some, Option.bind_some, Thread.recorder?_modify on _ time]
      split
      case isTrue => cases t.recorder? n <;> rfl
      case isFalse => rfl

/-- After any steps on the streams of a thread, scopes being closed in reverse order: the policy of a
stream is what the innermost scope was opened with that is still open on it or on a clone, and without
one what the recorder was built with. A call goes by its own policy if it has one, and changes none.
The guards have what the recorder would keep of scopes itself. -/
theorem policy_of_scopes (steps : List ThreadStep) {stream number : Nat}
    (on : (run {} steps).thread.number? stream = some number) :
    let g := run {} steps
    let h := ThreadHistory.run {} steps
    let scopes := openScopes (h.own number)
    ∃ setup environment clock built r,
      .create setup environment clock ∈ steps ∧
      (setup.build environment clock).1.recorder = some built ∧
      h.created[number]? = some built ∧
      g.thread.policy stream none = scopes.headD built.strict ∧
      (∀ strict, g.thread.policy stream (some strict) = strict) ∧
      (∀ other (call : Call Unit) strict,
        (g.thread.modify other fun r => (r.run call).2.1).policy stream strict =
          g.thread.policy stream strict) ∧
      h.thread.recorder? number = some r ∧
      g.thread.recorder? number = some r.bare ∧
      StrictGuard.saved number g.guards = r.scopes ∧
      r.strict :: r.scopes = scopes ++ [built.strict] := by
  intro g h scopes
  have m : Matches g h.thread := Matches.start.run ThreadHistory.apart_start steps
  have apart : h.Apart := ThreadHistory.apart_start.run steps
  obtain ⟨built, here, known, _⟩ := apart.exists_recorder ((m.number? stream).symm.trans on)
  obtain ⟨setup, environment, clock, created, own⟩ := exists_create here
  have bare : g.thread.recorder? number = some (built.after (h.own number)).bare := by
    rw [m.recorders, known, Option.map_some]
  have saved : StrictGuard.saved number g.guards = (built.after (h.own number)).scopes := by
    rw [m.saved, known, Option.elim_some]
  have none : built.scopes = [] := scopes_created own
  refine ⟨setup, environment, clock, built, _, created, own, here, ?_, fun strict => ?_,
    fun other call strict => policy_call g.thread other call stream strict, known, bare, saved,
    Recorder.strict_cons_scopes none (h.own number)⟩
  · rw [policy_on on bare]
    exact Recorder.strict_after none (h.own number)
  · rw [policy_on on bare]
    rfl

theorem policy_of_scopes_clone :
    let setup : StreamSetup :=
      { applicationId := "app", enabled := some true, strict := some false, sink := .memory }
    let c : RecordingCall := .batches ⟨["arm"]⟩ [.indicator "Arm"] {}
    let steps : List ThreadStep :=
      [.create setup {} fun _ => 0, .create setup {} fun _ => 0, .clone 0,
        .act 0 (.openScope false), .act 2 (.openScope true), .act 1 (.openScope false),
        .act 0 (.openScope false), .act 2 (.call c), .act 2 .closeScope]
    let g := run {} steps
    g.thread.number? 2 = some 0 ∧ g.thread.policy 2 none = true ∧
      g.thread.policy 2 (some false) = false ∧ StrictGuard.saved 0 g.guards = [false, false] := by
  intro setup c steps g
  have on : g.thread.number? 2 = some 0 := by decide +kernel
  have scopes : openScopes ((ThreadHistory.run {} steps).own 0) = [true, false] := by
    decide +kernel
  have lenient : (ThreadHistory.run {} steps).created[0]?.map Recorder.strict = some false := by
    decide +kernel
  obtain ⟨_, _, _, built, r, _, _, here, policy, own, _, _, _, saved, kept⟩ :=
    policy_of_scopes steps on
  rw [here] at lenient
  rw [scopes] at policy kept
  rw [Option.some.inj lenient] at kept
  exact ⟨on, policy, own false, saved.trans (List.cons.inj kept).2⟩

end GuardedThread

end EntityLog
