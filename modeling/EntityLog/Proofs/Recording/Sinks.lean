import EntityLog.Proofs.Recording.Reports
import EntityLog.Recording.Recorder
import Mathlib.Data.List.Perm.Basic

/-!
Sinks come and go, and no message is lost, doubled or put before another on the way. Whatever is
logged, swapped, drained and taken: what was handed out, what is left in the memory of each sink and
what the current sink holds are the pieces of all that was sent, each piece whole and in its order.
-/

namespace EntityLog

def Recorder.sends (r : Recorder) (call : Call Unit) : List Message :=
  (call.exec r { tick := r.tick }).2.sent

theorem Recorder.held_run (r : Recorder) (call : Call Unit) :
    (r.run call).2.1.sink.held = r.sink.held ++ r.sends call := rfl

inductive OutletStep
  | call (call : Call Unit)
  | record (message : Message)
  | setSink (kind : SinkKind)
  | drain
  | take (sink : Nat)

/-- Outlets, with the messages sent so far and the pieces of them that were handed out. -/
structure OutletHistory where
  outlets : Outlets
  sent : List Message
  handed : List (List Message) := []

namespace OutletHistory

def step (h : OutletHistory) : OutletStep → OutletHistory
  | .call call => { h with
      outlets.recorder := (h.outlets.recorder.run call).2.1
      sent := h.sent ++ h.outlets.recorder.sends call }
  | .record message => { h with
      outlets.recorder := h.outlets.recorder.send [message]
      sent := h.sent ++ [message] }
  | .setSink kind => { h with outlets := h.outlets.setSink kind }
  | .drain => { h with outlets := h.outlets.drain.2, handed := h.handed ++ [h.outlets.drain.1] }
  | .take sink => { h with
      outlets := (h.outlets.take sink).2
      handed := h.handed ++ [(h.outlets.take sink).1] }

def run (h : OutletHistory) (steps : List OutletStep) : OutletHistory := steps.foldl step h

def settled (h : OutletHistory) : List (List Message) := h.handed ++ h.outlets.left

def held (h : OutletHistory) : List Message := h.outlets.recorder.sink.held

/-- Everything that was sent, in pieces: in some order those that settled, and then what is held. -/
def IsWhole (h : OutletHistory) : Prop :=
  ∃ pieces : List (List Message), pieces.Perm h.settled ∧ pieces.flatten ++ h.held = h.sent

end OutletHistory

namespace Sink

theorem arrived_append_backlog (s : Sink) : s.arrived ++ s.backlog = s.held := by
  obtain ⟨kind, held, flushes⟩ := s
  cases kind with
  | buffered => rfl
  | memory => exact List.append_nil held
  | plain => exact List.append_nil held

theorem backlog_append_drain (s : Sink) : s.backlog ++ s.drain.held = s.held := by
  obtain ⟨kind, held, flushes⟩ := s
  cases kind with
  | buffered => exact List.append_nil held
  | memory => rfl
  | plain => rfl

theorem arrived_append_take (s : Sink) : s.arrived ++ s.take.held = s.held := by
  obtain ⟨kind, held, flushes⟩ := s
  cases kind with
  | buffered => rfl
  | memory => exact List.append_nil held
  | plain => exact List.append_nil held

end Sink

open List in
theorem perm_cons_set {α : Type} {pieces : List (List α)} {i : Nat} {piece : List α}
    (here : pieces[i]? = some piece) : (piece :: pieces.set i []).Perm ([] :: pieces) := by
  obtain ⟨bound, rfl⟩ := List.getElem?_eq_some_iff.1 here
  obtain ⟨before, after, split, _, emptied⟩ := @List.exists_of_set _ i [] pieces bound
  calc pieces[i] :: pieces.set i []
      = pieces[i] :: (before ++ [] :: after) := by rw [emptied]
    _ ~ pieces[i] :: [] :: (before ++ after) := List.perm_middle.cons _
    _ ~ [] :: pieces[i] :: (before ++ after) := List.Perm.swap ..
    _ ~ [] :: (before ++ pieces[i] :: after) := List.perm_middle.symm.cons _
    _ = [] :: pieces := by rw [← split]

namespace OutletHistory

variable {h after : OutletHistory}

theorem IsWhole.settle (whole : h.IsWhole) (piece : List Message)
    (settled : after.settled.Perm (h.settled ++ [piece])) (held : piece ++ after.held = h.held)
    (sent : after.sent = h.sent) : after.IsWhole := by
  obtain ⟨pieces, perm, all⟩ := whole
  refine ⟨pieces ++ [piece], (perm.append_right [piece]).trans settled.symm, ?_⟩
  rw [List.flatten_append, List.flatten_singleton, List.append_assoc, held, all, sent]

theorem IsWhole.send (whole : h.IsWhole) {messages : List Message}
    (settled : after.settled = h.settled) (held : after.held = h.held ++ messages)
    (sent : after.sent = h.sent ++ messages) : after.IsWhole := by
  obtain ⟨pieces, perm, all⟩ := whole
  exact ⟨pieces, settled ▸ perm, by rw [held, ← List.append_assoc, all, sent]⟩

theorem perm_handed (handed left : List (List Message)) (piece : List Message) :
    (handed ++ [piece] ++ left).Perm (handed ++ left ++ [piece]) := by
  rw [List.append_assoc, List.append_assoc]
  exact List.perm_append_comm.append_left handed

theorem IsWhole.take (whole : h.IsWhole) (sink : Nat) : (h.step (.take sink)).IsWhole := by
  cases here : h.outlets.left[sink]? with
  | some content =>
    have taken : h.outlets.take sink =
        (content, { h.outlets with left := h.outlets.left.set sink [] }) := by
      rw [Outlets.take, here]
    -- In the place of what is handed out there is an empty piece.
    refine whole.settle [] ?_ (by simp [step, taken, held]) rfl
    simp only [settled, step, taken, List.append_assoc]
    refine List.Perm.append_left h.handed ?_
    exact (perm_cons_set here).trans (List.perm_append_singleton [] _).symm
  | none =>
    by_cases own : sink = h.outlets.left.length
    · have taken : h.outlets.take sink = (h.outlets.recorder.sink.arrived,
          { h.outlets with recorder.sink := h.outlets.recorder.sink.take }) := by
        rw [Outlets.take, here]
        exact if_pos own
      refine whole.settle h.outlets.recorder.sink.arrived ?_ ?_ rfl
      · simp only [settled, step, taken]
        exact perm_handed _ _ _
      · simp only [held, step, taken]
        exact Sink.arrived_append_take _
    · have taken : h.outlets.take sink = ([], h.outlets) := by
        rw [Outlets.take, here]
        exact if_neg own
      refine whole.settle [] ?_ (by simp [step, taken, held]) rfl
      simp only [settled, step, taken]
      exact perm_handed _ _ _

theorem IsWhole.step (whole : h.IsWhole) (s : OutletStep) : (h.step s).IsWhole := by
  cases s with
  | call call => exact whole.send rfl (Recorder.held_run _ call) rfl
  | record message => exact whole.send rfl rfl rfl
  | setSink kind =>
    refine whole.settle _ (List.Perm.of_eq ?_) (Sink.arrived_append_backlog _) rfl
    exact (List.append_assoc _ _ _).symm
  | drain =>
    exact whole.settle _ (perm_handed _ _ _) (Sink.backlog_append_drain _) rfl
  | take sink => exact whole.take sink

theorem IsWhole.run (whole : h.IsWhole) (steps : List OutletStep) : (h.run steps).IsWhole := by
  induction steps generalizing h with
  | nil => exact whole
  | cons s steps ih => exact ih (whole.step s)

def start (r : Recorder) : OutletHistory where
  outlets := { recorder := r }
  sent := r.sink.held

/-- After any steps, each message that was sent is in one place: in a piece that was handed out, in
the memory of one of the sinks before, or in the current sink. Each place has messages that were sent
one after the other, and one place after the other, in some order, makes up all that was sent. -/
theorem places_perm (r : Recorder) (steps : List OutletStep) :
    ∃ places : List (List Message),
      places.Perm (((start r).run steps).handed ++ ((start r).run steps).outlets.left ++
        [((start r).run steps).outlets.recorder.sink.held]) ∧
      places.flatten = ((start r).run steps).sent := by
  have begin : (start r).IsWhole := ⟨[], List.Perm.refl [], rfl⟩
  obtain ⟨pieces, perm, all⟩ := begin.run steps
  refine ⟨pieces ++ [((start r).run steps).held], perm.append_right _, ?_⟩
  rw [List.flatten_append, List.flatten_singleton, all]

end OutletHistory

end EntityLog
