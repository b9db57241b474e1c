import GuidedDecoding.Dispatch.Timeline
import Mathlib.Data.List.Basic

/-!
# How a dispatch moves on

A move changes the phase of one dispatch, and may ask for a slot, call the backend, give a slot back
or leave the queue. `Dispatch.Move` lists the moves. What a move makes of the whole line of time is
said once (`Timeline.exists_moved`): others notice it only where a slot is given back, which admits
the head of the queue.
-/

namespace GuidedDecoding

/-- What a move does besides changing its dispatch. -/
inductive Action where
  | wait
  | ask (granted : Bool)
  | call
  | giveBack
  | leave

namespace Phase

/-- Whether a dispatch in a phase moves on at a time, given its start and its deadline. -/
@[simp] def isDue (start deadline now : Nat) : Phase → Bool
  | .scheduled => true
  | .early => start ≤ now
  | .queued => deadline ≤ now
  | .admitted => true
  | .calling ends _ => ends.any (· ≤ now) || deadline ≤ now
  | .pausing ends => ends ≤ now
  | .broken | .finished _ => false

/-- The times for which alarms are set as a phase is entered. -/
@[simp] def alarmTimes (start deadline now : Nat) : Phase → List Nat
  | .early => [start]
  | .queued => [deadline]
  | .calling none _ => [deadline]
  | .calling (some ends) _ => if now < ends then [ends, deadline] else []
  | .pausing ends => [ends]
  | .scheduled | .admitted | .broken | .finished _ => []

end Phase

namespace Dispatch

variable {c : Dispatcher} {now : Nat} {d : Dispatch}

/-- Whether a dispatch moves on at a time. -/
def isDue (c : Dispatcher) (now : Nat) (d : Dispatch) : Bool :=
  d.phase.isDue d.request.start (d.deadline c) now

/-- The times for which a dispatch sets alarms as it enters its phase. -/
def alarmTimes (c : Dispatcher) (now : Nat) (d : Dispatch) : List Nat :=
  d.phase.alarmTimes d.request.start (d.deadline c) now

/-- The dispatch at the beginning of its next attempt, with a slot or in the queue for one. -/
def entered (granted : Bool) (d : Dispatch) : Dispatch :=
  { d with
    attempts := d.attempts + 1
    phase := if granted then .admitted else .queued }

/-- The dispatch with the slot that it was waiting for. -/
def withSlot (d : Dispatch) : Dispatch := { d with phase := .admitted }

/-- The dispatch with its call made. -/
def called (now : Nat) (d : Dispatch) : Dispatch :=
  let turn := d.request.turn d.attempts
  { d with phase := .calling (turn.after.map (now + ·)) turn.answer }

/-- The call that a dispatch makes. -/
def call (now i : Nat) (d : Dispatch) : BackendCall :=
  ⟨i, now, d.attempts, d.request.prompt, d.request.params, d.request.artifact⟩

/-- The dispatch with its call answered. -/
def answered (c : Dispatcher) (now : Nat) (d : Dispatch) :
    Except BackendFailure BackendResponse → Dispatch
  | .ok response => d.finish now (.ok response)
  | .error cause => d.afterFailure c now cause

theorem alarmTimes_entered (granted : Bool) :
    (d.entered granted).alarmTimes c now = if granted then [] else [d.deadline c] := by
  cases granted <;> rfl

theorem alarmTimes_called : (d.called now).alarmTimes c now =
    match (d.request.turn d.attempts).after with
    | none => [d.deadline c]
    | some length => if now < now + length then [now + length, d.deadline c] else [] := by
  cases after : (d.request.turn d.attempts).after <;> simp [called, alarmTimes, after] <;> rfl

/-- Who is over does not move on. -/
theorem isDue_eq_false_of_isOver (stopped : d.isOver = true) : d.isDue c now = false := by
  cases phase : d.phase <;> simp_all [isOver, isDue]

/-- Who is over sets no alarm. -/
theorem alarmTimes_eq_nil (stopped : d.isOver = true) : d.alarmTimes c now = [] := by
  cases phase : d.phase <;> simp_all [isOver, alarmTimes]

/-- The moves of a dispatch. -/
inductive Move (c : Dispatcher) (now : Nat) (d : Dispatch) : Action → Dispatch → Prop
  | wait (phase : d.phase = .scheduled) (early : now < d.request.start) :
    Move c now d .wait { d with phase := .early }
  | begin (granted : Bool) (phase : d.phase = .scheduled ∨ d.phase = .early)
    (due : d.request.start ≤ now) (named : c.isBeyond (now + c.timeout) = false) :
    Move c now d (.ask granted) (({ d with started := now } : Dispatch).entered granted)
  | breakOff (phase : d.phase = .scheduled ∨ d.phase = .early) (due : d.request.start ≤ now)
    (beyond : c.isBeyond (now + c.timeout) = true) :
    Move c now d .wait ({ d with started := now } : Dispatch).breakOff
  | resume (granted : Bool) {ends : Nat} (phase : d.phase = .pausing ends) (due : ends ≤ now) :
    Move c now d (.ask granted) (d.entered granted)
  | call (phase : d.phase = .admitted) : Move c now d .call (d.called now)
  | answer {ends : Nat} {answer : Except BackendFailure BackendResponse}
    (phase : d.phase = .calling (some ends) answer) (due : ends ≤ now) :
    Move c now d .giveBack (d.answered c now answer)
  | drop {ends : Option Nat} {answer : Except BackendFailure BackendResponse}
    (phase : d.phase = .calling ends answer) (unanswered : ∀ time ∈ ends, now < time)
    (due : d.deadline c ≤ now) : Move c now d .giveBack (d.giveUp now d.lastCause)
  | leave (phase : d.phase = .queued) (due : d.deadline c ≤ now) :
    Move c now d .leave (d.giveUp now d.lastCause)

/-- A failed call finishes its dispatch, breaks it off, or lets it pause. -/
theorem afterFailure_cases (c : Dispatcher) (d : Dispatch) (now : Nat) (cause : BackendFailure) :
    (∃ outcome, d.afterFailure c now cause = d.finish now outcome) ∨
      d.afterFailure c now cause = d.breakOff ∨
      ∃ ends retries, d.afterFailure c now cause =
        { d with phase := .pausing ends, lastCause := some cause, retries } := by
  unfold afterFailure
  split
  · exact .inl ⟨_, rfl⟩
  dsimp only
  split
  · exact .inr (.inl rfl)
  split
  · exact .inl ⟨_, rfl⟩
  · exact .inr (.inr ⟨_, _, rfl⟩)

/-- An answer finishes its dispatch, breaks it off, or lets it pause. -/
theorem answered_cases (c : Dispatcher) (d : Dispatch) (now : Nat)
    (answer : Except BackendFailure BackendResponse) :
    (∃ outcome, d.answered c now answer = d.finish now outcome) ∨
      d.answered c now answer = d.breakOff ∨
      ∃ ends lastCause retries, d.answered c now answer =
        { d with phase := .pausing ends, lastCause, retries } := by
  cases answer with
  | ok response => exact .inl ⟨_, rfl⟩
  | error cause =>
    obtain finished | broken | ⟨ends, retries, eq⟩ := d.afterFailure_cases c now cause
    · exact .inl finished
    · exact .inr (.inl broken)
    · exact .inr (.inr ⟨ends, _, retries, eq⟩)

/-- After an answer a dispatch is over, or pauses. -/
theorem isOver_or_pausing_answered (c : Dispatcher) (d : Dispatch) (now : Nat)
    (answer : Except BackendFailure BackendResponse) :
    (d.answered c now answer).isOver = true ∨
      ∃ ends, (d.answered c now answer).phase = .pausing ends := by
  obtain ⟨outcome, eq⟩ | eq | ⟨ends, lastCause, retries, eq⟩ := d.answered_cases c now answer
  · exact .inl (congrArg isOver eq)
  · exact .inl (congrArg isOver eq)
  · exact .inr ⟨ends, congrArg phase eq⟩

theorem answered_keeps (c : Dispatcher) (d : Dispatch) (now : Nat)
    (answer : Except BackendFailure BackendResponse) :
    (d.answered c now answer).request = d.request ∧
      (d.answered c now answer).attempts = d.attempts ∧
      (d.answered c now answer).started = d.started := by
  obtain ⟨outcome, eq⟩ | eq | ⟨ends, lastCause, retries, eq⟩ := d.answered_cases c now answer <;>
    rw [eq] <;> exact ⟨rfl, rfl, rfl⟩

end Dispatch

namespace Action

/-- What an action of a dispatch makes of the pool. -/
@[simp] def pool (p : Pool) (i : Nat) : Action → Pool
  | .ask _ => p.ask i
  | .giveBack => p.release i
  | .leave => p.leave i
  | _ => p

/-- What an action makes of the dispatches, given who gets the next slot that is given back. -/
@[simp] def dispatches (heir : Option Nat) (ds : List Dispatch) : Action → List Dispatch
  | .giveBack => heir.elim ds fun next => ds.modify next .withSlot
  | _ => ds

/-- What an action makes of those who may move. -/
@[simp] def ready (heir : Option Nat) (ready : List Nat) : Action → List Nat
  | .giveBack =>
    heir.elim ready fun next => if ready.contains next then ready else ready ++ [next]
  | _ => ready

/-- What an action of a dispatch makes of the alarms. -/
@[simp] def alarms (i : Nat) (alarms : List (Nat × Nat)) : Action → List (Nat × Nat)
  | .giveBack | .leave => alarms.filter fun a => a.2 ≠ i
  | _ => alarms

/-- The calls that belong to an action of a dispatch. -/
@[simp] def calls (now i : Nat) (d : Dispatch) : Action → List BackendCall
  | .call => [d.call now i]
  | _ => []

end Action

namespace Timeline

/-- Who is admitted when a slot is given back. -/
def heir? (t : Timeline) : Option Nat := t.pool.next?.filter (· < t.dispatches.length)

/-- What is the case after a move of a dispatch. -/
structure Moved (c : Dispatcher) (t : Timeline) (i : Nat) (d : Dispatch) (a : Action)
    (d' : Dispatch) (t' : Timeline) : Prop where
  here : t.dispatches[i]? = some d
  move : d.Move c t.now a d'
  granted : ∀ granted, a = .ask granted → granted = (t.pool.ask i).isHeldBy i
  now : t'.now = t.now
  pool : t'.pool = a.pool t.pool i
  dispatches : t'.dispatches = a.dispatches t.heir? (t.dispatches.set i d')
  calls : t'.calls = t.calls ++ a.calls t.now i d
  ready : t'.ready = a.ready t.heir? t.ready
  alarms : t'.alarms = a.alarms i t.alarms ++
    ((d'.alarmTimes c t.now).filter (t.now < ·)).map (·, i)

section Operations

variable (t : Timeline) (i time : Nat) (d : Dispatch)

@[simp] theorem now_setAlarm : (t.setAlarm i time).now = t.now := by
  unfold setAlarm; split <;> rfl

@[simp] theorem pool_setAlarm : (t.setAlarm i time).pool = t.pool := by
  unfold setAlarm; split <;> rfl

@[simp] theorem dispatches_setAlarm : (t.setAlarm i time).dispatches = t.dispatches := by
  unfold setAlarm; split <;> rfl

@[simp] theorem calls_setAlarm : (t.setAlarm i time).calls = t.calls := by
  unfold setAlarm; split <;> rfl

@[simp] theorem ready_setAlarm : (t.setAlarm i time).ready = t.ready := by
  unfold setAlarm; split <;> rfl

@[simp] theorem alarms_setAlarm : (t.setAlarm i time).alarms =
    t.alarms ++ ([time].filter (t.now < ·)).map (·, i) := by
  unfold setAlarm
  split <;> simp [*]

@[simp] theorem now_put : (t.put i d).now = t.now := rfl

@[simp] theorem pool_put : (t.put i d).pool = t.pool := rfl

@[simp] theorem dispatches_put : (t.put i d).dispatches = t.dispatches.set i d := rfl

@[simp] theorem calls_put : (t.put i d).calls = t.calls := rfl

@[simp] theorem ready_put : (t.put i d).ready = t.ready := rfl

@[simp] theorem alarms_put : (t.put i d).alarms = t.alarms := rfl

@[simp] theorem heir?_put : (t.put i d).heir? = t.heir? := by
  simp [heir?, put]

theorem wake_eq : t.wake i =
    { t with ready := if t.ready.contains i then t.ready else t.ready ++ [i] } := by
  unfold wake
  split <;> rfl

/-- Those whose alarms are due are woken, each of them once. -/
theorem exists_foldl_wake_eq (due : List (Nat × Nat)) (t : Timeline) :
    ∃ ready, due.foldl (fun t a => t.wake a.2) t = { t with ready } ∧
      (∀ i, i ∈ ready ↔ i ∈ t.ready ∨ ∃ a ∈ due, a.2 = i) ∧
      ready.length ≤ t.ready.length + due.length := by
  induction due generalizing t with
  | nil => exact ⟨t.ready, rfl, by simp, by simp⟩
  | cons a due ih =>
    obtain ⟨ready, eq, mem, length⟩ := ih (t.wake a.2)
    refine ⟨ready, ?_, fun i => ?_, ?_⟩
    · rw [List.foldl_cons, eq, wake_eq]
    · rw [mem, wake_eq]
      grind
    · refine Nat.le_trans length ?_
      rw [wake_eq]
      grind

/-- What letting time go on does. -/
theorem exists_elapse_eq : ∃ ready, t.elapse time =
    { t with now := time, alarms := t.alarms.filter fun a => a.1 ≠ time, ready } ∧
      (∀ i, i ∈ ready ↔ i ∈ t.ready ∨ (time, i) ∈ t.alarms) ∧
      ready.length ≤ t.ready.length + (t.alarms.filter fun a => a.1 = time).length := by
  obtain ⟨ready, eq, mem, length⟩ := exists_foldl_wake_eq (t.alarms.filter fun a => a.1 = time)
    { t with now := time, alarms := t.alarms.filter fun a => a.1 ≠ time }
  refine ⟨ready, eq, fun i => ?_, length⟩
  rw [mem]
  simp

theorem release_eq : t.release i =
    { t with
      pool := t.pool.release i
      dispatches := Action.giveBack.dispatches t.heir? t.dispatches
      ready := Action.giveBack.ready t.heir? t.ready } := by
  unfold release heir?
  split
  · next nobody => rw [nobody]; rfl
  · next next queue =>
    rw [queue, Option.filter_some]
    split
    · next absent =>
      rw [if_neg (by simpa using absent)]
      rfl
    · next d here =>
      have inside := (List.getElem?_eq_some_iff.1 here).1
      have admitted : t.dispatches.set next { d with phase := .admitted } =
          t.dispatches.modify next .withSlot := by
        rw [List.modify_eq_set_getElem?, here]
        rfl
      rw [if_pos (by simpa using inside), wake_eq]
      simp only [Action.dispatches, Action.ready, Option.elim_some, admitted, put]

end Operations

variable {c : Dispatcher} {t t' : Timeline} {i : Nat} {d d' : Dispatch}

theorem add_eq (r : DispatchRequest) : t.add r =
    { t with
      dispatches := t.dispatches ++ [{ request := r }]
      ready := if t.ready.contains t.dispatches.length then t.ready
        else t.ready ++ [t.dispatches.length] } := wake_eq _ _

/-- Beginning an attempt of a dispatch that may have changed before. -/
theorem moved_attempt {e : Dispatch} (here : t.dispatches[i]? = some d)
    (move : ∀ granted, d.Move c t.now (.ask granted) (e.entered granted)) :
    ∃ granted, t.Moved c i d (.ask granted) (e.entered granted) (t.attempt c i e) := by
  unfold attempt
  cases held : (t.pool.ask i).isHeldBy i with
  | true =>
    refine ⟨true, here, move _, ?_, ?_, ?_, ?_, ?_, ?_, ?_⟩ <;>
      simp only [held, Dispatch.alarmTimes_entered] <;> simp [Dispatch.entered]
  | false =>
    refine ⟨false, here, move _, ?_, ?_, ?_, ?_, ?_, ?_, ?_⟩ <;>
      simp only [held, Dispatch.alarmTimes_entered] <;> simp [Dispatch.entered]
    rfl

/-- Giving a slot back, and setting no alarm. -/
theorem moved_giveBack (here : t.dispatches[i]? = some d) (move : d.Move c t.now .giveBack d')
    (silent : d'.alarmTimes c t.now = []) :
    t.Moved c i d .giveBack d' (((t.put i d').release i).clearAlarms i) := by
  rw [release_eq, heir?_put]
  refine ⟨here, move, nofun, ?_, ?_, ?_, ?_, ?_, ?_⟩ <;> simp [clearAlarms, silent]

/-- Giving a slot back, and setting an alarm for the end of the pause. -/
theorem moved_pause {ends : Nat} (here : t.dispatches[i]? = some d)
    (move : d.Move c t.now .giveBack d') (pausing : d'.phase = .pausing ends) :
    t.Moved c i d .giveBack d' ((((t.put i d').release i).clearAlarms i).setAlarm i ends) := by
  rw [release_eq, heir?_put]
  refine ⟨here, move, nofun, ?_, ?_, ?_, ?_, ?_, ?_⟩ <;>
    simp [clearAlarms, pausing, Dispatch.alarmTimes]

theorem moved_answered {answer : Except BackendFailure BackendResponse}
    (here : t.dispatches[i]? = some d)
    (move : d.Move c t.now .giveBack (d.answered c t.now answer)) :
    t.Moved c i d .giveBack (d.answered c t.now answer) (t.answered c i d answer) := by
  cases answer with
  | ok response => exact moved_giveBack here move rfl
  | error cause =>
    simp only [answered]
    split
    · next ends pausing => exact moved_pause here move pausing
    · next other =>
      refine moved_giveBack here move ?_
      obtain stopped | ⟨ends, pausing⟩ := d.isOver_or_pausing_answered c t.now (.error cause)
      · exact Dispatch.alarmTimes_eq_nil stopped
      · exact absurd pausing (other ends)

theorem moved_call (here : t.dispatches[i]? = some d) (admitted : d.phase = .admitted) :
    t.Moved c i d .call (d.called t.now) (t.call c i d) := by
  have move : d.Move c t.now .call (d.called t.now) := .call admitted
  unfold call
  cases after : (d.request.turn d.attempts).after with
  | none =>
    refine ⟨here, move, nofun, ?_, ?_, ?_, ?_, ?_, ?_⟩ <;>
      simp [after, Dispatch.alarmTimes_called, Dispatch.call]
    simp [Dispatch.called, after]
  | some length =>
    by_cases later : 0 < length
    · refine ⟨here, move, nofun, ?_, ?_, ?_, ?_, ?_, ?_⟩ <;>
        simp [after, later, Dispatch.alarmTimes_called, Dispatch.call]
      simp [Dispatch.called, after]
    · refine ⟨here, move, nofun, ?_, ?_, ?_, ?_, ?_, ?_⟩ <;>
        simp [after, later, Dispatch.alarmTimes_called, Dispatch.call]
      simp [Dispatch.called, after]

theorem moved_awaitStart (here : t.dispatches[i]? = some d) (scheduled : d.phase = .scheduled)
    (early : t.now < d.request.start) :
    t.Moved c i d .wait { d with phase := .early } (t.awaitStart i d) := by
  refine ⟨here, .wait scheduled early, nofun, ?_, ?_, ?_, ?_, ?_, ?_⟩ <;>
    simp [awaitStart, Dispatch.alarmTimes]
  rfl

/-- Beginning a dispatch, or breaking it off at its start. -/
theorem exists_moved_begin (here : t.dispatches[i]? = some d)
    (phase : d.phase = .scheduled ∨ d.phase = .early) (due : d.request.start ≤ t.now) :
    ∃ a d', t.Moved c i d a d' (t.begin c i d) := by
  unfold begin
  dsimp only
  split
  · next beyond =>
    refine ⟨_, _, here, .breakOff phase due beyond, nofun, ?_, ?_, ?_, ?_, ?_, ?_⟩ <;>
      simp [Dispatch.alarmTimes_eq_nil (d := Dispatch.breakOff _) rfl]
  · next named =>
    obtain ⟨granted, moved⟩ := moved_attempt here fun granted =>
      .begin granted phase due (Bool.eq_false_iff.2 named)
    exact ⟨_, _, moved⟩

theorem moved_leaveQueue (here : t.dispatches[i]? = some d) (queued : d.phase = .queued)
    (due : d.deadline c ≤ t.now) :
    t.Moved c i d .leave (d.giveUp t.now d.lastCause) (t.leaveQueue i d) := by
  refine ⟨here, .leave queued due, nofun, ?_, ?_, ?_, ?_, ?_, ?_⟩ <;>
    simp [leaveQueue, clearAlarms, Dispatch.alarmTimes_eq_nil (d := d.giveUp _ _) rfl]

theorem moved_dropCall (here : t.dispatches[i]? = some d)
    (move : d.Move c t.now .giveBack (d.giveUp t.now d.lastCause)) :
    t.Moved c i d .giveBack (d.giveUp t.now d.lastCause) (t.dropCall i d) := by
  let counted : Timeline := { t with dropped := t.dropped + 1 }
  have moved : counted.Moved c i d .giveBack _ (t.dropCall i d) :=
    moved_giveBack here move (Dispatch.alarmTimes_eq_nil rfl)
  exact { moved with }

/-- Every move of the line of time is a move of one dispatch. -/
theorem exists_moved (h : t.move? c i = some t') : ∃ d a d', t.Moved c i d a d' t' := by
  unfold move? at h
  split at h
  · cases h
  next d here =>
  refine ⟨d, ?_⟩
  split at h
  · next scheduled =>
    split at h <;> cases h
    · next early => exact ⟨_, _, moved_awaitStart here scheduled early⟩
    · next due => exact exists_moved_begin here (.inl scheduled) (Nat.le_of_not_lt due)
  · next early =>
    split at h <;> cases h
    next due => exact exists_moved_begin here (.inr early) (Nat.le_of_not_lt due)
  · next queued =>
    split at h <;> cases h
    next due => exact ⟨_, _, moved_leaveQueue here queued due⟩
  · next admitted =>
    cases h
    exact ⟨_, _, moved_call here admitted⟩
  · next ends answer calling =>
    split at h
    · next due =>
      cases h
      obtain ⟨time, rfl, due⟩ := (Option.any_eq_true _ _).1 due
      exact ⟨_, _, moved_answered here (.answer calling (by simpa using due))⟩
    · next unanswered =>
      split at h <;> cases h
      next due =>
      have unanswered : ∀ time ∈ ends, t.now < time := by
        rintro time rfl
        simpa using unanswered
      exact ⟨_, _, moved_dropCall here (.drop calling unanswered due)⟩
  · next ends pausing =>
    split at h <;> cases h
    next due =>
    obtain ⟨granted, moved⟩ := moved_attempt here
      (fun granted => .resume granted pausing (Nat.le_of_not_lt due))
    exact ⟨_, _, moved⟩
  · cases h
  · cases h

/-- The next thing that happens is that someone who is ready moves or stands back, or that time goes
on to the earliest alarm. -/
theorem step?_cases (next : t.step? c = some t') :
    (∃ i ∈ t.ready, t.move? c i = some t') ∨
      (∃ i rest, t.ready = i :: rest ∧ t.move? c i = none ∧ t' = { t with ready := rest }) ∨
      ∃ time, t.ready = [] ∧ t.nextAlarm? = some time ∧ t' = t.elapse time := by
  unfold step? at next
  split at next
  · next i rest ready =>
    split at next
    · next moves =>
      cases next
      exact .inl ⟨i, ready ▸ List.mem_cons_self, moves⟩
    · next stays =>
      cases next
      exact .inr (.inl ⟨i, rest, ready, stays, rfl⟩)
  · next nobody =>
    obtain ⟨time, alarm, rfl⟩ := Option.map_eq_some_iff.1 next
    exact .inr (.inr ⟨time, nobody, alarm, rfl⟩)

theorem isDue_eq_false_of_move?_eq_none (here : t.dispatches[i]? = some d)
    (stays : t.move? c i = none) : d.isDue c t.now = false := by
  unfold move? at stays
  unfold Dispatch.isDue
  simp only [here] at stays
  cases phase : d.phase with
  | scheduled => grind
  | calling ends answer =>
    simp only [phase] at stays
    split at stays
    · cases stays
    · split at stays
      · cases stays
      · simp_all
  | _ => simp_all

end Timeline

end GuidedDecoding
