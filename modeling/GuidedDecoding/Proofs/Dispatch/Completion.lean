import GuidedDecoding.Proofs.Dispatch.Schedule
import GuidedDecoding.Proofs.Totals
import Mathlib.Data.List.Induction

/-!
# Every dispatch comes to its end

Each step of a schedule takes away from the work that is left (`Timeline.Scheduled.work_lt`), and
adding a request adds no more work than steps are taken for it. So a schedule that is followed to
its end leaves every dispatch over (`Timeline.dispatchTogether_settled`): it has its result, unless
it has broken off. Requests that are dispatched one after another find a slot free at each attempt
(`Timeline.dispatchInTurn_settled`).
-/

namespace GuidedDecoding

namespace Dispatch

variable {c : Dispatcher} {now : Nat} {d d' : Dispatch} {a : Action} {calls : List BackendCall}

/-- How much is left to do for a dispatch. An attempt counts more than all the phases that it goes
through with their alarms, and no attempt follows one that is beyond the script. -/
def work (d : Dispatch) : Nat :=
  let left := d.request.script.length + 1 - d.attempts
  match d.phase with
  | .scheduled => 16 * d.request.script.length + 20
  | .early => 16 * d.request.script.length + 16
  | .queued => 16 * left + 12
  | .admitted => 16 * left + 10
  | .calling .. => 16 * left + 4
  | .pausing _ => 16 * left
  | .broken | .finished _ => 0

theorem work_eq_zero (stopped : d.isOver = true) : d.work = 0 := by
  cases phase : d.phase <;> simp_all [isOver, work]

theorem work_entered_le (granted : Bool) :
    (d.entered granted).work + 2 * ((d.entered granted).alarmTimes c now).length + 2 ≤
      16 * (d.request.script.length - d.attempts) + 16 := by
  cases granted <;> simp [work, entered, alarmTimes]

theorem work_called : (d.called now).work = 16 * (d.request.script.length + 1 - d.attempts) + 4 :=
  rfl

theorem length_alarmTimes_le : (d.alarmTimes c now).length ≤ 2 := by
  unfold alarmTimes Phase.alarmTimes
  split
  all_goals first | split <;> simp | simp

/-- A move takes at least two away from the work that is left, apart from its alarms. -/
theorem Move.work_le (move : d.Move c now a d') (past : d.History c now calls) :
    d'.work + 2 * (d'.alarmTimes c now).length + 2 ≤ d.work := by
  cases move with
  | wait phase _ => simp [work, phase, alarmTimes]
  | begin granted phase _ _ =>
    refine Nat.le_trans (work_entered_le granted) ?_
    obtain phase | phase := phase
    · simp only [work, phase]
      omega
    · simp only [work, phase]
      omega
  | breakOff phase _ _ =>
    rw [work_eq_zero (d := Dispatch.breakOff _) rfl,
      alarmTimes_eq_nil (d := Dispatch.breakOff _) rfl]
    obtain phase | phase := phase <;> simp [work, phase]
  | resume granted phase _ =>
    simp only [History, phase] at past
    obtain ⟨-, failed, attempts, -⟩ := past
    have few : d.attempts ≤ d.request.script.length := attempts ▸ failed.length_le
    refine Nat.le_trans (work_entered_le granted) ?_
    simp only [work, phase]
    omega
  | call phase =>
    have few : ((d.called now).alarmTimes c now).length ≤ 2 := length_alarmTimes_le
    rw [work_called]
    simp only [work, phase]
    omega
  | @answer ends answer phase due =>
    obtain stopped | ⟨ends, after⟩ := d.isOver_or_pausing_answered c now answer
    · rw [work_eq_zero stopped, alarmTimes_eq_nil stopped]
      simp [work, phase]
    · obtain ⟨request, attempts, -⟩ := d.answered_keeps c now answer
      simp [work, phase, after, alarmTimes, request, attempts]
  | drop phase _ _ => simp [work, phase, giveUp, finish, alarmTimes]
  | leave phase _ => simp [work, phase, giveUp, finish, alarmTimes]

theorem Move.request_eq (move : d.Move c now a d') : d'.request = d.request := by
  cases move with
  | @answer _ answer _ _ => exact (d.answered_keeps c now answer).1
  | _ => rfl

end Dispatch

namespace Timeline

variable {c : Dispatcher} {t t' : Timeline} {i : Nat} {d d' : Dispatch} {a : Action}

/-- How much is left to do: for each dispatch, for each that may move and for each alarm. -/
def work (t : Timeline) : Nat :=
  (t.dispatches.map Dispatch.work).sum + t.ready.length + 2 * t.alarms.length

namespace Moved

theorem sum_work_le (m : t.Moved c i d a d' t') (h : Accounted t.pool t.standings) :
    (t'.dispatches.map Dispatch.work).sum + d.work ≤
      (t.dispatches.map Dispatch.work).sum + d'.work := by
  have traded := sum_map_set Dispatch.work m.here d'
  obtain set | ⟨next, e, other, there, queued, set, -⟩ := m.dispatches_cases h
  · rw [set]
    exact Nat.le_of_eq traded
  · have still : (t.dispatches.set i d')[next]? = some e := by
      rw [List.getElem?_set_ne other.symm, there]
    have handed := sum_map_set Dispatch.work still e.withSlot
    have less : e.withSlot.work ≤ e.work := by simp [Dispatch.work, Dispatch.withSlot, queued]
    rw [set]
    omega

theorem length_ready_le (m : t.Moved c i d a d' t') : t'.ready.length ≤ t.ready.length + 1 := by
  rw [m.ready]
  cases a with
  | giveBack => cases t.heir? <;> grind [Action.ready]
  | _ => exact Nat.le_succ _

theorem length_alarms_le (m : t.Moved c i d a d' t') :
    t'.alarms.length ≤ t.alarms.length + (d'.alarmTimes c t.now).length := by
  rw [m.alarms, List.length_append, List.length_map]
  refine Nat.add_le_add ?_ (List.length_filter_le _ _)
  cases a <;> simp [List.length_filter_le]

theorem work_lt (m : t.Moved c i d a d' t') (h : Accounted t.pool t.standings)
    (past : d.History c t.now (t.callsOf i)) : t'.work < t.work := by
  have := m.sum_work_le h
  have := m.length_ready_le
  have := m.length_alarms_le
  have := m.move.work_le past
  simp only [work]
  omega

end Moved

theorem work_elapse_lt {time : Nat} (next : t.nextAlarm? = some time) :
    (t.elapse time).work < t.work := by
  obtain ⟨earliest, -⟩ := List.min?_eq_some_iff.1 next
  obtain ⟨a, mem, rfl⟩ := List.mem_map.1 earliest
  obtain ⟨ready, eq, -, few⟩ := t.exists_elapse_eq a.1
  have some : 0 < (t.alarms.filter fun b => b.1 = a.1).length :=
    List.length_pos_of_mem (List.mem_filter.2 ⟨mem, by simp⟩)
  have parts := List.length_eq_length_filter_add (l := t.alarms) fun b => b.1 = a.1
  simp only [← decide_not] at parts
  rw [eq]
  simp only [work, ne_eq]
  omega

namespace Scheduled

theorem work_lt (h : Scheduled c t) (next : t.step? c = some t') : t'.work < t.work := by
  obtain ⟨i, mine, moves⟩ | ⟨i, rest, ready, stays, rfl⟩ | ⟨time, nobody, alarm, rfl⟩ :=
    step?_cases next
  · obtain ⟨d, a, d', m⟩ := exists_moved moves
    exact m.work_lt h.reach.reachable.accounted (h.reach.history m.here)
  · simp [work, ready]
  · exact work_elapse_lt alarm

/-- What steps keep holds after any number of them. -/
theorem steps_induction {P : Timeline → Prop} (h : Scheduled c t) (holds : P t)
    (keeps : ∀ t t', Scheduled c t → P t → t.step? c = some t' → P t') (n : Nat) :
    Scheduled c (steps c n t) ∧ P (steps c n t) := by
  induction n generalizing t with
  | zero => exact ⟨h, holds⟩
  | succ n ih =>
    unfold steps
    split
    · exact ⟨h, holds⟩
    · next t' next =>
      obtain ⟨happens, attended⟩ := h.next next
      exact ih ⟨h.reach.tail happens, attended⟩ (keeps t t' h holds next)

/-- With as many steps as there is work, nothing is left to happen. -/
theorem step?_steps_eq_none {n : Nat} (h : Scheduled c t) (enough : t.work ≤ n) :
    (steps c n t).step? c = none := by
  induction n generalizing t with
  | zero =>
    cases next : t.step? c with
    | none => exact next
    | some t' =>
      have := h.work_lt next
      omega
  | succ n ih =>
    unfold steps
    split
    · next done => exact done
    · next t' next =>
      obtain ⟨happens, attended⟩ := h.next next
      have := h.work_lt next
      exact ih ⟨h.reach.tail happens, attended⟩ (by omega)

end Scheduled

/-- Nothing is left to happen, and every dispatch is over. -/
structure Settled (t : Timeline) : Prop where
  ready : t.ready = []
  alarms : t.alarms = []
  stopped : ∀ d ∈ t.dispatches, d.isOver = true

theorem Settled.work_eq_zero (h : Settled t) : t.work = 0 := by
  have none : (t.dispatches.map Dispatch.work).sum = 0 := by
    refine List.sum_eq_zero fun w counted => ?_
    obtain ⟨d, member, rfl⟩ := List.mem_map.1 counted
    exact Dispatch.work_eq_zero (h.stopped d member)
  simp [work, none, h.ready, h.alarms]

/-- A dispatch that is never going to be due is over. -/
theorem isOver_of_never_due (never : ∀ time, d.isDue c time = false) : d.isOver = true := by
  cases phase : d.phase with
  | finished r => simp [Dispatch.isOver, phase]
  | broken => simp [Dispatch.isOver, phase]
  | early => simpa [Dispatch.isDue, phase] using never d.request.start
  | pausing ends => simpa [Dispatch.isDue, phase] using never ends
  | queued | calling => simpa [Dispatch.isDue, phase] using never (d.deadline c)
  | scheduled | admitted => simpa [Dispatch.isDue, phase] using never 0

theorem Scheduled.settled (h : Scheduled c t) (done : t.step? c = none) : Settled t := by
  have nobody : t.ready = [] := by
    by_contra some
    obtain ⟨i, rest, ready⟩ := List.exists_cons_of_ne_nil some
    unfold step? at done
    rw [ready] at done
    dsimp only at done
    split at done <;> cases done
  have none : t.alarms = [] := by
    rw [step?, nobody] at done
    simpa [nextAlarm?] using done
  refine ⟨nobody, none, fun d member => isOver_of_never_due (c := c) fun time => ?_⟩
  obtain ⟨i, here⟩ := List.getElem?_of_mem member
  have idle : d.isDue c t.now = false := by
    by_contra due
    simpa [nobody] using h.attended.ready i d here (by simpa using due)
  by_contra due
  obtain ⟨alarm, -, set, -⟩ := h.attended.alarmed i d here idle time (by simpa using due)
  simp [none] at set

/-- The number of steps that are taken for all requests. -/
def allowance (t : Timeline) : Nat := t.dispatches.foldl (fun n d => n + stepsFor d.request) 0

theorem allowance_add (t : Timeline) (r : DispatchRequest) :
    (t.add r).allowance = t.allowance + stepsFor r := by
  rw [allowance, add_eq, List.foldl_append]
  rfl

theorem work_add_le (t : Timeline) (r : DispatchRequest) :
    (t.add r).work ≤ t.work + stepsFor r := by
  have woken : (if t.ready.contains t.dispatches.length then t.ready
      else t.ready ++ [t.dispatches.length]).length ≤ t.ready.length + 1 := by
    split <;> simp
  rw [add_eq]
  simp only [work, stepsFor, List.map_append, List.sum_append]
  simp only [List.map_singleton, List.sum_singleton, Dispatch.work]
  omega

theorem Scheduled.add (h : Scheduled c t) (r : DispatchRequest) : Scheduled c (t.add r) :=
  ⟨h.reach.tail (.of_now_eq (.add r) (by rw [add_eq])), h.attended.add r⟩

/-- A schedule that is followed to its end leaves every dispatch over. -/
theorem Scheduled.settled_finish (h : Scheduled c t) (enough : t.work ≤ t.allowance) :
    Scheduled c (t.finish c) ∧ Settled (t.finish c) := by
  have followed := (h.steps_induction trivial (fun _ _ _ _ _ => trivial) t.allowance).1
  exact ⟨followed, followed.settled (h.step?_steps_eq_none enough)⟩

/-- Requests that are added to a settled schedule add no more work than is allowed for them. -/
theorem Scheduled.adds (h : Scheduled c t) (enough : t.work ≤ t.allowance)
    (requests : List DispatchRequest) :
    Scheduled c (requests.foldl Timeline.add t) ∧
      (requests.foldl Timeline.add t).work ≤ (requests.foldl Timeline.add t).allowance := by
  induction requests generalizing t with
  | nil => exact ⟨h, enough⟩
  | cons r requests ih =>
    refine ih (h.add r) ?_
    have := t.work_add_le r
    rw [allowance_add]
    omega

theorem Scheduled.ofStart (c : Dispatcher) : Scheduled c (start c) := ⟨.refl, .ofStart c⟩

section InTurn

/-- What is the case after things have happened in time while something held all along. -/
def ReachableWhile (c : Dispatcher) (P : Timeline → Prop) (t : Timeline) : Prop :=
  Relation.ReflTransGen (fun t t' => HappensInTime c t t' ∧ P t') (start c) t

theorem ReachableWhile.mono {P Q : Timeline → Prop} (reach : ReachableWhile c P t)
    (implies : ∀ t, P t → Q t) : ReachableWhile c Q t :=
  Relation.ReflTransGen.mono (fun _ t' h => And.imp_right (implies t') h) _ _ reach

theorem ReachableWhile.inTime {P : Timeline → Prop} (reach : ReachableWhile c P t) :
    ReachableInTime c t :=
  Relation.ReflTransGen.mono (fun _ _ h => And.left h) _ _ reach

/-- Nobody waits for a slot. -/
def Flowing (t : Timeline) : Prop := ∀ d ∈ t.dispatches, d.phase ≠ .queued

/-- All dispatches but the last are over. -/
def Solitary (t : Timeline) : Prop :=
  ∀ i d, t.dispatches[i]? = some d → i + 1 < t.dispatches.length → d.isOver = true

namespace Moved

/-- Who moves is not over. -/
theorem isOver_eq_false (m : t.Moved c i d a d' t') : d.isOver = false := by
  have move := m.move
  cases move with
  | begin _ phase _ _ => obtain phase | phase := phase <;> simp [Dispatch.isOver, phase]
  | breakOff phase _ _ => obtain phase | phase := phase <;> simp [Dispatch.isOver, phase]
  | _ => simp [Dispatch.isOver, *]

theorem isLast (m : t.Moved c i d a d' t') (solitary : Solitary t) :
    i + 1 = t.dispatches.length := by
  have inside := (List.getElem?_eq_some_iff.1 m.here).1
  by_contra other
  have stopped := solitary i d m.here (by omega)
  rw [m.isOver_eq_false] at stopped
  cases stopped

/-- Who is alone gets its slot at once. -/
theorem standing_ne_waiting (m : t.Moved c i d a d' t') (h : Accounted t.pool t.standings)
    (solitary : Solitary t) (slots : 0 < t.pool.size) : d'.standing ≠ .waiting := by
  obtain ⟨before, after⟩ := m.move.standing_eq
  rw [after]
  cases a with
  | ask granted =>
    have nobody : t.pool.holders = [] := by
      refine List.eq_nil_iff_forall_not_mem.2 fun j held => ?_
      have holding := (h.mem_holders j).1 held
      rw [standings, List.getElem?_map, Option.map_eq_some_iff] at holding
      obtain ⟨e, there, holding⟩ := holding
      by_cases same : j = i
      · subst same
        obtain rfl := Option.some.inj (m.here.symm.trans there)
        cases before.symm.trans holding
      · have inside := (List.getElem?_eq_some_iff.1 there).1
        have last := m.isLast solitary
        have stopped := solitary j e there (by omega)
        cases (Dispatch.standing_eq_apart_of_isOver stopped).symm.trans holding
    have taken := (Pool.ask_of_lt (p := t.pool) (i := i) (by simpa [nobody] using slots)).1
    rw [m.granted granted rfl, Pool.isHeldBy, taken]
    simp [Action.after]
  | _ => simp [Action.after]

theorem flowing (m : t.Moved c i d a d' t') (h : Accounted t.pool t.standings)
    (flows : Flowing t) (solitary : Solitary t) (slots : 0 < t.pool.size) : Flowing t' := by
  intro e member
  obtain set | ⟨next, e', -, there, queued, -⟩ := m.dispatches_cases h
  · rw [set] at member
    obtain old | rfl := List.mem_or_eq_of_mem_set member
    · exact flows e old
    · exact fun queued => m.standing_ne_waiting h solitary slots
        (Dispatch.standing_eq_waiting.2 queued)
  · exact absurd queued (flows e' (List.mem_of_getElem? there))

theorem solitary (m : t.Moved c i d a d' t') (h : Accounted t.pool t.standings)
    (solitary : Solitary t) (flows : Flowing t) : Solitary t' := by
  intro j e here earlier
  rw [m.length_dispatches h] at earlier
  have last := m.isLast solitary
  obtain unchanged | ⟨e', there, queued, -⟩ := m.getElem?_of_ne h (j := j) (by omega)
  · exact solitary j e (unchanged ▸ here) earlier
  · exact absurd queued (flows e' (List.mem_of_getElem? there))

theorem map_request (m : t.Moved c i d a d' t') (h : Accounted t.pool t.standings) :
    t'.dispatches.map (·.request) = t.dispatches.map (·.request) := by
  refine List.ext_getElem? fun j => ?_
  rw [List.getElem?_map, List.getElem?_map]
  by_cases same : j = i
  · rw [same, m.getElem?_self h, m.here, Option.map_some, Option.map_some, m.move.request_eq]
  · obtain unchanged | ⟨e, there, -, admitted, -⟩ := m.getElem?_of_ne h same
    · rw [unchanged]
    · rw [there, admitted]
      rfl

end Moved

/-- What is the case while requests are dispatched one after another. -/
structure TakesTurns (c : Dispatcher) (requests : List DispatchRequest) (t : Timeline) : Prop where
  reach : ReachableWhile c Flowing t
  attended : Attended c t
  flows : Flowing t
  solitary : Solitary t
  requests : t.dispatches.map (·.request) = requests

variable {requests : List DispatchRequest}

namespace TakesTurns

theorem ofStart (c : Dispatcher) : TakesTurns c [] (start c) where
  reach := .refl
  attended := .ofStart c
  flows _ member := by cases member
  solitary _ _ here := by cases here
  requests := rfl

theorem scheduled (h : TakesTurns c requests t) : Scheduled c t := ⟨h.reach.inTime, h.attended⟩

theorem next (h : TakesTurns c requests t) (slots : 0 < c.poolSize) (next : t.step? c = some t') :
    TakesTurns c requests t' := by
  obtain ⟨happens, attended⟩ := h.scheduled.next next
  have accounted := h.reach.inTime.reachable.accounted
  have kept (same : t'.dispatches = t.dispatches) : TakesTurns c requests t' := by
    have flows : Flowing t' := by
      rw [Flowing, same]
      exact h.flows
    refine ⟨h.reach.tail ⟨happens, flows⟩, attended, flows, ?_, same ▸ h.requests⟩
    rw [Solitary, same]
    exact h.solitary
  obtain ⟨i, -, moves⟩ | ⟨i, rest, -, -, rfl⟩ | ⟨time, -, -, rfl⟩ := step?_cases next
  · obtain ⟨d, a, d', m⟩ := exists_moved moves
    have flows := m.flowing accounted h.flows h.solitary
      (h.reach.inTime.reachable.size_pool ▸ slots)
    exact ⟨h.reach.tail ⟨happens, flows⟩, attended, flows, m.solitary accounted h.solitary h.flows,
      (m.map_request accounted).trans h.requests⟩
  · exact kept rfl
  · obtain ⟨ready, eq, -⟩ := t.exists_elapse_eq time
    exact kept (by rw [eq])

theorem add (h : TakesTurns c requests t) (settled : Settled t) (r : DispatchRequest) :
    TakesTurns c (requests ++ [r]) (t.add r) := by
  have flows : Flowing (t.add r) := by
    rw [add_eq]
    intro d member
    obtain old | new := List.mem_append.1 member
    · exact h.flows d old
    · obtain rfl := List.mem_singleton.1 new
      nofun
  have added : HappensInTime c t (t.add r) := .of_now_eq (.add r) (by rw [add_eq])
  refine ⟨h.reach.tail ⟨added, flows⟩, h.attended.add r, flows, ?_, ?_⟩
  · rw [add_eq]
    intro i d here earlier
    rw [List.length_append, List.length_singleton] at earlier
    rw [List.getElem?_append_left (by omega)] at here
    exact settled.stopped d (List.mem_of_getElem? here)
  · rw [add_eq, List.map_append, h.requests]
    rfl

/-- A request that comes when all others are over is dispatched to its end. -/
theorem finish (h : TakesTurns c requests t) (slots : 0 < c.poolSize) (settled : Settled t)
    (r : DispatchRequest) :
    TakesTurns c (requests ++ [r]) ((t.add r).finish c) ∧ Settled ((t.add r).finish c) := by
  have added := h.add settled r
  have nothing : t.work ≤ t.allowance := by
    rw [settled.work_eq_zero]
    exact Nat.zero_le _
  have enough := (h.scheduled.adds nothing [r]).2
  refine ⟨?_, (added.scheduled.settled_finish enough).2⟩
  exact (added.scheduled.steps_induction added (fun _ _ _ turns next => turns.next slots next) _).2

end TakesTurns

end InTurn

end Timeline

end GuidedDecoding
