import GuidedDecoding.Proofs.Dispatch.Move
import Mathlib.Data.List.Nodup
import Mathlib.Logic.Relation

/-!
# Slots are neither lost nor doubled

Whatever happens to any number of dispatches, in whatever order, a slot is held by exactly those of
them that are admitted or are calling the backend. So no more calls are in flight than there are
slots, who pauses, has finished or has broken off holds none, and when all are over all slots are
free (`Timeline.Reachable.conserves_slots`).

The invariant is `Accounted`: the holders and the queue of the pool are the dispatches that are in
the phases for it, each of them once.
-/

namespace GuidedDecoding

namespace Pool

variable {p : Pool} {i : Nat}

theorem ask_of_lt (room : p.holders.length < p.size) :
    (p.ask i).holders = p.holders ++ [i] ∧ (p.ask i).waiting = p.waiting := by
  rw [ask, dif_pos room]
  exact ⟨rfl, rfl⟩

theorem ask_of_not_lt (full : ¬ p.holders.length < p.size) :
    (p.ask i).holders = p.holders ∧ (p.ask i).waiting = p.waiting ++ [i] := by
  rw [ask, dif_neg full]
  exact ⟨rfl, rfl⟩

end Pool

/-- Three attempts at most, and one call at a time. -/
def Dispatcher.single : Dispatcher where
  policy := ⟨3, 10, 10, false⟩
  timeout := 100
  poolSize := 1

/-- The same with the longest waits that there are. -/
def Dispatcher.patient : Dispatcher :=
  Dispatcher.single.withPolicy ⟨3, Duration.longest, Duration.longest, false⟩

/-- A request with an empty prompt and an empty artifact. -/
def DispatchRequest.ofScript (script : List Turn) (deadline : Option Nat) : DispatchRequest where
  prompt := ""
  artifact := .empty (.filled 7)
  deadline := deadline
  script := script

/-- How a dispatch stands to the pool. -/
inductive Standing where
  | apart
  | waiting
  | holding
deriving DecidableEq

/-- How who is in a phase stands to the pool. -/
def Phase.standing : Phase → Standing
  | .queued => .waiting
  | .admitted | .calling .. => .holding
  | .scheduled | .early | .pausing _ | .broken | .finished _ => .apart

namespace Action

/-- How a dispatch stands to the pool before an action. -/
def before : Action → Standing
  | .wait | .ask _ => .apart
  | .call | .giveBack => .holding
  | .leave => .waiting

/-- How a dispatch stands to the pool after an action. -/
def after : Action → Standing
  | .ask granted => if granted then .holding else .waiting
  | .call => .holding
  | .wait | .giveBack | .leave => .apart

end Action

namespace Dispatch

variable {c : Dispatcher} {now : Nat} {d d' : Dispatch} {a : Action}

/-- How a dispatch stands to the pool. -/
def standing (d : Dispatch) : Standing := d.phase.standing

theorem standing_eq_apart_of_isOver (stopped : d.isOver = true) : d.standing = .apart := by
  cases phase : d.phase <;> simp_all [isOver, standing, Phase.standing]

theorem Move.standing_eq (move : d.Move c now a d') :
    d.standing = a.before ∧ d'.standing = a.after := by
  cases move with
  | wait phase _ => simp [standing, phase, Phase.standing, Action.before, Action.after]
  | begin granted phase _ _ =>
    refine ⟨?_, by cases granted <;> rfl⟩
    obtain phase | phase := phase <;> simp [standing, phase, Phase.standing, Action.before]
  | breakOff phase _ _ =>
    refine ⟨?_, rfl⟩
    obtain phase | phase := phase <;> simp [standing, phase, Phase.standing, Action.before]
  | resume granted phase _ =>
    exact ⟨by simp [standing, phase, Phase.standing, Action.before], by cases granted <;> rfl⟩
  | call phase => exact ⟨by simp [standing, phase, Phase.standing, Action.before], rfl⟩
  | @answer ends answer phase _ =>
    refine ⟨by simp [standing, phase, Phase.standing, Action.before], ?_⟩
    obtain stopped | ⟨ends, phase⟩ := d.isOver_or_pausing_answered c now answer
    · exact standing_eq_apart_of_isOver stopped
    · simp [standing, phase, Phase.standing, Action.after]
  | drop phase _ _ => exact ⟨by simp [standing, phase, Phase.standing, Action.before], rfl⟩
  | leave phase _ => exact ⟨by simp [standing, phase, Phase.standing, Action.before], rfl⟩

end Dispatch

/-- The pool is in the hands of those who are said to hold a slot, and its queue is made of those
who are said to wait. -/
structure Accounted (p : Pool) (standings : List Standing) : Prop where
  mem_holders : ∀ i, i ∈ p.holders ↔ standings[i]? = some .holding
  mem_waiting : ∀ i, i ∈ p.waiting ↔ standings[i]? = some .waiting
  nodup_holders : p.holders.Nodup
  nodup_waiting : p.waiting.Nodup

namespace Accounted

variable {p : Pool} {standings : List Standing} {i next : Nat}

theorem ofSize (size : Nat) : Accounted (.ofSize size) [] := by
  constructor <;> simp [Pool.ofSize]

theorem append (h : Accounted p standings) : Accounted p (standings ++ [.apart]) where
  mem_holders j := by rw [h.mem_holders]; grind
  mem_waiting j := by rw [h.mem_waiting]; grind
  nodup_holders := h.nodup_holders
  nodup_waiting := h.nodup_waiting

/-- A dispatch comes to stand otherwise. -/
theorem getElem?_set_standing {was : Standing} (here : standings[i]? = some was) (now : Standing)
    (j : Nat) : (standings.set i now)[j]? = if j = i then some now else standings[j]? := by
  have inside := (List.getElem?_eq_some_iff.1 here).1
  rw [List.getElem?_set]
  split
  · next same => rw [if_pos same.symm]
  · next other => rw [if_neg (Ne.symm other)]

theorem ask (h : Accounted p standings) (apart : standings[i]? = some .apart) :
    Accounted (p.ask i)
      (standings.set i (if (p.ask i).isHeldBy i then .holding else .waiting)) := by
  have unheld : i ∉ p.holders := by simp [h.mem_holders, apart]
  have unqueued : i ∉ p.waiting := by simp [h.mem_waiting, apart]
  by_cases room : p.holders.length < p.size
  · obtain ⟨holders, waiting⟩ := Pool.ask_of_lt (i := i) room
    have granted : (p.ask i).isHeldBy i = true := by simp [Pool.isHeldBy, holders]
    rw [granted, if_pos rfl]
    constructor
    · intro j
      rw [holders, getElem?_set_standing apart, List.mem_append, h.mem_holders, List.mem_singleton]
      grind
    · intro j
      rw [waiting, getElem?_set_standing apart, h.mem_waiting]
      grind
    · rw [holders]
      simpa using List.Nodup.concat unheld h.nodup_holders
    · rw [waiting]
      exact h.nodup_waiting
  · obtain ⟨holders, waiting⟩ := Pool.ask_of_not_lt (i := i) room
    have refused : (p.ask i).isHeldBy i = false := by simpa [Pool.isHeldBy, holders] using unheld
    rw [refused, if_neg Bool.false_ne_true]
    constructor
    · intro j
      rw [holders, getElem?_set_standing apart, h.mem_holders]
      grind
    · intro j
      rw [waiting, getElem?_set_standing apart, List.mem_append, h.mem_waiting, List.mem_singleton]
      grind
    · rw [holders]
      exact h.nodup_holders
    · rw [waiting]
      simpa using List.Nodup.concat unqueued h.nodup_waiting

theorem leave (h : Accounted p standings) (waiting : standings[i]? = some .waiting) :
    Accounted (p.leave i) (standings.set i .apart) where
  mem_holders j := by grind [Pool.leave, getElem?_set_standing waiting, h.mem_holders j]
  mem_waiting j := by
    rw [getElem?_set_standing waiting, Pool.leave, h.nodup_waiting.mem_erase_iff, h.mem_waiting]
    grind
  nodup_holders := h.nodup_holders
  nodup_waiting := h.nodup_waiting.erase i

theorem release_of_nobody (h : Accounted p standings) (holding : standings[i]? = some .holding)
    (nobody : p.next? = none) : Accounted (p.release i) (standings.set i .apart) := by
  have empty : p.waiting = [] := List.head?_eq_none_iff.1 nobody
  obtain ⟨holders, waiting⟩ := Pool.release_of_waiting_nil (i := i) empty
  constructor
  · intro j
    rw [holders, getElem?_set_standing holding, h.nodup_holders.mem_erase_iff, h.mem_holders]
    grind
  · intro j
    rw [waiting, getElem?_set_standing holding, ← empty, h.mem_waiting]
    grind
  · rw [holders]
    exact h.nodup_holders.erase i
  · rw [waiting]
    exact List.nodup_nil

theorem release_of_next (h : Accounted p standings) (holding : standings[i]? = some .holding)
    (queue : p.next? = some next) :
    Accounted (p.release i) ((standings.set i .apart).set next .holding) := by
  obtain ⟨later, queue⟩ := List.head?_eq_some_iff.1 queue
  have held : i ∈ p.holders := (h.mem_holders i).2 holding
  have first : standings[next]? = some .waiting := (h.mem_waiting next).1 (by simp [queue])
  have other : next ≠ i := by grind
  have still : (standings.set i .apart)[next]? = some .waiting := by
    rw [getElem?_set_standing holding, if_neg other, first]
  have distinct : next ∉ later ∧ later.Nodup := List.nodup_cons.1 (queue ▸ h.nodup_waiting)
  obtain ⟨holders, waiting⟩ := Pool.release_of_waiting_cons held queue
  constructor
  · intro j
    rw [holders, getElem?_set_standing still, getElem?_set_standing holding, List.mem_append,
      h.nodup_holders.mem_erase_iff, h.mem_holders, List.mem_singleton]
    grind
  · intro j
    have before := h.mem_waiting j
    rw [queue, List.mem_cons] at before
    rw [waiting, getElem?_set_standing still, getElem?_set_standing holding]
    grind
  · have unheld : next ∉ p.holders.erase i := fun inside =>
      absurd ((h.mem_holders next).1 (List.mem_of_mem_erase inside)) (by simp [first])
    rw [holders]
    simpa using List.Nodup.concat unheld (h.nodup_holders.erase i)
  · rw [waiting]
    exact distinct.2

theorem set_self {was : Standing} (h : Accounted p standings) (here : standings[i]? = some was) :
    Accounted p (standings.set i was) := by
  have same : standings.set i was = standings := List.ext_getElem? fun j => by
    rw [getElem?_set_standing here]
    split
    · next eq => rw [eq, here]
    · rfl
  rwa [same]

theorem length_holders (h : Accounted p standings) :
    p.holders.length = standings.count .holding := by
  have perm : p.holders.Perm (standings.idxsOf .holding) := by
    rw [List.perm_ext_iff_of_nodup h.nodup_holders List.nodup_idxsOf]
    intro i
    rw [h.mem_holders, List.mem_idxsOf_iff_exists_getElem_pos, List.getElem?_eq_some_iff]
    simp
  rw [perm.length_eq, List.length_idxsOf]

end Accounted

namespace Timeline

variable {c : Dispatcher} {t t' : Timeline} {i : Nat} {d d' : Dispatch} {a : Action}

/-- How all dispatches stand to the pool. -/
def standings (t : Timeline) : List Standing := t.dispatches.map Dispatch.standing

/-- How many attempts are in flight. An attempt is so from when it gets its slot, though a dispatch
that waited for the slot calls the backend only as it moves next. -/
def attemptsInFlight (t : Timeline) : Nat := t.dispatches.countP fun d => d.standing = .holding

/-- What can happen: a request is added, any dispatch moves, or time passes, and with it the order
in which dispatches are to move changes. -/
inductive Happens (c : Dispatcher) (t : Timeline) : Timeline → Prop
  | add (r : DispatchRequest) : Happens c t (t.add r)
  | move {i : Nat} {t' : Timeline} (moved : t.move? c i = some t') : Happens c t t'
  | pass {t' : Timeline} (pool : t'.pool = t.pool) (dispatches : t'.dispatches = t.dispatches)
    (calls : t'.calls = t.calls) : Happens c t t'

/-- What is the case after any number of things have happened in any order. -/
def Reachable (c : Dispatcher) (t : Timeline) : Prop :=
  Relation.ReflTransGen (Happens c) (start c) t

theorem heir?_eq_next? (h : Accounted t.pool t.standings) : t.heir? = t.pool.next? := by
  unfold heir?
  cases queue : t.pool.next? with
  | none => rfl
  | some next =>
    have waits : t.standings[next]? = some .waiting :=
      (h.mem_waiting next).1 (List.mem_of_head? queue)
    have inside : next < t.dispatches.length := by
      simpa [standings] using (List.getElem?_eq_some_iff.1 waits).1
    simp [inside]

theorem map_standing_modify_withSlot (ds : List Dispatch) (next : Nat) :
    (ds.modify next Dispatch.withSlot).map Dispatch.standing =
      (ds.map Dispatch.standing).set next .holding := by
  refine List.ext_getElem? fun j => ?_
  rw [List.getElem?_map, List.getElem?_modify, List.getElem?_set, List.getElem?_map]
  split
  · next same =>
    rw [same, List.length_map]
    cases here : ds[j]? with
    | none =>
      rw [if_neg (by simpa using here)]
      rfl
    | some d =>
      rw [if_pos (List.getElem?_eq_some_iff.1 here).1]
      rfl
  · simp

theorem Moved.accounted (m : t.Moved c i d a d' t') (h : Accounted t.pool t.standings) :
    Accounted t'.pool t'.standings := by
  obtain ⟨before, after⟩ := m.move.standing_eq
  have here : t.standings[i]? = some a.before := by simp [standings, m.here, before]
  have set : (t.dispatches.set i d').map Dispatch.standing = t.standings.set i a.after := by
    rw [List.map_set, after, standings]
  unfold standings
  rw [m.pool, m.dispatches]
  cases a with
  | wait => exact set ▸ h.set_self here
  | ask granted =>
    obtain rfl := m.granted granted rfl
    exact set ▸ h.ask here
  | call => exact set ▸ h.set_self here
  | giveBack =>
    rw [heir?_eq_next? h]
    cases queue : t.pool.next? with
    | none => exact set ▸ h.release_of_nobody here queue
    | some next =>
      simp only [Action.dispatches, Option.elim_some, map_standing_modify_withSlot, set]
      exact h.release_of_next here queue
  | leave => exact set ▸ h.leave here

theorem Moved.size_pool (m : t.Moved c i d a d' t') : t'.pool.size = t.pool.size := by
  rw [m.pool]
  cases a <;> simp

theorem Happens.accounted (happens : Happens c t t') (h : Accounted t.pool t.standings) :
    Accounted t'.pool t'.standings := by
  cases happens with
  | add r =>
    rw [add_eq, standings, List.map_append]
    exact h.append
  | move moved =>
    obtain ⟨d, a, d', m⟩ := exists_moved moved
    exact m.accounted h
  | pass pool dispatches _ =>
    rw [pool, standings, dispatches]
    exact h

theorem Happens.size_pool (happens : Happens c t t') : t'.pool.size = t.pool.size := by
  cases happens with
  | add r => rw [add_eq]
  | move moved =>
    obtain ⟨d, a, d', m⟩ := exists_moved moved
    exact m.size_pool
  | pass pool _ _ => rw [pool]

namespace Reachable

theorem accounted (reach : Reachable c t) : Accounted t.pool t.standings := by
  induction reach with
  | refl => exact .ofSize c.poolSize
  | tail _ happens ih => exact happens.accounted ih

theorem size_pool (reach : Reachable c t) : t.pool.size = c.poolSize := by
  induction reach with
  | refl => rfl
  | tail _ happens ih => rw [happens.size_pool, ih]

theorem free_add_attemptsInFlight (reach : Reachable c t) :
    t.pool.free + t.attemptsInFlight = c.poolSize := by
  have count : t.attemptsInFlight = t.standings.count .holding := by
    rw [attemptsInFlight, standings, List.count, List.countP_map]
    rfl
  rw [count, ← reach.accounted.length_holders, Pool.free_add_holders, reach.size_pool]

theorem isHeldBy_iff (reach : Reachable c t) (here : t.dispatches[i]? = some d) :
    t.pool.isHeldBy i = true ↔ d.standing = .holding := by
  rw [Pool.isHeldBy, List.contains_iff_mem, reach.accounted.mem_holders]
  simp [standings, here]

end Reachable

theorem inFlight_le_attemptsInFlight (t : Timeline) : t.inFlight ≤ t.attemptsInFlight := by
  refine List.countP_mono_left fun d _ calling => ?_
  cases phase : d.phase <;> simp_all [Phase.isCalling, Dispatch.standing, Phase.standing]

theorem inFlight_eq_attemptsInFlight (taken : ∀ d ∈ t.dispatches, d.phase ≠ .admitted) :
    t.inFlight = t.attemptsInFlight := by
  refine List.countP_congr fun d member => ?_
  have taken := taken d member
  cases phase : d.phase <;> simp_all [Phase.isCalling, Dispatch.standing, Phase.standing]

/-- In every reachable state at most as many calls are in flight as there are slots, and every slot
is free or belongs to an attempt in flight. These attempts are the calls that hold a slot: each has
called the backend, unless its dispatch has just been handed the slot and moves next. Only then do
the free slots and the calls that the backend is working on fall short of all slots. Who pauses,
has finished or has broken off holds none, so in the end all slots are free. -/
theorem Reachable.conserves_slots (reach : Reachable c t) :
    t.inFlight ≤ c.poolSize ∧
    t.pool.free + t.attemptsInFlight = c.poolSize ∧
    ((∀ d ∈ t.dispatches, d.phase ≠ .admitted) → t.pool.free + t.inFlight = c.poolSize) ∧
    (∀ i d, t.dispatches[i]? = some d → (∃ ends, d.phase = .pausing ends) ∨ d.isOver →
      t.pool.isHeldBy i = false) ∧
    ((∀ d ∈ t.dispatches, d.isOver) → t.pool.free = c.poolSize) := by
  have conserved := reach.free_add_attemptsInFlight
  have apart : ∀ d : Dispatch, (∃ ends, d.phase = .pausing ends) ∨ d.isOver →
      d.standing = .apart := by
    rintro d (⟨ends, phase⟩ | stopped)
    · rw [Dispatch.standing, phase]
      rfl
    · exact Dispatch.standing_eq_apart_of_isOver stopped
  refine ⟨?_, conserved, fun taken => ?_, fun i d here away => ?_, fun stopped => ?_⟩
  · have := t.inFlight_le_attemptsInFlight
    omega
  · rw [inFlight_eq_attemptsInFlight taken, conserved]
  · rw [← Bool.not_eq_true, reach.isHeldBy_iff here, apart d away]
    nofun
  · have none : t.attemptsInFlight = 0 := List.countP_eq_zero.2 fun d member => by
      simp [apart d (.inr (stopped d member))]
    omega

namespace Reachable

theorem step (reach : Reachable c t) (next : t.step? c = some t') : Reachable c t' := by
  refine reach.tail ?_
  obtain ⟨i, -, moves⟩ | ⟨i, rest, -, -, rfl⟩ | ⟨time, -, -, rfl⟩ := step?_cases next
  · exact .move moves
  · exact .pass rfl rfl rfl
  · obtain ⟨ready, eq, -⟩ := t.exists_elapse_eq time
    rw [eq]
    exact .pass rfl rfl rfl

theorem steps (reach : Reachable c t) (n : Nat) : Reachable c (t.steps c n) := by
  induction n generalizing t with
  | zero => exact reach
  | succ n ih =>
    unfold Timeline.steps
    split
    · exact reach
    · next next => exact ih (reach.step next)

theorem adds (reach : Reachable c t) (requests : List DispatchRequest) :
    Reachable c (requests.foldl add t) := by
  induction requests generalizing t with
  | nil => exact reach
  | cons r _ ih => exact ih (reach.tail (.add r))

end Reachable

/-- The first steps of three dispatches that share one slot: the call of the first fails and it
comes back, the call of the second hangs, and the third has no time to wait. -/
def crowd (n : Nat) : Timeline :=
  steps .single n
    ([.ofScript [⟨some 30, .error (.overloaded "")⟩] none, .ofScript [⟨none, .ok ⟨"", {}⟩⟩] none,
      .ofScript [] (some 20)].foldl add (start .single))

theorem reachable_crowd (n : Nat) : Reachable .single (crowd n) :=
  (Reachable.adds .refl _).steps n

theorem conserves_slots_crowd :
    ((crowd 16).inFlight = 1 ∧ (crowd 16).pool.free = 0 ∧
      (crowd 16).dispatches.map (·.standing) = [.apart, .holding, .apart]) ∧
    (crowd 16).pool.free + (crowd 16).attemptsInFlight = 1 ∧ (crowd 16).pool.isHeldBy 2 = false ∧
    (crowd 25).pool.free = 1 := by
  have conserved := (reachable_crowd 16).conserves_slots
  refine ⟨by decide, conserved.2.1, conserved.2.2.2.1 2 _ rfl (.inr rfl), ?_⟩
  exact (reachable_crowd 25).conserves_slots.2.2.2.2 (by decide)

end Timeline

end GuidedDecoding
