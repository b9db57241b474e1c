import GuidedDecoding.Proofs.Dispatch.Slots

/-!
# The course of one dispatch

Time passes only while no dispatch is due, as sleeps wake at their instant. What then happens to a
line of time is, for each of its dispatches, a move of its own, the slot that it waited for, or the
passing of time (`Timeline.HappensInTime.advances`). So what a dispatch has done can be told from
its own calls alone: `Dispatch.History` says what is the case in every phase, and holds whatever
happens (`Timeline.ReachableInTime.history`).
-/

namespace GuidedDecoding

namespace Dispatch

/-- What can happen to a dispatch with its calls. -/
inductive Advances (c : Dispatcher) (i now : Nat) (d : Dispatch) (calls : List BackendCall) :
    Nat → Dispatch → List BackendCall → Prop
  | move {a : Action} {d' : Dispatch} (move : d.Move c now a d') :
    Advances c i now d calls now d' (calls ++ a.calls now i d)
  | getSlot (queued : d.phase = .queued) : Advances c i now d calls now d.withSlot calls
  | wait {later : Nat} (le : now ≤ later)
    (idle : ∀ time, now ≤ time → time < later → d.isDue c time = false) :
    Advances c i now d calls later d calls

theorem standing_eq_waiting {d : Dispatch} : d.standing = .waiting ↔ d.phase = .queued := by
  unfold standing
  cases d.phase <;> simp [Phase.standing]

end Dispatch

namespace Timeline

variable {c : Dispatcher} {t t' : Timeline} {i j : Nat} {d d' e : Dispatch} {a : Action}

/-- The calls that a dispatch has made. -/
def callsOf (t : Timeline) (i : Nat) : List BackendCall := t.calls.filter (·.request = i)

/-- Something happens, and nobody is due while time passes. -/
structure HappensInTime (c : Dispatcher) (t t' : Timeline) : Prop where
  happens : Happens c t t'
  le : t.now ≤ t'.now
  idle : ∀ time, t.now ≤ time → time < t'.now → ∀ d ∈ t.dispatches, d.isDue c time = false

/-- What is the case after any number of things have happened in time. -/
def ReachableInTime (c : Dispatcher) (t : Timeline) : Prop :=
  Relation.ReflTransGen (HappensInTime c) (start c) t

theorem ReachableInTime.reachable (reach : ReachableInTime c t) : Reachable c t :=
  Relation.ReflTransGen.mono (fun _ _ h => HappensInTime.happens h) _ _ reach

/-- Whoever gets a slot that is given back was waiting for it. -/
theorem queued_of_heir? {next : Nat} (h : Accounted t.pool t.standings)
    (heir : t.heir? = some next) :
    ∃ d, t.dispatches[next]? = some d ∧ d.phase = .queued := by
  rw [heir?_eq_next? h] at heir
  have waits := (h.mem_waiting next).1 (List.mem_of_head? heir)
  rw [standings, List.getElem?_map, Option.map_eq_some_iff] at waits
  obtain ⟨d, here, waits⟩ := waits
  exact ⟨d, here, Dispatch.standing_eq_waiting.1 waits⟩

namespace Moved

/-- A move changes its own dispatch, and may hand another one the slot that it waited for. -/
theorem dispatches_cases (m : t.Moved c i d a d' t') (h : Accounted t.pool t.standings) :
    t'.dispatches = t.dispatches.set i d' ∨
      ∃ next e, next ≠ i ∧ t.dispatches[next]? = some e ∧ e.phase = .queued ∧
        t'.dispatches = (t.dispatches.set i d').set next e.withSlot ∧ next ∈ t'.ready := by
  rw [m.dispatches, m.ready]
  cases a with
  | giveBack =>
    cases heir : t.heir? with
    | none => exact .inl rfl
    | some next =>
      obtain ⟨e, there, queued⟩ := queued_of_heir? h heir
      have other : next ≠ i := by
        rintro rfl
        obtain rfl := Option.some.inj (m.here.symm.trans there)
        cases m.move.standing_eq.1.symm.trans (Dispatch.standing_eq_waiting.2 queued)
      refine .inr ⟨next, e, other, there, queued, ?_, ?_⟩
      · rw [Action.dispatches, Option.elim_some, List.modify_eq_set_getElem?,
          List.getElem?_set_ne other.symm, there]
        rfl
      · rw [Action.ready, Option.elim_some]
        split <;> simp_all
  | _ => exact .inl rfl

theorem length_dispatches (m : t.Moved c i d a d' t') (h : Accounted t.pool t.standings) :
    t'.dispatches.length = t.dispatches.length := by
  obtain set | ⟨next, e, -, -, -, set, -⟩ := m.dispatches_cases h <;> simp [set]

theorem getElem?_self (m : t.Moved c i d a d' t') (h : Accounted t.pool t.standings) :
    t'.dispatches[i]? = some d' := by
  have inside := (List.getElem?_eq_some_iff.1 m.here).1
  obtain set | ⟨next, e, other, -, -, set, -⟩ := m.dispatches_cases h
  · simp [set, inside]
  · rw [set, List.getElem?_set_ne other, List.getElem?_set_self inside]

/-- A move leaves others where they are, or hands one of them the slot that it waited for. -/
theorem getElem?_of_ne (m : t.Moved c i d a d' t') (h : Accounted t.pool t.standings)
    (other : j ≠ i) :
    t'.dispatches[j]? = t.dispatches[j]? ∨
      ∃ e, t.dispatches[j]? = some e ∧ e.phase = .queued ∧
        t'.dispatches[j]? = some e.withSlot ∧ j ∈ t'.ready := by
  obtain set | ⟨next, e, -, there, queued, set, woken⟩ := m.dispatches_cases h
  · exact .inl (set ▸ List.getElem?_set_ne other.symm)
  · by_cases same : next = j
    · subst same
      have inside := (List.getElem?_eq_some_iff.1 there).1
      exact .inr ⟨e, there, queued, by simp [set, inside], woken⟩
    · left
      rw [set, List.getElem?_set_ne same, List.getElem?_set_ne other.symm]

theorem callsOf_self (m : t.Moved c i d a d' t') :
    t'.callsOf i = t.callsOf i ++ a.calls t.now i d := by
  rw [callsOf, m.calls, List.filter_append]
  cases a <;> simp [callsOf, Dispatch.call]

theorem callsOf_of_ne (m : t.Moved c i d a d' t') (other : j ≠ i) :
    t'.callsOf j = t.callsOf j := by
  rw [callsOf, m.calls, List.filter_append]
  cases a <;> simp [callsOf, Dispatch.call, other.symm]

end Moved

/-- Calls are made for requests that have been added. -/
theorem Reachable.request_lt (reach : Reachable c t) :
    ∀ call ∈ t.calls, call.request < t.dispatches.length := by
  induction reach with
  | refl => nofun
  | @tail t t' reach happens ih =>
    cases happens with
    | add r =>
      rw [add_eq]
      intro call member
      exact Nat.lt_of_lt_of_le (ih call member) (by simp)
    | move moved =>
      obtain ⟨d, a, d', m⟩ := exists_moved moved
      rw [m.length_dispatches (accounted reach), m.calls]
      intro call member
      obtain old | new := List.mem_append.1 member
      · exact ih call old
      · have inside := (List.getElem?_eq_some_iff.1 m.here).1
        cases a with
        | call =>
          obtain rfl := List.mem_singleton.1 new
          exact inside
        | _ => cases new
    | pass _ dispatches calls =>
      rw [dispatches, calls]
      exact ih

/-- Nothing has been called for before a request is there. -/
theorem Reachable.callsOf_eq_nil (reach : Reachable c t) (absent : t.dispatches[i]? = none) :
    t.callsOf i = [] := by
  rw [List.getElem?_eq_none_iff] at absent
  refine List.filter_eq_nil_iff.2 fun call member => ?_
  have := reach.request_lt call member
  simp only [decide_eq_true_eq]
  omega

theorem HappensInTime.advances (h : HappensInTime c t t') (reach : Reachable c t)
    (here : t'.dispatches[j]? = some e) :
    (∃ r, e = { request := r } ∧ t.dispatches[j]? = none ∧ t'.callsOf j = []) ∨
      ∃ d, t.dispatches[j]? = some d ∧
        d.Advances c j t.now (t.callsOf j) t'.now e (t'.callsOf j) := by
  have stays (d : Dispatch) : d.Advances c j t.now (t.callsOf j) t.now d (t.callsOf j) :=
    .wait (Nat.le_refl _) fun time le lt => absurd le (Nat.not_le.2 lt)
  obtain ⟨happens, le, idle⟩ := h
  cases happens with
  | add r =>
    rw [add_eq] at here ⊢
    by_cases old : j < t.dispatches.length
    · rw [List.getElem?_append_left old] at here
      exact .inr ⟨e, here, stays e⟩
    · have size := (List.getElem?_eq_some_iff.1 here).1
      rw [List.length_append, List.length_singleton] at size
      obtain rfl : j = t.dispatches.length := by omega
      rw [List.getElem?_append_right (Nat.le_refl _), Nat.sub_self] at here
      obtain rfl := Option.some.inj here
      have absent : t.dispatches[t.dispatches.length]? = none :=
        List.getElem?_eq_none (Nat.le_refl _)
      exact .inl ⟨r, rfl, absent, reach.callsOf_eq_nil absent⟩
  | @move i _ moved =>
    obtain ⟨d, a, d', m⟩ := exists_moved moved
    right
    rw [m.now]
    by_cases same : j = i
    · subst same
      obtain rfl := Option.some.inj ((m.getElem?_self reach.accounted).symm.trans here)
      rw [m.callsOf_self]
      exact ⟨d, m.here, .move m.move⟩
    · rw [m.callsOf_of_ne same]
      obtain unchanged | ⟨d, there, queued, admitted, -⟩ := m.getElem?_of_ne reach.accounted same
      · exact ⟨e, unchanged ▸ here, stays e⟩
      · obtain rfl := Option.some.inj (admitted.symm.trans here)
        exact ⟨d, there, .getSlot queued⟩
  | pass _ dispatches calls =>
    rw [dispatches] at here
    rw [callsOf, calls]
    refine .inr ⟨e, here, .wait le fun time since before => ?_⟩
    exact idle time since before e (List.mem_of_getElem? here)

/-- Dispatches are not taken back. -/
theorem HappensInTime.getElem?_eq_none (h : HappensInTime c t t') (reach : Reachable c t)
    (absent : t'.dispatches[j]? = none) : t.dispatches[j]? = none := by
  rw [List.getElem?_eq_none_iff] at absent ⊢
  cases h.happens with
  | add r => exact Nat.le_trans (by simp [add_eq]) absent
  | move moved =>
    obtain ⟨d, a, d', m⟩ := exists_moved moved
    exact m.length_dispatches reach.accounted ▸ absent
  | pass _ dispatches _ => exact dispatches ▸ absent

end Timeline

end GuidedDecoding
