import GuidedDecoding.Proofs.Dispatch.History

/-!
# The schedule keeps time

What happens next on a line of time happens in time (`Timeline.Scheduled.next`). For nobody is
forgotten (`Timeline.Attended`): whoever is due may move, and for every other dispatch that will be
due an alarm is set, so that time never goes on past the point at which it is.
-/

namespace GuidedDecoding

namespace Dispatch

variable {c : Dispatcher} {now time : Nat} {d : Dispatch}

theorem isDue_calling_iff {ends : Option Nat} {answer : Except BackendFailure BackendResponse}
    (phase : d.phase = .calling ends answer) :
    d.isDue c time = true ↔ (∃ e, ends = some e ∧ e ≤ time) ∨ d.deadline c ≤ time := by
  simp [isDue, phase, Option.any_eq_true]

/-- A dispatch that is going to be due sets an alarm for when it is. -/
theorem exists_alarmTime (idle : d.isDue c now = false) (due : d.isDue c time = true) :
    ∃ alarm ∈ d.alarmTimes c now, now < alarm ∧ alarm ≤ time ∧ d.isDue c alarm = true := by
  cases phase : d.phase with
  | calling ends answer =>
    have at_end (e : Nat) (eq : ends = some e) : d.isDue c e = true :=
      (isDue_calling_iff phase).2 (.inl ⟨e, eq, Nat.le_refl e⟩)
    have at_deadline : d.isDue c (d.deadline c) = true :=
      (isDue_calling_iff phase).2 (.inr (Nat.le_refl _))
    rw [← Bool.not_eq_true, isDue_calling_iff phase, not_or, not_exists, Nat.not_le] at idle
    rw [isDue_calling_iff phase] at due
    obtain ⟨open_, ahead⟩ := idle
    cases ends with
    | none =>
      obtain ⟨e, eq, -⟩ | due := due
      · cases eq
      · exact ⟨_, by simp [alarmTimes, phase], ahead, due, at_deadline⟩
    | some e =>
      have unanswered : now < e := by simpa using open_ e
      obtain ⟨_, eq, due⟩ | due := due
      · obtain rfl := Option.some.inj eq
        exact ⟨e, by simp [alarmTimes, phase, unanswered], unanswered, due, at_end e rfl⟩
      · exact ⟨_, by simp [alarmTimes, phase, unanswered], ahead, due, at_deadline⟩
  | _ => simp_all [isDue, alarmTimes]

end Dispatch

namespace Timeline

variable {c : Dispatcher} {t t' : Timeline} {i j : Nat} {d d' : Dispatch} {a : Action}

/-- Nobody is forgotten: who is due may move, and for who will be due an alarm is set. -/
structure Attended (c : Dispatcher) (t : Timeline) : Prop where
  ready : ∀ i d, t.dispatches[i]? = some d → d.isDue c t.now = true → i ∈ t.ready
  alarmed : ∀ i d, t.dispatches[i]? = some d → d.isDue c t.now = false →
    ∀ time, d.isDue c time = true →
      ∃ alarm ≤ time, (alarm, i) ∈ t.alarms ∧ d.isDue c alarm = true
  ahead : ∀ a ∈ t.alarms, t.now < a.1

namespace Attended

theorem ofStart (c : Dispatcher) : Attended c (start c) where
  ready _ _ here := by cases here
  alarmed _ _ here := by cases here
  ahead _ member := by cases member

theorem add (h : Attended c t) (r : DispatchRequest) : Attended c (t.add r) := by
  rw [add_eq]
  have woken : t.dispatches.length ∈ (if t.ready.contains t.dispatches.length then t.ready
      else t.ready ++ [t.dispatches.length]) := by
    split <;> simp_all
  have kept (i : Nat) (member : i ∈ t.ready) : i ∈ (if t.ready.contains t.dispatches.length
      then t.ready else t.ready ++ [t.dispatches.length]) := by
    split <;> simp [member]
  have cases (i : Nat) (d : Dispatch) (here : (t.dispatches ++ [{ request := r }])[i]? = some d) :
      t.dispatches[i]? = some d ∨ i = t.dispatches.length ∧ d = { request := r } := by
    grind
  refine ⟨fun i d here due => ?_, fun i d here idle => ?_, h.ahead⟩
  · obtain old | ⟨rfl, -⟩ := cases i d here
    · exact kept i (h.ready i d old due)
    · exact woken
  · obtain old | ⟨-, rfl⟩ := cases i d here
    · exact h.alarmed i d old idle
    · cases idle

theorem moved (h : Attended c t) (accounted : Accounted t.pool t.standings) (mine : i ∈ t.ready)
    (m : t.Moved c i d a d' t') : Attended c t' := by
  have kept (j : Nat) (member : j ∈ t.ready) : j ∈ t'.ready := by
    rw [m.ready]
    cases a with
    | giveBack => cases t.heir? <;> grind [Action.ready]
    | _ => exact member
  have others (alarm j : Nat) (other : j ≠ i) (set : (alarm, j) ∈ t.alarms) :
      (alarm, j) ∈ t'.alarms := by
    rw [m.alarms]
    refine List.mem_append_left _ ?_
    cases a <;> simp [set, other]
  refine ⟨fun j e here due => ?_, fun j e here idle time due => ?_, fun alarm set => ?_⟩
  · rw [m.now] at due
    by_cases same : j = i
    · exact kept j (same ▸ mine)
    · obtain unchanged | ⟨e', -, -, -, woken⟩ := m.getElem?_of_ne accounted same
      · exact kept j (h.ready j e (unchanged ▸ here) due)
      · exact woken
  · rw [m.now] at idle
    by_cases same : j = i
    · subst same
      obtain rfl := Option.some.inj ((m.getElem?_self accounted).symm.trans here)
      obtain ⟨alarm, set, ahead, le, due⟩ := Dispatch.exists_alarmTime idle due
      refine ⟨alarm, le, ?_, due⟩
      rw [m.alarms]
      exact List.mem_append_right _ (by simp [set, ahead])
    · obtain unchanged | ⟨e', -, -, admitted, -⟩ := m.getElem?_of_ne accounted same
      · obtain ⟨alarm, le, set, due⟩ := h.alarmed j e (unchanged ▸ here) idle time due
        exact ⟨alarm, le, others alarm j same set, due⟩
      · obtain rfl := Option.some.inj (admitted.symm.trans here)
        cases idle
  · rw [m.alarms, List.mem_append] at set
    rw [m.now]
    obtain old | new := set
    · refine h.ahead alarm ?_
      cases a <;> simp_all
    · grind

/-- Who does not move may stand back. -/
theorem rest {rest : List Nat} (h : Attended c t) (ready : t.ready = i :: rest)
    (stays : t.move? c i = none) : Attended c { t with ready := rest } := by
  refine ⟨fun j d here due => ?_, h.alarmed, h.ahead⟩
  change t.dispatches[j]? = some d at here
  have member := h.ready j d here due
  rw [ready, List.mem_cons] at member
  obtain rfl | member := member
  · have idle := isDue_eq_false_of_move?_eq_none here stays
    cases due.symm.trans idle
  · exact member

theorem elapse {time : Nat} (h : Attended c t) (nobody : t.ready = [])
    (next : t.nextAlarm? = some time) :
    Attended c (t.elapse time) ∧ HappensInTime c t (t.elapse time) := by
  obtain ⟨earliest, first⟩ := List.min?_eq_some_iff.1 next
  obtain ⟨a, mem, rfl⟩ := List.mem_map.1 earliest
  have first : ∀ alarm ∈ t.alarms, a.1 ≤ alarm.1 := fun alarm set =>
    first _ (List.mem_map_of_mem set)
  have idle (i : Nat) (d : Dispatch) (here : t.dispatches[i]? = some d) :
      d.isDue c t.now = false := by
    by_contra due
    simpa [nobody] using h.ready i d here (by simpa using due)
  obtain ⟨ready, eq, woken, -⟩ := t.exists_elapse_eq a.1
  rw [eq]
  refine ⟨⟨fun i d here due => ?_, fun i d here later time due => ?_, fun alarm set => ?_⟩,
    ⟨.pass rfl rfl rfl, Nat.le_of_lt (h.ahead a mem), fun time since before d member => ?_⟩⟩
  · obtain ⟨alarm, le, set, -⟩ := h.alarmed i d here (idle i d here) a.1 due
    obtain rfl : alarm = a.1 := Nat.le_antisymm le (first _ set)
    exact (woken i).2 (.inr set)
  · obtain ⟨alarm, le, set, due⟩ := h.alarmed i d here (idle i d here) time due
    have other : alarm ≠ a.1 := by
      rintro rfl
      rw [later] at due
      cases due
    exact ⟨alarm, le, by simp [set, other], due⟩
  · have set := List.mem_filter.1 set
    have := first alarm set.1
    simp_all
    omega
  · change time < a.1 at before
    by_contra due
    obtain ⟨i, here⟩ := List.getElem?_of_mem member
    obtain ⟨alarm, le, set, -⟩ := h.alarmed i d here (idle i d here) time (by simpa using due)
    have := first _ set
    omega

end Attended

theorem HappensInTime.of_now_eq (happens : Happens c t t') (same : t'.now = t.now) :
    HappensInTime c t t' :=
  ⟨happens, Nat.le_of_eq same.symm, fun _ since before => by omega⟩

/-- What is the case while a schedule is followed. -/
structure Scheduled (c : Dispatcher) (t : Timeline) : Prop where
  reach : ReachableInTime c t
  attended : Attended c t

/-- What happens next on the schedule happens in time. -/
theorem Scheduled.next (h : Scheduled c t) (next : t.step? c = some t') :
    HappensInTime c t t' ∧ Attended c t' := by
  obtain ⟨i, mine, moves⟩ | ⟨i, rest, ready, stays, rfl⟩ | ⟨time, nobody, alarm, rfl⟩ :=
    step?_cases next
  · obtain ⟨d, a, d', m⟩ := exists_moved moves
    exact ⟨.of_now_eq (.move moves) m.now, h.attended.moved h.reach.reachable.accounted mine m⟩
  · exact ⟨.of_now_eq (.pass rfl rfl rfl) rfl, h.attended.rest ready stays⟩
  · exact (h.attended.elapse nobody alarm).symm

end Timeline

end GuidedDecoding
