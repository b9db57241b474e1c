import GuidedDecoding.Proofs.Dispatch.Deadline
import GuidedDecoding.Proofs.Dispatch.Outcome

/-!
# A request that is dispatched alone

Every call that a dispatch makes passes on what its request asks for. While nothing else is going
on, the backend receives calls for one request only: as many as the dispatch makes attempts, and one
at least. On a clock without end the dispatch comes to a result.
-/

namespace GuidedDecoding

/-- A call passes on what a request asks for. -/
structure BackendCall.Carries (call : BackendCall) (r : DispatchRequest) : Prop where
  prompt : call.prompt = r.prompt
  params : call.params = r.params
  artifact : call.artifact = r.artifact

namespace Terms

variable {T : Terms} {calls : List BackendCall} {call : BackendCall} {attempt entered : Nat}

theorem Makes.carries (h : T.Makes attempt entered call) : call.Carries T.request :=
  ⟨h.prompt, h.params, h.artifact⟩

/-- All calls of a dispatch pass on what its request asks for. -/
theorem Orderly.carries (h : T.Orderly calls) : ∀ call ∈ calls, call.Carries T.request := by
  intro call member
  obtain ⟨before, after, split⟩ := List.append_of_mem member
  obtain ⟨_, _, -, made⟩ := h before call after split
  exact made.carries

end Terms

namespace Timeline

variable {c : Dispatcher} {t t' : Timeline} {requests : List DispatchRequest} {r : DispatchRequest}

/-- Requests take turns, and since the backend had received some calls it has received calls for the
last request only. -/
structure CallsForLast (c : Dispatcher) (requests : List DispatchRequest)
    (earlier : List BackendCall) (t : Timeline) : Prop where
  turns : TakesTurns c requests t
  since : ∃ calls, t.calls = earlier ++ calls ∧ ∀ call ∈ calls, call.request + 1 = requests.length

namespace CallsForLast

variable {earlier : List BackendCall}

theorem next (h : CallsForLast c requests earlier t) (slots : 0 < c.poolSize)
    (next : t.step? c = some t') : CallsForLast c requests earlier t' := by
  refine ⟨h.turns.next slots next, ?_⟩
  obtain ⟨calls, eq, own⟩ := h.since
  obtain ⟨i, -, moves⟩ | ⟨i, rest, -, -, rfl⟩ | ⟨time, -, -, rfl⟩ := step?_cases next
  · obtain ⟨d, a, d', m⟩ := exists_moved moves
    refine ⟨calls ++ a.calls t.now i d, by rw [m.calls, eq, List.append_assoc], ?_⟩
    refine List.forall_mem_append.2 ⟨own, fun call made => ?_⟩
    have last := m.isLast h.turns.solitary
    rw [← List.length_map Dispatch.request, h.turns.requests] at last
    cases a with
    | call =>
      obtain rfl := List.mem_singleton.1 made
      exact last
    | _ => cases made
  · exact ⟨calls, eq, own⟩
  · obtain ⟨ready, eq', -⟩ := t.exists_elapse_eq time
    rw [eq']
    exact ⟨calls, eq, own⟩

theorem finish (h : CallsForLast c requests earlier t) (slots : 0 < c.poolSize) :
    CallsForLast c requests earlier (t.finish c) :=
  (h.turns.scheduled.steps_induction h (fun _ _ _ before next => before.next slots next) _).2

end CallsForLast

/-- A request has been dispatched to its result, with some calls that carry it. -/
structure Dispatched (t : Timeline) (r : DispatchRequest) (t' : Timeline) (d : Dispatch)
    (result : DispatchResult) (calls : List BackendCall) : Prop where
  last : t'.dispatches.getLast? = some d
  request : d.request = r
  finished : d.result? = some result
  calls_eq : t'.calls = t.calls ++ calls
  attempts : calls.length = result.attempts
  called : calls ≠ []
  carries : ∀ call ∈ calls, call.Carries r

/-- A request that comes when all others are over is dispatched to its result if the clock has no
end, and meanwhile the backend receives nothing but its calls. -/
theorem TakesTurns.exists_dispatched (h : TakesTurns c requests t) (slots : 0 < c.poolSize)
    (endless : c.lastInstant = none) (settled : Settled t) (r : DispatchRequest) :
    ∃ d result calls, Dispatched t r ((t.add r).finish c) d result calls := by
  obtain ⟨turns, done⟩ := h.finish slots settled r
  have start : CallsForLast c (requests ++ [r]) (t.add r).calls (t.add r) :=
    ⟨h.add settled r, [], (List.append_nil _).symm, nofun⟩
  obtain ⟨calls, eq, own⟩ := (start.finish slots).since
  generalize (t.add r).finish c = t' at turns done eq ⊢
  have before : t.dispatches.length = requests.length := by
    rw [← List.length_map Dispatch.request, h.requests]
  -- the request is the last one
  obtain ⟨earlier, last, split, -, request⟩ := List.map_eq_append_iff.1 turns.requests
  obtain ⟨d, rfl, rfl⟩ := List.map_eq_singleton_iff.1 request
  have length : earlier.length = requests.length := by
    have all := congrArg List.length turns.requests
    simpa [split] using all
  have here : t'.dispatches[requests.length]? = some d := by simp [split, ← length]
  have inTime := turns.reach.inTime
  have ended := inTime.history here
  have named : c.isBeyond (d.started + c.timeout + c.policy.maxBackoff) = false := by
    simp [Dispatcher.isBeyond, endless]
  obtain ⟨result, finished⟩ := Option.ne_none_iff_exists'.1 <|
    (ended.result?_eq_none_iff (done.stopped d (List.mem_of_getElem? here))).not.2
      (Terms.not_outrunsClock Dispatch.limit_le_budgetEnd named)
  simp only [Dispatch.History, Dispatch.phase_of_result?_eq_some finished] at ended
  -- its calls are those that were made since
  have added : (t.add d.request).calls = t.calls := by rw [add_eq]
  have since : t'.callsOf requests.length = calls := by
    rw [callsOf, eq, added, List.filter_append, List.filter_eq_nil_iff.2, List.filter_eq_self.2,
      List.nil_append]
    · intro call made
      simpa using own call made
    · intro call made
      have := h.reach.inTime.reachable.request_lt call made
      simpa [← before] using Nat.ne_of_lt this
  have granted := ReachableWhile.attempts_eq
    (turns.reach.mono fun t flows d here => flows d (List.mem_of_getElem? here)) here finished
  rw [since] at ended granted
  obtain ⟨first, final, calls_split, -⟩ := ended.exists_lawful granted
  exact ⟨d, result, calls, by simp [split], rfl, finished, by rw [eq, added], granted.symm,
    by simp [calls_split], ended.orderly.carries⟩

/-- Time passes while nothing is going on. -/
theorem TakesTurns.pass (h : TakesTurns c requests t) (settled : Settled t) {time : Nat}
    (le : t.now ≤ time) :
    TakesTurns c requests { t with now := time } ∧ Settled { t with now := time } := by
  have idle : ∀ d ∈ t.dispatches, ∀ now, d.isDue c now = false := by
    intro d member now
    exact Dispatch.isDue_eq_false_of_isOver (settled.stopped d member)
  have passes : HappensInTime c t { t with now := time } :=
    ⟨.pass rfl rfl rfl, le, fun now _ _ d member => idle d member now⟩
  refine ⟨⟨h.reach.tail ⟨passes, h.flows⟩, ⟨fun i d here due => ?_, fun i d here _ now due => ?_,
    fun alarm set => ?_⟩, h.flows, h.solitary, h.requests⟩, ⟨settled.ready, settled.alarms,
    settled.stopped⟩⟩
  · cases due.symm.trans (idle d (List.mem_of_getElem? here) _)
  · cases due.symm.trans (idle d (List.mem_of_getElem? here) now)
  · rw [settled.alarms] at set
    cases set

end Timeline

end GuidedDecoding
