import GuidedDecoding.Proofs.Dispatch.Course
import Mathlib.Data.List.GetD

/-!
# What a dispatch has done

How far a dispatch has come can be told from its calls. `Terms.Failed` says that all of them have
failed so that another attempt followed, `Terms.Ended` how a dispatch came to its result,
`Terms.BrokenOff` how it came to break off, and `Dispatch.History` what is the case in every phase.
It holds in every state that is reached in time (`Timeline.ReachableInTime.history`).
-/

namespace GuidedDecoding

/-- What a dispatch goes by once it has begun. -/
structure Terms where
  policy : RetryPolicy
  request : DispatchRequest
  started : Nat
  deadline : Nat
  budgetEnd : Nat
  lastInstant : Option Nat

namespace Terms

/-- The time until which answers count: the deadline, or the start of a dispatch that was late. -/
def limit (T : Terms) : Nat := max T.started T.deadline

/-- Whether a time is one that the clock cannot name. -/
def isBeyond (T : Terms) (time : Nat) : Bool := T.lastInstant.any (· < time)

/-- What the backend does with a call. -/
def turn (T : Terms) (call : BackendCall) : Turn := T.request.turn call.attempt

/-- When the backend ends a call, if ever. -/
def endOf? (T : Terms) (call : BackendCall) : Option Nat := (T.turn call).after.map (call.time + ·)

/-- The wait after an attempt. -/
def delay (T : Terms) (attempt : Nat) : Nat := T.policy.delay attempt (T.request.draw attempt)

/-- The result of a dispatch that is given up. -/
def timeout (T : Terms) (attempts time : Nat) (cause : Option BackendFailure) : DispatchResult where
  outcome := .error (.timeout T.request.artifact.source attempts
    (Duration.toMillis (time - T.started)) cause)
  attempts := attempts
  latency := time - T.started

/-- A call is made for an attempt that begins at a time. -/
structure Makes (T : Terms) (attempt entered : Nat) (call : BackendCall) : Prop where
  attempt : call.attempt = attempt
  prompt : call.prompt = T.request.prompt
  params : call.params = T.request.params
  artifact : call.artifact = T.request.artifact
  entered_le : entered ≤ call.time
  le_limit : call.time ≤ T.limit

/-- A call has ended at a time that counts, with an answer. -/
structure Answers (T : Terms) (call : BackendCall) (ends : Nat)
    (answer : Except BackendFailure BackendResponse) : Prop where
  ended : T.endOf? call = some ends
  le_limit : ends ≤ T.limit
  given : (T.turn call).answer = answer

/-- All calls have failed so that another attempt followed, or is to follow, at a time. The last
failure is kept. -/
inductive Failed (T : Terms) : List BackendCall → Nat → Option BackendFailure → Prop
  | none (named : T.isBeyond T.budgetEnd = false) : Failed T [] T.started none
  | more {before : List BackendCall} {call : BackendCall} {entered ends : Nat}
    {earlier : Option BackendFailure} {cause : BackendFailure}
    (failed : Failed T before entered earlier) (made : T.Makes (before.length + 1) entered call)
    (answers : T.Answers call ends (.error cause)) (retryable : cause.isRetryable = true)
    (left : before.length + 1 < T.policy.maxAttempts)
    (named : T.isBeyond (ends + T.delay (before.length + 1)) = false)
    (soon : ends + T.delay (before.length + 1) < T.deadline) :
    Failed T (before ++ [call]) (ends + T.delay (before.length + 1)) (some cause)

/-- The ways in which a dispatch comes to its result: its last call is answered, fails for good,
fails too late for another attempt or is dropped, or it is given up in the queue. -/
inductive Ended (T : Terms) : List BackendCall → DispatchResult → Prop
  | replied {before : List BackendCall} {call : BackendCall} {entered ends : Nat}
    {earlier : Option BackendFailure} {response : BackendResponse}
    (failed : T.Failed before entered earlier) (made : T.Makes (before.length + 1) entered call)
    (answers : T.Answers call ends (.ok response)) :
    Ended T (before ++ [call]) ⟨.ok response, before.length + 1, ends - T.started⟩
  | failed {before : List BackendCall} {call : BackendCall} {entered ends : Nat}
    {earlier : Option BackendFailure} {cause : BackendFailure}
    (failed : T.Failed before entered earlier) (made : T.Makes (before.length + 1) entered call)
    (answers : T.Answers call ends (.error cause))
    (last : cause.isRetryable = false ∨ T.policy.maxAttempts ≤ before.length + 1) :
    Ended T (before ++ [call])
      ⟨.error (.backend T.request.artifact.source (before.length + 1) cause.isRetryable cause),
        before.length + 1, ends - T.started⟩
  | late {before : List BackendCall} {call : BackendCall} {entered ends : Nat}
    {earlier : Option BackendFailure} {cause : BackendFailure}
    (failed : T.Failed before entered earlier) (made : T.Makes (before.length + 1) entered call)
    (answers : T.Answers call ends (.error cause)) (retryable : cause.isRetryable = true)
    (left : before.length + 1 < T.policy.maxAttempts)
    (named : T.isBeyond (ends + T.delay (before.length + 1)) = false)
    (late : T.deadline ≤ ends + T.delay (before.length + 1)) :
    Ended T (before ++ [call]) (T.timeout (before.length + 1) ends (some cause))
  | dropped {before : List BackendCall} {call : BackendCall} {entered : Nat}
    {earlier : Option BackendFailure}
    (failed : T.Failed before entered earlier) (made : T.Makes (before.length + 1) entered call)
    (unanswered : ∀ ends, T.endOf? call = some ends → T.limit < ends) :
    Ended T (before ++ [call]) (T.timeout (before.length + 1) T.limit earlier)
  | left {calls : List BackendCall} {entered : Nat} {earlier : Option BackendFailure}
    (failed : T.Failed calls entered earlier) :
    Ended T calls (T.timeout (calls.length + 1) T.limit earlier)

/-- The ways in which a dispatch breaks off, after a number of attempts: the clock cannot name the
end of its budget, or the end of the wait after its last call, which has failed. -/
inductive BrokenOff (T : Terms) : List BackendCall → Nat → Prop
  | atStart (beyond : T.isBeyond T.budgetEnd = true) : BrokenOff T [] 0
  | afterFailure {before : List BackendCall} {call : BackendCall} {entered ends : Nat}
    {earlier : Option BackendFailure} {cause : BackendFailure}
    (failed : T.Failed before entered earlier) (made : T.Makes (before.length + 1) entered call)
    (answers : T.Answers call ends (.error cause)) (retryable : cause.isRetryable = true)
    (left : before.length + 1 < T.policy.maxAttempts)
    (beyond : T.isBeyond (ends + T.delay (before.length + 1)) = true) :
    BrokenOff T (before ++ [call]) (before.length + 1)

variable {T : Terms} {calls : List BackendCall} {entered : Nat} {earlier : Option BackendFailure}

theorem time_le_of_endOf?_eq_some {call : BackendCall} {ends : Nat}
    (ended : T.endOf? call = some ends) : call.time ≤ ends := by
  obtain ⟨length, -, rfl⟩ := Option.map_eq_some_iff.1 ended
  exact Nat.le_add_right _ _

theorem Failed.started_le (h : T.Failed calls entered earlier) : T.started ≤ entered := by
  induction h with
  | none => exact Nat.le_refl _
  | more _ made answers _ _ _ _ ih =>
    have := made.entered_le
    have := time_le_of_endOf?_eq_some answers.ended
    omega

theorem Failed.lt_deadline (h : T.Failed calls entered earlier) (some : calls ≠ []) :
    entered < T.deadline := by
  cases h with
  | none => exact absurd rfl some
  | more _ _ _ _ _ _ soon => exact soon

theorem Failed.le_limit (h : T.Failed calls entered earlier) : entered ≤ T.limit := by
  cases h with
  | none => exact Nat.le_max_left _ _
  | more _ _ _ _ _ _ soon => exact Nat.le_of_lt (Nat.lt_of_lt_of_le soon (Nat.le_max_right _ _))

/-- A backend that is beyond its script fails no call. -/
theorem Failed.length_le (h : T.Failed calls entered earlier) :
    calls.length ≤ T.request.script.length := by
  cases h with
  | none => exact Nat.zero_le _
  | @more before call _ _ _ _ _ made answers _ _ _ _ =>
    by_contra beyond
    rw [List.length_append, List.length_singleton] at beyond
    have given := answers.given
    rw [turn, DispatchRequest.turn, made.attempt, List.getD_eq_default _ _ (by omega)] at given
    cases given

end Terms

namespace Dispatch

variable {c : Dispatcher} {i now later : Nat} {d d' : Dispatch} {calls calls' : List BackendCall}

/-- What a dispatch goes by. -/
def terms (c : Dispatcher) (d : Dispatch) : Terms where
  policy := c.policy
  request := d.request
  started := d.started
  deadline := d.deadline c
  budgetEnd := d.started + c.timeout
  lastInstant := c.lastInstant

/-- What a dispatch has done that has begun an attempt and has not called the backend yet. -/
structure Entering (T : Terms) (now : Nat) (d : Dispatch) (calls : List BackendCall)
    (entered : Nat) : Prop where
  failed : T.Failed calls entered d.lastCause
  attempts : d.attempts = calls.length + 1
  entered_le : entered ≤ now
  le_limit : now ≤ T.limit

/-- What a dispatch has done whose last call is not over. -/
structure Calling (T : Terms) (now : Nat) (d : Dispatch) (before : List BackendCall)
    (call : BackendCall) (entered : Nat) : Prop where
  failed : T.Failed before entered d.lastCause
  made : T.Makes (before.length + 1) entered call
  attempts : d.attempts = before.length + 1
  time_le : call.time ≤ now
  le_limit : now ≤ T.limit
  le_ends : ∀ ends, T.endOf? call = some ends → now ≤ ends

/-- What is the case with a dispatch in each of its phases, and with its calls. -/
def History (c : Dispatcher) (now : Nat) (d : Dispatch) (calls : List BackendCall) : Prop :=
  match d.phase with
  | .scheduled | .early => d.attempts = 0 ∧ d.lastCause = none ∧ calls = []
  | .queued | .admitted => ∃ entered, d.Entering (d.terms c) now calls entered
  | .calling ends answer =>
    ∃ before call entered, calls = before ++ [call] ∧
      d.Calling (d.terms c) now before call entered ∧
      ends = (d.terms c).endOf? call ∧ answer = ((d.terms c).turn call).answer
  | .pausing ends =>
    calls ≠ [] ∧ (d.terms c).Failed calls ends d.lastCause ∧ d.attempts = calls.length ∧ now ≤ ends
  | .broken => (d.terms c).BrokenOff calls d.attempts
  | .finished result => (d.terms c).Ended calls result

theorem limit_terms : (d.terms c).limit = max d.started (d.deadline c) := rfl

namespace History

variable {a : Action}

/-- Time that passes only before some point passes no further than to it. -/
theorem le_max_of_idle {point : Nat} (idle : ∀ time, now ≤ time → time < later → time < point) :
    later ≤ max now point := by
  by_contra beyond
  have := idle (max now point) (Nat.le_max_left _ _) (Nat.lt_of_not_le beyond)
  omega

theorem wait (past : d.History c now calls) (le : now ≤ later)
    (idle : ∀ time, now ≤ time → time < later → d.isDue c time = false) :
    d.History c later calls := by
  have limit := limit_terms (c := c) (d := d)
  cases phase : d.phase with
  | scheduled | early | broken | finished result => simpa only [History, phase] using past
  | queued =>
    simp only [History, phase] at past ⊢
    obtain ⟨entered, failed, attempts, entered_le, le_limit⟩ := past
    have bound : later ≤ max now (d.deadline c) := le_max_of_idle fun time since before => by
      simpa [isDue, phase] using idle time since before
    exact ⟨entered, failed, attempts, by omega, by omega⟩
  | admitted =>
    have same : later = now := by
      by_contra other
      simpa [isDue, phase] using idle now (Nat.le_refl _) (by omega)
    rwa [same]
  | calling ends answer =>
    simp only [History, phase] at past ⊢
    obtain ⟨before, call, entered, rfl, going, rfl, rfl⟩ := past
    have time_le := going.time_le
    have le_limit := going.le_limit
    have idle : ∀ time, now ≤ time → time < later →
        (∀ ends, (d.terms c).endOf? call = some ends → time < ends) ∧ time < d.deadline c := by
      intro time since before
      have idle := idle time since before
      simp only [isDue, phase, Phase.isDue, Bool.or_eq_false_iff, decide_eq_false_iff_not] at idle
      refine ⟨fun ends ended => ?_, by omega⟩
      simpa [ended] using idle.1
    have bound := le_max_of_idle fun time since before => (idle time since before).2
    refine ⟨before, call, entered, rfl, { going with time_le := ?_, le_limit := ?_, le_ends := ?_ },
      rfl, rfl⟩
    · omega
    · omega
    · intro ends ended
      have := going.le_ends ends ended
      have := le_max_of_idle fun time since before => (idle time since before).1 ends ended
      omega
  | pausing ends =>
    simp only [History, phase] at past ⊢
    obtain ⟨some, failed, attempts, now_le⟩ := past
    have bound : later ≤ max now ends := le_max_of_idle fun time since before => by
      simpa [isDue, phase] using idle time since before
    exact ⟨some, failed, attempts, by omega⟩

theorem getSlot (past : d.History c now calls) (queued : d.phase = .queued) :
    d.withSlot.History c now calls := by
  simp only [History, queued] at past
  obtain ⟨entered, past⟩ := past
  exact ⟨entered, past.failed, past.attempts, past.entered_le, past.le_limit⟩

/-- Who has not begun has done nothing. -/
theorem fresh (past : d.History c now calls) (phase : d.phase = .scheduled ∨ d.phase = .early) :
    d.attempts = 0 ∧ d.lastCause = none ∧ calls = [] := by
  obtain phase | phase := phase <;> simpa only [History, phase] using past

theorem enter {entered : Nat} (failed : (d.terms c).Failed calls entered d.lastCause)
    (attempts : d.attempts = calls.length) (now_eq : now = entered) (granted : Bool) :
    (d.entered granted).History c now calls := by
  subst now_eq
  have entering : Entering (d.terms c) now (d.entered granted) calls now :=
    ⟨failed, congrArg (· + 1) attempts, Nat.le_refl _, failed.le_limit⟩
  cases granted <;> exact ⟨now, entering⟩

theorem call {entered : Nat} (past : d.Entering (d.terms c) now calls entered) :
    (d.called now).History c now (calls ++ [d.call now i]) := by
  refine ⟨calls, d.call now i, entered, rfl, ?_, rfl, rfl⟩
  exact {
    failed := past.failed
    made := ⟨past.attempts, rfl, rfl, rfl, past.entered_le, past.le_limit⟩
    attempts := past.attempts
    time_le := Nat.le_refl _
    le_limit := past.le_limit
    le_ends := fun ends ended => Terms.time_le_of_endOf?_eq_some ended }

/-- What a failed call leads to, at the time of its end. -/
theorem afterFailure {before : List BackendCall} {call : BackendCall} {entered : Nat}
    {cause : BackendFailure} (going : d.Calling (d.terms c) now before call entered)
    (answers : (d.terms c).Answers call now (.error cause)) :
    (d.afterFailure c now cause).History c now (before ++ [call]) := by
  unfold Dispatch.afterFailure
  split
  · next last =>
    have last : cause.isRetryable = false ∨ c.policy.maxAttempts ≤ before.length + 1 := by
      simpa [going.attempts] using last
    have ended := Terms.Ended.failed going.failed going.made answers last
    rw [← going.attempts] at ended
    exact ended
  · next again =>
    have again : cause.isRetryable = true ∧ before.length + 1 < c.policy.maxAttempts := by
      simpa [going.attempts] using again
    dsimp only
    split
    · next beyond =>
      rw [going.attempts] at beyond
      have broken := Terms.BrokenOff.afterFailure going.failed going.made answers again.1 again.2
        beyond
      rw [← going.attempts] at broken
      exact broken
    next named =>
    rw [going.attempts] at named
    have named := Bool.eq_false_iff.2 named
    split
    · next late =>
      rw [going.attempts] at late
      have ended := Terms.Ended.late going.failed going.made answers again.1 again.2 named late
      rw [← going.attempts] at ended
      exact ended
    · next soon =>
      rw [going.attempts] at soon ⊢
      have failed := Terms.Failed.more going.failed going.made answers again.1 again.2 named
        (Nat.lt_of_not_le soon)
      exact ⟨by simp, failed, by simp, Nat.le_add_right _ _⟩

theorem answer {ends : Nat} {answer : Except BackendFailure BackendResponse}
    (past : d.History c now calls) (phase : d.phase = .calling (some ends) answer)
    (due : ends ≤ now) : (d.answered c now answer).History c now calls := by
  simp only [History, phase] at past
  obtain ⟨before, call, entered, rfl, going, ended, rfl⟩ := past
  obtain rfl : ends = now := Nat.le_antisymm due (going.le_ends ends ended.symm)
  have answers : (d.terms c).Answers call ends ((d.terms c).turn call).answer :=
    ⟨ended.symm, going.le_limit, rfl⟩
  cases given : ((d.terms c).turn call).answer with
  | ok response =>
    rw [given] at answers
    have result := Terms.Ended.replied going.failed going.made answers
    rw [← going.attempts] at result
    exact result
  | error cause => exact afterFailure going (given ▸ answers)

/-- A dispatch that has begun and is past its deadline has reached the limit. -/
theorem eq_limit (started : d.started ≤ now) (due : d.deadline c ≤ now)
    (le_limit : now ≤ (d.terms c).limit) : now = (d.terms c).limit :=
  Nat.le_antisymm le_limit (Nat.max_le.2 ⟨started, due⟩)

theorem move (past : d.History c now calls) (move : d.Move c now a d') :
    d'.History c now (calls ++ a.calls now i d) := by
  cases move with
  | wait phase early =>
    simp only [History, phase] at past
    simpa [History] using past
  | begin granted phase due named =>
    obtain ⟨attempts, lastCause, rfl⟩ := past.fresh phase
    refine enter ?_ attempts rfl granted
    rw [lastCause]
    exact .none named
  | breakOff phase due beyond =>
    obtain ⟨attempts, -, rfl⟩ := past.fresh phase
    have broken := Terms.BrokenOff.atStart (T := (({ d with started := now } : Dispatch).terms c))
      beyond
    rw [← attempts] at broken
    exact broken
  | resume granted phase due =>
    simp only [History, phase] at past
    obtain ⟨some, failed, attempts, now_le⟩ := past
    simpa using enter failed attempts (Nat.le_antisymm now_le due) granted
  | call phase =>
    simp only [History, phase] at past
    obtain ⟨entered, past⟩ := past
    exact call past
  | answer phase due => simpa using past.answer phase due
  | drop phase unanswered due =>
    simp only [History, phase] at past
    obtain ⟨before, call, entered, rfl, going, rfl, rfl⟩ := past
    have started : d.started ≤ now :=
      Nat.le_trans going.failed.started_le (Nat.le_trans going.made.entered_le going.time_le)
    obtain rfl := eq_limit started due going.le_limit
    have ended := Terms.Ended.dropped going.failed going.made unanswered
    rw [← going.attempts] at ended
    simp only [Action.calls, List.append_nil]
    exact ended
  | leave phase due =>
    simp only [History, phase] at past
    obtain ⟨entered, past⟩ := past
    have started : d.started ≤ now := Nat.le_trans past.failed.started_le past.entered_le
    obtain rfl := eq_limit started due past.le_limit
    have ended := Terms.Ended.left past.failed
    rw [← past.attempts] at ended
    simp only [Action.calls, List.append_nil]
    exact ended

theorem advance (past : d.History c now calls)
    (advances : d.Advances c i now calls later d' calls') : d'.History c later calls' := by
  cases advances with
  | move move => exact past.move move
  | getSlot queued => exact past.getSlot queued
  | wait le idle => exact past.wait le idle

end History

end Dispatch

/-- In time, what every dispatch has done fits its phase. -/
theorem Timeline.ReachableInTime.history {c : Dispatcher} {t : Timeline} {i : Nat} {d : Dispatch}
    (reach : ReachableInTime c t) (here : t.dispatches[i]? = some d) :
    d.History c t.now (t.callsOf i) := by
  induction reach generalizing d with
  | refl => cases here
  | tail reach happens ih =>
    obtain ⟨r, rfl, -, none⟩ | ⟨e, there, advances⟩ :=
      happens.advances (ReachableInTime.reachable reach) here
    · exact ⟨rfl, rfl, none⟩
    · exact (ih there).advance advances

end GuidedDecoding
