import GuidedDecoding.Proofs.Dispatch.Alone

/-!
# The journal of a dispatch

What is seen of a dispatch from outside are its calls and what is told about it, in the order in
which they come about (`Timeline.Observes`). The books that a dispatch keeps, which are the number
of its attempts and the list of its retries, agree with this journal in every phase
(`Dispatch.Books`). So when it has come to a result, its calls are numbered from one, a notice of a
retry stands between each two of them, and the result is told once and last
(`Timeline.journal_balanced`). Of a dispatch that has broken off the same is seen up to its last
call, and then no more.
-/

namespace GuidedDecoding

/-- Something that is seen of a dispatch. -/
inductive Observation where
  | called (call : BackendCall)
  | told (event : DispatchEvent)

namespace Observation

/-- Calls and notices of retries by turns, beginning with a call. -/
def byTurns (source : Fingerprint) :
    List BackendCall → List RetryNotice → List Observation
  | call :: calls, notice :: notices =>
    .called call :: .told (.retry source notice) :: byTurns source calls notices
  | calls, [] => calls.map .called
  | [], notices => notices.map fun notice => .told (.retry source notice)

variable {source : Fingerprint} {calls : List BackendCall} {notices : List RetryNotice}

/-- Calls come last where there are no more notices than calls before them. -/
theorem byTurns_append_calls (few : notices.length ≤ calls.length) (more : List BackendCall) :
    byTurns source (calls ++ more) notices = byTurns source calls notices ++ more.map .called := by
  induction notices generalizing calls with
  | nil => cases calls <;> cases more <;> simp [byTurns]
  | cons notice notices ih =>
    cases calls with
    | nil => cases few
    | cons call calls => simp [byTurns, ih (Nat.le_of_succ_le_succ few)]

/-- A notice comes last where it is the notice of the last call. -/
theorem byTurns_append_notice (last : calls.length = notices.length + 1) (notice : RetryNotice) :
    byTurns source calls (notices ++ [notice]) =
      byTurns source calls notices ++ [.told (.retry source notice)] := by
  induction notices generalizing calls with
  | nil =>
    obtain ⟨call, rfl⟩ := List.length_eq_one_iff.1 last
    rfl
  | cons before notices ih =>
    cases calls with
    | nil => cases last
    | cons call calls => simp [byTurns, ih (Nat.succ.inj last)]

end Observation

/-- A notice tells of a call for a request that has failed, and of the wait after it. -/
structure RetryNotice.TellsOf (p : RetryPolicy) (r : DispatchRequest) (call : BackendCall)
    (notice : RetryNotice) : Prop where
  attempt : notice.attempt = call.attempt
  delay : notice.delay = p.delay call.attempt (r.draw call.attempt)
  cause : (r.turn call.attempt).answer = .error notice.cause

namespace Terms

variable {T : Terms} {calls : List BackendCall} {result : DispatchResult}

/-- Calls are numbered in their order, from one. -/
theorem Orderly.attempts_eq (h : T.Orderly calls) :
    calls.map (·.attempt) = List.range' 1 calls.length := by
  refine List.ext_getElem (by simp) fun k inside _ => ?_
  rw [List.length_map] at inside
  have split : calls = calls.take k ++ calls[k] :: calls.drop (k + 1) := by simp
  obtain ⟨_, _, -, made⟩ := h _ _ _ split
  rw [List.length_take, Nat.min_eq_left (Nat.le_of_lt inside)] at made
  simp [made.attempt, Nat.add_comm]

/-- What a result says of the number of attempts fits the calls. -/
theorem Ended.counts (h : T.Ended calls result) :
    1 ≤ result.attempts ∧ result.attempts ≤ max 1 T.policy.maxAttempts ∧
    (calls.length = result.attempts ∨ calls.length + 1 = result.attempts) ∧
    ∀ error, result.outcome = .error error → error.attempts = result.attempts := by
  cases h with
  | left failed =>
    refine ⟨Nat.le_add_left _ _, failed.length_lt, .inr rfl, ?_⟩
    rintro _ ⟨⟩
    rfl
  | replied failed => exact ⟨Nat.le_add_left _ _, failed.length_lt, .inl (by simp), nofun⟩
  | failed failed | late failed | dropped failed =>
    refine ⟨Nat.le_add_left _ _, failed.length_lt, .inl (by simp [timeout]), ?_⟩
    rintro _ ⟨⟩
    rfl

/-- A dispatch that breaks off has called the backend in each of its attempts. -/
theorem BrokenOff.length_eq {attempts : Nat} (h : T.BrokenOff calls attempts) :
    calls.length = attempts := by
  cases h with
  | atStart => rfl
  | afterFailure => simp

theorem BrokenOff.attempts_le {attempts : Nat} (h : T.BrokenOff calls attempts) :
    attempts ≤ max 1 T.policy.maxAttempts := by
  cases h with
  | atStart => exact Nat.zero_le _
  | afterFailure failed => exact failed.length_lt

end Terms

namespace Dispatch

variable {c : Dispatcher} {i now later : Nat} {d d' : Dispatch} {calls calls' : List BackendCall}
variable {seen : List Observation}

/-- What is told about a dispatch besides its retries. -/
def finale (d : Dispatch) : List DispatchEvent :=
  match d.result? with
  | some r => [.finished d.source r.isSuccess r.retryCount r.latency]
  | none => []

theorem events_eq : d.events = d.retries.map (.retry d.source) ++ d.finale := rfl

theorem finale_eq_nil (open_ : d.result? = none) : d.finale = [] := by
  rw [finale, open_]

/-- What is seen of a dispatch as it changes. -/
def news (d : Dispatch) (calls : List BackendCall) (d' : Dispatch) (calls' : List BackendCall) :
    List Observation :=
  (calls'.drop calls.length).map .called ++ (d'.events.drop d.events.length).map .told

theorem news_of_append {told : List DispatchEvent} (events : d'.events = d.events ++ told)
    (more : List BackendCall) :
    d.news calls d' (calls ++ more) = more.map .called ++ told.map .told := by
  simp [news, events]

/-- What is told without a call. -/
theorem news_of_events {told : List DispatchEvent} (events : d'.events = d.events ++ told) :
    d.news calls d' calls = told.map .told := by
  simp [news, events]

theorem news_self : d.news calls d calls = [] := news_of_events (List.append_nil _).symm

theorem events_finish {outcome : Except DispatchError BackendResponse} (open_ : d.result? = none) :
    (d.finish now outcome).events = d.events ++ (d.finish now outcome).finale := by
  rw [events_eq, events_eq, finale_eq_nil open_, List.append_nil]
  rfl

/-- How many retries a dispatch has decided on, by the number of its attempts. -/
def retriesMade (d : Dispatch) : Nat :=
  match d.phase with
  | .pausing _ => d.attempts
  | _ => d.attempts - 1

theorem retriesMade_entered (granted : Bool) : (d.entered granted).retriesMade = d.attempts := by
  cases granted <;> rfl

theorem result?_entered (granted : Bool) : (d.entered granted).result? = none := by
  cases granted <;> rfl

/-- The notices that a dispatch has given tell of its calls in their order, one of each. -/
def Notifies (c : Dispatcher) (d : Dispatch) (calls : List BackendCall) : Prop :=
  ∀ k notice, d.retries[k]? = some notice → notice.attempt = k + 1 ∧
    ∃ call, calls[k]? = some call ∧ notice.TellsOf c.policy d.request call

/-- What a dispatch has noted agrees with its calls and with what was seen of it. -/
structure Books (c : Dispatcher) (d : Dispatch) (calls : List BackendCall)
    (seen : List Observation) : Prop where
  told : List.Forall₂ (RetryNotice.TellsOf c.policy d.request) (calls.take d.retries.length)
    d.retries
  retries : d.retries.length = d.retriesMade
  counted : ∀ r, d.result? = some r → r.attempts = d.attempts
  seen : seen = Observation.byTurns d.source calls d.retries ++ d.finale.map .told

namespace Books

theorem length_retries_le (books : d.Books c calls seen) : d.retries.length ≤ calls.length := by
  have same := books.told.length_eq
  rw [List.length_take] at same
  omega

/-- A dispatch that goes on may make calls. -/
theorem goOn {more : List BackendCall} (books : d.Books c calls seen)
    (request : d'.request = d.request) (retries : d'.retries = d.retries)
    (made : d'.retriesMade = d.retriesMade) (open_ : d.result? = none) (open' : d'.result? = none) :
    d'.Books c (calls ++ more) (seen ++ d.news calls d' (calls ++ more)) := by
  have few := books.length_retries_le
  have source : d'.source = d.source := congrArg (·.artifact.source) request
  have events : d'.events = d.events ++ [] := by
    simp [events_eq, finale_eq_nil, open_, open', retries, source]
  refine ⟨?_, ?_, by simp [open'], ?_⟩
  · rw [request, retries, List.take_append_of_le_length few]
    exact books.told
  · rw [retries, made, books.retries]
  · rw [news_of_append events, books.seen, source, retries, finale_eq_nil open_,
      finale_eq_nil open', Observation.byTurns_append_calls few]
    simp

/-- A dispatch that comes to its end is told of. -/
theorem finish {outcome : Except DispatchError BackendResponse} (books : d.Books c calls seen)
    (open_ : d.result? = none) (made : d.retriesMade = d.attempts - 1) :
    (d.finish now outcome).Books c calls (seen ++ d.news calls (d.finish now outcome) calls) := by
  refine ⟨books.told, books.retries.trans made, ?_, ?_⟩
  · rintro r ⟨⟩
    rfl
  · rw [news_of_events (events_finish open_), books.seen, finale_eq_nil open_, List.map_nil,
      List.append_nil]
    rfl

/-- A dispatch that pauses after a call has failed is told of. -/
theorem pause {before : List BackendCall} {call : BackendCall} {ends : Nat}
    {lastCause : Option BackendFailure} {notice : RetryNotice}
    (books : d.Books c (before ++ [call]) seen) (open_ : d.result? = none)
    (attempts : d.attempts = before.length + 1) (made : d.retriesMade = d.attempts - 1)
    (tells : notice.TellsOf c.policy d.request call) :
    let d' := { d with phase := .pausing ends, lastCause, retries := d.retries ++ [notice] }
    d'.Books c (before ++ [call]) (seen ++ d.news (before ++ [call]) d' (before ++ [call])) := by
  intro d'
  have length : d.retries.length = before.length := by
    rw [books.retries, made, attempts, Nat.add_sub_cancel]
  have length' : d'.retries.length = (before ++ [call]).length := by simp [d', length]
  -- all calls but the last have been told of, and now the last one is
  have told := books.told
  rw [length, List.take_left] at told
  have events : d'.events = d.events ++ [.retry d.source notice] := by
    simp [events_eq, finale_eq_nil open_, finale_eq_nil (d := d') rfl, d', source]
  refine ⟨?_, ?_, nofun, ?_⟩
  · rw [length', List.take_length]
    exact List.rel_append told (.cons tells .nil)
  · rw [length', List.length_append]
    exact attempts.symm
  · have last : (before ++ [call]).length = d.retries.length + 1 := by simp [length]
    rw [news_of_events events, books.seen, finale_eq_nil open_, finale_eq_nil (d := d') rfl,
      Observation.byTurns_append_notice last]
    simp [d', source]

/-- Of a dispatch that breaks off nothing more is told. -/
theorem stop (books : d.Books c calls seen) (request : d'.request = d.request)
    (retries : d'.retries = d.retries) (made : d'.retriesMade = d.retriesMade)
    (open_ : d.result? = none) (open' : d'.result? = none) :
    d'.Books c calls (seen ++ d.news calls d' calls) := by
  have still : d'.Books c (calls ++ []) (seen ++ d.news calls d' (calls ++ [])) :=
    books.goOn request retries made open_ open'
  simpa only [List.append_nil] using still

/-- What a failed call leads to. -/
theorem afterFailure {before : List BackendCall} {call : BackendCall} {entered : Nat}
    {cause : BackendFailure} (books : d.Books c (before ++ [call]) seen)
    (going : d.Calling (d.terms c) now before call entered) (open_ : d.result? = none)
    (made : d.retriesMade = d.attempts - 1)
    (given : ((d.terms c).turn call).answer = .error cause) :
    (d.afterFailure c now cause).Books c (before ++ [call])
      (seen ++ d.news (before ++ [call]) (d.afterFailure c now cause) (before ++ [call])) := by
  unfold Dispatch.afterFailure
  split
  · exact books.finish open_ made
  dsimp only
  split
  · exact books.stop rfl rfl made.symm open_ rfl
  split
  · exact books.finish open_ made
  · have numbered : call.attempt = d.attempts := going.made.attempt.trans going.attempts.symm
    exact books.pause open_ going.attempts made ⟨numbered.symm, by rw [numbered], given⟩

theorem move {a : Action} (books : d.Books c calls seen) (past : d.History c now calls)
    (move : d.Move c now a d') :
    d'.Books c (calls ++ a.calls now i d)
      (seen ++ d.news calls d' (calls ++ a.calls now i d)) := by
  cases move with
  | wait phase early =>
    exact books.goOn rfl rfl (by simp [retriesMade, phase]) (by simp [result?, phase]) rfl
  | breakOff phase due beyond =>
    simp only [Action.calls, List.append_nil]
    have open_ : d.result? = none := by obtain phase | phase := phase <;> simp [result?, phase]
    have made : (({ d with started := now } : Dispatch).breakOff).retriesMade = d.retriesMade := by
      obtain phase | phase := phase <;> simp [retriesMade, phase, Dispatch.breakOff]
    exact books.stop rfl rfl made open_ rfl
  | begin granted phase due named =>
    have fresh : d.attempts = 0 := (past.fresh phase).1
    have made : d.retriesMade = d.attempts := by
      obtain phase | phase := phase <;> simp [retriesMade, phase, fresh]
    have open_ : d.result? = none := by obtain phase | phase := phase <;> simp [result?, phase]
    have entered : (({ d with started := now } : Dispatch).entered granted).retriesMade =
        d.retriesMade := (retriesMade_entered granted).trans made.symm
    exact books.goOn rfl rfl entered open_ (result?_entered granted)
  | resume granted phase due =>
    have entered : (d.entered granted).retriesMade = d.retriesMade := by
      rw [retriesMade_entered, retriesMade, phase]
    exact books.goOn rfl rfl entered (by simp [result?, phase]) (result?_entered granted)
  | call phase =>
    exact books.goOn rfl rfl (by simp [retriesMade, Dispatch.called, phase])
      (by simp [result?, phase]) rfl
  | @answer ends answer phase due =>
    have open_ : d.result? = none := by simp [result?, phase]
    have made : d.retriesMade = d.attempts - 1 := by simp [retriesMade, phase]
    simp only [History, phase] at past
    obtain ⟨before, call, entered, rfl, going, -, rfl⟩ := past
    simp only [Action.calls, List.append_nil]
    cases given : ((d.terms c).turn call).answer with
    | ok response => exact books.finish open_ made
    | error cause => exact books.afterFailure going open_ made given
  | drop phase unanswered due =>
    simp only [Action.calls, List.append_nil]
    exact books.finish (by simp [result?, phase]) (by simp [retriesMade, phase])
  | leave phase due =>
    simp only [Action.calls, List.append_nil]
    exact books.finish (by simp [result?, phase]) (by simp [retriesMade, phase])

theorem advance (books : d.Books c calls seen) (past : d.History c now calls)
    (advances : d.Advances c i now calls later d' calls') :
    d'.Books c calls' (seen ++ d.news calls d' calls') := by
  cases advances with
  | move move => exact books.move past move
  | getSlot queued =>
    have slot : d.withSlot.Books c (calls ++ []) (seen ++ d.news calls d.withSlot (calls ++ [])) :=
      books.goOn rfl rfl (by simp [retriesMade, withSlot, queued]) (by simp [result?, queued]) rfl
    simpa using slot
  | wait le idle =>
    simpa [news_self] using books

end Books

/-- No more attempts are begun than there may be. -/
theorem Books.attempts_le (books : d.Books c calls seen) (past : d.History c now calls) :
    d.attempts ≤ max 1 c.policy.maxAttempts := by
  cases phase : d.phase with
  | scheduled | early =>
    simp only [History, phase] at past
    omega
  | queued | admitted =>
    simp only [History, phase] at past
    obtain ⟨_, entering⟩ := past
    exact entering.attempts ▸ entering.failed.length_lt
  | calling ends answer =>
    simp only [History, phase] at past
    obtain ⟨_, _, _, -, going, -, -⟩ := past
    exact going.attempts ▸ going.failed.length_lt
  | pausing ends =>
    simp only [History, phase] at past
    obtain ⟨-, failed, attempts, -⟩ := past
    exact attempts ▸ Nat.le_of_lt failed.length_lt
  | broken =>
    simp only [History, phase] at past
    exact past.attempts_le
  | finished result =>
    simp only [History, phase] at past
    rw [← books.counted result (by simp [result?, phase])]
    exact past.counts.2.1

/-- From the queue a dispatch comes to its end only at its deadline. -/
theorem Advances.leaves (advances : d.Advances c i now calls later d' calls')
    (queued : d.phase = .queued) {r : DispatchResult} (finished : d'.result? = some r) :
    d.deadline c ≤ now ∧ d' = d.giveUp now d.lastCause ∧ calls' = calls := by
  cases advances with
  | getSlot _ => cases finished
  | wait _ _ => simp [result?, queued] at finished
  | move move =>
    cases move with
    | leave phase due => exact ⟨due, rfl, List.append_nil _⟩
    | breakOff => cases finished
    | begin _ phase _ _ => obtain phase | phase := phase <;> cases phase.symm.trans queued
    | wait phase _ | resume _ phase _ | call phase | answer phase _ | drop phase _ _ =>
      cases phase.symm.trans queued

/-- After its end nothing happens to a dispatch any more. -/
theorem Advances.of_finished (advances : d.Advances c i now calls later d' calls')
    {r : DispatchResult} (finished : d.result? = some r) : d' = d ∧ calls' = calls := by
  have ended := phase_of_result?_eq_some finished
  cases advances with
  | getSlot phase => cases phase.symm.trans ended
  | wait _ _ => exact ⟨rfl, rfl⟩
  | move move =>
    cases move with
    | begin _ phase _ _ | breakOff phase _ _ =>
      obtain phase | phase := phase <;> cases phase.symm.trans ended
    | wait phase _ | resume _ phase _ | call phase | answer phase _ | drop phase _ _
    | leave phase _ => cases phase.symm.trans ended

end Dispatch

namespace Timeline

variable {c : Dispatcher} {t t' : Timeline} {i : Nat} {d d' : Dispatch} {r : DispatchResult}
variable {seen : List Observation}

/-- What has been told about a dispatch. -/
def eventsOf (t : Timeline) (i : Nat) : List DispatchEvent :=
  t.dispatches[i]?.elim [] Dispatch.events

/-- What is seen of a dispatch while something happens. -/
def observed (i : Nat) (t t' : Timeline) : List Observation :=
  ((t'.callsOf i).drop (t.callsOf i).length).map .called ++
    ((t'.eventsOf i).drop (t.eventsOf i).length).map .told

/-- What has been seen of a dispatch on the way to a state. -/
inductive Observes (c : Dispatcher) (i : Nat) : List Observation → Timeline → Prop
  | start : Observes c i [] (start c)
  | next {seen : List Observation} {t t' : Timeline} (before : Observes c i seen t)
    (happens : HappensInTime c t t') : Observes c i (seen ++ observed i t t') t'

theorem observed_eq_news (there : t.dispatches[i]? = some d) (here : t'.dispatches[i]? = some d') :
    observed i t t' = d.news (t.callsOf i) d' (t'.callsOf i) := by
  simp [observed, eventsOf, Dispatch.news, there, here]

namespace Observes

theorem reach (h : Observes c i seen t) : ReachableInTime c t := by
  induction h with
  | start => exact .refl
  | next _ happens ih => exact ih.tail happens

theorem eq_nil (h : Observes c i seen t) (absent : t.dispatches[i]? = none) : seen = [] := by
  induction h with
  | start => rfl
  | @next seen t t' before happens ih =>
    have reachable := before.reach.reachable
    have earlier := happens.getElem?_eq_none reachable absent
    have calls := (before.next happens).reach.reachable.callsOf_eq_nil absent
    simp [ih earlier, observed, eventsOf, absent, calls]

theorem books (h : Observes c i seen t) (here : t.dispatches[i]? = some d) :
    d.Books c (t.callsOf i) seen := by
  induction h generalizing d with
  | start => cases here
  | @next seen t t' before happens ih =>
    obtain ⟨r, rfl, absent, calls⟩ | ⟨e, there, advances⟩ :=
      happens.advances before.reach.reachable here
    · have nothing : observed i t t' = [] := by
        simp [observed, eventsOf, here, calls, Dispatch.events, Dispatch.result?]
      rw [before.eq_nil absent, nothing, calls]
      exact ⟨.nil, rfl, fun _ finished => (by cases finished), rfl⟩
    · rw [observed_eq_news there here]
      exact (ih there).advance (before.reach.history there) advances

end Observes

/-- A dispatch came to its end in the queue for a slot: there it was in its last attempt when its
deadline had come, and of what was to be seen of it only its end was left. -/
def GaveUpInQueue (c : Dispatcher) (i : Nat) (t : Timeline) (d : Dispatch)
    (seen : List Observation) : Prop :=
  ∃ t₀ d₀ before, Observes c i before t₀ ∧ Relation.ReflTransGen (HappensInTime c) t₀ t ∧
    t₀.dispatches[i]? = some d₀ ∧ d₀.phase = .queued ∧ d₀.deadline c ≤ t₀.now ∧
    d₀.attempts = d.attempts ∧ t₀.callsOf i = t.callsOf i ∧ seen = before ++ d.finale.map .told

/-- A dispatch that has not called the backend in its last attempt gave up in the queue. -/
theorem Observes.gaveUpInQueue (h : Observes c i seen t) (here : t.dispatches[i]? = some d)
    (finished : d.result? = some r) (uncalled : r.attempts ≠ (t.callsOf i).length) :
    GaveUpInQueue c i t d seen := by
  induction h generalizing d r with
  | start => cases here
  | @next seen t t' before happens ih =>
    obtain ⟨_, rfl, -⟩ | ⟨e, there, advances⟩ := happens.advances before.reach.reachable here
    · cases finished
    rw [observed_eq_news there here]
    -- from the queue the end has come just now, without a call; from elsewhere it came with a call,
    -- or it had come before
    by_cases queued : e.phase = .queued
    · obtain ⟨due, rfl, calls⟩ := advances.leaves queued finished
      have open_ : e.result? = none := by simp [Dispatch.result?, queued]
      refine ⟨t, e, seen, before, .single happens, there, queued, due, rfl, calls.symm, ?_⟩
      have told : (e.giveUp t.now e.lastCause).events = e.events ++ _ :=
        Dispatch.events_finish open_
      rw [calls, Dispatch.news_of_events told]
      rfl
    cases ended : e.result? with
    | none =>
      have granted := advances.attempts_eq (before.reach.history there) queued
        (fun r finished => by cases ended.symm.trans finished) r finished
      exact absurd granted uncalled
    | some r' =>
      obtain ⟨rfl, calls⟩ := advances.of_finished ended
      obtain ⟨t₀, d₀, earlier, observes, path, rest⟩ := ih there finished (calls ▸ uncalled)
      rw [← calls] at rest
      rw [calls, Dispatch.news_self, List.append_nil]
      exact ⟨t₀, d₀, earlier, observes, path.tail happens, rest⟩

/-- The result of a dispatch, its calls, its retries and what has been seen of it agree. -/
structure Balanced (c : Dispatcher) (i : Nat) (t : Timeline) (d : Dispatch)
    (seen : List Observation) (r : DispatchResult) : Prop where
  attempts_pos : 1 ≤ r.attempts
  attempts_le : r.attempts ≤ max 1 c.policy.maxAttempts
  counted : r.attempts = d.attempts
  error : ∀ e, r.outcome = .error e → e.attempts = r.attempts
  calls : (t.callsOf i).length = r.attempts ∨
    (t.callsOf i).length + 1 = r.attempts ∧ GaveUpInQueue c i t d seen
  retryCount : r.retryCount + 1 = r.attempts
  retries : d.retries.length = r.retryCount
  notices : d.Notifies c (t.callsOf i)
  journal : seen = Observation.byTurns d.source (t.callsOf i) d.retries ++
    [.told (.finished d.source r.isSuccess r.retryCount r.latency)]

theorem Observes.notifies (h : Observes c i seen t) (here : t.dispatches[i]? = some d) :
    d.Notifies c (t.callsOf i) := by
  have books := h.books here
  have numbered := (h.reach.history here).orderly.attempts_eq
  intro k notice listed
  obtain ⟨inside, rfl⟩ := List.getElem?_eq_some_iff.1 listed
  have few := books.length_retries_le
  have tells := books.told.get (by rw [List.length_take]; omega) inside
  simp only [List.get_eq_getElem, List.getElem_take] at tells
  have attempt : (t.callsOf i)[k].attempt = k + 1 := by
    have same := List.getElem_of_eq numbered (by rw [List.length_map]; omega : k < _)
    simpa [Nat.add_comm] using same
  exact ⟨tells.attempt.trans attempt, _, List.getElem?_eq_getElem _, tells⟩

theorem Observes.balanced (h : Observes c i seen t) (here : t.dispatches[i]? = some d)
    (finished : d.result? = some r) : Balanced c i t d seen r := by
  have books := h.books here
  have history := h.reach.history here
  have made := books.retries
  simp only [Dispatch.retriesMade, Dispatch.phase_of_result?_eq_some finished] at made
  simp only [Dispatch.History, Dispatch.phase_of_result?_eq_some finished] at history
  obtain ⟨pos, le, length, error⟩ := history.counts
  have counted := books.counted r finished
  refine ⟨pos, le, counted, error, ?_, Nat.sub_add_cancel pos, ?_, h.notifies here, ?_⟩
  · obtain all | one_less := length
    · exact .inl all
    · exact .inr ⟨one_less, h.gaveUpInQueue here finished (by omega)⟩
  · rw [made, ← counted]
    rfl
  · rw [books.seen, Dispatch.finale, finished]
    rfl

end Timeline

end GuidedDecoding
