import GuidedDecoding.Dispatch.Pool
import GuidedDecoding.Dispatch.Request

/-!
# Dispatches along a line of time

Every dispatch is in a phase. It moves on as far as it can at one time, and then waits: for its
start, for a slot of the pool, for the end of its call, or for the end of a pause. Only when no
dispatch can move does time go on, to the earliest alarm, and whoever set an alarm for that time
may move again, in the order in which the alarms were set.

A dispatch gives up at its deadline, which is its own or the end of its budget of time, whichever is
earlier. A call that ends at the deadline still counts, and a retry that would begin at the deadline
is not made.

A dispatch has to add lengths of time to the present: its budget as it begins, and the wait after a
call that has failed. Where the clock cannot name the sum, the dispatch breaks off. It comes to no
result then and is not told of any more, and others are left alone.
-/

namespace GuidedDecoding

/-- What a dispatch does or waits for. It is scheduled until it moves for the first time, and early
while it waits for its start. It is broken where it could not work out how long to go on. -/
inductive Phase where
  | scheduled
  | early
  | queued
  | admitted
  | calling (ends : Option Nat) (answer : Except BackendFailure BackendResponse)
  | pausing (ends : Nat)
  | broken
  | finished (result : DispatchResult)

namespace Phase

def isCalling : Phase → Bool
  | .calling .. => true
  | _ => false

end Phase

/-- How far a request has come. -/
structure Dispatch where
  request : DispatchRequest
  phase : Phase := .scheduled
  started : Nat := 0
  attempts : Nat := 0
  lastCause : Option BackendFailure := none
  retries : List RetryNotice := []

namespace Dispatch

/-- When a dispatch gives up. -/
def deadline (c : Dispatcher) (d : Dispatch) : Nat :=
  match d.request.deadline with
  | none => d.started + c.timeout
  | some own => min own (d.started + c.timeout)

/-- The result of a dispatch that has one. -/
def result? (d : Dispatch) : Option DispatchResult :=
  match d.phase with
  | .finished r => some r
  | _ => none

/-- Whether nothing happens to a dispatch any more: it has its result or has broken off. -/
def isOver (d : Dispatch) : Bool :=
  match d.phase with
  | .finished _ | .broken => true
  | _ => false

/-- The set that the result of a dispatch names as its source. -/
def source (d : Dispatch) : Fingerprint := d.request.artifact.source

/-- What is told about a dispatch: every retry, and in the end what it came to. -/
def events (d : Dispatch) : List DispatchEvent :=
  let source := d.request.artifact.source
  d.retries.map (.retry source) ++
    match d.result? with
    | some r => [.finished source r.isSuccess r.retryCount r.latency]
    | none => []

/-- The dispatch with an outcome. -/
def finish (d : Dispatch) (now : Nat) (outcome : Except DispatchError BackendResponse) : Dispatch :=
  { d with phase := .finished ⟨outcome, d.attempts, now - d.started⟩ }

/-- The dispatch given up for want of time. -/
def giveUp (d : Dispatch) (now : Nat) (cause : Option BackendFailure) : Dispatch :=
  d.finish now (.error (.timeout d.request.artifact.source d.attempts
    (Duration.toMillis (now - d.started)) cause))

/-- The dispatch broken off. -/
def breakOff (d : Dispatch) : Dispatch := { d with phase := .broken }

/-- The dispatch after its call has failed. -/
def afterFailure (c : Dispatcher) (d : Dispatch) (now : Nat) (cause : BackendFailure) : Dispatch :=
  if !cause.isRetryable || c.policy.maxAttempts ≤ d.attempts then
    d.finish now (.error (.backend d.request.artifact.source d.attempts cause.isRetryable cause))
  else
    let delay := c.policy.delay d.attempts (d.request.draw d.attempts)
    if c.isBeyond (now + delay) then d.breakOff
    else if d.deadline c ≤ now + delay then d.giveUp now (some cause)
    else
      { d with
        phase := .pausing (now + delay)
        lastCause := some cause
        retries := d.retries ++ [⟨d.attempts, delay, cause⟩] }

end Dispatch

/-- The time, the pool, all dispatches by number, the alarms in the order in which they were set,
the dispatches that may move, and what the backend has seen. -/
structure Timeline where
  now : Nat := 0
  pool : Pool
  dispatches : List Dispatch := []
  alarms : List (Nat × Nat) := []
  ready : List Nat := []
  calls : List BackendCall := []
  peak : Nat := 0
  dropped : Nat := 0

namespace Timeline

/-- A line of time on which nothing has happened. -/
def start (c : Dispatcher) : Timeline where
  pool := .ofSize c.poolSize

/-- How many calls the backend is working on. -/
def inFlight (t : Timeline) : Nat := t.dispatches.countP fun d => d.phase.isCalling

/-- Replace a dispatch. -/
def put (t : Timeline) (i : Nat) (d : Dispatch) : Timeline :=
  { t with dispatches := t.dispatches.set i d }

/-- Set an alarm, unless its time has come already. -/
def setAlarm (t : Timeline) (i time : Nat) : Timeline :=
  if t.now < time then { t with alarms := t.alarms ++ [(time, i)] } else t

/-- Take back the alarms of a dispatch. -/
def clearAlarms (t : Timeline) (i : Nat) : Timeline :=
  { t with alarms := t.alarms.filter fun a => a.2 ≠ i }

/-- Let a dispatch move after those that may move already. -/
def wake (t : Timeline) (i : Nat) : Timeline :=
  if t.ready.contains i then t else { t with ready := t.ready ++ [i] }

/-- Add a request. -/
def add (t : Timeline) (r : DispatchRequest) : Timeline :=
  let grown := { t with dispatches := t.dispatches ++ [({ request := r } : Dispatch)] }
  grown.wake t.dispatches.length

/-- Wait for the start of a dispatch. -/
def awaitStart (t : Timeline) (i : Nat) (d : Dispatch) : Timeline :=
  (t.put i { d with phase := .early }).setAlarm i d.request.start

/-- Begin an attempt by asking for a slot. -/
def attempt (c : Dispatcher) (t : Timeline) (i : Nat) (d : Dispatch) : Timeline :=
  let d := { d with attempts := d.attempts + 1 }
  let t := { t with pool := t.pool.ask i }
  if t.pool.isHeldBy i then t.put i { d with phase := .admitted }
  else (t.put i { d with phase := .queued }).setAlarm i (d.deadline c)

/-- Begin a dispatch. -/
def begin (c : Dispatcher) (t : Timeline) (i : Nat) (d : Dispatch) : Timeline :=
  let d := { d with started := t.now }
  if c.isBeyond (t.now + c.timeout) then t.put i d.breakOff else t.attempt c i d

/-- Call the backend. -/
def call (c : Dispatcher) (t : Timeline) (i : Nat) (d : Dispatch) : Timeline :=
  let turn := d.request.turn d.attempts
  let ends := turn.after.map (t.now + ·)
  let call : BackendCall :=
    ⟨i, t.now, d.attempts, d.request.prompt, d.request.params, d.request.artifact⟩
  let t := { t.put i { d with phase := .calling ends turn.answer } with calls := t.calls ++ [call] }
  let t := { t with peak := max t.peak t.inFlight }
  match ends with
  | none => t.setAlarm i (d.deadline c)
  | some time => if t.now < time then (t.setAlarm i time).setAlarm i (d.deadline c) else t

/-- Give a slot back, and let the dispatch that gets it move. -/
def release (t : Timeline) (i : Nat) : Timeline :=
  let pool := t.pool.release i
  match t.pool.next? with
  | none => { t with pool }
  | some next =>
    match t.dispatches[next]? with
    | none => { t with pool }
    | some d => (({ t with pool } : Timeline).put next { d with phase := .admitted }).wake next

/-- Go on with an answer of the backend. -/
def answered (c : Dispatcher) (t : Timeline) (i : Nat) (d : Dispatch) :
    Except BackendFailure BackendResponse → Timeline
  | .ok response => ((t.put i (d.finish t.now (.ok response))).release i).clearAlarms i
  | .error cause =>
    let d := d.afterFailure c t.now cause
    let t := ((t.put i d).release i).clearAlarms i
    match d.phase with
    | .pausing ends => t.setAlarm i ends
    | _ => t

/-- Drop a call whose time is over. -/
def dropCall (t : Timeline) (i : Nat) (d : Dispatch) : Timeline :=
  let t := { t with dropped := t.dropped + 1 }
  ((t.put i (d.giveUp t.now d.lastCause)).release i).clearAlarms i

/-- Leave the queue for want of time. -/
def leaveQueue (t : Timeline) (i : Nat) (d : Dispatch) : Timeline :=
  (({ t with pool := t.pool.leave i } : Timeline).put i (d.giveUp t.now d.lastCause)).clearAlarms i

/-- Move a dispatch one phase on, unless it has to wait. -/
def move? (c : Dispatcher) (t : Timeline) (i : Nat) : Option Timeline :=
  match t.dispatches[i]? with
  | none => none
  | some d =>
    match d.phase with
    | .scheduled =>
      if t.now < d.request.start then some (t.awaitStart i d) else some (t.begin c i d)
    | .early => if t.now < d.request.start then none else some (t.begin c i d)
    | .queued => if d.deadline c ≤ t.now then some (t.leaveQueue i d) else none
    | .admitted => some (t.call c i d)
    | .calling ends answer =>
      if ends.any (· ≤ t.now) then some (t.answered c i d answer)
      else if d.deadline c ≤ t.now then some (t.dropCall i d)
      else none
    | .pausing ends => if t.now < ends then none else some (t.attempt c i d)
    | .broken | .finished _ => none

/-- The earliest time for which an alarm is set. -/
def nextAlarm? (t : Timeline) : Option Nat := (t.alarms.map Prod.fst).min?

/-- Let time go on to an alarm. -/
def elapse (t : Timeline) (time : Nat) : Timeline :=
  let due := t.alarms.filter fun a => a.1 = time
  let t := { t with now := time, alarms := t.alarms.filter fun a => a.1 ≠ time }
  due.foldl (fun t a => t.wake a.2) t

/-- The next thing that happens, if anything does. -/
def step? (c : Dispatcher) (t : Timeline) : Option Timeline :=
  match t.ready with
  | i :: rest =>
    match t.move? c i with
    | some moved => some moved
    | none => some { t with ready := rest }
  | [] => t.nextAlarm?.map t.elapse

/-- What is the case after a number of steps, or before that if nothing happens any more. -/
def steps (c : Dispatcher) : Nat → Timeline → Timeline
  | 0, t => t
  | n + 1, t =>
    match t.step? c with
    | none => t
    | some next => steps c n next

/-- A request takes at most this many steps: it makes no more attempts than its script has turns and
one more, and an attempt takes a few steps. -/
def stepsFor (r : DispatchRequest) : Nat := 16 * (r.script.length + 3)

/-- What is the case when nothing happens any more. -/
def finish (c : Dispatcher) (t : Timeline) : Timeline :=
  steps c (t.dispatches.foldl (fun n d => n + stepsFor d.request) 0) t

/-- Dispatch requests one after another. -/
def dispatchInTurn (c : Dispatcher) (t : Timeline) (requests : List DispatchRequest) : Timeline :=
  requests.foldl (fun t r => (t.add r).finish c) t

/-- Dispatch requests all at once. -/
def dispatchTogether (c : Dispatcher) (t : Timeline) (requests : List DispatchRequest) : Timeline :=
  (requests.foldl add t).finish c

end Timeline

end GuidedDecoding
