import GuidedDecoding.Proofs.Dispatch.Completion

/-!
# When calls begin

A call begins before the deadline, with two exceptions, in both of which it is the last call of its
dispatch: the first call of a dispatch that begins at its deadline or later is made at once, and an
attempt that begins before the deadline and gets its slot exactly at the deadline makes its call
then (`Timeline.calls_begin`). For the clock is looked at before a retry, but not before a call.
-/

namespace GuidedDecoding

namespace Terms

variable {T : Terms} {call : BackendCall} {calls before : List BackendCall} {entered : Nat}
variable {earlier : Option BackendFailure} {result : DispatchResult}

/-- When the attempt begins that follows some calls: at the start, or when the pause after the last
of them is over. -/
def beginsAt? (T : Terms) (calls : List BackendCall) : Option Nat :=
  match calls.getLast? with
  | none => some T.started
  | some call => (T.endOf? call).map (· + T.delay call.attempt)

theorem Failed.beginsAt?_eq (h : T.Failed calls entered earlier) :
    T.beginsAt? calls = some entered := by
  cases h with
  | none => rfl
  | more _ made answers _ _ _ _ => simp [beginsAt?, answers.ended, made.attempt]

/-- Every call belongs to an attempt after the calls before it have failed. -/
def Orderly (T : Terms) (calls : List BackendCall) : Prop :=
  ∀ before call after, calls = before ++ call :: after →
    ∃ entered earlier, T.Failed before entered earlier ∧
      T.Makes (before.length + 1) entered call

theorem Orderly.append (h : T.Orderly before) (failed : T.Failed before entered earlier)
    (made : T.Makes (before.length + 1) entered call) : T.Orderly (before ++ [call]) := by
  intro before' call' after split
  obtain rfl | ⟨after, last, rfl⟩ := after.eq_nil_or_concat
  · obtain ⟨rfl, eq⟩ := List.append_inj' split rfl
    obtain rfl := List.singleton_inj.1 eq
    exact ⟨entered, earlier, failed, made⟩
  · rw [List.concat_eq_append, ← List.cons_append, ← List.append_assoc] at split
    exact h before' call' after (List.append_inj' split rfl).1

theorem Orderly.nil : T.Orderly [] := fun before call after split => by simp at split

theorem Failed.orderly (h : T.Failed calls entered earlier) : T.Orderly calls := by
  induction h with
  | none => exact .nil
  | more failed made _ _ _ _ _ ih => exact ih.append failed made

theorem Ended.orderly (h : T.Ended calls result) : T.Orderly calls := by
  cases h with
  | left failed => exact failed.orderly
  | replied failed made | failed failed made | late failed made | dropped failed made =>
    exact failed.orderly.append failed made

theorem BrokenOff.orderly {attempts : Nat} (h : T.BrokenOff calls attempts) : T.Orderly calls := by
  cases h with
  | atStart => exact .nil
  | afterFailure failed made => exact failed.orderly.append failed made

/-- A call that another attempt followed, or is to follow, began before the deadline. -/
theorem Failed.time_lt_deadline (h : T.Failed calls entered earlier) :
    ∀ call ∈ calls, call.time < T.deadline := by
  induction h with
  | none => nofun
  | more _ _ answers _ _ _ soon ih =>
    intro call member
    obtain old | new := List.mem_append.1 member
    · exact ih call old
    · obtain rfl := List.mem_singleton.1 new
      have := time_le_of_endOf?_eq_some answers.ended
      omega

end Terms

theorem Dispatch.History.orderly {c : Dispatcher} {now : Nat} {d : Dispatch}
    {calls : List BackendCall} (past : d.History c now calls) : (d.terms c).Orderly calls := by
  cases phase : d.phase with
  | scheduled | early =>
    simp only [History, phase] at past
    obtain ⟨-, -, rfl⟩ := past
    exact .nil
  | queued | admitted =>
    simp only [History, phase] at past
    obtain ⟨entered, past⟩ := past
    exact past.failed.orderly
  | calling ends answer =>
    simp only [History, phase] at past
    obtain ⟨before, call, entered, rfl, going, -, -⟩ := past
    exact going.failed.orderly.append going.failed going.made
  | pausing ends =>
    simp only [History, phase] at past
    exact past.2.1.orderly
  | broken | finished result =>
    simp only [History, phase] at past
    exact past.orderly

namespace Timeline

theorem scheduled_crowd (n : Nat) : Scheduled .single (crowd n) :=
  (((Scheduled.ofStart _).adds (Nat.zero_le _) _).1.steps_induction trivial
    (fun _ _ _ _ _ => trivial) n).1

/-- Calls begin before the deadline, but for a call that is the first of a dispatch that begins at
its deadline or later, or whose attempt has waited for a slot until the deadline. No call follows
such a call. -/
theorem calls_begin {c : Dispatcher} {t : Timeline} {i : Nat} {d : Dispatch}
    {before after : List BackendCall} {call : BackendCall} (reach : ReachableInTime c t)
    (here : t.dispatches[i]? = some d) (split : t.callsOf i = before ++ call :: after) :
    call.time < d.deadline c ∨
      (after = [] ∧
        ((before = [] ∧ d.deadline c ≤ d.started ∧ call.time = d.started) ∨
          ∃ entry, (d.terms c).beginsAt? before = some entry ∧ entry < d.deadline c ∧
            call.time = d.deadline c)) := by
  have orderly := (reach.history here).orderly
  obtain ⟨entered, earlier, failed, made⟩ := orderly before call after split
  by_cases in_time : call.time < d.deadline c
  · exact .inl in_time
  have last : after = [] := by
    by_contra more
    obtain ⟨next, rest, rfl⟩ := List.exists_cons_of_ne_nil more
    obtain ⟨_, _, failed, -⟩ := orderly (before ++ [call]) next rest (by simp [split])
    exact in_time (failed.time_lt_deadline call (by simp))
  have entered_le := made.entered_le
  have le_limit := made.le_limit
  rw [Dispatch.limit_terms] at le_limit
  refine .inr ⟨last, ?_⟩
  by_cases late : before = [] ∧ d.deadline c ≤ d.started
  · obtain ⟨rfl, late⟩ := late
    have started : d.started ≤ entered := failed.started_le
    exact .inl ⟨rfl, late, by omega⟩
  · have soon : entered < d.deadline c := by
      by_cases first : before = []
      · subst first
        have entered_eq : d.started = entered := Option.some.inj failed.beginsAt?_eq
        have := not_and.1 late rfl
        omega
      · exact failed.lt_deadline first
    have started : d.started ≤ entered := failed.started_le
    exact .inr ⟨entered, failed.beginsAt?_eq, soon, by omega⟩

/-- The first of the three that share a slot gets it back exactly at its deadline, and calls. -/
theorem calls_begin_crowd :
    ((crowd 22).callsOf 0).map (·.time) = [0, 100] ∧
    ∃ d call last entry, (crowd 22).dispatches[0]? = some d ∧ (crowd 22).callsOf 0 = [call, last] ∧
      d.deadline .single = 100 ∧ last.time = 100 ∧ entry < 100 ∧
      (d.terms .single).beginsAt? [call] = some entry := by
  have times : ((crowd 22).callsOf 0).map (·.time) = [0, 100] := by decide
  refine ⟨times, ?_⟩
  obtain ⟨d, here⟩ : ∃ d, (crowd 22).dispatches[0]? = some d := ⟨_, rfl⟩
  have deadline : d.deadline .single = 100 := by
    have deadlines : (crowd 22).dispatches.map (·.deadline .single) = [100, 100, 20] := by decide
    have first := congrArg (·[0]?) deadlines
    rw [List.getElem?_map, here] at first
    exact Option.some.inj first
  obtain ⟨call, last, calls⟩ : ∃ call last, (crowd 22).callsOf 0 = [call] ++ [last] := ⟨_, _, rfl⟩
  have late : last.time = 100 := by
    rw [calls] at times
    simpa using congrArg List.getLast? times
  obtain before | ⟨-, first | ⟨entry, eq, soon, -⟩⟩ :=
    calls_begin (scheduled_crowd 22).reach here calls
  · omega
  · cases first.1
  · exact ⟨d, call, last, entry, here, calls, deadline, late, deadline ▸ soon, eq⟩

end Timeline

end GuidedDecoding
