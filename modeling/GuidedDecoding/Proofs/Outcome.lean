import Mathlib.Data.List.Perm.Basic

/-!
# Steps that may fail

A computation that stops at the first error succeeds exactly when each of its steps does, and its
error is the error of one of them. What every step of a fold keeps, the whole fold keeps.
-/

namespace GuidedDecoding

namespace Outcome

variable {ε α β : Type}

theorem bind_eq_ok_iff {x : Except ε α} {f : α → Except ε β} {b : β} :
    x >>= f = .ok b ↔ ∃ a, x = .ok a ∧ f a = .ok b := by
  cases x with
  | error e => simp [bind, Except.bind]
  | ok a => simp [bind, Except.bind]

theorem map_eq_ok_iff {x : Except ε α} {f : α → β} {b : β} :
    x.map f = .ok b ↔ ∃ a, x = .ok a ∧ f a = b := by
  cases x with
  | error e => simp [Except.map]
  | ok a => simp [Except.map]

theorem bind_eq_error_iff {x : Except ε α} {f : α → Except ε β} {e : ε} :
    x >>= f = .error e ↔ x = .error e ∨ ∃ a, x = .ok a ∧ f a = .error e := by
  cases x with
  | error e => simp [bind, Except.bind]
  | ok a => simp [bind, Except.bind]

theorem map_eq_error_iff {x : Except ε α} {f : α → β} {e : ε} :
    x.map f = .error e ↔ x = .error e := by
  cases x with
  | error e => simp [Except.map]
  | ok a => simp [Except.map]

/-- What every successful step keeps holds at the end of a fold that succeeds. -/
theorem foldlM_keeps {f : β → α → Except ε β} (p : β → Prop)
    (step : ∀ b a b', p b → f b a = .ok b' → p b') {l : List α} {b b' : β} (start : p b)
    (h : l.foldlM f b = .ok b') : p b' := by
  induction l generalizing b with
  | nil =>
    cases h
    exact start
  | cons a rest ih =>
    rw [List.foldlM_cons] at h
    obtain ⟨middle, first, others⟩ := bind_eq_ok_iff.1 h
    exact ih (step b a middle start first) others

/-- Where every successful step adds what its member has, a fold adds what the members have. -/
theorem foldlM_adds {f : β → α → Except ε β} {p : β → Prop} {q : α → Prop}
    (step : ∀ b a b', f b a = .ok b' → (p b' ↔ p b ∨ q a)) {l : List α} {b b' : β}
    (h : l.foldlM f b = .ok b') : p b' ↔ p b ∨ ∃ a ∈ l, q a := by
  induction l generalizing b with
  | nil =>
    cases h
    simp
  | cons a rest ih =>
    rw [List.foldlM_cons] at h
    obtain ⟨middle, first, others⟩ := bind_eq_ok_iff.1 h
    rw [ih others, step b a middle first, or_assoc]
    simp only [List.mem_cons, exists_eq_or_imp]

/-- A fold fails at one member, after the members before it. -/
theorem exists_of_foldlM_eq_error {f : β → α → Except ε β} {l : List α} {b : β} {e : ε}
    (h : l.foldlM f b = .error e) :
    ∃ before a after b', l = before ++ a :: after ∧ before.foldlM f b = .ok b' ∧
      f b' a = .error e := by
  induction l generalizing b with
  | nil => cases h
  | cons a rest ih =>
    rw [List.foldlM_cons] at h
    rcases bind_eq_error_iff.1 h with first | ⟨middle, first, others⟩
    · exact ⟨[], a, rest, b, rfl, rfl, first⟩
    · obtain ⟨before, c, after, b', split, done, failed⟩ := ih others
      refine ⟨a :: before, c, after, b', by rw [split, List.cons_append], ?_, failed⟩
      rw [List.foldlM_cons, first]
      exact done

/-- Every member of the list has its result, in order. -/
theorem mapM_eq_ok_iff {f : α → Except ε β} {l : List α} {l' : List β} :
    l.mapM f = .ok l' ↔ List.Forall₂ (fun a b => f a = .ok b) l l' := by
  induction l generalizing l' with
  | nil =>
    rw [List.mapM_nil, List.forall₂_nil_left_iff]
    exact ⟨fun h => (Except.ok.inj h).symm, fun h => h ▸ rfl⟩
  | cons a rest ih =>
    rw [List.mapM_cons, List.forall₂_cons_left_iff, bind_eq_ok_iff]
    constructor
    · rintro ⟨b, first, others⟩
      obtain ⟨bs, done, same⟩ := bind_eq_ok_iff.1 others
      exact ⟨b, bs, first, ih.1 done, (Except.ok.inj same).symm⟩
    · rintro ⟨b, bs, first, others, rfl⟩
      exact ⟨b, first, bind_eq_ok_iff.2 ⟨bs, ih.2 others, rfl⟩⟩

theorem exists_of_mapM_eq_error {f : α → Except ε β} {l : List α} {e : ε}
    (h : l.mapM f = .error e) : ∃ a ∈ l, f a = .error e := by
  induction l with
  | nil => cases h
  | cons a rest ih =>
    rw [List.mapM_cons] at h
    rcases bind_eq_error_iff.1 h with first | ⟨b, -, others⟩
    · exact ⟨a, List.mem_cons_self, first⟩
    · rcases bind_eq_error_iff.1 others with later | ⟨bs, -, never⟩
      · obtain ⟨c, member, failed⟩ := ih later
        exact ⟨c, List.mem_cons_of_mem _ member, failed⟩
      · cases never

theorem exists_mapM_eq_ok {f : α → Except ε β} {l : List α} (each : ∀ a ∈ l, ∃ b, f a = .ok b) :
    ∃ l', l.mapM f = .ok l' := by
  induction l with
  | nil => exact ⟨[], rfl⟩
  | cons a rest ih =>
    obtain ⟨b, first⟩ := each a List.mem_cons_self
    obtain ⟨bs, others⟩ := ih fun c member => each c (List.mem_cons_of_mem _ member)
    rw [mapM_eq_ok_iff] at others
    exact ⟨b :: bs, mapM_eq_ok_iff.2 (.cons first others)⟩

/-- What holds of all members, in terms of their results, holds of all results. -/
theorem forall_mapM_iff {f : α → Except ε β} {l : List α} {l' : List β} (h : l.mapM f = .ok l')
    {p : α → Prop} {q : β → Prop} (same : ∀ a b, f a = .ok b → (p a ↔ q b)) :
    (∀ a ∈ l, p a) ↔ ∀ b ∈ l', q b := by
  have each := mapM_eq_ok_iff.1 h
  clear h
  induction each with
  | nil => simp
  | cons first _ ih => simp only [List.forall_mem_cons, same _ _ first, ih]

theorem exists_of_mem_mapM {f : α → Except ε β} {l : List α} {bs : List β} (h : l.mapM f = .ok bs)
    {b : β} (member : b ∈ bs) : ∃ a ∈ l, f a = .ok b := by
  have each := mapM_eq_ok_iff.1 h
  clear h
  induction each with
  | nil => exact absurd member List.not_mem_nil
  | cons first _ ih =>
    rcases List.mem_cons.1 member with rfl | later
    · exact ⟨_, List.mem_cons_self, first⟩
    · obtain ⟨a, inside, result⟩ := ih later
      exact ⟨a, List.mem_cons_of_mem _ inside, result⟩

theorem exists_mem_of_mapM {f : α → Except ε β} {l : List α} {bs : List β} (h : l.mapM f = .ok bs)
    {a : α} (member : a ∈ l) : ∃ b ∈ bs, f a = .ok b := by
  have each := mapM_eq_ok_iff.1 h
  clear h
  induction each with
  | nil => exact absurd member List.not_mem_nil
  | cons first _ ih =>
    rcases List.mem_cons.1 member with rfl | later
    · exact ⟨_, List.mem_cons_self, first⟩
    · obtain ⟨b, inside, result⟩ := ih later
      exact ⟨b, List.mem_cons_of_mem _ inside, result⟩

/-- What each result shares with its member, the results share with the members. -/
theorem map_mapM {γ : Type} {f : α → Except ε β} {l : List α} {bs : List β} {k : α → γ} {k' : β → γ}
    (same : ∀ a b, f a = .ok b → k' b = k a) (h : l.mapM f = .ok bs) : bs.map k' = l.map k := by
  have each := mapM_eq_ok_iff.1 h
  clear h
  induction each with
  | nil => rfl
  | cons first _ ih => rw [List.map_cons, List.map_cons, same _ _ first, ih]

theorem pairwise_mapM {f : α → Except ε β} {l : List α} {bs : List β} (h : l.mapM f = .ok bs)
    {r : α → α → Prop} {q : β → β → Prop}
    (step : ∀ a a' b b', r a a' → f a = .ok b → f a' = .ok b' → q b b') (pairs : l.Pairwise r) :
    bs.Pairwise q := by
  induction l generalizing bs with
  | nil =>
    cases h
    exact .nil
  | cons a rest ih =>
    obtain ⟨fromFirst, others⟩ := List.pairwise_cons.1 pairs
    rw [List.mapM_cons, bind_eq_ok_iff] at h
    obtain ⟨b, first, h⟩ := h
    obtain ⟨bs', later, same⟩ := bind_eq_ok_iff.1 h
    cases same
    refine List.pairwise_cons.2 ⟨fun b' member => ?_, ih later others⟩
    obtain ⟨a', inside, result⟩ := exists_of_mem_mapM later member
    exact step a a' b b' (fromFirst a' inside) first result

/-- A fold whose steps first look at the member can look at all members beforehand. -/
theorem foldlM_bind_eq_ok_iff {γ : Type} {f : α → Except ε γ} {g : β → γ → Except ε β} {l : List α}
    {b r : β} :
    (l.foldlM (fun b a => f a >>= g b) b = .ok r) ↔
      ∃ cs, l.mapM f = .ok cs ∧ cs.foldlM g b = .ok r := by
  induction l generalizing b with
  | nil => simp [pure, Except.pure]
  | cons a rest ih =>
    rw [List.foldlM_cons, List.mapM_cons]
    simp only [bind_eq_ok_iff, ih]
    constructor
    · rintro ⟨b', ⟨c, first, step⟩, cs, others, fold⟩
      refine ⟨c :: cs, ⟨c, first, cs, others, rfl⟩, ?_⟩
      rw [List.foldlM_cons, bind_eq_ok_iff]
      exact ⟨b', step, fold⟩
    · rintro ⟨_, ⟨c, first, cs, others, same⟩, fold⟩
      cases same
      rw [List.foldlM_cons, bind_eq_ok_iff] at fold
      obtain ⟨b', step, fold⟩ := fold
      exact ⟨b', ⟨c, first, step⟩, cs, others, fold⟩

/-- In another order, the results are the same in another order. -/
theorem exists_mapM_of_perm {f : α → Except ε β} {l l' : List α} {bs : List β} (same : l.Perm l')
    (h : l.mapM f = .ok bs) : ∃ bs', l'.mapM f = .ok bs' ∧ bs.Perm bs' := by
  obtain ⟨bs', each, perm⟩ := List.perm_comp_forall₂ same.symm (mapM_eq_ok_iff.1 h)
  exact ⟨bs', mapM_eq_ok_iff.2 each, perm.symm⟩

end Outcome

end GuidedDecoding
