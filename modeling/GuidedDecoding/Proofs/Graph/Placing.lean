import GuidedDecoding.Graph.Order
import GuidedDecoding.Proofs.NameSet
import Mathlib.Data.List.Nodup
import Mathlib.Data.String.Basic

/-!
# Placing one member after another

While members are placed, each counter is the number of dependencies that have not been placed, and
what is ready is exactly what waits for nothing. A counter is taken down once for each dependency,
when that is placed, so it is never taken below zero and comes down to zero once. Each member that
is placed goes before all others that could have been placed instead.
-/

namespace GuidedDecoding

namespace Constraint

theorem goesBefore_iff {c d : Constraint} :
    c.goesBefore d = true ↔
      d.priority < c.priority ∨ (c.priority = d.priority ∧ c.id < d.id) := by
  simp [goesBefore]

theorem goesBefore_trans {c d e : Constraint} (first : c.goesBefore d = true)
    (second : d.goesBefore e = true) : c.goesBefore e = true := by
  simp only [goesBefore_iff, Priority.lt_def, ← Priority.rank_inj] at first second ⊢
  grind

theorem goesBefore_asymm {c d : Constraint} (before : c.goesBefore d = true) :
    ¬ d.goesBefore c = true := by
  simp only [goesBefore_iff, Priority.lt_def, ← Priority.rank_inj] at before ⊢
  grind

/-- Of two constraints with different ids one goes before the other. -/
theorem goesBefore_of_not {c d : Constraint} (different : c.id ≠ d.id)
    (not_before : ¬ c.goesBefore d = true) : d.goesBefore c = true := by
  simp only [goesBefore_iff, Priority.lt_def, ← Priority.rank_inj] at not_before ⊢
  grind

end Constraint

namespace Placing

/-- The number of a constraint's dependencies that have not been placed. -/
def unplaced (placed : List Constraint) (c : Constraint) : Nat :=
  (c.dependsOn.toList.filter fun id => decide (¬ id ∈ placed.map Constraint.id)).length

/-- A member that has not been placed although all its dependencies have. -/
structure Free (nodes placed : List Constraint) (c : Constraint) : Prop where
  mem : c ∈ nodes
  new : ¬ c.id ∈ placed.map Constraint.id
  met : ∀ id ∈ c.dependsOn, id ∈ placed.map Constraint.id

/-- Each member of an order was free when its turn came, and goes before all others that were. -/
def InTurn (nodes order : List Constraint) : Prop :=
  ∀ before c after, order = before ++ c :: after →
    Free nodes before c ∧ ∀ d, Free nodes before d → d.id ≠ c.id → c.goesBefore d = true

/-- The state is what has been placed would have it. -/
structure Tracks (nodes : List Constraint) (p : Placing) : Prop where
  distinct : (p.placed.map Constraint.id).Nodup
  inTurn : InTurn nodes p.placed
  counted : p.counters = nodes.map fun c => (c, (unplaced p.placed c : Int))
  ready_once : (p.ready.map Constraint.id).Nodup
  ready_iff : ∀ c, c ∈ p.ready ↔ Free nodes p.placed c

section Foremost

variable {l : List Constraint} {c : Constraint}

theorem foremost?_eq_none_iff : foremost? l = none ↔ l = [] := by
  cases l with
  | nil => simp [foremost?]
  | cons c rest =>
    simp only [foremost?]
    split
    · split <;> simp
    · simp

theorem mem_of_foremost? (h : foremost? l = some c) : c ∈ l := by
  induction l with
  | nil => simp [foremost?] at h
  | cons d rest ih =>
    simp only [foremost?] at h
    split at h
    · next e found =>
      split at h
      · cases h
        exact List.mem_cons_of_mem _ (ih found)
      · cases h
        exact List.mem_cons_self
    · cases h
      exact List.mem_cons_self

/-- What is foremost among constraints with different ids goes before all others. -/
theorem goesBefore_of_foremost? (distinct : (l.map Constraint.id).Nodup)
    (h : foremost? l = some c) {d : Constraint} (member : d ∈ l) (different : d.id ≠ c.id) :
    c.goesBefore d = true := by
  induction l generalizing c d with
  | nil => exact absurd member List.not_mem_nil
  | cons e rest ih =>
    obtain ⟨new, apart⟩ := List.nodup_cons.1 distinct
    simp only [foremost?] at h
    split at h
    · next f found =>
      have apart_e : e.id ≠ f.id := fun same =>
        new (List.mem_map.2 ⟨f, mem_of_foremost? found, same.symm⟩)
      split at h
      · next ahead =>
        cases h
        rcases List.mem_cons.1 member with rfl | later
        · exact ahead
        · exact ih apart found later different
      · next not_ahead =>
        cases h
        have first : e.goesBefore f = true := Constraint.goesBefore_of_not apart_e.symm not_ahead
        rcases List.mem_cons.1 member with rfl | later
        · exact absurd rfl different
        · by_cases last : d.id = f.id
          · rwa [List.inj_on_of_nodup_map apart later (mem_of_foremost? found) last]
          · exact Constraint.goesBefore_trans first (ih apart found later last)
    · next none_left =>
      cases h
      rw [foremost?_eq_none_iff.1 none_left] at member
      exact absurd (congrArg Constraint.id (List.mem_singleton.1 member)) different

end Foremost

section Counters

variable {placed : List Constraint} {c d : Constraint}

@[simp] theorem unplaced_nil : unplaced [] c = c.dependsOn.toList.length := by
  simp [unplaced]

theorem unplaced_eq_zero_iff :
    unplaced placed c = 0 ↔ ∀ id ∈ c.dependsOn, id ∈ placed.map Constraint.id := by
  simp [unplaced, NameSet.mem_def]

/-- Placing a dependency takes one away from what is missing. -/
theorem unplaced_append (new : ¬ c.id ∈ placed.map Constraint.id) (needs : c.id ∈ d.dependsOn) :
    unplaced (placed ++ [c]) d + 1 = unplaced placed d := by
  let missing := d.dependsOn.toList.filter fun id => decide (¬ id ∈ placed.map Constraint.id)
  have member : c.id ∈ missing := List.mem_filter.2 ⟨needs, by simpa using new⟩
  have fewer : unplaced (placed ++ [c]) d = (missing.erase c.id).length := by
    rw [(d.dependsOn.nodup.filter _).erase_eq_filter, List.filter_filter, unplaced]
    congr 1
    apply List.filter_congr
    intro id _
    rw [Bool.eq_iff_iff]
    simp [and_comm]
  rw [fewer, List.length_erase_of_mem member]
  have some_missing : 0 < missing.length := List.length_pos_of_mem member
  exact Nat.sub_add_cancel some_missing

theorem unplaced_append_of_not (other : ¬ c.id ∈ d.dependsOn) :
    unplaced (placed ++ [c]) d = unplaced placed d := by
  unfold unplaced
  congr 1
  apply List.filter_congr
  intro id needs
  have different : id ≠ c.id := fun same => other (same ▸ needs)
  simp [different]

/-- Counting down keeps a counter at what is missing. -/
theorem countDown_unplaced (new : ¬ c.id ∈ placed.map Constraint.id) :
    countDown c (d, (unplaced placed d : Int)) = (d, (unplaced (placed ++ [c]) d : Int)) := by
  unfold countDown
  split
  · next needs =>
    have taken : unplaced (placed ++ [c]) d + 1 = unplaced placed d := unplaced_append new needs
    simp only [Prod.mk.injEq, true_and]
    omega
  · next other => rw [unplaced_append_of_not other]

end Counters

section Steps

variable {nodes placed : List Constraint} {p : Placing} {c : Constraint}

/-- Whatever has been placed came after its dependencies. -/
theorem InTurn.met (inTurn : InTurn nodes placed) {d : Constraint} (member : d ∈ placed)
    {id : String} (needs : id ∈ d.dependsOn) : id ∈ placed.map Constraint.id := by
  obtain ⟨before, after, rfl⟩ := List.append_of_mem member
  have earlier := (inTurn before d after rfl).1.met id needs
  rw [List.map_append]
  exact List.mem_append_left _ earlier

theorem InTurn.append (inTurn : InTurn nodes placed) (free : Free nodes placed c)
    (first : ∀ d, Free nodes placed d → d.id ≠ c.id → c.goesBefore d = true) :
    InTurn nodes (placed ++ [c]) := by
  intro before d after split
  rcases List.eq_nil_or_concat after with rfl | ⟨between, last, rfl⟩
  · obtain ⟨rfl, same⟩ := List.append_inj' split rfl
    cases same
    exact ⟨free, first⟩
  · have shorter : placed = before ++ d :: between := by
      have longer : placed ++ [c] = (before ++ d :: between) ++ [last] := by simpa using split
      exact (List.append_inj' longer rfl).1
    exact inTurn before d between shorter

theorem start_tracks (distinct : (nodes.map Constraint.id).Nodup) :
    (start nodes).Tracks nodes where
  distinct := List.nodup_nil
  inTurn before c after split := by simp [start] at split
  counted := by simp [start]
  ready_once := distinct.sublist (List.filter_sublist.map _)
  ready_iff c := by
    simp only [start, List.mem_filter, NameSet.isEmpty, List.isEmpty_iff]
    constructor
    · rintro ⟨member, independent⟩
      refine ⟨member, List.not_mem_nil, fun id needs => ?_⟩
      rw [NameSet.mem_def, independent] at needs
      exact absurd needs List.not_mem_nil
    · intro free
      refine ⟨free.mem, List.eq_nil_iff_forall_not_mem.2 fun id needs => ?_⟩
      exact List.not_mem_nil (free.met id needs)

theorem InTurn.mem (inTurn : InTurn nodes placed) {d : Constraint} (member : d ∈ placed) :
    d ∈ nodes := by
  obtain ⟨before, after, split⟩ := List.append_of_mem member
  exact (inTurn before d after split).1.mem

@[simp] theorem mem_ids_append {id : String} :
    id ∈ (placed ++ [c]).map Constraint.id ↔ id ∈ placed.map Constraint.id ∨ id = c.id := by
  rw [List.map_append, List.mem_append, List.map_singleton, List.mem_singleton]

/-- What is free after a step waited for nothing but the constraint that was placed, or has been
free before. -/
theorem free_append_iff (distinct : (nodes.map Constraint.id).Nodup) (inTurn : InTurn nodes placed)
    (free : Free nodes placed c) {d : Constraint} :
    Free nodes (placed ++ [c]) d ↔
      (d ∈ nodes ∧ c.id ∈ d.dependsOn ∧ unplaced (placed ++ [c]) d = 0) ∨
      (Free nodes placed d ∧ d.id ≠ c.id) := by
  constructor
  · intro later
    have new : ¬ d.id ∈ placed.map Constraint.id := fun early =>
      later.new (mem_ids_append.2 (.inl early))
    by_cases needs : c.id ∈ d.dependsOn
    · exact .inl ⟨later.mem, needs, unplaced_eq_zero_iff.2 later.met⟩
    · refine .inr ⟨⟨later.mem, new, fun id needed => ?_⟩, fun same => later.new ?_⟩
      · have different : id ≠ c.id := fun same => needs (same ▸ needed)
        exact (mem_ids_append.1 (later.met id needed)).resolve_right different
      · exact mem_ids_append.2 (.inr same)
  · rintro (⟨member, needs, nothing⟩ | ⟨early, different⟩)
    · refine ⟨member, fun again => ?_, unplaced_eq_zero_iff.1 nothing⟩
      rcases mem_ids_append.1 again with early | same
      · obtain ⟨e, done, same⟩ := List.mem_map.1 early
        have same : e = d := List.inj_on_of_nodup_map distinct (inTurn.mem done) member same
        exact free.new (inTurn.met done (same ▸ needs))
      · have same : d = c := List.inj_on_of_nodup_map distinct member free.mem same
        exact free.new (free.met c.id (same ▸ needs))
    · refine ⟨early.mem, fun again => ?_, fun id needed => ?_⟩
      · exact (mem_ids_append.1 again).elim early.new different
      · exact mem_ids_append.2 (.inl (early.met id needed))

/-- One step keeps the counters and what is ready in line with what has been placed. -/
theorem Tracks.place (h : p.Tracks nodes) (distinct : (nodes.map Constraint.id).Nodup)
    (first : foremost? p.ready = some c) : (p.place c).Tracks nodes := by
  have free : Free nodes p.placed c := (h.ready_iff c).1 (mem_of_foremost? first)
  have counted : p.counters.map (countDown c) =
      nodes.map fun d => (d, (unplaced (p.placed ++ [c]) d : Int)) := by
    rw [h.counted, List.map_map]
    exact List.map_congr_left fun d _ => countDown_unplaced free.new
  have ready : (p.place c).ready =
      (nodes.filter fun d => decide (c.id ∈ d.dependsOn) &&
        decide (unplaced (p.placed ++ [c]) d = 0)) ++ p.ready.filter fun d => d.id ≠ c.id := by
    simp only [Placing.place, counted, List.filter_map, List.map_map]
    congr 1
    exact (List.map_id _).trans (List.filter_congr fun d _ => by simp)
  have ready_iff : ∀ d, d ∈ (p.place c).ready ↔ Free nodes (p.placed ++ [c]) d := by
    intro d
    rw [ready, free_append_iff distinct h.inTurn free]
    simp [h.ready_iff]
  refine ⟨?_, ?_, counted, ?_, ready_iff⟩
  · show ((p.placed ++ [c]).map Constraint.id).Nodup
    rw [List.map_append, List.nodup_append']
    refine ⟨h.distinct, List.nodup_singleton _, fun id early same => ?_⟩
    exact free.new (List.mem_singleton.1 same ▸ early)
  · exact h.inTurn.append free fun d other =>
      goesBefore_of_foremost? h.ready_once first ((h.ready_iff d).2 other)
  · rw [ready, List.map_append, List.nodup_append']
    refine ⟨distinct.sublist (List.filter_sublist.map _),
      h.ready_once.sublist (List.filter_sublist.map _), fun id hd he => ?_⟩
    obtain ⟨d, freed, rfl⟩ := List.mem_map.1 hd
    obtain ⟨e, kept, same⟩ := List.mem_map.1 he
    obtain ⟨waiting, -⟩ := List.mem_filter.1 kept
    obtain ⟨member, needs⟩ := List.mem_filter.1 freed
    have early : Free nodes p.placed e := (h.ready_iff e).1 waiting
    have same : e = d := List.inj_on_of_nodup_map distinct early.mem member same
    have needs : c.id ∈ e.dependsOn := by simpa [same] using (Bool.and_eq_true_iff.1 needs).1
    exact free.new (early.met c.id needs)

theorem Tracks.run (distinct : (nodes.map Constraint.id).Nodup) {steps : Nat} {p : Placing}
    (h : p.Tracks nodes) : (p.run steps).Tracks nodes := by
  induction steps generalizing p with
  | zero => exact h
  | succ steps ih =>
    unfold Placing.run
    split
    · exact h
    · next c first => exact ih (h.place distinct first)

/-- Members are placed until the steps are used up or none is ready. -/
theorem run_exhausted (steps : Nat) (p : Placing) :
    (p.run steps).ready = [] ∨ (p.run steps).placed.length = p.placed.length + steps := by
  induction steps generalizing p with
  | zero => exact .inr rfl
  | succ steps ih =>
    unfold Placing.run
    split
    · next none_ready => exact .inl (foremost?_eq_none_iff.1 none_ready)
    · next c first =>
      rcases ih (p.place c) with done | used
      · exact .inl done
      · right
        rw [used]
        simp only [Placing.place, List.length_append, List.length_singleton]
        omega

end Steps

/-- There is one order in which members have their turns: of two orders neither could have gone on
with another member than the other where they part. -/
theorem InTurn.eq_of_length_eq {nodes order other : List Constraint}
    (distinct : (nodes.map Constraint.id).Nodup) (h : InTurn nodes order)
    (h' : InTurn nodes other) (length : order.length = other.length) : order = other := by
  suffices agree : ∀ rest rest' before, order = before ++ rest → other = before ++ rest' →
      rest.length = rest'.length → rest = rest' from agree order other [] rfl rfl length
  intro rest
  induction rest with
  | nil => exact fun rest' _ _ _ length => (List.eq_nil_of_length_eq_zero length.symm).symm
  | cons c rest ih =>
    intro rest' before split split' length
    obtain ⟨c', rest', rfl⟩ := List.exists_cons_of_length_eq_add_one length.symm
    obtain ⟨free, first⟩ := h before c rest split
    obtain ⟨free', first'⟩ := h' before c' rest' split'
    have same : c = c' := by
      by_contra different
      have ids : c.id ≠ c'.id := fun same =>
        different (List.inj_on_of_nodup_map distinct free.mem free'.mem same)
      exact Constraint.goesBefore_asymm (first c' free' ids.symm) (first' c free ids)
    subst same
    have later := ih rest' (before ++ [c]) (by simpa using split) (by simpa using split')
      (Nat.succ.inj length)
    rw [later]

end Placing

end GuidedDecoding
