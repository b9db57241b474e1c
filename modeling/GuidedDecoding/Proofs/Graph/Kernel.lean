import GuidedDecoding.Graph.Resolution
import GuidedDecoding.Proofs.Graph.Ranking

/-!
# The constraints that are kept

An enforced member is kept when no more important kept member conflicts with it. This says for each
member what becomes of it without mentioning an order in which conflicts are settled, and settling
them in ranked order comes to the same. When a conflict's turn comes, the conflicts in which one of
its sides could have lost to something more important are done, so a side has lost by then exactly
if it is not kept. Settling succeeds unless two equally important kept members conflict.
-/

namespace GuidedDecoding

namespace Constraint

/-- Two enforced constraints, one of which declares a conflict with the other. -/
def Rivals (c d : Constraint) : Prop :=
  c.isEnforced = true ∧ d.isEnforced = true ∧ c.conflicts d = true

theorem Rivals.symm {c d : Constraint} (h : c.Rivals d) : d.Rivals c :=
  ⟨h.2.1, h.1, conflicts_comm ▸ h.2.2⟩

end Constraint

namespace ConstraintGraph

/-- An enforced member that no more important kept member conflicts with. -/
def Kept (g : ConstraintGraph) (c : Constraint) : Prop :=
  c ∈ g.nodes ∧ c.isEnforced = true ∧
    ∀ d ∈ g.nodes, c.priority < d.priority → c.Rivals d → ¬ g.Kept d
termination_by 4 - c.priority.rank
decreasing_by
  have bound := Priority.rank_le d.priority
  have higher : c.priority < d.priority := by assumption
  rw [Priority.lt_def] at higher
  omega

/-- Two equally important kept members that conflict. -/
def Tied (g : ConstraintGraph) (c d : Constraint) : Prop :=
  g.Kept c ∧ g.Kept d ∧ c.priority = d.priority ∧ c.Rivals d

variable {g : ConstraintGraph} {c d : Constraint}

theorem kept_iff :
    g.Kept c ↔ c ∈ g.nodes ∧ c.isEnforced = true ∧
      ∀ d, g.Kept d → c.priority < d.priority → ¬ c.Rivals d := by
  rw [Kept]
  constructor
  · rintro ⟨member, enforced, free⟩
    refine ⟨member, enforced, fun d kept lt rivals => ?_⟩
    rw [Kept] at kept
    exact free d kept.1 lt rivals (by rw [Kept]; exact kept)
  · rintro ⟨member, enforced, free⟩
    exact ⟨member, enforced, fun d _ lt rivals kept => free d kept lt rivals⟩

theorem Kept.mem (h : g.Kept c) : c ∈ g.nodes := (kept_iff.1 h).1

theorem Kept.isEnforced (h : g.Kept c) : c.isEnforced = true := (kept_iff.1 h).2.1

theorem Kept.not_rivals (h : g.Kept c) (kept : g.Kept d) (lt : c.priority < d.priority) :
    ¬ c.Rivals d :=
  (kept_iff.1 h).2.2 d kept lt

/-- What is not kept conflicts with something kept that is more important. -/
theorem exists_kept_of_not_kept (member : c ∈ g.nodes) (enforced : c.isEnforced = true)
    (h : ¬ g.Kept c) : ∃ d, g.Kept d ∧ c.priority < d.priority ∧ c.Rivals d := by
  by_contra free
  push Not at free
  exact h (kept_iff.2 ⟨member, enforced, free⟩)

/-- Any choice of enforced members that rejects exactly what a more important chosen member
conflicts with is the kept members. -/
theorem kept_unique {chosen : Constraint → Prop}
    (kernel : ∀ c, chosen c ↔ c ∈ g.nodes ∧ c.isEnforced = true ∧
      ∀ d, chosen d → c.priority < d.priority → ¬ c.Rivals d) (c : Constraint) :
    chosen c ↔ g.Kept c := by
  induction level : 4 - c.priority.rank using Nat.strong_induction_on generalizing c with
  | _ level ih =>
    have above : ∀ d, c.priority < d.priority → (chosen d ↔ g.Kept d) := by
      intro d lt
      have bound := Priority.rank_le d.priority
      rw [Priority.lt_def] at lt
      exact ih (4 - d.priority.rank) (by omega) d rfl
    rw [kernel, kept_iff]
    refine and_congr_right fun _ => and_congr_right fun _ => ?_
    constructor
    · exact fun free d kept lt => free d ((above d lt).2 kept) lt
    · exact fun free d picked lt => free d ((above d lt).1 picked) lt

end ConstraintGraph

/-! ### Settling conflicts in ranked order -/

namespace Demotion

theorem hasLoser_iff {demotions : List Demotion} {id : String} :
    hasLoser demotions id = true ↔ ∃ d ∈ demotions, d.loser.id = id := by
  simp [hasLoser]

/-- A member lost against the foremost of the kept members that conflict with it, which is more
important. -/
structure Justified (g : ConstraintGraph) (d : Demotion) : Prop where
  winner_kept : g.Kept d.winner
  loser_mem : d.loser ∈ g.nodes
  higher : d.loser.priority < d.winner.priority
  rivals : d.loser.Rivals d.winner
  foremost : ∀ e, g.Kept e → d.loser.Rivals e → ¬ e.goesBefore d.winner = true

theorem Justified.not_kept {g : ConstraintGraph} {d : Demotion} (h : d.Justified g) :
    ¬ g.Kept d.loser :=
  fun kept => kept.not_rivals h.winner_kept h.higher h.rivals

end Demotion

namespace ConstraintGraph

/-- What holds of the demotions after some conflicts have been settled. -/
structure Settled (g : ConstraintGraph) (done : List Conflict) (settled : List Demotion) :
    Prop where
  justified : ∀ d ∈ settled, d.Justified g
  once : (settled.map fun d => d.loser.id).Nodup
  lost : ∀ x ∈ done, x.isLive = true → g.Kept x.high → x.low.priority < x.high.priority →
    Demotion.hasLoser settled x.low.id = true
  untied : ∀ x ∈ done, x.isLive = true → x.high.priority = x.low.priority →
    ¬ (g.Kept x.high ∧ g.Kept x.low)

namespace Settled

variable {g : ConstraintGraph} {done rest : List Conflict} {settled : List Demotion}
  {x : Conflict} {c e : Constraint}

theorem nil (g : ConstraintGraph) : Settled g [] [] where
  justified := by simp
  once := by simp
  lost := by simp
  untied := by simp

theorem not_kept_of_hasLoser (h : Settled g done settled) (member : c ∈ g.nodes)
    (demoted : Demotion.hasLoser settled c.id = true) : ¬ g.Kept c := by
  obtain ⟨d, inSettled, same⟩ := Demotion.hasLoser_iff.1 demoted
  have justified := h.justified d inSettled
  have loser : d.loser = c := eq_of_id_eq justified.loser_mem member same
  exact loser ▸ justified.not_kept

/-- Once the conflict between them is done, a kept member has demoted what is less important. -/
theorem hasLoser_of_done (h : Settled g done settled) (kept : g.Kept e)
    (lt : c.priority < e.priority) (rivals : c.Rivals e) (isDone : ⟨e, c⟩ ∈ done) :
    Demotion.hasLoser settled c.id = true :=
  h.lost ⟨e, c⟩ isDone (by simp [Conflict.isLive, rivals.1, rivals.2.1]) kept lt

theorem mem_rankedConflicts (member : c ∈ g.nodes) (kept : g.Kept e)
    (lt : c.priority < e.priority) (rivals : c.Rivals e) : ⟨e, c⟩ ∈ g.rankedConflicts :=
  mem_rankedConflicts_of_lt kept.mem member rivals.symm.2.2 lt

/-- When a conflict's turn comes, members as important as its stronger side have been demoted
exactly if they are not kept. -/
theorem hasLoser_iff (h : Settled g done settled) (all : g.rankedConflicts = done ++ x :: rest)
    (member : c ∈ g.nodes) (enforced : c.isEnforced = true)
    (level : c.priority = x.high.priority) :
    Demotion.hasLoser settled c.id = true ↔ ¬ g.Kept c := by
  constructor
  · exact h.not_kept_of_hasLoser member
  · intro dropped
    obtain ⟨e, kept, lt, rivals⟩ := exists_kept_of_not_kept member enforced dropped
    refine h.hasLoser_of_done kept lt rivals ?_
    refine mem_done_of_not_notAfter all (mem_rankedConflicts member kept lt rivals) ?_
    rw [Conflict.notAfter_iff]
    rw [level, Priority.lt_def] at lt
    dsimp only
    omega

/-- A conflict that changes nothing. -/
theorem skip (h : Settled g done settled) (high_mem : x.high ∈ g.nodes) (low_mem : x.low ∈ g.nodes)
    (idle : x.isLive = true → Demotion.hasLoser settled x.high.id = true ∨
      Demotion.hasLoser settled x.low.id = true) :
    Settled g (done ++ [x]) settled where
  justified := h.justified
  once := h.once
  lost := by
    intro y isDone live kept lt
    rcases List.mem_append.1 isDone with earlier | now
    · exact h.lost y earlier live kept lt
    · obtain rfl := List.mem_singleton.1 now
      rcases idle live with high | low
      · exact absurd kept (h.not_kept_of_hasLoser high_mem high)
      · exact low
  untied := by
    intro y isDone live same
    rcases List.mem_append.1 isDone with earlier | now
    · exact h.untied y earlier live same
    · obtain rfl := List.mem_singleton.1 now
      rintro ⟨high_kept, low_kept⟩
      rcases idle live with high | low
      · exact h.not_kept_of_hasLoser high_mem high high_kept
      · exact h.not_kept_of_hasLoser low_mem low low_kept

/-- A winner that comes before the stronger side would have had its turn already. -/
theorem not_goesBefore (h : Settled g done settled) (all : g.rankedConflicts = done ++ x :: rest)
    (member : x.low ∈ g.nodes) (lt : x.low.priority < x.high.priority)
    (standing : ¬ Demotion.hasLoser settled x.low.id = true) (kept : g.Kept e)
    (rivals : x.low.Rivals e) : ¬ e.goesBefore x.high = true := by
  intro before
  simp only [Constraint.goesBefore, Bool.or_eq_true, Bool.and_eq_true, decide_eq_true_eq,
    Priority.lt_def, ← Priority.rank_inj] at before
  have above : x.low.priority < e.priority := by
    rw [Priority.lt_def] at lt ⊢
    omega
  refine standing (h.hasLoser_of_done kept above rivals ?_)
  refine mem_done_of_not_notAfter all (mem_rankedConflicts member kept above rivals) ?_
  rw [Conflict.notAfter_iff]
  rcases before with higher | ⟨level, smaller⟩
  · dsimp only
    omega
  · have not_larger : ¬ x.high.id < e.id := String.lt_asymm smaller
    have other : ¬ x.high.id = e.id := fun same => String.lt_irrefl _ (same ▸ smaller)
    simp [level, not_larger, other]

/-- A conflict that demotes its weaker side. -/
theorem demote (h : Settled g done settled) (now : Demotion.Justified g ⟨x.high, x.low⟩)
    (standing : ¬ Demotion.hasLoser settled x.low.id = true) :
    Settled g (done ++ [x]) (settled ++ [⟨x.high, x.low⟩]) where
  justified := by
    intro d inSettled
    rcases List.mem_append.1 inSettled with earlier | last
    · exact h.justified d earlier
    · obtain rfl := List.mem_singleton.1 last
      exact now
  once := by
    rw [List.map_append, List.nodup_append]
    refine ⟨h.once, by simp, ?_⟩
    intro id lostBefore id' last same
    obtain ⟨d, earlier, rfl⟩ := List.mem_map.1 lostBefore
    have isLow : id' = x.low.id := by simpa using last
    exact standing (Demotion.hasLoser_iff.2 ⟨d, earlier, same.trans isLow⟩)
  lost := by
    intro y isDone live kept above
    rw [Demotion.hasLoser_iff]
    rcases List.mem_append.1 isDone with earlier | last
    · obtain ⟨d, inSettled, same⟩ := Demotion.hasLoser_iff.1 (h.lost y earlier live kept above)
      exact ⟨d, List.mem_append_left _ inSettled, same⟩
    · obtain rfl := List.mem_singleton.1 last
      exact ⟨_, List.mem_append_right _ List.mem_cons_self, rfl⟩
  untied := by
    intro y isDone live same
    rcases List.mem_append.1 isDone with earlier | last
    · exact h.untied y earlier live same
    · obtain rfl := List.mem_singleton.1 last
      have higher : y.low.priority < y.high.priority := now.higher
      rw [Priority.lt_def, same] at higher
      exact absurd higher (Nat.lt_irrefl _)

end Settled

/-- Settling what is left in ranked order keeps the invariant to the end, or stops at two equally
important kept members in conflict. -/
theorem settle_settled {g : ConstraintGraph} {done rest : List Conflict} {settled : List Demotion}
    (all : g.rankedConflicts = done ++ rest) (h : Settled g done settled) :
    (∃ final, settle rest settled = .ok final ∧ Settled g g.rankedConflicts final) ∨
      ∃ c d, g.Tied c d ∧
        settle rest settled = .error (.unresolvableConflict c.id d.id c.priority.name) := by
  induction rest generalizing done settled with
  | nil =>
    rw [List.append_nil] at all
    exact .inl ⟨settled, rfl, all ▸ h⟩
  | cons x rest ih =>
    have ranked : x ∈ g.rankedConflicts := all ▸ List.mem_append_right _ List.mem_cons_self
    obtain ⟨high_mem, low_mem, declared, order⟩ := of_mem_rankedConflicts ranked
    have all' : g.rankedConflicts = (done ++ [x]) ++ rest := by simpa using all
    rw [settle]
    split
    · next idle =>
      apply ih all'
      apply h.skip high_mem low_mem
      intro live
      simpa [live] using idle
    · next busy =>
      simp only [Bool.or_eq_true, Bool.not_eq_true', not_or, Bool.not_eq_false] at busy
      obtain ⟨⟨live, high_stands⟩, low_stands⟩ := busy
      have enforced : x.high.isEnforced = true ∧ x.low.isEnforced = true := by
        simpa [Conflict.isLive] using live
      have rivals : x.high.Rivals x.low := ⟨enforced.1, enforced.2, declared⟩
      have high_kept : g.Kept x.high := by
        by_contra dropped
        exact high_stands ((h.hasLoser_iff all high_mem enforced.1 rfl).2 dropped)
      split
      · next tie =>
        have low_kept : g.Kept x.low := by
          by_contra dropped
          exact low_stands ((h.hasLoser_iff all low_mem enforced.2 tie.symm).2 dropped)
        exact .inr ⟨x.high, x.low, ⟨high_kept, low_kept, tie, rivals⟩, rfl⟩
      · next apart =>
        have lt : x.low.priority < x.high.priority :=
          Nat.lt_of_le_of_ne order fun same => apart (Priority.rank_inj.1 same.symm)
        apply ih all'
        exact h.demote {
          winner_kept := high_kept
          loser_mem := low_mem
          higher := lt
          rivals := rivals.symm
          foremost := fun e => h.not_goesBefore all low_mem lt low_stands } low_stands

/-! ### What the demotions of a graph are -/

variable {g : ConstraintGraph} {final : List Demotion} {c d : Constraint}

theorem Settled.not_tied (h : Settled g g.rankedConflicts final) : ¬ g.Tied c d := by
  rintro ⟨kept, kept', same, rivals⟩
  have live : Conflict.isLive ⟨c, d⟩ = true ∧ Conflict.isLive ⟨d, c⟩ = true := by
    simp [Conflict.isLive, rivals.1, rivals.2.1]
  rcases mem_rankedConflicts_of_eq kept.mem kept'.mem rivals.2.2 same with ranked | ranked
  · exact h.untied _ ranked live.1 same ⟨kept, kept'⟩
  · exact h.untied _ ranked live.2 same.symm ⟨kept', kept⟩

/-- When all conflicts are settled, no two kept members conflict. -/
theorem Settled.not_rivals (h : Settled g g.rankedConflicts final) (kept : g.Kept c)
    (kept' : g.Kept d) : ¬ c.Rivals d := by
  intro rivals
  rcases Nat.lt_trichotomy c.priority.rank d.priority.rank with lt | same | gt
  · exact kept.not_rivals kept' lt rivals
  · exact h.not_tied ⟨kept, kept', Priority.rank_inj.1 same, rivals⟩
  · exact kept'.not_rivals kept gt rivals.symm

/-- When all conflicts are settled, the enforced members that have lost are those not kept. -/
theorem Settled.hasLoser_final_iff (h : Settled g g.rankedConflicts final) (member : c ∈ g.nodes)
    (enforced : c.isEnforced = true) : Demotion.hasLoser final c.id = true ↔ ¬ g.Kept c := by
  constructor
  · exact h.not_kept_of_hasLoser member
  · intro dropped
    obtain ⟨e, kept, lt, rivals⟩ := exists_kept_of_not_kept member enforced dropped
    exact h.hasLoser_of_done kept lt rivals (mem_rankedConflicts member kept lt rivals)

/-- Settling the conflicts of a graph succeeds unless two members are tied. -/
theorem demotions_eq (g : ConstraintGraph) :
    (∃ final, g.demotions = .ok final ∧ Settled g g.rankedConflicts final) ∨
      ∃ c d, g.Tied c d ∧
        g.demotions = .error (.unresolvableConflict c.id d.id c.priority.name) :=
  settle_settled rfl (Settled.nil g)

theorem settled_of_demotions (h : g.demotions = .ok final) : Settled g g.rankedConflicts final := by
  rcases g.demotions_eq with ⟨found, done, settled⟩ | ⟨_, _, -, failed⟩
  · cases done.symm.trans h
    exact settled
  · cases failed.symm.trans h

end ConstraintGraph

end GuidedDecoding
