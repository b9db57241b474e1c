import GuidedDecoding.Proofs.Decimal.Double
import GuidedDecoding.Proofs.Graph.Members
import GuidedDecoding.Proofs.Outcome

/-!
# Records in whatever order

Records are compared before they are taken as the same, and confidences are compared as numbers
then. As long as that comparison tells the records of a list apart, the set of the list depends
on nothing but which records there are: neither on their order nor on how often they stand there.

The comparison fails to tell records apart in two cases. What is not a number differs from itself,
so a record with such a confidence clashes with its own repetition. The two zeros are equal, so of
two records that differ in the sign of a zero confidence the first is kept.
-/

namespace GuidedDecoding

namespace Constraint

variable {c d e : Constraint}

/-- Records say the same when they differ at most in confidences that are equal as numbers. -/
theorem sameAs_iff :
    c.sameAs d = true ↔
      { c with confidence := d.confidence } = d ∧ (c.confidence == d.confidence) = true := by
  cases c
  cases d
  simp only [sameAs, Bool.and_eq_true, decide_eq_true_eq, Constraint.mk.injEq]
  tauto

theorem id_eq_of_sameAs (same : c.sameAs d = true) : c.id = d.id := by
  have rest := (sameAs_iff.1 same).1
  rw [← rest]

theorem sameAs_self (number : c.confidence.isNaN = false) : c.sameAs c = true :=
  sameAs_iff.2 ⟨rfl, Double.beq_iff.2 (.inl ⟨rfl, number⟩)⟩

theorem eq_of_sameAs (same : c.sameAs d = true)
    (notZeros : ¬ (Double.IsZero c.confidence ∧ Double.IsZero d.confidence)) : c = d := by
  obtain ⟨rest, equal⟩ := sameAs_iff.1 same
  rcases Double.beq_iff.1 equal with ⟨confidence, -⟩ | zeros
  · rw [← rest, ← confidence]
  · exact absurd zeros notZeros

end Constraint

namespace ConstraintSet

/-- The comparison of records tells exactly whether two of a list are the same. -/
def Discerned (records : List Constraint) : Prop :=
  ∀ c ∈ records, ∀ d ∈ records, c.sameAs d = true ↔ c = d

variable {s s' : ConstraintSet} {c d : Constraint} {records others : List Constraint}

/-- Sets with the same members are the same. -/
theorem ext_members (same : ∀ c, c ∈ s.members ↔ c ∈ s'.members) : s = s' := by
  obtain ⟨l, sorted⟩ := s
  obtain ⟨l', sorted'⟩ := s'
  have perm : l.Perm l' :=
    (List.perm_ext_iff_of_nodup (List.Nodup.of_map _ (nodup_ids ⟨l, sorted⟩))
      (List.Nodup.of_map _ (nodup_ids ⟨l', sorted'⟩))).2 same
  have lists : l = l' := by
    refine perm.eq_of_pairwise ?_ (List.pairwise_map.1 sorted) (List.pairwise_map.1 sorted')
    intro a b _ _ lt gt
    exact absurd (String.lt_trans lt gt) (String.lt_irrefl _)
  subst lists
  rfl

theorem mem_place {l : List Constraint} (new : ¬ c.id ∈ l.map Constraint.id) :
    d ∈ place c l ↔ d = c ∨ d ∈ l := by
  induction l with
  | nil => simp [place]
  | cons e rest ih =>
    rw [List.map_cons, List.mem_cons, not_or] at new
    simp only [place]
    split
    · exact List.mem_cons
    · rw [if_neg new.1, List.mem_cons, ih new.2, List.mem_cons, or_left_comm]

theorem get?_eq_none_iff {id : String} : s.get? id = none ↔ ¬ id ∈ s.ids := by
  rw [← contains_iff, contains, Bool.not_eq_true, Option.isSome_eq_false_iff,
    Option.isNone_iff_eq_none]

/-- A record is put in, unless one that says the same is there. -/
theorem insert_eq_ok_iff :
    (s.insert c).map Prod.fst = .ok s' ↔
      (s' = s ∧ ∃ d ∈ s.members, d.sameAs c = true) ∨
        (¬ c.id ∈ s.ids ∧ ∀ d, d ∈ s'.members ↔ d = c ∨ d ∈ s.members) := by
  simp only [insert]
  split
  · next d found =>
    obtain ⟨member, sameId⟩ := get?_eq_some_iff.1 found
    have known : c.id ∈ s.ids := List.mem_map.2 ⟨d, member, sameId⟩
    have only : (∃ d ∈ s.members, d.sameAs c = true) ↔ d.sameAs c = true := by
      constructor
      · rintro ⟨e, inSet, same⟩
        have sameId' := Constraint.id_eq_of_sameAs same
        rwa [eq_of_id_eq member inSet (sameId.trans sameId'.symm)]
      · intro same
        exact ⟨d, member, same⟩
    rw [only]
    split
    · next same => simp [Except.map, known, same, eq_comm]
    · next differ => simp [Except.map, known, differ]
  · next absent =>
    have new : ¬ c.id ∈ s.ids := get?_eq_none_iff.1 absent
    have notThere : ¬ ∃ d ∈ s.members, d.sameAs c = true := by
      rintro ⟨d, member, same⟩
      exact new (List.mem_map.2 ⟨d, member, Constraint.id_eq_of_sameAs same⟩)
    simp only [Except.map, Except.ok.injEq, new, notThere, not_false_iff, true_and, and_false,
      false_or]
    constructor
    · rintro rfl d
      exact mem_place new
    · intro members
      apply ext_members
      intro d
      rw [members]
      exact mem_place new

/-- Put records in one after the other. -/
def insertAll (records : List Constraint) (s : ConstraintSet) : Except CompileError ConstraintSet :=
  records.foldlM (fun s c => (s.insert c).map Prod.fst) s

theorem insertAll_cons_eq_ok_iff :
    insertAll (c :: records) s = .ok s' ↔
      ∃ middle, (s.insert c).map Prod.fst = .ok middle ∧ insertAll records middle = .ok s' := by
  rw [insertAll, List.foldlM_cons, Outcome.bind_eq_ok_iff]
  rfl

/-- Members stay, and whatever comes in is a record. -/
theorem members_of_insertAll (h : insertAll records s = .ok s') :
    (∀ d ∈ s.members, d ∈ s'.members) ∧ ∀ d ∈ s'.members, d ∈ s.members ∨ d ∈ records := by
  induction records generalizing s with
  | nil =>
    cases h
    exact ⟨fun _ member => member, fun _ member => .inl member⟩
  | cons c rest ih =>
    obtain ⟨middle, first, others⟩ := insertAll_cons_eq_ok_iff.1 h
    obtain ⟨stays, comes⟩ := ih others
    rcases insert_eq_ok_iff.1 first with ⟨rfl, -⟩ | ⟨-, members⟩
    · refine ⟨stays, fun d member => ?_⟩
      exact (comes d member).imp_right (List.mem_cons_of_mem _)
    · constructor
      · intro d member
        exact stays d ((members d).2 (.inr member))
      · intro d member
        rcases comes d member with before | later
        · rcases (members d).1 before with rfl | old
          · exact .inr List.mem_cons_self
          · exact .inl old
        · exact .inr (List.mem_cons_of_mem _ later)

/-- Every record is a member or says the same as one. -/
theorem exists_member_of_insertAll (h : insertAll records s = .ok s') :
    ∀ c ∈ records, ∃ d ∈ s'.members, d = c ∨ d.sameAs c = true := by
  induction records generalizing s with
  | nil => exact fun _ member => absurd member List.not_mem_nil
  | cons c rest ih =>
    obtain ⟨middle, first, others⟩ := insertAll_cons_eq_ok_iff.1 h
    have stays := (members_of_insertAll others).1
    have here : ∃ d ∈ s'.members, d = c ∨ d.sameAs c = true := by
      rcases insert_eq_ok_iff.1 first with ⟨rfl, d, member, same⟩ | ⟨-, members⟩
      · exact ⟨d, stays d member, .inr same⟩
      · exact ⟨c, stays c ((members c).2 (.inl rfl)), .inl rfl⟩
    exact List.forall_mem_cons.2 ⟨here, ih others⟩

/-- Records of one id that all say the same make a set. -/
theorem exists_insertAll
    (agree : ∀ c ∈ s.members ++ records, ∀ d ∈ s.members ++ records, c.id = d.id →
      c.sameAs d = true) :
    ∃ s', insertAll records s = .ok s' := by
  induction records generalizing s with
  | nil => exact ⟨s, rfl⟩
  | cons c rest ih =>
    have inList : c ∈ s.members ++ c :: rest := List.mem_append_right _ List.mem_cons_self
    obtain ⟨middle, first, within⟩ : ∃ middle, (s.insert c).map Prod.fst = .ok middle ∧
        ∀ d ∈ middle.members, d ∈ s.members ++ c :: rest := by
      by_cases known : c.id ∈ s.ids
      · obtain ⟨d, member, sameId⟩ := List.mem_map.1 known
        have there : d ∈ s.members ++ c :: rest := List.mem_append_left _ member
        refine ⟨s, insert_eq_ok_iff.2 (.inl ⟨rfl, d, member, agree d there c inList sameId⟩), ?_⟩
        exact fun e inSet => List.mem_append_left _ inSet
      · refine ⟨⟨place c s.members, sorted_place s.sorted⟩, ?_, ?_⟩
        · exact insert_eq_ok_iff.2 (.inr ⟨known, fun d => mem_place known⟩)
        · intro d member
          rcases (mem_place known).1 member with rfl | old
          · exact inList
          · exact List.mem_append_left _ old
    have smaller : ∀ d ∈ middle.members ++ rest, d ∈ s.members ++ c :: rest := by
      intro d member
      rcases List.mem_append.1 member with before | later
      · exact within d before
      · exact List.mem_append_right _ (List.mem_cons_of_mem _ later)
    obtain ⟨s', others⟩ := ih fun d hd e he => agree d (smaller d hd) e (smaller e he)
    exact ⟨s', insertAll_cons_eq_ok_iff.2 ⟨middle, first, others⟩⟩

theorem Discerned.of_mem_iff (h : Discerned records) (same : ∀ c, c ∈ others ↔ c ∈ records) :
    Discerned others :=
  fun c hc d hd => h c ((same c).1 hc) d ((same d).1 hd)

/-- Records that are told apart make a set exactly when no two of them have one id, and its members
are the records. -/
theorem ofRecords_eq_ok_iff (discerned : Discerned records) :
    ofRecords records = .ok s ↔
      (∀ c ∈ records, ∀ d ∈ records, c.id = d.id → c = d) ∧
        ∀ c, c ∈ s.members ↔ c ∈ records := by
  have members : ∀ {s}, insertAll records empty = .ok s → ∀ c, c ∈ s.members ↔ c ∈ records := by
    intro s h c
    constructor
    · intro member
      exact ((members_of_insertAll h).2 c member).resolve_left List.not_mem_nil
    · intro record
      obtain ⟨d, member, rfl | same⟩ := exists_member_of_insertAll h c record
      · exact member
      · have inRecords := ((members_of_insertAll h).2 d member).resolve_left List.not_mem_nil
        rwa [← (discerned d inRecords c record).1 same]
  constructor
  · intro h
    refine ⟨fun c hc d hd sameId => ?_, members h⟩
    exact eq_of_id_eq ((members h c).2 hc) ((members h d).2 hd) sameId
  · rintro ⟨unique, exact⟩
    have agree : ∀ c ∈ records, ∀ d ∈ records, c.id = d.id → c.sameAs d = true :=
      fun c hc d hd sameId => (discerned c hc d hd).2 (unique c hc d hd sameId)
    obtain ⟨s', made⟩ := exists_insertAll (s := empty) agree
    have same : s' = s := ext_members fun c => by rw [members made c, exact c]
    exact same ▸ made

end ConstraintSet

end GuidedDecoding
