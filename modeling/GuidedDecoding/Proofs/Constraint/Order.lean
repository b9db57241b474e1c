import GuidedDecoding.Proofs.Constraint.Records
import GuidedDecoding.Proofs.Constraint.Written

/-!
# Sets that do not depend on the order of their records

A set and its fingerprint depend on which records there are and on nothing else, as long as every
confidence is a number and no two records differ in the sign of a zero confidence only. This is
necessary as well, if there is a set of the records at all and the fingerprint does not confuse two
sets of them (`ConstraintSet.ofRecords_orderFree`).
-/

namespace GuidedDecoding

namespace ConstraintSet

/-- Records with the same members as a list make a set exactly when the list does, and both sets
have one fingerprint. -/
def OrderFree (records : List Constraint) : Prop :=
  ∀ others : List Constraint, (∀ c, c ∈ others ↔ c ∈ records) →
    ((∃ s, ofRecords records = .ok s) ↔ ∃ s, ofRecords others = .ok s) ∧
      ∀ s s', ofRecords records = .ok s → ofRecords others = .ok s' →
        s.fingerprint = s'.fingerprint

/-- Every confidence is a number, and records that are alike but for zero confidences are alike in
the signs of these. -/
structure PlainConfidences (records : List Constraint) : Prop where
  number : ∀ c ∈ records, c.confidence.isNaN = false
  zeros : ∀ c ∈ records, ∀ d ∈ records, Double.IsZero c.confidence → Double.IsZero d.confidence →
    { c with confidence := d.confidence } = d → c = d

/-- The fingerprint tells sets of some records apart by their contents. -/
def HashesApart (records : List Constraint) : Prop :=
  ∀ s s' : ConstraintSet, (∀ c ∈ s.members, c ∈ records) → (∀ c ∈ s'.members, c ∈ records) →
    s.fingerprint = s'.fingerprint → s.content = s'.content

variable {s s' : ConstraintSet} {c d : Constraint} {records others : List Constraint}

theorem PlainConfidences.discerned (h : PlainConfidences records) : Discerned records := by
  intro c hc d hd
  constructor
  · intro same
    by_cases zeros : Double.IsZero c.confidence ∧ Double.IsZero d.confidence
    · exact h.zeros c hc d hd zeros.1 zeros.2 (Constraint.sameAs_iff.1 same).1
    · exact Constraint.eq_of_sameAs same zeros
  · rintro rfl
    exact Constraint.sameAs_self (h.number c hc)

/-- Records that are told apart make the same set in every order. -/
theorem orderFree_of_discerned (discerned : Discerned records) : OrderFree records := by
  intro others same
  have sets : ∀ s, ofRecords others = .ok s ↔ ofRecords records = .ok s := by
    intro s
    rw [ofRecords_eq_ok_iff discerned, ofRecords_eq_ok_iff (discerned.of_mem_iff same)]
    simp only [same]
  refine ⟨exists_congr fun s => (sets s).symm, fun s s' made made' => ?_⟩
  rw [(sets s').1 made'] at made
  cases made
  rfl

/-- The first of some records is a member of the set they make. -/
theorem mem_of_ofRecords_cons (h : ofRecords (c :: records) = .ok s) : c ∈ s.members := by
  obtain ⟨middle, first, rest⟩ := insertAll_cons_eq_ok_iff.1 h
  rcases insert_eq_ok_iff.1 first with ⟨-, d, none_there, -⟩ | ⟨-, members⟩
  · cases none_there
  · exact (members_of_insertAll rest).1 c ((members c).2 (.inl rfl))

theorem mem_of_ofRecords (h : ofRecords records = .ok s) : ∀ c ∈ s.members, c ∈ records :=
  fun c member => ((members_of_insertAll h).2 c member).resolve_left List.not_mem_nil

/-- A record that differs from itself cannot be repeated. -/
theorem sameAs_self_of_ofRecords (h : ofRecords (c :: c :: records) = .ok s) :
    c.sameAs c = true := by
  obtain ⟨middle, first, rest⟩ := insertAll_cons_eq_ok_iff.1 h
  obtain ⟨next, second, -⟩ := insertAll_cons_eq_ok_iff.1 rest
  rcases insert_eq_ok_iff.1 first with ⟨-, d, none_there, -⟩ | ⟨-, members⟩
  · cases none_there
  · rcases insert_eq_ok_iff.1 second with ⟨-, d, member, same⟩ | ⟨new, -⟩
    · obtain rfl := ((members d).1 member).resolve_right List.not_mem_nil
      exact same
    · exact absurd (List.mem_map.2 ⟨c, (members c).2 (.inl rfl), rfl⟩) new

/-- Where the order makes no difference and some order makes a set, confidences are plain. -/
theorem PlainConfidences.of_orderFree (free : OrderFree records) (made : ofRecords records = .ok s)
    (apart : HashesApart records) : PlainConfidences records := by
  have inFront : ∀ c ∈ records, ∃ s, ofRecords (c :: records) = .ok s := by
    intro c member
    exact (free (c :: records) (by simp [member])).1.1 ⟨s, made⟩
  constructor
  · intro c member
    obtain ⟨s', twice⟩ := (free (c :: c :: records) (by simp [member])).1.1 ⟨s, made⟩
    have itself := (Constraint.sameAs_iff.1 (sameAs_self_of_ofRecords twice)).2
    rcases Double.beq_iff.1 itself with ⟨-, number⟩ | ⟨zero, -⟩
    · exact number
    · rw [← Bool.not_eq_true, Double.isNaN_eq_true_iff, zero.1]
      simp
  · intro c hc d hd zero zero' alike
    obtain ⟨s₁, first⟩ := inFront c hc
    obtain ⟨s₂, second⟩ := inFront d hd
    have inRecords : ∀ {e s}, e ∈ records → ofRecords (e :: records) = .ok s →
        ∀ x ∈ s.members, x ∈ records := by
      intro e s member ofThese x hx
      rcases List.mem_cons.1 (mem_of_ofRecords ofThese x hx) with rfl | there
      · exact member
      · exact there
    have fingerprints : s₁.fingerprint = s₂.fingerprint :=
      ((free _ (by simp [hc])).2 s s₁ made first).symm.trans
        ((free _ (by simp [hd])).2 s s₂ made second)
    have contents := apart s₁ s₂ (inRecords hc first) (inRecords hd second) fingerprints
    have written : c.toJson ∈ s₂.members.map Constraint.toJson := by
      rw [← map_toJson_eq_of_content_eq contents]
      exact List.mem_map_of_mem (mem_of_ofRecords_cons first)
    obtain ⟨e, member, same⟩ := List.mem_map.1 written
    have finite : Double.biased c.confidence ≠ 2047 := by
      rw [zero.1]
      decide
    obtain rfl := Constraint.toJson_inj finite same.symm
    have ids : c.id = d.id := by rw [← alike]
    exact eq_of_id_eq member (mem_of_ofRecords_cons second) ids

/-- If confidences are plain, neither order nor repetition makes a difference to the set of some
records. This is necessary as well, if the records make a set and fingerprints tell their sets
apart. -/
theorem ofRecords_orderFree (records : List Constraint) :
    (PlainConfidences records → OrderFree records) ∧
    ((∃ s, ofRecords records = .ok s) → HashesApart records →
      OrderFree records → PlainConfidences records) := by
  constructor
  · intro plain
    exact orderFree_of_discerned plain.discerned
  · rintro ⟨s, made⟩ apart free
    exact .of_orderFree free made apart

/-- Two remarks of full confidence. -/
def twoRemarks : List Constraint := [.ofAdvice "a" .low "b", .ofAdvice "c" .low "d"]

/-- One remark with zeros of either sign for a confidence. -/
def signedZeros : List Constraint :=
  [{ Constraint.ofAdvice "z" .low "d" with confidence := 0.0 },
    { Constraint.ofAdvice "z" .low "d" with confidence := -0.0 }]

theorem plainConfidences_twoRemarks : PlainConfidences twoRemarks := by
  have confidences : ∀ c ∈ twoRemarks, c.confidence = 1.0 := by
    simp [twoRemarks, Constraint.ofAdvice]
  have one : (1.0 : Float).isNaN = false ∧ Double.biased 1.0 ≠ 0 := by decide +kernel
  constructor
  · intro c member
    rw [confidences c member]
    exact one.1
  · intro c member _ _ zero
    rw [confidences c member] at zero
    exact absurd zero.1 one.2

theorem not_plainConfidences_signedZeros : ¬ PlainConfidences signedZeros := by
  intro plain
  have zeros : (Double.biased 0.0 = 0 ∧ Double.fraction 0.0 = 0) ∧
      Double.biased (-0.0) = 0 ∧ Double.fraction (-0.0) = 0 := by decide +kernel
  have same := plain.zeros _ List.mem_cons_self _ (List.mem_cons_of_mem _ List.mem_cons_self)
    zeros.1 zeros.2 rfl
  have bits : Double.bits 0.0 = Double.bits (-0.0) :=
    congrArg (fun c => Double.bits c.confidence) same
  exact absurd bits (by decide +kernel)

/-- The bytes that are hashed for sets of some members. -/
def contentOf (members : List Constraint) : List UInt8 :=
  Fingerprint.utf8 contentTag ++ recordBytes members

set_option maxRecDepth 100000 in
theorem nodup_hashes_signedZeros :
    (([] :: signedZeros.map fun c => [c]).map fun members =>
      Blake3.hash (contentOf members)).Nodup := by
  decide +kernel

theorem hashesApart_signedZeros : HashesApart signedZeros := by
  have atMostOne : ∀ s : ConstraintSet, (∀ c ∈ s.members, c ∈ signedZeros) →
      s.members ∈ [] :: signedZeros.map fun c => [c] := by
    intro s within
    have ids : ∀ c ∈ signedZeros, c.id = "z" := by simp [signedZeros, Constraint.ofAdvice]
    rcases hs : s.members with _ | ⟨c, _ | ⟨d, rest⟩⟩
    · exact List.mem_cons_self
    · have member := within c (by simp [hs])
      exact List.mem_cons_of_mem _ (List.mem_map.2 ⟨c, member, rfl⟩)
    · have sorted := s.sorted
      rw [hs] at sorted
      have less := List.rel_of_pairwise_cons sorted List.mem_cons_self
      rw [ids c (within c (by simp [hs])), ids d (within d (by simp [hs]))] at less
      exact absurd less (String.lt_irrefl _)
  intro s s' within within' same
  have members := List.inj_on_of_nodup_map nodup_hashes_signedZeros (atMostOne s within)
    (atMostOne s' within') (Fingerprint.ofContent_eq_iff.1 same)
  exact congrArg contentOf members

theorem orderFree_twoRemarks_not_signedZeros :
    OrderFree twoRemarks ∧ (∃ s, ofRecords signedZeros = .ok s) ∧ HashesApart signedZeros ∧
      ¬ OrderFree signedZeros := by
  have made : ∃ s, ofRecords signedZeros = .ok s := by
    refine exists_insertAll ?_
    decide +kernel
  refine ⟨(ofRecords_orderFree twoRemarks).1 plainConfidences_twoRemarks, made,
    hashesApart_signedZeros, fun free => not_plainConfidences_signedZeros ?_⟩
  exact (ofRecords_orderFree signedZeros).2 made hashesApart_signedZeros free

end ConstraintSet

end GuidedDecoding
