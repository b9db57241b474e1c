import GuidedDecoding.Proofs.Constraint.Written
import GuidedDecoding.Proofs.Graph.Members

/-!
# What the fingerprint hashes

Members that make sense by themselves have finite confidences, and finite confidences are written
with all their bits. So the bytes that the fingerprint hashes determine every set whose members make
sense, among all sets (`ConstraintSet.content_eq_iff`). What is no finite number is written as
`null`, so this does not hold of all sets.
-/

namespace GuidedDecoding

namespace Constraint

variable {c : Constraint}

/-- A proper confidence is a finite number. -/
theorem finite_of_fault?_eq_none (valid : c.fault? = none) : Double.biased c.confidence ≠ 2047 := by
  have proper := (fault?_eq_none_iff.1 valid).2.1
  simp only [hasProperConfidence, Bool.and_eq_true, decide_eq_true_eq] at proper
  exact Double.biased_ne_of_le_of_le proper.1 proper.2

end Constraint

namespace ConstraintSet

variable {s t : ConstraintSet}

/-- What is hashed for a set whose members make sense is hashed for no other set: all fields of all
members can be told from it, and all bits of their confidences. -/
theorem content_eq_iff (valid : ∀ c ∈ s.members, c.fault? = none) :
    s.content = t.content ↔ s = t := by
  constructor
  · have finite : ∀ c ∈ s.members, Double.biased c.confidence ≠ 2047 := fun c member =>
      Constraint.finite_of_fault?_eq_none (valid c member)
    exact eq_of_content_eq finite
  · rintro rfl
    rfl

/-- A remark of some confidence, by itself. -/
def oneRemark (confidence : Float) : ConstraintSet where
  members := [{ Constraint.ofAdvice "z" .low "d" with confidence }]
  sorted := by simp

/-- Zeros of either sign are proper confidences that the fingerprint tells apart. -/
theorem content_oneRemark_ne :
    (∀ c ∈ (oneRemark 0.0).members ++ (oneRemark (-0.0)).members, c.fault? = none) ∧
      (oneRemark 0.0).content ≠ (oneRemark (-0.0)).content := by
  have valid : ∀ c ∈ (oneRemark 0.0).members ++ (oneRemark (-0.0)).members, c.fault? = none := by
    decide +kernel
  refine ⟨valid, fun same => ?_⟩
  have sets := (content_eq_iff fun c member => valid c (List.mem_append_left _ member)).1 same
  have confidences := congrArg (fun s => s.members.map fun c => Double.bits c.confidence) sets
  exact absurd confidences (by decide +kernel)

end ConstraintSet

end GuidedDecoding
