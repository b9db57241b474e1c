import GuidedDecoding.Error.Compile

/-!
# Whom an error blames

An error that comes up while something is compiled blames somebody, and nobody but those that what
is compiled comes from. Only the graph of a set speaks of references, so no such error is about one.
-/

namespace GuidedDecoding

namespace CompileError

/-- The error blames somebody, each of them is one of certain constraints, and it is not about a
reference. -/
structure Concerns (e : CompileError) (p : String → Prop) : Prop where
  named : e.ids ≠ []
  within : ∀ id ∈ e.ids, p id
  inside : ∀ id missing, e ≠ .danglingReference id missing

variable {p q : String → Prop} {e : CompileError} {id : String}

theorem Concerns.mono (h : e.Concerns p) (wider : ∀ id, p id → q id) : e.Concerns q :=
  ⟨h.named, fun id listed => wider id (h.within id listed), h.inside⟩

theorem concerns_invalidConstraint {reason : String} (h : p id) :
    (invalidConstraint id reason).Concerns p :=
  ⟨List.cons_ne_nil _ _, fun _ listed => List.mem_singleton.1 listed ▸ h, by simp⟩

theorem concerns_invalidPattern {pattern reason : String} (h : p id) :
    (invalidPattern id pattern reason).Concerns p :=
  ⟨List.cons_ne_nil _ _, fun _ listed => List.mem_singleton.1 listed ▸ h, by simp⟩

theorem concerns_inconsistent {ids : List String} {reason : String} (blamed : ∃ id, id ∈ ids)
    (each : ∀ id ∈ ids, p id) : (inconsistent ids reason).Concerns p := by
  obtain ⟨id, listed⟩ := blamed
  exact ⟨List.ne_nil_of_mem listed, each, by simp⟩

end CompileError

end GuidedDecoding
