import GuidedDecoding.Grammar.Ambiguity
import GuidedDecoding.Grammar.Productive

/-!
# Compiling productions

The productions of all grammar constraints are merged into one grammar. It is accepted when every
rule that is referred to exists, every rule derives a finite text, and the next character always
decides which alternative to take.
-/

namespace GuidedDecoding

namespace MergedRules

/-- The first rule, by name, that derives no finite text, blamed on the smallest of its sources. -/
def unproductive? (m : MergedRules) : Option CompileError :=
  m.toGrammar.unproductive?.map fun (name, rule) =>
    .invalidConstraint (rule.sources.toList.headD name)
      s!"rule `{name}` never derives a finite string"

/-- Why the rules are no grammar to decode by. -/
def fault? (m : MergedRules) : Option CompileError :=
  m.undefined? <|> m.unproductive? <|> m.ambiguous?

end MergedRules

namespace Grammar

/-- The grammar of constraints that are productions. -/
def ofProductions (constraints : List Constraint) : Except CompileError Grammar := do
  let merged ← MergedRules.ofConstraints constraints
  match merged.fault? with
  | some e => throw e
  | none => return merged.toGrammar

/-- The grammar of the constraints that are enforced by one, if there are any. -/
def ofConstraints (constraints : List Constraint) : Except CompileError (Option Grammar) :=
  match constraints.filter fun c => c.enforcement = .grammar with
  | [] => .ok none
  | targeted => (ofProductions targeted).map some

end Grammar

end GuidedDecoding
