import GuidedDecoding.Artifact.Consistency
import GuidedDecoding.Config.Basic
import GuidedDecoding.Grammar.Compile
import GuidedDecoding.Graph.Resolution
import GuidedDecoding.Pattern.Compile
import GuidedDecoding.Schema.Merge
import GuidedDecoding.TokenMask.Compile

/-!
# Compiling a set of constraints

A set is resolved as a graph, the constraints that stay enforced are compiled into one fragment per
representation, and the fragments are put together if they fit. The result depends on the set and
the limits of the compiler alone.
-/

namespace GuidedDecoding

variable [RegexLibrary]

/-- The fragments of constraints in order. -/
def Fragments.ofConstraints (config : CompilerConfig) (constraints : List Constraint) :
    Except CompileError Fragments := do
  let schema ← Schema.ofConstraints constraints
  let grammar ← Grammar.ofConstraints constraints
  let patterns ← PatternSet.ofConstraints config.effectiveSizeLimit constraints
  let mask ← TokenMask.ofConstraints constraints
  return { schema, grammar, patterns, mask }

/-- The fragments as an artifact, if they fit together. -/
def Artifact.assemble (config : CompilerConfig) (fragments : Fragments) (resolved : Resolution)
    (source : Fingerprint) : Except CompileError Artifact :=
  match fragments.fault? config.effectiveExpansion with
  | some e => .error e
  | none =>
    .ok { toFragments := fragments, advisory := resolved.advisory, notes := resolved.notes, source }

namespace ConstraintSet

/-- Compile a set. -/
def compile (config : CompilerConfig) (set : ConstraintSet) : Except CompileError Artifact := do
  let graph ← ConstraintGraph.build set
  let resolved ← Resolution.ofGraph graph
  let fragments ← Fragments.ofConstraints config resolved.ordered
  Artifact.assemble config fragments resolved set.fingerprint

end ConstraintSet

end GuidedDecoding
