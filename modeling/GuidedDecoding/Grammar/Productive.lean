import GuidedDecoding.Grammar.Basic
import GuidedDecoding.Saturation

/-!
# Productive rules

A rule is productive when it derives some finite text: when some alternative of it refers to
productive rules only. The productive rules are found in rounds over all rules, in which a rule that
is found counts for the rules after it. A round that finds none is the last, so there are at most as
many rounds as rules and one more.
-/

namespace GuidedDecoding

/-- Whether a symbol derives a finite text, if the rules with some names do. -/
def Symbol.isFinished (productive : List String) : Symbol → Bool
  | .terminal _ => true
  | .rule name => productive.contains name

namespace Grammar

/-- The productive rules after a look at one more rule. -/
def noteFinished (productive : List String) (r : String × GrammarRule) : List String :=
  if productive.contains r.1 then productive
  else if r.2.alternatives.any fun symbols => symbols.all (Symbol.isFinished productive) then
    r.1 :: productive
  else productive

/-- A round over all rules. It has changed something if more rules are productive after it. -/
def finishedRules (g : Grammar) (productive : List String) : Round String :=
  let found := g.rules.foldl noteFinished productive
  ⟨found, found.length ≠ productive.length⟩

/-- The names of the productive rules. -/
def productive (g : Grammar) : List String := saturate g.finishedRules (g.rules.length + 1) []

/-- The first rule, by name, that derives no finite text. -/
def unproductive? (g : Grammar) : Option (String × GrammarRule) :=
  let productive := g.productive
  g.rules.find? fun r => !productive.contains r.1

end Grammar

end GuidedDecoding
