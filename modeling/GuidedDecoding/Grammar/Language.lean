import GuidedDecoding.Grammar.Basic

/-!
# Finite languages

`Grammar.finiteLanguage` lists the strings that a rule derives, if the rule is not recursive and
there are not more of them than a limit. Each rule on the way down is expanded at most once per
path, so the depth of the expansion is bounded by the number of rules.
-/

namespace GuidedDecoding

/-- A set with some more members, unless it outgrows the limit on the way. -/
def NameSet.insertWithin (limit : Nat) : List String → NameSet → Option NameSet
  | [], s => some s
  | x :: rest, s =>
    let grown := s.insert x
    if grown.toList.length ≤ limit then insertWithin limit rest grown else none

/-- Every string of the first set followed by every string of the second. -/
def NameSet.followedBy (heads tails : NameSet) : List String :=
  heads.toList.flatMap fun head => tails.toList.map fun tail => head ++ tail

namespace Grammar

/-- The strings that symbols derive after what was derived before them. -/
def sequenceLanguage (limit : Nat) (languageOf : String → Option NameSet) :
    List Symbol → NameSet → Option NameSet
  | [], derived => some derived
  | symbol :: rest, derived => do
    let pieces ←
      match symbol with
      | .terminal text => some (NameSet.singleton text)
      | .rule name => languageOf name
    sequenceLanguage limit languageOf rest
      (← NameSet.insertWithin limit (derived.followedBy pieces) ∅)

/-- The strings that alternatives derive, added to those of earlier alternatives. -/
def choiceLanguage (limit : Nat) (languageOf : String → Option NameSet) :
    List (List Symbol) → NameSet → Option NameSet
  | [], derived => some derived
  | alternative :: rest, derived => do
    let strings ← sequenceLanguage limit languageOf alternative (.singleton "")
    let both := derived.union strings
    if both.toList.length ≤ limit then choiceLanguage limit languageOf rest both else none

/-- The strings that a rule derives without coming back to a rule that is being expanded. -/
def expand (g : Grammar) (limit : Nat) : Nat → List String → String → Option NameSet
  | 0, _, _ => none
  | depth + 1, expanding, name =>
    if expanding.contains name then none
    else do
      let rule ← g.rule? name
      choiceLanguage limit (g.expand limit depth (name :: expanding)) rule.alternatives ∅

/-- All strings that a rule derives, if it is not recursive and they are not more than `limit`. -/
def finiteLanguage (g : Grammar) (name : String) (limit : Nat) : Option NameSet :=
  g.expand limit (g.rules.length + 1) [] name

end Grammar

end GuidedDecoding
