import GuidedDecoding.Grammar.Basic
import GuidedDecoding.Saturation

/-!
# One character of lookahead

What a rule can start with is a set of characters, and the end of the text if it derives the empty
text. What can follow a rule is a set of characters, and the end of the text. Both are kept as lists
of facts about names, `none` being the end, and are found in rounds until a round finds nothing new.

A fact is about one of the rules and says a first character of some terminal or the end, which
bounds the number of rounds.
-/

namespace GuidedDecoding

/-- A name with something that may come next. -/
abbrev LookaheadFact := String × Option Char

namespace Grammar

/-- What is known about a name. -/
def factsAbout (name : String) (known : List LookaheadFact) : List (Option Char) :=
  (known.filter fun fact => fact.1 = name).map Prod.snd

/-- What symbols can start with, if rules start with what is known; with the end if all of them
can derive the empty text. -/
def startsOf (known : List LookaheadFact) : List Symbol → List (Option Char)
  | [] => [none]
  | .terminal text :: _ => text.toList.head?.toList.map some
  | .rule name :: rest =>
    let starts := factsAbout name known
    if none ∈ starts then starts.filter Option.isSome ++ startsOf known rest else starts

/-- The alternatives of all rules, each with the name of its rule. -/
def alternatives (g : Grammar) : List (String × List Symbol) :=
  g.rules.flatMap fun r => r.2.alternatives.map (r.1, ·)

/-- What a rule can start with because of one of its alternatives. -/
def startsBy (alternative : String × List Symbol) (known : List LookaheadFact) :
    List LookaheadFact :=
  (startsOf known alternative.2).map (alternative.1, ·)

/-- A round over all alternatives that looks for what rules can start with. -/
def furtherStarts (g : Grammar) (known : List LookaheadFact) : Round LookaheadFact :=
  sweep startsBy g.alternatives known

/-- The characters that some terminal begins with, each once. -/
def firstCharacters (g : Grammar) : List Char :=
  unseen [] (g.rules.flatMap fun r => r.2.terminals.filterMap fun text => text.toList.head?)

/-- After so many rounds nothing new can be found. -/
def rounds (g : Grammar) : Nat := g.rules.length * (g.firstCharacters.length + 2) + 1

/-- What every rule can start with. -/
def starts (g : Grammar) : List LookaheadFact := saturate g.furtherStarts g.rounds []

/-- A place where a rule refers to another one, or to itself, and the symbols behind it. -/
structure Reference where
  origin : String
  target : String
  behind : List Symbol

/-- The references in an alternative of a rule, or in a last part of one. -/
def referencesIn (origin : String) : List Symbol → List Reference
  | [] => []
  | .terminal _ :: rest => referencesIn origin rest
  | .rule target :: rest => ⟨origin, target, rest⟩ :: referencesIn origin rest

/-- The references in all alternatives. -/
def references (g : Grammar) : List Reference :=
  g.alternatives.flatMap fun a => referencesIn a.1 a.2

/-- What comes in front of some symbols is followed by what they start with, and by what follows
them all if they can derive the empty text. -/
def nextBefore (starts : List LookaheadFact) (after : List (Option Char)) (behind : List Symbol) :
    List (Option Char) :=
  let next := startsOf starts behind
  next.filter Option.isSome ++ if none ∈ next then after else []

/-- What follows a rule, if the grammar has it, because of a reference to it. -/
def followsBy (g : Grammar) (starts : List LookaheadFact) (r : Reference)
    (known : List LookaheadFact) : List LookaheadFact :=
  if Keyed.has r.target g.rules then
    (nextBefore starts (factsAbout r.origin known) r.behind).map (r.target, ·)
  else []

/-- A round over all references that looks for what can follow rules. -/
def furtherFollows (g : Grammar) (starts known : List LookaheadFact) : Round LookaheadFact :=
  sweep (g.followsBy starts) g.references known

/-- The rules that a text may end with: those that no other rule refers to and those that generate
a field, or all rules if there is none of these. -/
def entries (g : Grammar) : List String :=
  let some := (g.rules.filter fun r => !g.isReferenced r.1 || r.2.field.isSome).map Prod.fst
  if some.isEmpty then g.rules.map Prod.fst else some

/-- What can follow every rule. -/
def follows (g : Grammar) (starts : List LookaheadFact) : List LookaheadFact :=
  saturate (g.furtherFollows starts) g.rounds (g.entries.map (·, none))

end Grammar

end GuidedDecoding
