import GuidedDecoding.Proofs.Grammar.Lookahead
import GuidedDecoding.Proofs.Grammar.Productive
import Mathlib.Data.Set.Card

/-!
# The searches of a grammar come to an end

Productive rules, what rules can start with and what can follow them are found by loops that make
rounds as long as they change something. Every loop comes to its end on every grammar, also where
rules refer to rules that do not exist, derive nothing or begin with themselves
(`Grammar.searches_stop`). The limits that the searches are run with are never what ends them.

A round that changes something makes one more rule productive, or finds one more fact, which is
about one of the rules and says the end or a character that some terminal begins with. So there are
at most as many of these rounds as there are rules, or such facts, and after them comes one more.
-/

namespace GuidedDecoding

namespace Grammar

variable {g : Grammar}

theorem ncard_beginsTerminal : {c | g.BeginsTerminal c}.ncard = g.firstCharacters.length := by
  have once : g.firstCharacters.Nodup := nodup_append_unseen List.nodup_nil
  have same : {c | g.BeginsTerminal c} = (g.firstCharacters.toFinset : Set Char) := by
    ext c
    simp [mem_firstCharacters]
  rw [same, Set.ncard_coe_finset, List.toFinset_card_of_nodup once]

theorem rounds_eq : g.rounds = g.rules.length * ({c | g.BeginsTerminal c}.ncard + 2) + 1 := by
  rw [rounds, ncard_beginsTerminal]

/-- The searches stop. For productive rules there is at most one round more than there are rules.
For what rules start with and for what follows them there is at most one more than there are rules,
times two more than the characters that terminals begin with. -/
theorem searches_stop (g : Grammar) :
    StopsWithin g.finishedRules (g.rules.length + 1) [] g.productive ∧
    StopsWithin g.furtherStarts (g.rules.length * ({c | g.BeginsTerminal c}.ncard + 2) + 1)
      [] g.starts ∧
    StopsWithin (g.furtherFollows g.starts)
      (g.rules.length * ({c | g.BeginsTerminal c}.ncard + 2) + 1)
      (g.entries.map (·, none)) (g.follows g.starts) := by
  rw [← rounds_eq]
  exact ⟨g.productive_stops, g.starts_stop, g.follows_stop⟩

/-- Every rule needs the one after it, so a round makes only one of them productive. -/
def downhill : Grammar where
  rules :=
    [("a", ⟨[[.rule "b"]], none, ∅⟩), ("b", ⟨[[.rule "c"]], none, ∅⟩),
      ("c", ⟨[[.terminal "x"]], none, ∅⟩)]
  sorted := by rw [Keyed.Sorted]; decide

/-- Productive rules can take all the rounds that they may. -/
example : Settles downhill.finishedRules (downhill.rules.length + 1) [] downhill.productive :=
  .more rfl (.more rfl (.more rfl (.last rfl)))

end Grammar

end GuidedDecoding
