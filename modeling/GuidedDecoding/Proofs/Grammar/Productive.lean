import GuidedDecoding.Grammar.Productive
import GuidedDecoding.Proofs.Grammar.ParseTree
import GuidedDecoding.Proofs.Keyed
import GuidedDecoding.Proofs.Saturation

/-!
# Productive rules derive texts

Every rule that the search finds derives some text, since each look only adds a rule with an
alternative made of terminals and of rules that were found before, be it in an earlier round or in
the same one. There are as many rounds as rules and one more, so the search ends with nothing new to
find, and a rule with a parse tree is found after the rules inside the tree.

The first rule by name that the search has not found is then the first that derives nothing.
-/

namespace GuidedDecoding

namespace Grammar

variable {g : Grammar}

theorem exists_derives_of_isFinished {finished : List String}
    (derive : ∀ name ∈ finished, ∃ text, g.Derives [.rule name] text) {symbols : List Symbol}
    (all : symbols.all (Symbol.isFinished finished) = true) : ∃ text, g.Derives symbols text := by
  induction symbols with
  | nil => exact ⟨"", derives_nil.2 rfl⟩
  | cons s rest ih =>
    rw [List.all_cons, Bool.and_eq_true] at all
    obtain ⟨others, derived⟩ := ih all.2
    cases s with
    | terminal text => exact ⟨_, derives_terminal_cons.2 ⟨others, derived, rfl⟩⟩
    | rule name =>
      have known : name ∈ finished := by simpa [Symbol.isFinished] using all.1
      obtain ⟨piece, found⟩ := derive name known
      exact ⟨_, derives_rule_cons.2 ⟨piece, others, found, derived, rfl⟩⟩

/-- What holds of the known rules and of any rule that is finished by such rules holds of all that a
round knows. -/
theorem foldl_noteFinished_induction {p : String → Prop} {rules : List (String × GrammarRule)}
    {known : List String} (start : ∀ name ∈ known, p name)
    (keeps : ∀ r ∈ rules, ∀ known, (∀ name ∈ known, p name) → ∀ symbols ∈ r.2.alternatives,
      symbols.all (Symbol.isFinished known) = true → p r.1) :
    ∀ name ∈ rules.foldl noteFinished known, p name := by
  induction rules generalizing known with
  | nil => exact start
  | cons r rest ih =>
    refine ih ?_ fun r' member => keeps r' (List.mem_cons_of_mem r member)
    unfold noteFinished
    split
    · exact start
    · split
      · next finished =>
        obtain ⟨symbols, alternative, all⟩ := List.any_eq_true.1 finished
        have holds : p r.1 := keeps r List.mem_cons_self known start symbols alternative all
        exact List.forall_mem_cons.2 ⟨holds, start⟩
      · exact start

theorem exists_derives_of_productive {name : String} (h : name ∈ g.productive) :
    ∃ text, g.Derives [.rule name] text := by
  refine saturate_induction (p := fun name => ∃ text, g.Derives [.rule name] text) ?_ (by simp)
    name h
  intro known derive
  refine foldl_noteFinished_induction derive fun r listed known derive symbols alternative all => ?_
  obtain ⟨text, derived⟩ := exists_derives_of_isFinished derive all
  have found : g.rule? r.1 = some r.2 := Keyed.get?_of_mem g.sorted listed
  exact ⟨text, derives_rule.2 ⟨r.2, found, symbols, alternative, derived⟩⟩

theorem exists_derives_of_unproductive?_eq_none (h : g.unproductive? = none) {name : String}
    (declared : name ∈ Keyed.names g.rules) : ∃ text, g.Derives [.rule name] text := by
  obtain ⟨r, member, rfl⟩ := List.mem_map.1 declared
  have found := List.find?_eq_none.1 h r member
  exact exists_derives_of_productive (by simpa using found)

/-! ### Rules that derive texts are found -/

theorem noteFinished_eq (known : List String) (r : String × GrammarRule) :
    noteFinished known r = known ∨ ¬ r.1 ∈ known ∧ noteFinished known r = r.1 :: known := by
  unfold noteFinished
  split
  · exact .inl rfl
  · next new =>
    split
    · exact .inr ⟨by simpa using new, rfl⟩
    · exact .inl rfl

theorem suffix_noteFinished {known : List String} {r : String × GrammarRule} :
    known <:+ noteFinished known r := by
  rcases noteFinished_eq known r with same | ⟨-, more⟩
  · simp only [same, List.suffix_refl]
  · rw [more]
    exact List.suffix_cons r.1 known

theorem nodup_noteFinished {known : List String} {r : String × GrammarRule}
    (once : known.Nodup) : (noteFinished known r).Nodup := by
  rcases noteFinished_eq known r with same | ⟨new, more⟩
  · rwa [same]
  · rw [more]
    exact List.nodup_cons.2 ⟨new, once⟩

theorem mem_noteFinished {known : List String} {r : String × GrammarRule} {symbols : List Symbol}
    (alternative : symbols ∈ r.2.alternatives)
    (all : symbols.all (Symbol.isFinished known) = true) : r.1 ∈ noteFinished known r := by
  unfold noteFinished
  split
  · next found => simpa using found
  · rw [if_pos (List.any_eq_true.2 ⟨symbols, alternative, all⟩)]
    exact List.mem_cons_self

theorem suffix_foldl_noteFinished {rules : List (String × GrammarRule)} {known : List String} :
    known <:+ rules.foldl noteFinished known := by
  induction rules generalizing known with
  | nil => exact List.suffix_refl known
  | cons r rest ih => exact suffix_noteFinished.trans ih

theorem all_isFinished_mono {known more : List String} (subset : known ⊆ more)
    {symbols : List Symbol} (all : symbols.all (Symbol.isFinished known) = true) :
    symbols.all (Symbol.isFinished more) = true := by
  refine List.all_eq_true.2 fun s inside => ?_
  have finished := List.all_eq_true.1 all s inside
  cases s with
  | terminal text => rfl
  | rule name =>
    simp only [Symbol.isFinished, List.contains_iff_mem] at finished ⊢
    exact subset finished

/-- A round finds every rule that is finished by what was known before it. -/
theorem mem_foldl_noteFinished {rules : List (String × GrammarRule)} {r : String × GrammarRule}
    (listed : r ∈ rules) {known : List String} {symbols : List Symbol}
    (alternative : symbols ∈ r.2.alternatives)
    (all : symbols.all (Symbol.isFinished known) = true) :
    r.1 ∈ rules.foldl noteFinished known := by
  induction rules generalizing known with
  | nil => cases listed
  | cons first rest ih =>
    rw [List.foldl_cons]
    rcases List.mem_cons.1 listed with rfl | later
    · exact suffix_foldl_noteFinished.subset (mem_noteFinished alternative all)
    · exact ih later (all_isFinished_mono suffix_noteFinished.subset all)

/-- A round finds names of rules, and has changed something exactly when it has found one. -/
theorem finishedRules_boundedBy (g : Grammar) :
    BoundedBy (Keyed.names g.rules) g.finishedRules where
  within known declared :=
    foldl_noteFinished_induction declared fun r listed _ _ _ _ _ => List.mem_map.2 ⟨r, listed, rfl⟩
  builds known := by
    have kept : known <:+ g.rules.foldl noteFinished known := suffix_foldl_noteFinished
    refine ⟨fun unchanged => ?_, fun changed => ?_, fun once => ?_⟩
    · have no_more : (g.rules.foldl noteFinished known).length = known.length := by
        simpa [finishedRules] using unchanged
      exact (kept.eq_of_length no_more.symm).symm
    · have more : (g.rules.foldl noteFinished known).length ≠ known.length := by
        simpa [finishedRules] using changed
      exact Nat.lt_of_le_of_ne kept.length_le more.symm
    · exact List.foldlRecOn g.rules noteFinished once fun _ once _ _ => nodup_noteFinished once

theorem productive_stops (g : Grammar) :
    StopsWithin g.finishedRules (g.rules.length + 1) [] g.productive := by
  apply g.finishedRules_boundedBy.stopsWithin List.nodup_nil (by simp)
  simp [Keyed.names]

/-- All rules that a forest has at its roots are found. -/
theorem all_isFinished_productive {symbols : List Symbol} (f : Forest g symbols) :
    symbols.all (Symbol.isFinished g.productive) = true := by
  induction f with
  | nil => rfl
  | terminal text others ih => simpa [Symbol.isFinished] using ih
  | @rule name r found choice children rest others ihChildren ihOthers =>
    have finished : name ∈ (g.finishedRules g.productive).known :=
      mem_foldl_noteFinished (Keyed.mem_of_get? found) (List.getElem_mem choice.isLt) ihChildren
    rw [g.productive_stops.fixed] at finished
    have known : Symbol.isFinished g.productive (.rule name) = true := by
      simpa [Symbol.isFinished] using finished
    rw [List.all_cons, known, ihOthers, Bool.and_self]

/-- The search finds the rules that derive some text. -/
theorem mem_productive_iff {name : String} :
    name ∈ g.productive ↔ ∃ text, g.Derives [.rule name] text := by
  refine ⟨exists_derives_of_productive, ?_⟩
  rintro ⟨_, f, -⟩
  simpa [Symbol.isFinished] using all_isFinished_productive f

theorem unproductive?_eq_none_iff : g.unproductive? = none ↔
    ∀ name ∈ Keyed.names g.rules, ∃ text, g.Derives [.rule name] text := by
  refine ⟨fun h name => exists_derives_of_unproductive?_eq_none h, fun each => ?_⟩
  refine List.find?_eq_none.2 fun r member => ?_
  have derived := each r.1 (List.mem_map.2 ⟨r, member, rfl⟩)
  simpa using mem_productive_iff.2 derived

end Grammar

end GuidedDecoding
