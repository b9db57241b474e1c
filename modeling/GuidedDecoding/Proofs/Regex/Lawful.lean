import GuidedDecoding.Proofs.Regex.Library
import GuidedDecoding.Proofs.Regex.Meaning
import GuidedDecoding.Proofs.Regex.Reader.Expression
import Mathlib.Algebra.Group.Nat.Defs

/-!
# The library that is run is lawful

What is documented of regular expressions holds of the expressions that are read and matched here
(`Regex.semantics_lawful`). That a text is read in the same way within a group is shown of the
reader, step by step; that the matcher finds what an expression describes, of the meaning.
-/

namespace GuidedDecoding

open RegexReader

namespace Written

/-- The wrapped form of a text that can be read by itself is read as the wrapped expression, unless
it cannot be read. -/
theorem parse_wrapped {text : String} {w : Written} (h : parse text.toList = some w) :
    parse ("^(?:" ++ text ++ ")$").toList = none ∨
      parse ("^(?:" ++ text ++ ")$").toList = some (wrapped w) := by
  obtain ⟨read, -⟩ := Option.filter_eq_some_iff.1 h
  have characters : ("^(?:" ++ text ++ ")$").toList =
      '^' :: '(' :: '?' :: ':' :: (text.toList ++ closing) := by
    simp [closing]
  have enough : text.toList.length + 1 + 4 ≤
      ('^' :: '(' :: '?' :: ':' :: (text.toList ++ closing)).length + 1 := by
    simp only [List.length_cons, List.length_append]
    omega
  unfold parse
  rw [characters]
  rcases run?_wrapped read enough with failed | same
  · left
    rw [failed]
    rfl
  · rw [same]
    by_cases shallow : (wrapped w).depth ≤ depthLimit
    · exact .inr (Option.filter_eq_some_iff.2 ⟨rfl, by simpa using shallow⟩)
    · exact .inl (by simp [Option.filter, shallow])

/-- Between the anchors of the wrapping stands what the expression means. -/
theorem meaning?_wrapped {w : Written} {r : Regex} {m : RegexMode}
    (h : w.meaning? {} = some (r, m)) :
    (wrapped w).meaning? {} =
      some (.sequence [.look .textStart, r, .look .textEnd], {}) := by
  simp [wrapped, meaning?, meanings?, h, RegexMode.apply, Atom.meaning?, Anchor.look]

end Written

namespace Look

variable {cs : List Char} {i : Nat}

theorem holdsAt_textStart_iff (inside : i ≤ cs.length) :
    textStart.holdsAt cs i = true ↔ i = 0 := by
  cases i with
  | zero => simp [holdsAt, holds]
  | succ i =>
    have here : cs[i]? = some cs[i] := List.getElem?_eq_getElem inside
    simp [holdsAt, holds, here]

theorem holdsAt_textEnd_iff :
    textEnd.holdsAt cs i = true ↔ cs.length ≤ i := by
  simp [holdsAt, holds]

end Look

namespace Regex

variable {text : String} {r : Regex}

theorem ofText?_wrapped (h : ofText? text = some r) :
    ofText? ("^(?:" ++ text ++ ")$") = none ∨
      ofText? ("^(?:" ++ text ++ ")$") =
        some (.sequence [.look .textStart, r, .look .textEnd]) := by
  obtain ⟨w, read, meant⟩ := Option.bind_eq_some_iff.1 h
  obtain ⟨⟨r', m⟩, meaning, rfl⟩ := Option.map_eq_some_iff.1 meant
  unfold ofText?
  rcases Written.parse_wrapped read with failed | same
  · exact .inl (by rw [failed]; rfl)
  · exact .inr (by rw [same, Option.bind_some, Written.meaning?_wrapped meaning]; rfl)

theorem read_eq_ok_iff : read text = .ok r ↔ ofText? text = some r := by
  unfold read
  cases ofText? text with
  | none => simp
  | some r' => simp

theorem build?_eq_some_iff {limit : Nat} {p : Regex} :
    build? limit r = some p ↔ r.size ≤ limit ∧ r = p := by
  simp [build?]

theorem matches_look_iff {cs : List Char} {l : Look} {i j : Nat} :
    Matches cs (.look l) i j ↔ i = j ∧ l.holdsAt cs i = true := by
  constructor
  · rintro ⟨⟩
    exact ⟨rfl, ‹_›⟩
  · rintro ⟨rfl, holds⟩
    exact .look holds

/-- An expression describes the stretches that it matches within a value. Groups leave expressions
as they are. -/
def semantics : RegexLibrary.Semantics where
  Describes r value i j := i ≤ value.toList.length ∧ Matches value.toList r i j
  startText := .look .textStart
  endText := .look .textEnd
  group r := r
  concat := sequence

/-- What an expression describes ends within the value. -/
theorem within_of_describes {value : String} {i j : Nat} (h : semantics.Describes r value i j) :
    j ≤ value.toList.length := by
  obtain ⟨inside, described⟩ := h
  rcases described.eq_or_le with rfl | within
  · exact inside
  · exact within

theorem semantics_lawful : semantics.Lawful where
  startText_iff value i j := by
    constructor
    · rintro ⟨inside, described⟩
      obtain ⟨rfl, holds⟩ := matches_look_iff.1 described
      have first := (Look.holdsAt_textStart_iff inside).1 holds
      exact ⟨first, first⟩
    · rintro ⟨rfl, rfl⟩
      exact ⟨Nat.zero_le _, .look ((Look.holdsAt_textStart_iff (Nat.zero_le _)).2 rfl)⟩
  endText_iff value i j := by
    rw [← String.length_toList]
    constructor
    · rintro ⟨inside, described⟩
      obtain ⟨rfl, holds⟩ := matches_look_iff.1 described
      have last := Nat.le_antisymm inside (Look.holdsAt_textEnd_iff.1 holds)
      exact ⟨last, last⟩
    · rintro ⟨rfl, rfl⟩
      exact ⟨Nat.le_refl _, .look (Look.holdsAt_textEnd_iff.2 (Nat.le_refl _))⟩
  group_iff _ _ _ _ := Iff.rfl
  nothing_iff value i j := by
    rw [← String.length_toList]
    constructor
    · rintro ⟨inside, ⟨⟩⟩
      exact ⟨rfl, inside⟩
    · rintro ⟨rfl, inside⟩
      exact ⟨inside, .empty _⟩
  concat_iff r rest value i j := by
    constructor
    · rintro ⟨inside, described⟩
      cases described with | seq first others =>
      exact ⟨_, ⟨inside, first⟩, within_of_describes ⟨inside, first⟩, others⟩
    · rintro ⟨k, ⟨inside, first⟩, -, others⟩
      exact ⟨inside, .seq first others⟩
  read_wrapped text r whole readable wrapped := by
    have read := read_eq_ok_iff.1 wrapped
    rcases ofText?_wrapped (read_eq_ok_iff.1 readable) with failed | same
    · cases failed.symm.trans read
    · exact Option.some.inj (read.symm.trans same)
  isMatch_iff text r limit p readable built value := by
    obtain ⟨-, rfl⟩ := build?_eq_some_iff.1 built
    have proper := proper_of_ofText? (read_eq_ok_iff.1 readable)
    refine proper.isMatch_iff.trans ?_
    constructor
    · rintro ⟨i, inside, j, described⟩
      exact ⟨i, j, inside, described⟩
    · rintro ⟨i, j, inside, described⟩
      exact ⟨i, inside, j, described⟩
  build?_larger r limit larger le built := by
    obtain ⟨p, built⟩ := Option.isSome_iff_exists.1 built
    obtain ⟨fits, rfl⟩ := build?_eq_some_iff.1 built
    exact Option.isSome_of_eq_some (build?_eq_some_iff.2 ⟨Nat.le_trans fits le, rfl⟩)

end Regex

end GuidedDecoding
