import GuidedDecoding.Proofs.Regex.Reader.Lexical
import GuidedDecoding.Regex.Reader.Group

/-!
# Opening groups with a closing behind

What an opening parenthesis starts is known before a closing is met: neither the marks that stand at
the head of a group nor names and flags have a closing parenthesis in them.
-/

namespace GuidedDecoding

namespace RegexReader

variable {spaced : Bool} {cs cs' : List Char}

theorem isPrefixOf_closing {lead : List Char} (apart : ¬ ')' ∈ lead) (cs : List Char) :
    lead.isPrefixOf (cs ++ closing) = lead.isPrefixOf cs := by
  induction lead generalizing cs with
  | nil => simp
  | cons d lead ih =>
    obtain ⟨other, apart⟩ := not_or.1 fun h => apart (List.mem_cons.2 h)
    cases cs with
    | nil =>
      have other : d ≠ ')' := fun same => other same.symm
      simp [closing, List.isPrefixOf, other]
    | cons c cs => simp [List.isPrefixOf, ih apart]

theorem dropLead?_closing {lead : List Char} (apart : ¬ ')' ∈ lead) (cs : List Char) :
    dropLead? lead (cs ++ closing) = (dropLead? lead cs).map (· ++ closing) := by
  unfold dropLead?
  rw [isPrefixOf_closing apart]
  split
  · next leads =>
    have short : lead.length ≤ cs.length := (List.isPrefixOf_iff_prefix.1 leads).length_le
    simp [List.drop_append_of_le_length short]
  · rfl

/-- What ends at a character of the text ends there with more behind it. -/
theorem dropWhile_append_of_cons {p : Char → Bool} {d : Char} {rest : List Char} (more : List Char)
    (h : cs.dropWhile p = d :: rest) :
    (cs ++ more).takeWhile p = cs.takeWhile p ∧ (cs ++ more).dropWhile p = d :: (rest ++ more) := by
  induction cs with
  | nil => cases h
  | cons c cs ih =>
    rw [List.dropWhile_cons] at h
    split at h
    · next held =>
      obtain ⟨same, left⟩ := ih h
      simp [held, same, left]
    · next failed =>
      cases h
      simp [failed]

theorem flags?_extends {seen : List RegexFlag} {negated dangling : Bool} (h : Extends cs cs')
    {change : FlagChange} {close : Char} {rest : List Char}
    (read : flags? seen negated dangling cs = some (change, close, rest)) :
    flags? seen negated dangling cs' = some (change, close, rest ++ closing) := by
  induction cs generalizing cs' seen negated dangling change with
  | nil => cases read
  | cons c cs ih =>
    obtain rfl := h.of_cons
    unfold flags? at read ⊢
    split at read
    · next ends =>
      rw [if_pos ends]
      split at read
      · cases read
      · next settled =>
        cases read
        rw [if_neg settled]
    · next inside =>
      rw [if_neg inside]
      split at read
      · next sign =>
        rw [if_pos sign]
        split at read
        · cases read
        · next first =>
          rw [if_neg first]
          exact ih (.append cs) read
      · next letter =>
        rw [if_neg letter]
        obtain ⟨flag, found, tail⟩ := Option.bind_eq_some_iff.1 read
        refine Option.bind_eq_some_iff.2 ⟨flag, found, ?_⟩
        split at tail
        · cases tail
        · next new =>
          rw [if_neg new]
          obtain ⟨⟨others, close', rest'⟩, further, same⟩ := Option.bind_eq_some_iff.1 tail
          cases same
          exact Option.bind_eq_some_iff.2 ⟨_, ih (.append cs) further, rfl⟩

theorem groupName?_carries (h : Extends cs cs') : Carries (groupName? cs) (groupName? cs') := by
  intro name rest read
  unfold groupName? at read
  dsimp only at read
  split at read
  · next first others d left named ends =>
    obtain rfl : cs' = cs ++ closing := h.resolve_right fun ⟨nothing, _⟩ => by
      subst nothing
      cases ends
    obtain ⟨same, ends'⟩ := dropWhile_append_of_cons closing ends
    split at read
    · next proper =>
      cases read
      refine ⟨rest ++ closing, ?_, .append rest⟩
      unfold groupName?
      rw [same, ends', named]
      exact if_pos proper
    · cases read
  · cases read

theorem isLookAround_closing (cs : List Char) :
    isLookAround (cs ++ closing) = isLookAround cs := by
  simp [isLookAround, isPrefixOf_closing]

theorem flagGroup?_carries (h : Extends cs cs') : Carries (flagGroup? cs) (flagGroup? cs') := by
  intro opened rest read
  obtain ⟨⟨change, close, left⟩, found, tail⟩ := Option.bind_eq_some_iff.1 read
  refine ⟨rest ++ closing, ?_, .append rest⟩
  refine Option.bind_eq_some_iff.2 ⟨_, flags?_extends h found, ?_⟩
  dsimp only at tail ⊢
  split at tail
  · next colon =>
    cases tail
    rw [if_pos colon]
    rfl
  · next other =>
    rw [if_neg other]
    split at tail
    · cases tail
    · next some_change =>
      cases tail
      rw [if_neg some_change]
      rfl

theorem opening?_carries (h : Extends cs cs') :
    Carries (opening? spaced cs) (opening? spaced cs') := by
  have left : Extends (skip spaced cs) (skip spaced cs') := h.skip
  unfold opening?
  dsimp only
  generalize skip spaced cs = cs at left ⊢
  generalize skip spaced cs' = cs' at left ⊢
  rcases left with rfl | ⟨rfl, rfl⟩
  · rw [isLookAround_closing, dropLead?_closing (by decide), dropLead?_closing (by decide),
      ← Option.map_or]
    split
    · exact .none
    · cases (dropLead? ['?', 'P', '<'] cs).or (dropLead? ['?', '<'] cs) with
      | some named =>
        simp only [Option.map_eq_bind]
        exact .bind (groupName?_carries (.append named)) fun name left left' e => .some e
      | none =>
        simp only [Option.map_none]
        cases cs with
        | nil => exact .some (.append [])
        | cons c rest =>
          by_cases question : c = '?'
          · subst question
            exact flagGroup?_carries (.append rest)
          · split
            · next same => cases same
            · next same => exact absurd (List.cons.inj same).1 question
            · rw [List.cons_append]
              split
              · next same => cases same
              · next same => exact absurd (List.cons.inj same).1 question
              · exact .some (.append (c :: rest))
  · exact .some (.inr ⟨rfl, rfl⟩)

end RegexReader

end GuidedDecoding
