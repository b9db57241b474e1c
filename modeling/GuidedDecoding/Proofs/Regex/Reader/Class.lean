import GuidedDecoding.Proofs.Regex.Reader.Group
import GuidedDecoding.Regex.Reader.Class

/-!
# Reading classes with a closing behind

A class ends with its own bracket, before a closing is met. Where the reader looks ahead it asks for
a bracket, a hyphen or the second half of an operation, none of which a closing starts with.
-/

namespace GuidedDecoding

namespace RegexReader

variable {spaced : Bool} {cs cs' : List Char}

theorem leadingHyphens?_of_ne {n : Nat} {parts : List ClassItem} {c : Char} {rest : List Char}
    (other : c ≠ '-') :
    leadingHyphens? spaced (n + 1) parts (c :: rest) = some (parts, c :: rest) := by
  unfold leadingHyphens?
  split
  · cases ‹_ = 0›
  · next same => exact absurd (List.cons.inj same).1 other
  · rfl

theorem leadingHyphens?_carries {n m : Nat} (more : n ≤ m) (h : Extends cs cs')
    {parts : List ClassItem} :
    Carries (leadingHyphens? spaced n parts cs) (leadingHyphens? spaced m parts cs') := by
  induction n generalizing m parts cs cs' with
  | zero => exact .none
  | succ n ih =>
    obtain ⟨m, rfl⟩ := Nat.exists_eq_add_of_le' more
    cases cs with
    | nil =>
      rcases h with rfl | ⟨-, rfl⟩
      · exact .some (.append [])
      · exact .some (.inr ⟨rfl, rfl⟩)
    | cons c rest =>
      obtain rfl := h.of_cons
      by_cases hyphen : c = '-'
      · subst hyphen
        exact .more (.append rest) fun d left => ih (Nat.le_add_left n m) (.append (d :: left))
      · rw [leadingHyphens?_of_ne hyphen, ← Nat.add_assoc, leadingHyphens?_of_ne hyphen]
        exact .some (.append (c :: rest))

theorem classSign?_carries (h : Extends cs cs') :
    Carries (classSign? spaced cs) (classSign? spaced cs') := by
  refine .more h fun c rest => ?_
  by_cases sign : c = '^'
  · subst sign
    exact .more (.append rest) fun d left => .some (.append (d :: left))
  · split
    · next same => exact absurd (List.cons.inj same).1 sign
    split
    · next same => exact absurd (List.cons.inj same).1 sign
    exact .some (.append (c :: rest))

theorem classLead?_carries (h : Extends cs cs') :
    Carries (classLead? spaced cs) (classLead? spaced cs') := by
  have longer : cs.length + 1 ≤ cs'.length + 1 := by
    rcases h with rfl | ⟨rfl, rfl⟩ <;> simp
  refine .bind (leadingHyphens?_carries longer h) fun parts left left' e => ?_
  split
  · next rest same =>
    cases same
    rw [e.of_cons]
    exact .more (.append rest) fun d left => .some (.append (d :: left))
  · next other =>
    split
    · next rest same =>
      cases same
      cases left with
      | nil => rcases e with same | ⟨-, same⟩ <;> cases same
      | cons c others =>
        cases e.of_cons
        exact absurd rfl (other others)
    · exact .some e

/-- A class opens in the same way with a closing behind. -/
theorem openClass?_extends (h : Extends cs cs') {negated : Bool} {parts : List ClassItem}
    {rest : List Char} (read : openClass? spaced cs = some (negated, parts, rest)) :
    ∃ rest', openClass? spaced cs' = some (negated, parts, rest') ∧ Extends rest rest' := by
  obtain ⟨⟨_, left⟩, sign, tail⟩ := Option.bind_eq_some_iff.1 read
  obtain ⟨⟨_, _⟩, lead, same⟩ := Option.bind_eq_some_iff.1 tail
  cases same
  obtain ⟨left', sign', e⟩ := classSign?_carries h _ _ sign
  obtain ⟨rest', lead', e⟩ := classLead?_carries e _ _ lead
  exact ⟨rest', Option.bind_eq_some_iff.2 ⟨_, sign', Option.bind_eq_some_iff.2 ⟨_, lead', rfl⟩⟩, e⟩

/-- Whether the name of an ASCII class ends is known before a closing is met. -/
theorem asciiClassName?_closing (negated : Bool) (cs : List Char) :
    asciiClassName? negated (cs ++ closing) =
      (asciiClassName? negated cs).map fun r => (r.1, r.2 ++ closing) := by
  unfold asciiClassName?
  dsimp only
  cases ends : cs.dropWhile (· ≠ ':') with
  | nil =>
    rw [List.dropWhile_append, ends]
    rfl
  | cons d rest =>
    obtain ⟨same, ends'⟩ := dropWhile_append_of_cons closing ends
    rw [same, ends', ← List.cons_append, dropLead?_closing (by decide)]
    cases dropLead? [':', ']'] (d :: rest) with
    | none => rfl
    | some left =>
      simp only [Option.map_some, Option.bind_eq_bind, Option.bind_some]
      split
      · rfl
      · rfl

theorem asciiClass?_closing (cs : List Char) :
    asciiClass? (cs ++ closing) = (asciiClass? cs).map fun r => (r.1, r.2 ++ closing) := by
  unfold asciiClass?
  rw [dropLead?_closing (by decide)]
  cases dropLead? ['[', ':'] cs with
  | none => rfl
  | some cs =>
    simp only [Option.map_some, Option.bind_eq_bind, Option.bind_some]
    cases cs with
    | nil => exact asciiClassName?_closing false []
    | cons c rest =>
      by_cases sign : c = '^'
      · subst sign
        exact asciiClassName?_closing true rest
      · rw [List.cons_append]
        split
        · next same => exact absurd (List.cons.inj same).1 sign
        split
        · next same => exact absurd (List.cons.inj same).1 sign
        exact asciiClassName?_closing false (c :: rest)

theorem classAtom?_carries (h : Extends cs cs') :
    Carries (classAtom? spaced cs) (classAtom? spaced cs') := by
  cases cs with
  | nil => exact .none
  | cons c rest =>
    obtain rfl := h.of_cons
    by_cases slash : c = '\\'
    · subst slash
      exact escape?_carries (.append rest)
    · simp only [classAtom?]
      exact .some (.append rest)

theorem pastMark_closing (cs : List Char) : pastMark (cs ++ closing) = pastMark cs ++ closing := by
  unfold pastMark
  rw [dropBlanks_closing]
  cases cs.dropWhile Text.isBlank with
  | nil => rfl
  | cons c rest =>
    by_cases mark : c = '#'
    · subst mark
      exact dropBlanks_closing rest
    · rw [List.cons_append]
      split
      · next same => exact absurd (List.cons.inj same).1 mark
      split
      · next same => exact absurd (List.cons.inj same).1 mark
      rfl

theorem head_of_pastMark_eq_nil {c : Char} {rest : List Char} (h : pastMark (c :: rest) = []) :
    Text.isBlank c = true ∨ c = '#' := by
  by_contra visible
  obtain ⟨dark, unmarked⟩ := not_or.1 visible
  unfold pastMark at h
  rw [List.dropWhile_cons_of_neg dark] at h
  split at h
  · next same => exact unmarked (List.cons.inj same).1
  · cases h

/-- A closing is never what the reader looks for. -/
theorem peek_closing {c : Char} (other : c ≠ ')') (visible : Text.isBlank c = false)
    (unmarked : c ≠ '#') (cs : List Char) :
    peek spaced (cs ++ closing) = some c ↔ peek spaced cs = some c := by
  have head : ∀ cs : List Char, (cs ++ closing).head? = some c ↔ cs.head? = some c := by
    intro cs
    cases cs with
    | nil => simp [closing, other.symm]
    | cons d rest => simp
  unfold peek
  cases spaced with
  | false => exact head cs
  | true =>
    rw [pastMark_closing]
    cases past : pastMark cs with
    | nil =>
      have hidden : cs.head? ≠ some c := by
        intro first
        cases cs with
        | nil => cases first
        | cons d rest =>
          cases first
          rcases head_of_pastMark_eq_nil past with blank | mark
          · rw [visible] at blank
            cases blank
          · exact unmarked mark
      simp [closing, hidden, other.symm]
    | cons d left => simp

theorem classPart?_carries (h : Extends cs cs') :
    Carries (classPart? spaced cs) (classPart? spaced cs') := by
  refine .bind (classAtom?_carries h) fun first left left' e => ?_
  dsimp only
  generalize (if isClassAtom first = true then some (ClassItem.atom first) else none) = alone
  refine .more e fun c rest => ?_
  by_cases hyphen : c = '-'
  · subst hyphen
    have bracket : peek spaced (rest ++ closing) = some ']' ↔ peek spaced rest = some ']' :=
      peek_closing (by decide) (by decide) (by decide) rest
    have hyphen : peek spaced (rest ++ closing) = some '-' ↔ peek spaced rest = some '-' :=
      peek_closing (by decide) (by decide) (by decide) rest
    simp only [bracket, hyphen]
    split
    · exact .guard fun item _ => .some (.append ('-' :: rest))
    · refine .more (.append rest) fun d more => ?_
      refine .bind (classAtom?_carries (.append (d :: more))) fun last left left' e => ?_
      dsimp only
      split
      · split
        · exact .some e
        · exact .none
      · exact .none
  · split
    · next same => exact absurd (List.cons.inj same).1 hyphen
    split
    · next same => exact absurd (List.cons.inj same).1 hyphen
    exact .guard fun item _ => .some (.append (c :: rest))

/-- A class goes on with a part: it is not over, and neither a bracket nor an operator stands
next. -/
structure PartNext (cs : List Char) : Prop where
  some : cs ≠ []
  noBracket : ∀ c rest, cs = c :: rest → c ≠ '[' ∧ c ≠ ']'
  noOperator : ∀ c rest, cs = c :: c :: rest → c ≠ '&' ∧ c ≠ '-' ∧ c ≠ '~'

theorem PartNext.append_closing (h : PartNext cs) : PartNext (cs ++ closing) where
  some := List.append_ne_nil_of_left_ne_nil h.some closing
  noBracket c rest same := by
    cases cs with
    | nil => exact absurd rfl h.some
    | cons d others => exact (List.cons.inj same).1 ▸ h.noBracket d others rfl
  noOperator c rest same := by
    match cs, same, h with
    | [], _, h => exact absurd rfl h.some
    | [d], same, _ =>
      have parenthesis : ')' = c := (List.cons.inj (List.cons.inj same).2).1
      rw [← parenthesis]
      decide
    | d :: e :: others, same, h =>
      obtain ⟨rfl, tail⟩ := List.cons.inj same
      exact h.noOperator d others (congrArg (d :: · :: others) (List.cons.inj tail).1)

theorem PartNext.extends (h : PartNext cs) (more : Extends cs cs') : PartNext cs' := by
  rcases more with rfl | ⟨rfl, -⟩
  · exact h.append_closing
  · exact absurd rfl h.some

theorem classBody?_of_part {n : Nat} {parts : List ClassItem} {frames : List ClassFrame}
    (h : PartNext (skip spaced cs)) :
    classBody? spaced (n + 1) ⟨parts, frames, cs⟩ =
      (classPart? spaced (skip spaced cs)).bind fun part =>
        classBody? spaced n ⟨part.1 :: parts, frames, part.2⟩ := by
  rw [classBody?]
  dsimp only
  split
  · next empty => exact absurd empty h.some
  · next same => exact absurd rfl (h.noBracket _ _ same).1
  · next same => exact absurd rfl (h.noBracket _ _ same).2
  · next same => exact absurd rfl (h.noOperator _ _ same).1
  · next same => exact absurd rfl (h.noOperator _ _ same).2.1
  · next same => exact absurd rfl (h.noOperator _ _ same).2.2
  · rfl

/-- The rest of a class is read in the same way with a closing behind it. -/
theorem classBody?_extends {n m : Nat} (more : n ≤ m) {parts : List ClassItem}
    {frames : List ClassFrame} (h : Extends cs cs') {negated : Bool} {body : ClassItem}
    {rest : List Char}
    (read : classBody? spaced n ⟨parts, frames, cs⟩ = some (negated, body, rest)) :
    classBody? spaced m ⟨parts, frames, cs'⟩ = some (negated, body, rest ++ closing) := by
  induction n generalizing m parts frames cs cs' with
  | zero => cases read
  | succ n ih =>
    obtain ⟨m, rfl⟩ := Nat.exists_eq_add_of_le' more
    have again : ∀ {parts frames cs cs'}, Extends cs cs' →
        classBody? spaced n ⟨parts, frames, cs⟩ = some (negated, body, rest) →
        classBody? spaced (m + n) ⟨parts, frames, cs'⟩ = some (negated, body, rest ++ closing) :=
      fun e => ih (Nat.le_add_left n m) e
    have left : Extends (skip spaced cs) (skip spaced cs') := h.skip
    by_cases part : PartNext (skip spaced cs)
    · rw [classBody?_of_part part] at read
      rw [← Nat.add_assoc, classBody?_of_part (part.extends left)]
      obtain ⟨⟨item, behind⟩, first, tail⟩ := Option.bind_eq_some_iff.1 read
      obtain ⟨behind', first', e⟩ := classPart?_carries left _ _ first
      exact Option.bind_eq_some_iff.2 ⟨_, first', again e tail⟩
    · unfold classBody? at read ⊢
      dsimp only at read ⊢
      cases skipped : skip spaced cs with
      | nil =>
        rw [skipped] at read
        cases read
      | cons c after =>
        rw [skipped] at read left part
        rw [left.of_cons]
        split at read
        · cases ‹c :: after = []›
        · next same =>
          cases same
          simp only
          rw [← List.cons_append, asciiClass?_closing]
          split at read
          · next item left found =>
            rw [found]
            exact again (.append left) read
          · next none_found =>
            rw [none_found]
            obtain ⟨⟨negated', parts', left⟩, opened, tail⟩ := Option.bind_eq_some_iff.1 read
            obtain ⟨left', opened', e⟩ := openClass?_extends (.append after) opened
            exact Option.bind_eq_some_iff.2 ⟨_, opened', again e tail⟩
        · next same =>
          cases same
          simp only
          split at read
          · cases read
            rfl
          · exact again (.append after) read
          · cases read
        · next same =>
          cases same
          exact again (.append _) read
        · next same =>
          cases same
          exact again (.append _) read
        · next same =>
          cases same
          exact again (.append _) read
        · next noOpen noClose noAnd noMinus noTilde =>
          refine absurd ⟨nofun, fun d rest same => ?_, fun d rest same => ?_⟩ part
          · exact ⟨fun e => noOpen rest (e ▸ same), fun e => noClose rest (e ▸ same)⟩
          · exact ⟨fun e => noAnd rest (e ▸ same), fun e => noMinus rest (e ▸ same),
              fun e => noTilde rest (e ▸ same)⟩

theorem class?_extends (h : Extends cs cs') {negated : Bool} {body : ClassItem} {rest : List Char}
    (read : class? spaced cs = some (negated, body, rest)) :
    class? spaced cs' = some (negated, body, rest ++ closing) := by
  obtain ⟨⟨negated', parts, left⟩, opened, tail⟩ := Option.bind_eq_some_iff.1 read
  obtain ⟨left', opened', e⟩ := openClass?_extends h opened
  refine Option.bind_eq_some_iff.2 ⟨_, opened', ?_⟩
  refine classBody?_extends ?_ e tail
  rcases h with rfl | ⟨rfl, rfl⟩
  · simp
  · exact Nat.le_refl _

end RegexReader

end GuidedDecoding
