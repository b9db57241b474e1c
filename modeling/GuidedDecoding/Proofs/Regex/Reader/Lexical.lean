import GuidedDecoding.Regex.Reader.Lexical
import Mathlib.Data.List.Basic

/-!
# Reading with a closing behind

An expression that is wrapped in a group is followed by a closing parenthesis and an anchor.
Whatever can be read without this closing is read in the same way with it: no part of an expression
goes on with a closing parenthesis, so what is left is the same with the closing behind it. Only a
comment that runs to the end of the text takes the closing with it, and then nothing is left in
either case.
-/

namespace GuidedDecoding

namespace RegexReader

/-- What follows a wrapped expression. -/
def closing : List Char := [')', '$']

/-- What is left of a text with a closing, compared to what is left without. -/
def Extends (cs cs' : List Char) : Prop := cs' = cs ++ closing ∨ (cs = [] ∧ cs' = [])

/-- What is read without a closing is read with it. -/
def Carries {α : Type} (x x' : Option (α × List Char)) : Prop :=
  ∀ a rest, x = some (a, rest) → ∃ rest', x' = some (a, rest') ∧ Extends rest rest'

variable {α β : Type} {spaced : Bool} {cs cs' : List Char}

theorem Extends.append (cs : List Char) : Extends cs (cs ++ closing) := .inl rfl

theorem Extends.of_cons {c : Char} {rest : List Char} (h : Extends (c :: rest) cs') :
    cs' = c :: (rest ++ closing) := by
  rcases h with rfl | ⟨absurd, -⟩
  · rfl
  · cases absurd

theorem Carries.some {a : α} (h : Extends cs cs') : Carries (some (a, cs)) (some (a, cs')) := by
  rintro b rest same
  cases same
  exact ⟨cs', rfl, h⟩

theorem Carries.none {x : Option (α × List Char)} : Carries none x := nofun

theorem Carries.bind {x x' : Option (α × List Char)} {f g : α × List Char → Option (β × List Char)}
    (h : Carries x x') (next : ∀ a rest rest', Extends rest rest' →
      Carries (f (a, rest)) (g (a, rest'))) : Carries (x.bind f) (x'.bind g) := by
  rintro b rest read
  obtain ⟨⟨a, middle⟩, first, second⟩ := Option.bind_eq_some_iff.1 read
  obtain ⟨middle', first', left⟩ := h a middle first
  rw [first']
  exact next a middle middle' left b rest second

/-- A condition on what was read that does not depend on what is left. -/
theorem Carries.guard {x : Option α} {f g : α → Option (β × List Char)}
    (h : ∀ a, x = Option.some a → Carries (f a) (g a)) : Carries (x.bind f) (x.bind g) := by
  cases x with
  | none => exact .none
  | some a => exact h a rfl

theorem Carries.ofOption {x : Option α} {f : α → β} (h : Extends cs cs') :
    Carries (x.map fun a => (f a, cs)) (x.map fun a => (f a, cs')) := by
  cases x with
  | none => exact .none
  | some a => exact .some h

theorem Extends.afterBlanks (inComment : Bool) (cs : List Char) :
    Extends (afterBlanks inComment cs) (afterBlanks inComment (cs ++ closing)) := by
  induction cs generalizing inComment with
  | nil =>
    cases inComment with
    | false => exact .inl (by decide)
    | true => exact .inr ⟨rfl, by decide⟩
  | cons c rest ih =>
    simp only [List.cons_append, RegexReader.afterBlanks]
    split
    · exact ih _
    · split
      · exact ih _
      · split
        · exact ih _
        · exact .append _

theorem Extends.skip (h : Extends cs cs') : Extends (skip spaced cs) (skip spaced cs') := by
  rcases h with rfl | ⟨rfl, rfl⟩
  · unfold RegexReader.skip
    split
    · exact .afterBlanks false cs
    · exact .append cs
  · cases spaced <;> exact .inr ⟨rfl, rfl⟩

theorem skipToMore?_eq_some_iff {more : List Char} :
    skipToMore? spaced cs = some more ↔ skip spaced cs = more ∧ more ≠ [] := by
  unfold skipToMore?
  split
  · next nothing =>
    rw [nothing]
    exact ⟨nofun, fun ⟨same, left⟩ => absurd same.symm left⟩
  · next left =>
    constructor
    · rintro ⟨⟩
      exact ⟨rfl, left⟩
    · rintro ⟨same, -⟩
      rw [same]

theorem Extends.skipToMore? {more : List Char} (h : Extends cs cs')
    (found : skipToMore? spaced cs = some more) :
    skipToMore? spaced cs' = some (more ++ closing) := by
  obtain ⟨rfl, left⟩ := skipToMore?_eq_some_iff.1 found
  obtain ⟨c, more, head⟩ := List.exists_cons_of_ne_nil left
  have skipped : Extends (RegexReader.skip spaced cs) (RegexReader.skip spaced cs') := h.skip
  rw [head] at skipped ⊢
  exact skipToMore?_eq_some_iff.2 ⟨skipped.of_cons, nofun⟩

/-- Skipping to more comes before something else is read. -/
theorem Carries.more {f g : List Char → Option (β × List Char)} (h : Extends cs cs')
    (next : ∀ c rest, Carries (f (c :: rest)) (g (c :: (rest ++ closing)))) :
    Carries ((skipToMore? spaced cs).bind f) ((skipToMore? spaced cs').bind g) := by
  rintro b rest read
  obtain ⟨more, found, later⟩ := Option.bind_eq_some_iff.1 read
  obtain ⟨c, more, rfl⟩ := List.exists_cons_of_ne_nil (skipToMore?_eq_some_iff.1 found).2
  rw [h.skipToMore? found]
  exact next c more b rest later

theorem hexDigits?_carries {n : Nat} {value : Nat} (h : Extends cs cs') :
    Carries (hexDigits? spaced n value cs) (hexDigits? spaced n value cs') := by
  induction n generalizing value cs cs' with
  | zero => exact .some h
  | succ n ih =>
    cases cs with
    | nil => exact .none
    | cons c rest =>
      rw [h.of_cons]
      exact .guard fun digit _ => ih (Extends.append rest).skip

theorem hexInBraces?_carries {n m : Nat} {value : Option Nat} (more : n ≤ m) (h : Extends cs cs') :
    Carries (hexInBraces? spaced n value cs) (hexInBraces? spaced m value cs') := by
  induction n generalizing m value cs cs' with
  | zero => exact .none
  | succ n ih =>
    obtain ⟨m, rfl⟩ := Nat.exists_eq_add_of_le' more
    have left : Extends (skip spaced cs) (skip spaced cs') := h.skip
    simp only [hexInBraces?]
    cases skipped : skip spaced cs with
    | nil => exact .none
    | cons c rest =>
      rw [skipped] at left
      rw [left.of_cons]
      by_cases close : c = '\x7d'
      · subst close
        exact .ofOption (Extends.append rest).skip
      · simp only [Option.bind_eq_bind]
        exact .guard fun digit _ => ih (Nat.le_add_left n m) (Extends.append rest)

theorem hexEscape?_carries {digits : Nat} (h : Extends cs cs') :
    Carries (hexEscape? spaced digits cs) (hexEscape? spaced digits cs') := by
  refine .more h fun c rest => ?_
  by_cases brace : c = '\x7b'
  · subst brace
    refine .bind (hexInBraces?_carries (by simp) (.append rest)) fun n left left' e => ?_
    exact .guard fun c _ => .some e
  · split
    · next same => exact absurd (List.cons.inj same).1 brace
    split
    · next same => exact absurd (List.cons.inj same).1 brace
    refine .bind (hexDigits?_carries (.append (c :: rest))) fun n left left' e => ?_
    exact .guard fun c _ => .some e

theorem nameInBraces?_carries {n m : Nat} (more : n ≤ m) (h : Extends cs cs') :
    Carries (nameInBraces? spaced n cs) (nameInBraces? spaced m cs') := by
  induction n generalizing m cs cs' with
  | zero => exact .none
  | succ n ih =>
    obtain ⟨m, rfl⟩ := Nat.exists_eq_add_of_le' more
    have left : Extends (skip spaced cs) (skip spaced cs') := h.skip
    simp only [nameInBraces?]
    cases skipped : skip spaced cs with
    | nil => exact .none
    | cons c rest =>
      rw [skipped] at left
      rw [left.of_cons]
      by_cases close : c = '\x7d'
      · subst close
        exact .some (.append rest)
      · simp only [Option.map_eq_bind]
        refine .bind (ih (Nat.le_add_left n m) (.append rest)) fun name left left' e => ?_
        exact .some e

theorem property?_carries {negated : Bool} (h : Extends cs cs') :
    Carries (property? spaced negated cs) (property? spaced negated cs') := by
  refine .more h fun c rest => ?_
  by_cases brace : c = '\x7b'
  · subst brace
    refine .bind (nameInBraces?_carries (by simp) (.append rest)) fun name left left' e => ?_
    exact .some e
  · by_cases slash : c = '\\'
    · subst slash
      exact .none
    · simp only
      exact .some (Extends.append rest).skip

theorem length_afterBlanks_le (inComment : Bool) (cs : List Char) :
    (afterBlanks inComment cs).length ≤ cs.length := by
  induction cs generalizing inComment with
  | nil => exact Nat.le_refl 0
  | cons c rest ih =>
    unfold afterBlanks
    repeat' split
    · exact Nat.le_succ_of_le (ih _)
    · exact Nat.le_succ_of_le (ih _)
    · exact Nat.le_succ_of_le (ih _)
    · exact Nat.le_refl _

theorem length_skip_le (spaced : Bool) (cs : List Char) : (skip spaced cs).length ≤ cs.length := by
  unfold skip
  split
  · exact length_afterBlanks_le false cs
  · exact Nat.le_refl _

section Scans

variable {n m : Nat}

@[simp] theorem placeName_nil : placeName spaced n [] = ([], []) := by cases n <;> rfl

@[simp] theorem placeName_closing : placeName spaced n closing = ([], closing) := by
  cases n <;> rfl

theorem placeName_extends_nil (h : Extends [] cs') :
    (placeName spaced m cs').1 = (placeName spaced n []).1 ∧
      Extends (placeName spaced n []).2 (placeName spaced m cs').2 := by
  rcases h with rfl | ⟨-, rfl⟩
  · exact ⟨by simp, by simpa using Extends.append []⟩
  · exact ⟨by simp, .inr (by simp)⟩

/-- The name of a kind of place ends no later with a closing. -/
theorem placeName_extends (long : cs.length ≤ n) (long' : cs'.length ≤ m) (h : Extends cs cs') :
    (placeName spaced m cs').1 = (placeName spaced n cs).1 ∧
      Extends (placeName spaced n cs).2 (placeName spaced m cs').2 := by
  induction n generalizing m cs cs' with
  | zero =>
    obtain rfl : cs = [] := List.length_eq_zero_iff.1 (Nat.le_zero.1 long)
    exact placeName_extends_nil h
  | succ n ih =>
    cases cs with
    | nil => exact placeName_extends_nil h
    | cons c rest =>
      obtain rfl := h.of_cons
      cases m with
      | zero => exact absurd long' (Nat.not_succ_le_zero _)
      | succ m =>
        have short := Nat.le_trans (length_skip_le spaced rest) (Nat.le_of_succ_le_succ long)
        have short' := Nat.le_trans (length_skip_le spaced _) (Nat.le_of_succ_le_succ long')
        unfold placeName
        split
        · obtain ⟨same, e⟩ := ih short short' (Extends.append rest).skip
          exact ⟨congrArg (c :: ·) same, e⟩
        · exact ⟨rfl, .append (c :: rest)⟩

@[simp] theorem digits_nil {value : Option Nat} : digits spaced n value [] = (value, []) := by
  cases n <;> rfl

@[simp] theorem digits_closing {value : Option Nat} :
    digits spaced n value closing = (value, closing) := by
  cases n <;> rfl

theorem digits_extends_nil {value : Option Nat} (h : Extends [] cs') :
    (digits spaced m value cs').1 = (digits spaced n value []).1 ∧
      Extends (digits spaced n value []).2 (digits spaced m value cs').2 := by
  rcases h with rfl | ⟨-, rfl⟩
  · exact ⟨by simp, by simpa using Extends.append []⟩
  · exact ⟨by simp, .inr (by simp)⟩

theorem digits_extends (value : Option Nat) (long : cs.length ≤ n) (long' : cs'.length ≤ m)
    (h : Extends cs cs') :
    (digits spaced m value cs').1 = (digits spaced n value cs).1 ∧
      Extends (digits spaced n value cs).2 (digits spaced m value cs').2 := by
  induction n generalizing m value cs cs' with
  | zero =>
    obtain rfl : cs = [] := List.length_eq_zero_iff.1 (Nat.le_zero.1 long)
    exact digits_extends_nil h
  | succ n ih =>
    cases cs with
    | nil => exact digits_extends_nil h
    | cons c rest =>
      obtain rfl := h.of_cons
      cases m with
      | zero => exact absurd long' (Nat.not_succ_le_zero _)
      | succ m =>
        have short := Nat.le_trans (length_skip_le spaced rest) (Nat.le_of_succ_le_succ long)
        have short' := Nat.le_trans (length_skip_le spaced _) (Nat.le_of_succ_le_succ long')
        unfold digits
        split
        · exact ih _ short short' (Extends.append rest).skip
        · exact ⟨rfl, .append (c :: rest)⟩

@[simp] theorem afterWhite_nil : afterWhite spaced n [] = [] := by cases n <;> rfl

@[simp] theorem afterWhite_closing : afterWhite spaced n closing = closing := by
  cases n with
  | zero => rfl
  | succ n => exact if_neg (by decide)

theorem afterWhite_extends_nil (h : Extends [] cs') :
    Extends (afterWhite spaced n []) (afterWhite spaced m cs') := by
  rcases h with rfl | ⟨-, rfl⟩
  · simpa using Extends.append []
  · exact .inr (by simp)

theorem afterWhite_extends (long : cs.length ≤ n) (long' : cs'.length ≤ m) (h : Extends cs cs') :
    Extends (afterWhite spaced n cs) (afterWhite spaced m cs') := by
  induction n generalizing m cs cs' with
  | zero =>
    obtain rfl : cs = [] := List.length_eq_zero_iff.1 (Nat.le_zero.1 long)
    exact afterWhite_extends_nil h
  | succ n ih =>
    cases cs with
    | nil => exact afterWhite_extends_nil h
    | cons c rest =>
      obtain rfl := h.of_cons
      cases m with
      | zero => exact absurd long' (Nat.not_succ_le_zero _)
      | succ m =>
        have short := Nat.le_trans (length_skip_le spaced rest) (Nat.le_of_succ_le_succ long)
        have short' := Nat.le_trans (length_skip_le spaced _) (Nat.le_of_succ_le_succ long')
        unfold afterWhite
        split
        · exact ih short short' (Extends.append rest).skip
        · exact .append (c :: rest)

end Scans

theorem dropBlanks_closing (cs : List Char) :
    (cs ++ closing).dropWhile Text.isBlank = cs.dropWhile Text.isBlank ++ closing := by
  have visible : closing.dropWhile Text.isBlank = closing := by decide
  rw [List.dropWhile_append]
  split
  · next all => rw [visible, List.isEmpty_iff.1 all, List.nil_append]
  · rfl

theorem dropBlanks_extends (h : Extends cs cs') :
    Extends (cs.dropWhile Text.isBlank) (cs'.dropWhile Text.isBlank) := by
  rcases h with rfl | ⟨rfl, rfl⟩
  · exact .inl (dropBlanks_closing cs)
  · exact .inr ⟨rfl, rfl⟩

theorem count_extends (spaced : Bool) (h : Extends cs cs') :
    (count spaced cs').1 = (count spaced cs).1 ∧
      Extends (count spaced cs).2 (count spaced cs').2 := by
  obtain ⟨same, e⟩ : (digits spaced (cs'.length + 1) none _).1 = _ ∧
      Extends (digits spaced (cs.length + 1) none _).2 _ :=
    digits_extends none (Nat.le_succ_of_le (List.dropWhile_sublist _).length_le)
      (Nat.le_succ_of_le (List.dropWhile_sublist _).length_le) (dropBlanks_extends h)
  exact ⟨congrArg (Option.filter (· < countLimit)) same,
    afterWhite_extends (Nat.le_succ _) (Nat.le_succ _) e⟩

theorem wordBoundary?_carries (h : Extends cs cs') :
    Carries (wordBoundary? spaced cs) (wordBoundary? spaced cs') := by
  have plain : ∀ {cs cs'}, Extends cs cs' → Carries (some (Atom.anchor .wordBoundary, cs))
      (some (Atom.anchor .wordBoundary, cs')) := fun h => .some h
  cases cs with
  | nil =>
    rcases h with rfl | ⟨-, rfl⟩
    · exact plain (.append [])
    · exact plain (.inr ⟨rfl, rfl⟩)
  | cons c rest =>
    obtain rfl := h.of_cons
    unfold wordBoundary?
    split
    · next brace =>
      cases brace
      simp only
      refine .more (.append rest) fun c more => ?_
      simp only
      split
      · obtain ⟨same, e⟩ : _ ∧ Extends (placeName spaced (more.length + 1) (c :: more)).2
            (placeName spaced ((more ++ closing).length + 1) (c :: (more ++ closing))).2 :=
          placeName_extends (by simp) (by simp) (.append (c :: more))
        rw [same]
        generalize (placeName spaced (more.length + 1) (c :: more)).2 = left at e ⊢
        cases left with
        | nil => exact .none
        | cons d left =>
          rw [e.of_cons]
          by_cases close : d = '\x7d'
          · subst close
            exact .guard fun anchor _ => .some (.append left)
          · split
            · next same => exact absurd (List.cons.inj same).1 close
            · exact .none
      · exact plain (.append _)
    · next other =>
      split
      · next same =>
        cases same
        exact absurd rfl (other rest)
      · exact plain (.append (c :: rest))

theorem escape?_carries (h : Extends cs cs') :
    Carries (escape? spaced cs) (escape? spaced cs') := by
  cases cs with
  | nil => exact .none
  | cons c rest =>
    rw [h.of_cons]
    have e : Extends rest (rest ++ closing) := .append rest
    simp only [escape?]
    split
    · exact hexEscape?_carries e
    · exact hexEscape?_carries e
    · exact hexEscape?_carries e
    · exact property?_carries e
    · exact property?_carries e
    case h_20 => exact wordBoundary?_carries e
    case h_24 =>
      split
      · exact .some e
      · exact .none
    all_goals exact .some e

section Counts

variable {least : Nat} {most : Option Nat} {rest : List Char}

/-- The counts of a repetition are written in one of three ways. -/
theorem counts?_eq_some_iff :
    counts? spaced cs = some (least, most, rest) ↔
      ∃ more, skipToMore? spaced cs = some more ∧ (count spaced more).1 = some least ∧
        (((count spaced more).2 = '\x7d' :: rest ∧ most = some least) ∨
        ∃ after further, (count spaced more).2 = ',' :: after ∧
          skipToMore? spaced after = some further ∧
          ((further = '\x7d' :: rest ∧ most = none) ∨
          ((∀ left, further ≠ '\x7d' :: left) ∧ (count spaced further).2 = '\x7d' :: rest ∧
            ∃ m, (count spaced further).1 = some m ∧ most = some m ∧ least ≤ m))) := by
  unfold counts?
  rw [Option.bind_eq_bind, Option.bind_eq_some_iff]
  refine exists_congr fun more => and_congr_right fun _ => ?_
  generalize count spaced more = counted
  obtain ⟨value, left⟩ := counted
  dsimp only
  split
  · next close =>
    constructor
    · intro read
      obtain ⟨n, first, tail⟩ := Option.bind_eq_some_iff.1 read
      obtain ⟨m, second, same⟩ := Option.bind_eq_some_iff.1 tail
      cases same
      exact ⟨first, .inl ⟨rfl, second.symm.trans first⟩⟩
    · rintro ⟨rfl, ⟨same, rfl⟩ | ⟨after, _, same, -⟩⟩
      · cases same
        rfl
      · cases same
  · next after =>
    constructor
    · intro read
      obtain ⟨further, found, tail⟩ := Option.bind_eq_some_iff.1 read
      split at tail
      · obtain ⟨n, first, same⟩ := Option.bind_eq_some_iff.1 tail
        cases same
        exact ⟨first, .inr ⟨after, _, rfl, found, .inl ⟨rfl, rfl⟩⟩⟩
      · next other =>
        obtain ⟨n, first, tail⟩ := Option.bind_eq_some_iff.1 tail
        obtain ⟨m, second, tail⟩ := Option.bind_eq_some_iff.1 tail
        split at tail
        · next close =>
          split at tail
          · next le =>
            cases tail
            exact ⟨first, .inr ⟨after, _, rfl, found, .inr ⟨other, close, m, second, rfl, le⟩⟩⟩
          · cases tail
        · cases tail
    · rintro ⟨rfl, ⟨same, -⟩ | ⟨after', further, same, found, tail⟩⟩
      · cases same
      · cases same
        refine Option.bind_eq_some_iff.2 ⟨further, found, ?_⟩
        rcases tail with ⟨rfl, rfl⟩ | ⟨other, close, m, second, rfl, le⟩
        · rfl
        · split
          · exact absurd rfl (other _)
          · simp [second, close, le]
  · next other comma =>
    refine iff_of_false (Option.some_ne_none _).symm ?_
    rintro ⟨-, ⟨rfl, -⟩ | ⟨after, _, rfl, -⟩⟩
    · exact other rest rfl
    · exact comma after rfl

theorem counts?_extends (h : Extends cs cs')
    (read : counts? spaced cs = some (least, most, rest)) :
    counts? spaced cs' = some (least, most, rest ++ closing) := by
  obtain ⟨more, found, first, tail⟩ := counts?_eq_some_iff.1 read
  obtain ⟨same, e⟩ := count_extends spaced (.append more)
  refine counts?_eq_some_iff.2 ⟨_, h.skipToMore? found, same.trans first, ?_⟩
  rcases tail with ⟨close, exact_⟩ | ⟨after, further, comma, found, tail⟩
  · rw [close] at e
    exact .inl ⟨e.of_cons, exact_⟩
  · rw [comma] at e
    refine .inr ⟨_, _, e.of_cons, (Extends.append after).skipToMore? found, ?_⟩
    rcases tail with ⟨rfl, unbounded⟩ | ⟨other, close, m, second, bounded⟩
    · exact .inl ⟨rfl, unbounded⟩
    · obtain ⟨same, e⟩ := count_extends spaced (.append further)
      rw [close] at e
      refine .inr ⟨?_, e.of_cons, m, same.trans second, bounded⟩
      obtain ⟨c, others, rfl⟩ := List.exists_cons_of_ne_nil (skipToMore?_eq_some_iff.1 found).2
      intro left same
      cases same
      exact other others rfl

theorem least_le_of_counts? (read : counts? spaced cs = some (least, most, rest)) {m : Nat}
    (bounded : most = some m) : least ≤ m := by
  obtain ⟨_, -, -, ⟨-, rfl⟩ | ⟨_, _, -, -, ⟨-, rfl⟩ | ⟨-, -, _, -, rfl, le⟩⟩⟩ :=
    counts?_eq_some_iff.1 read
  · cases bounded
    exact Nat.le_refl _
  · cases bounded
  · cases bounded
    exact le

end Counts

end RegexReader

end GuidedDecoding
