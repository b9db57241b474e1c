import GuidedDecoding.Schema.Literal
import Mathlib.Computability.RegularExpressions

/-!
# What is written as a number

Numbers are written by a regular expression, `NumberLiteral.number`, and integers by the part of it
that stands before the fraction. A part of a number is recognised as far as it reaches
(`Recognises`): what is left out of a text is a word of the part, and such a word is left out as
long as it cannot be continued by what follows. Parts that follow one another are recognised one
after another, so that a whole text is recognised exactly when it is written by the expression.
-/

namespace GuidedDecoding

namespace NumberLiteral

open RegularExpression (char star)

/-! ### The grammar -/

/-- One of some characters. -/
def oneOf : List Char → RegularExpression Char
  | [] => 0
  | c :: cs => char c + oneOf cs

/-- Something that may be left out. -/
def optional (part : RegularExpression Char) : RegularExpression Char := 1 + part

/-- The decimal digits but zero. -/
def nonzeroDigits : List Char := ['1', '2', '3', '4', '5', '6', '7', '8', '9']

def digit : RegularExpression Char := oneOf ('0' :: nonzeroDigits)

/-- `[0-9]+` -/
def digits : RegularExpression Char := digit * star digit

/-- `-?` -/
def minus : RegularExpression Char := optional (oneOf ['-'])

/-- `0|[1-9][0-9]*` -/
def whole : RegularExpression Char := oneOf ['0'] + oneOf nonzeroDigits * star digit

/-- `(\.[0-9]+)?` -/
def fraction : RegularExpression Char := optional (oneOf ['.'] * digits)

/-- `[+-]?` -/
def exponentSign : RegularExpression Char := optional (oneOf ['+', '-'])

/-- `([eE][+-]?[0-9]+)?` -/
def exponent : RegularExpression Char :=
  optional (oneOf ['e', 'E'] * (exponentSign * digits))

/-- `-?(0|[1-9][0-9]*)` -/
def integer : RegularExpression Char := minus * whole

/-- `-?(0|[1-9][0-9]*)(\.[0-9]+)?([eE][+-]?[0-9]+)?` -/
def number : RegularExpression Char := integer * fraction * exponent

/-! ### Its words -/

variable {s read rest : List Char} {part next : RegularExpression Char}

@[simp] theorem mem_char {c : Char} : s ∈ (char c).matches' ↔ s = [c] := Iff.rfl

@[simp] theorem mem_oneOf {cs : List Char} : s ∈ (oneOf cs).matches' ↔ ∃ c ∈ cs, s = [c] := by
  induction cs with
  | nil => simp [oneOf]
  | cons c cs ih =>
    rw [oneOf, RegularExpression.matches'_add, Language.mem_add, ih, mem_char]
    simp

@[simp] theorem mem_optional : s ∈ (optional part).matches' ↔ s = [] ∨ s ∈ part.matches' := by
  rw [optional, RegularExpression.matches'_add, Language.mem_add]
  rfl

theorem mem_followed :
    s ∈ (part * next).matches' ↔ ∃ a ∈ part.matches', ∃ b ∈ next.matches', a ++ b = s :=
  Language.mem_mul

theorem mem_decimalDigits_iff {c : Char} : c ∈ '0' :: nonzeroDigits ↔ c.isDigit = true := by
  constructor
  · have all : ('0' :: nonzeroDigits).all Char.isDigit = true := by decide
    exact List.all_eq_true.1 all c
  · intro isDigit
    obtain ⟨low, high⟩ : 48 ≤ c.toNat ∧ c.toNat ≤ 57 := by
      simpa [Char.isDigit, UInt32.le_iff_toNat_le] using isDigit
    have listed : ∀ n < 58, 48 ≤ n → Char.ofNat n ∈ '0' :: nonzeroDigits := by decide
    simpa using listed c.toNat (Nat.lt_succ_of_le high) low

theorem mem_star_digit : s ∈ (star digit).matches' ↔ ∀ c ∈ s, c.isDigit = true := by
  rw [RegularExpression.matches'_star, Language.mem_kstar]
  constructor
  · rintro ⟨words, rfl, inside⟩ c member
    obtain ⟨word, listed, member⟩ := List.mem_flatten.1 member
    obtain ⟨d, isDigit, rfl⟩ := mem_oneOf.1 (inside word listed)
    obtain rfl := List.mem_singleton.1 member
    exact mem_decimalDigits_iff.1 isDigit
  · intro all
    refine ⟨s.map fun c => [c], by simp [← List.flatMap_def], fun word listed => ?_⟩
    obtain ⟨c, member, rfl⟩ := List.mem_map.1 listed
    exact mem_oneOf.2 ⟨c, mem_decimalDigits_iff.2 (all c member), rfl⟩

theorem mem_digits :
    s ∈ digits.matches' ↔ ∃ c rest, s = c :: rest ∧ c.isDigit = true ∧
      ∀ d ∈ rest, d.isDigit = true := by
  constructor
  · intro member
    obtain ⟨first, isDigit, others, all, rfl⟩ := mem_followed.1 member
    obtain ⟨c, listed, rfl⟩ := mem_oneOf.1 isDigit
    exact ⟨c, others, rfl, mem_decimalDigits_iff.1 listed, mem_star_digit.1 all⟩
  · rintro ⟨c, others, rfl, isDigit, all⟩
    exact mem_followed.2 ⟨[c], mem_oneOf.2 ⟨c, mem_decimalDigits_iff.2 isDigit, rfl⟩, others,
      mem_star_digit.2 all, rfl⟩

theorem mem_whole :
    s ∈ whole.matches' ↔ s = ['0'] ∨ s ∈ digits.matches' ∧ s.head? ≠ some '0' := by
  have zero : s ∈ (oneOf ['0']).matches' ↔ s = ['0'] := by simp
  rw [whole, RegularExpression.matches'_add, Language.mem_add, zero]
  refine or_congr_right ⟨fun member => ?_, fun ⟨member, nonzero⟩ => ?_⟩
  · obtain ⟨first, chosen, others, all, rfl⟩ := mem_followed.1 member
    obtain ⟨c, listed, rfl⟩ := mem_oneOf.1 chosen
    refine ⟨mem_digits.2 ⟨c, others, rfl, ?_, mem_star_digit.1 all⟩, ?_⟩
    · exact mem_decimalDigits_iff.1 (List.mem_cons_of_mem '0' listed)
    · rintro ⟨⟩
      exact absurd listed (by decide)
  · obtain ⟨c, others, rfl, isDigit, all⟩ := mem_digits.1 member
    obtain rfl | listed := List.mem_cons.1 (mem_decimalDigits_iff.2 isDigit)
    · exact absurd rfl nonzero
    · exact mem_followed.2 ⟨[c], mem_oneOf.2 ⟨c, listed, rfl⟩, others, mem_star_digit.2 all, rfl⟩

/-! ### Parts that are recognised -/

/-- A text does not go on with some characters. -/
def Clear (of : Char → Bool) (text : List Char) : Prop := ∀ c ∈ text.head?, of c = false

theorem clear_nil {of : Char → Bool} : Clear of [] := nofun

theorem clear_cons {of : Char → Bool} {c : Char} (other : of c = false) : Clear of (c :: rest) := by
  rintro d ⟨⟩
  exact other

theorem Clear.mono {of more : Char → Bool} (clear : Clear more rest)
    (weaker : ∀ c, of c = true → more c = true) : Clear of rest := by
  intro c first
  by_contra held
  have := clear c first
  rw [weaker c (by simpa using held)] at this
  cases this

theorem clear_of_mem_digits {marks : List Char} (word : read ∈ digits.matches')
    (other : ∀ mark ∈ marks, mark.isDigit = false) : Clear marks.contains (read ++ rest) := by
  obtain ⟨c, others, rfl, isDigit, -⟩ := mem_digits.1 word
  refine clear_cons ?_
  by_contra listed
  rw [other c (by simpa using listed)] at isDigit
  cases isDigit

theorem clear_of_mem_whole {marks : List Char} (word : read ∈ whole.matches')
    (other : ∀ mark ∈ marks, mark.isDigit = false) : Clear marks.contains (read ++ rest) := by
  obtain rfl | ⟨word, -⟩ := mem_whole.1 word
  · exact clear_of_mem_digits (mem_digits.2 ⟨'0', [], rfl, rfl, nofun⟩) other
  · exact clear_of_mem_digits word other

theorem clear_of_mem_optional {marks : List Char} {of : Char → Bool}
    (word : read ∈ (optional (oneOf marks * part)).matches')
    (other : ∀ mark ∈ marks, of mark = false) (clear : Clear of rest) :
    Clear of (read ++ rest) := by
  obtain rfl | word := mem_optional.1 word
  · exact clear
  · obtain ⟨first, chosen, read, -, rfl⟩ := mem_followed.1 word
    obtain ⟨c, listed, rfl⟩ := mem_oneOf.1 chosen
    exact clear_cons (other c listed)

/-- A part is recognised as far as it reaches. What is left out of a text is a word of the part, and
a word of the part is left out if nothing follows that could go on with it. -/
structure Recognises (after? : List Char → Option (List Char)) (part : RegularExpression Char)
    (further : Char → Bool) : Prop where
  sound : ∀ s rest, after? s = some rest → ∃ read ∈ part.matches', read ++ rest = s
  complete : ∀ read rest, read ∈ part.matches' → Clear further rest →
    after? (read ++ rest) = some rest

namespace Recognises

variable {after? later? : List Char → Option (List Char)} {further more : Char → Bool}

theorem congr (h : Recognises after? part further) (same : part.matches' = next.matches') :
    Recognises after? next further where
  sound := same ▸ h.sound
  complete := same ▸ h.complete

theorem mono (h : Recognises after? part further)
    (weaker : ∀ c, further c = true → more c = true) : Recognises after? part more where
  sound := h.sound
  complete read rest word clear := h.complete read rest word (clear.mono weaker)

/-- Parts one after another, the second of which does not go on with the first. -/
theorem bind (first : Recognises after? part further) (second : Recognises later? next more)
    (apart : ∀ read rest, read ∈ next.matches' → Clear more rest → Clear further (read ++ rest)) :
    Recognises (fun s => (after? s).bind later?) (part * next) more where
  sound s rest h := by
    obtain ⟨middle, done, done'⟩ := Option.bind_eq_some_iff.1 h
    obtain ⟨read, word, rfl⟩ := first.sound s middle done
    obtain ⟨read', word', rfl⟩ := second.sound middle rest done'
    exact ⟨read ++ read', mem_followed.2 ⟨read, word, read', word', rfl⟩, List.append_assoc _ _ _⟩
  complete both rest joined clear := by
    obtain ⟨read, word, read', word', rfl⟩ := mem_followed.1 joined
    rw [List.append_assoc, first.complete read _ word (apart read' rest word' clear)]
    exact second.complete read' rest word' clear

end Recognises

theorem recognises_digits : Recognises afterDigits? digits Char.isDigit where
  sound s rest h := by
    unfold afterDigits? at h
    split at h
    · next c others =>
      split at h
      · next isDigit =>
        cases h
        refine ⟨c :: others.takeWhile Char.isDigit, mem_digits.2 ⟨c, _, rfl, isDigit, ?_⟩, ?_⟩
        · exact List.all_eq_true.1 List.all_takeWhile
        · rw [List.cons_append, List.takeWhile_append_dropWhile]
      · cases h
    · cases h
  complete read rest word clear := by
    obtain ⟨c, others, rfl, isDigit, all⟩ := mem_digits.1 word
    have ends : rest.dropWhile Char.isDigit = rest := by
      rcases rest with _ | ⟨d, rest⟩
      · rfl
      · rw [List.dropWhile_cons_of_neg (by simp [clear d rfl])]
    rw [List.cons_append, afterDigits?, if_pos isDigit, List.dropWhile_append_of_pos all, ends]

theorem recognises_whole : Recognises afterWhole? whole Char.isDigit where
  sound s rest h := by
    unfold afterWhole? at h
    split at h
    · cases h
      exact ⟨['0'], mem_whole.2 (.inl rfl), rfl⟩
    · next noZero =>
      obtain ⟨read, word, rfl⟩ := recognises_digits.sound _ _ h
      obtain ⟨c, others, rfl, -⟩ := mem_digits.1 word
      refine ⟨c :: others, mem_whole.2 (.inr ⟨word, ?_⟩), rfl⟩
      rintro ⟨⟩
      exact noZero _ rfl
  complete read rest word clear := by
    obtain rfl | ⟨word, nonzero⟩ := mem_whole.1 word
    · rfl
    · rw [← recognises_digits.complete read rest word clear]
      obtain ⟨c, others, rfl, -⟩ := mem_digits.1 word
      rw [List.cons_append, afterWhole?]
      rintro _ ⟨⟩
      exact nonzero rfl

/-- A part that may be left out and otherwise starts with one of some marks. -/
theorem recognises_optional {marks : List Char} {after? inner? : List Char → Option (List Char)}
    {further : Char → Bool} (inner : Recognises inner? part further)
    (marked : ∀ c ∈ marks, ∀ s, after? (c :: s) = inner? s)
    (unmarked : ∀ s, (∀ c ∈ s.head?, c ∉ marks) → after? s = some s) :
    Recognises after? (optional (oneOf marks * part)) (fun c => marks.contains c || further c) where
  sound s rest h := by
    by_cases mark : ∃ c ∈ s.head?, c ∈ marks
    · obtain ⟨c, first, listed⟩ := mark
      obtain ⟨s, rfl⟩ := List.head?_eq_some_iff.1 first
      rw [marked c listed] at h
      obtain ⟨read, word, rfl⟩ := inner.sound s rest h
      refine ⟨c :: read, mem_optional.2 (.inr ?_), rfl⟩
      exact mem_followed.2 ⟨[c], mem_oneOf.2 ⟨c, listed, rfl⟩, read, word, rfl⟩
    · rw [unmarked s fun c first listed => mark ⟨c, first, listed⟩] at h
      cases h
      exact ⟨[], mem_optional.2 (.inl rfl), rfl⟩
  complete read rest word clear := by
    obtain rfl | marked_word := mem_optional.1 word
    · refine unmarked rest fun c first listed => ?_
      simpa [listed] using clear c first
    · obtain ⟨first, chosen, read, inside, rfl⟩ := mem_followed.1 marked_word
      obtain ⟨c, listed, rfl⟩ := mem_oneOf.1 chosen
      rw [List.singleton_append, List.cons_append, marked c listed]
      exact inner.complete read rest inside (clear.mono fun c more => by simp [more])

/-- A sign is a mark with nothing after it. -/
theorem recognises_mark {marks : List Char} {after : List Char → List Char}
    (marked : ∀ c ∈ marks, ∀ s, after (c :: s) = s)
    (unmarked : ∀ s, (∀ c ∈ s.head?, c ∉ marks) → after s = s) :
    Recognises (fun s => some (after s)) (optional (oneOf marks)) marks.contains := by
  have nothing : Recognises some 1 fun _ => false :=
    ⟨fun s rest h => ⟨[], rfl, Option.some.inj h.symm ▸ rfl⟩, fun read rest word _ => by
      obtain rfl : read = [] := word
      rfl⟩
  have recognised : Recognises (fun s => some (after s)) (optional (oneOf marks * 1)) _ :=
    recognises_optional nothing (fun c listed s => congrArg some (marked c listed s))
      fun s free => congrArg some (unmarked s free)
  refine (recognised.congr ?_).mono ?_
  · simp [optional]
  · simp

theorem recognises_minus : Recognises (fun s => some (afterSign s)) minus ['-'].contains := by
  refine recognises_mark (fun c listed s => ?_) fun s free => ?_
  · obtain rfl := List.mem_singleton.1 listed
    rfl
  · unfold afterSign
    split
    · exact absurd (free '-' rfl) (by decide)
    · rfl

theorem recognises_exponentSign :
    Recognises (fun s => some (afterExponentSign s)) exponentSign ['+', '-'].contains := by
  refine recognises_mark (fun c listed s => ?_) fun s free => ?_
  · obtain rfl | rfl : c = '+' ∨ c = '-' := by simpa using listed
    · rfl
    · rfl
  · unfold afterExponentSign
    split
    · exact absurd (free '+' rfl) (by decide)
    · exact absurd (free '-' rfl) (by decide)
    · rfl

theorem recognises_fraction :
    Recognises afterFraction? fraction (fun c => ['.'].contains c || c.isDigit) := by
  refine recognises_optional recognises_digits (fun c listed s => ?_) fun s free => ?_
  · obtain rfl := List.mem_singleton.1 listed
    rfl
  · unfold afterFraction?
    split
    · exact absurd (free '.' rfl) (by decide)
    · rfl

theorem recognises_exponent :
    Recognises afterExponent? exponent (fun c => ['e', 'E'].contains c || c.isDigit) := by
  have signed := recognises_exponentSign.bind recognises_digits fun read rest word _ =>
    clear_of_mem_digits word (by simp)
  refine recognises_optional signed (fun c listed s => ?_) fun s free => ?_
  · obtain rfl | rfl : c = 'e' ∨ c = 'E' := by simpa using listed
    · rfl
    · rfl
  · unfold afterExponent?
    split
    · exact absurd (free 'e' rfl) (by decide)
    · exact absurd (free 'E' rfl) (by decide)
    · rfl

/-- What can go on with a number. -/
def goesOn (c : Char) : Bool := ['.', 'e', 'E'].contains c || c.isDigit

/-- A number is recognised as far as it reaches. -/
theorem recognises_number : Recognises after? number goesOn := by
  have signed := recognises_minus.bind recognises_whole fun read rest word _ =>
    clear_of_mem_whole word (by simp)
  have fractional := signed.bind recognises_fraction fun read rest word clear =>
    clear_of_mem_optional word (by simp) (clear.mono fun c isDigit => by simp [isDigit])
  have exponential : Recognises afterExponent? exponent goesOn :=
    recognises_exponent.mono fun c more => by
      rw [goesOn, List.contains_cons, Bool.or_assoc, more, Bool.or_true]
  refine fractional.bind exponential fun read rest word clear =>
    clear_of_mem_optional word (by simp) (clear.mono fun c more => ?_)
  simp only [List.contains_cons, Bool.or_eq_true] at more
  simp only [goesOn, List.contains_cons, Bool.or_eq_true]
  tauto

/-! ### Whole texts -/

theorem isNumber_iff_mem : isNumber s = true ↔ s ∈ number.matches' := by
  rw [isNumber, beq_iff_eq]
  constructor
  · intro h
    obtain ⟨read, word, rfl⟩ := recognises_number.sound s [] h
    rwa [List.append_nil]
  · intro word
    simpa using recognises_number.complete s [] word clear_nil

theorem hasFractionMark_eq_false (unmarked : ∀ c ∈ s, c = '-' ∨ c.isDigit = true) :
    hasFractionMark s = false := by
  rw [hasFractionMark, List.any_eq_false]
  intro c member
  obtain rfl | isDigit := unmarked c member
  · decide
  · have other (mark : Char) (no : mark.isDigit = false) : c ≠ mark := by
      rintro rfl
      cases isDigit.symm.trans no
    simp [other '.' rfl, other 'e' rfl, other 'E' rfl]

theorem unmarked_of_mem_integer (word : s ∈ integer.matches') :
    ∀ c ∈ s, c = '-' ∨ c.isDigit = true := by
  obtain ⟨sign, signed, digits, unsigned, rfl⟩ := mem_followed.1 word
  refine List.forall_mem_append.2 ⟨fun c member => ?_, fun c member => .inr ?_⟩
  · obtain rfl | minus := mem_optional.1 signed
    · cases member
    · obtain ⟨_, listed, rfl⟩ := mem_oneOf.1 minus
      simp_all
  · obtain rfl | ⟨word, -⟩ := mem_whole.1 unsigned
    · simp_all
    · obtain ⟨d, others, rfl, isDigit, all⟩ := mem_digits.1 word
      obtain rfl | member := List.mem_cons.1 member
      · exact isDigit
      · exact all c member

/-- What starts with the mark of a fraction or an exponent shows it. -/
theorem eq_nil_of_unmarked {marks : List Char} (word : s ∈ (optional (oneOf marks * part)).matches')
    (unmarked : hasFractionMark s = false) (shown : ∀ mark ∈ marks, hasFractionMark [mark] = true) :
    s = [] := by
  obtain empty | word := mem_optional.1 word
  · exact empty
  · obtain ⟨first, chosen, others, -, rfl⟩ := mem_followed.1 word
    obtain ⟨c, listed, rfl⟩ := mem_oneOf.1 chosen
    have mark := shown c listed
    simp_all [hasFractionMark]

/-- An integer is a number that shows no mark of a fraction or an exponent. -/
theorem mem_integer_iff :
    s ∈ integer.matches' ↔ s ∈ number.matches' ∧ hasFractionMark s = false := by
  constructor
  · intro word
    refine ⟨?_, hasFractionMark_eq_false (unmarked_of_mem_integer word)⟩
    refine mem_followed.2 ⟨s, mem_followed.2 ⟨s, word, [], ?_, ?_⟩, [], ?_, ?_⟩
    · exact mem_optional.2 (.inl rfl)
    · exact List.append_nil s
    · exact mem_optional.2 (.inl rfl)
    · exact List.append_nil s
  · rintro ⟨word, unmarked⟩
    obtain ⟨read, before, e, exponential, rfl⟩ := mem_followed.1 word
    obtain ⟨i, whole, f, fractional, rfl⟩ := mem_followed.1 before
    simp only [hasFractionMark, List.any_append, Bool.or_eq_false_iff] at unmarked
    obtain ⟨⟨-, no_fraction⟩, no_exponent⟩ := unmarked
    obtain rfl := eq_nil_of_unmarked fractional no_fraction (by simp [hasFractionMark])
    obtain rfl := eq_nil_of_unmarked exponential no_exponent (by simp [hasFractionMark])
    simpa using whole

/-- A text is recognised as a number exactly if it is written by the grammar of numbers, and
admitted as an integer exactly if it is written by that of integers. -/
theorem grammar_exact (s : String) :
    (isNumber s.toList = true ↔ s.toList ∈ number.matches') ∧
      (SchemaType.integer.admits s = true ↔ s.toList ∈ integer.matches') := by
  refine ⟨isNumber_iff_mem, ?_⟩
  rw [SchemaType.admits, Bool.and_eq_true, isNumber_iff_mem, Bool.not_eq_true', mem_integer_iff]

example : "-0.5e10".toList ∈ number.matches' ∧ "012".toList ∉ number.matches' := by decide

end NumberLiteral

end GuidedDecoding
