import GuidedDecoding.Json.Basic
import GuidedDecoding.Proofs.Text.ReadOff

/-!
# Texts that can be told apart

The text of a document ends by itself: no character after it can be taken for a part of it, as long
as a number is not followed by more digits. Documents with one text are therefore the same.

This is said of documents that can be written. A numeral has digits wherever it has to have them,
and what no reader can take has no text.
-/

namespace GuidedDecoding

/-- A text that does not go on with what a number could be continued by. -/
def EndsNumber (text : List Char) : Prop :=
  ∀ c ∈ text.head?, c.isDigit = false ∧ c ≠ '.' ∧ c ≠ 'e'

theorem endsNumber_nil : EndsNumber [] := nofun

theorem endsNumber_cons {c : Char} {text : List Char}
    (h : c.isDigit = false ∧ c ≠ '.' ∧ c ≠ 'e') : EndsNumber (c :: text) := by
  intro d first
  cases first
  exact h

namespace Numeral

/-- A numeral with digits wherever digits have to stand. -/
structure Written (n : Numeral) : Prop where
  begins : n.whole ≠ []
  whole : ∀ c ∈ n.whole, c.isDigit = true
  fraction : ∀ digits ∈ n.fraction, ∀ c ∈ digits, c.isDigit = true
  exponent : ∀ e ∈ n.exponent, ∀ c ∈ e.2, c.isDigit = true

/-- The text of an exponent. -/
def exponentChars : Option (Bool × List Char) → List Char
  | some (minus, digits) => 'e' :: (if minus then '-' else '+') :: digits
  | none => []

/-- The text of a fraction. -/
def fractionChars : Option (List Char) → List Char
  | some digits => '.' :: digits
  | none => []

theorem chars_eq (n : Numeral) :
    n.chars = (if n.negative then ['-'] else [])
      ++ (n.whole ++ (fractionChars n.fraction ++ exponentChars n.exponent)) := by
  simp only [chars, List.append_assoc]
  congr 2

section Ends

variable {e e' : Option (Bool × List Char)} {f f' : Option (List Char)} {r r' : List Char}

/-- No digit follows where an exponent may stand. -/
theorem not_digit_exponent (hr : EndsNumber r) :
    ∀ c ∈ (exponentChars e ++ r).head?, c.isDigit = false ∧ c ≠ '.' := by
  intro c first
  cases e with
  | none => exact ⟨(hr c first).1, (hr c first).2.1⟩
  | some e =>
    cases first
    decide

theorem not_digit_fraction (hr : EndsNumber r) :
    ∀ c ∈ (fractionChars f ++ (exponentChars e ++ r)).head?, c.isDigit = false := by
  intro c first
  cases f with
  | none => exact (not_digit_exponent hr c first).1
  | some digits =>
    cases first
    decide

theorem exponentChars_append_inj (he : ∀ d ∈ e, ∀ c ∈ d.2, c.isDigit = true)
    (he' : ∀ d ∈ e', ∀ c ∈ d.2, c.isDigit = true) (hr : EndsNumber r) (hr' : EndsNumber r')
    (h : exponentChars e ++ r = exponentChars e' ++ r') : e = e' ∧ r = r' := by
  rcases e with _ | ⟨minus, digits⟩ <;> rcases e' with _ | ⟨minus', digits'⟩
  · exact ⟨rfl, h⟩
  · subst h
    exact absurd rfl (hr _ rfl).2.2
  · subst h
    exact absurd rfl (hr' _ rfl).2.2
  · obtain ⟨-, h⟩ := List.cons.inj h
    obtain ⟨sign, h⟩ := List.cons.inj h
    obtain ⟨rfl, same⟩ := run_append_inj (he _ rfl) (he' _ rfl) (fun c hc => (hr c hc).1)
      (fun c hc => (hr' c hc).1) h
    have signs : minus = minus' := by cases minus <;> cases minus' <;> simp at sign ⊢
    exact ⟨by rw [signs], same⟩

theorem fractionChars_append_inj (hf : ∀ d ∈ f, ∀ c ∈ d, c.isDigit = true)
    (hf' : ∀ d ∈ f', ∀ c ∈ d, c.isDigit = true) (hr : EndsNumber r) (hr' : EndsNumber r')
    (h : fractionChars f ++ (exponentChars e ++ r) = fractionChars f' ++ (exponentChars e' ++ r')) :
    f = f' ∧ exponentChars e ++ r = exponentChars e' ++ r' := by
  rcases f with _ | digits <;> rcases f' with _ | digits'
  · exact ⟨rfl, h⟩
  · have point : '.' ∈ (exponentChars e ++ r).head? := by
      rw [show exponentChars e ++ r = _ from h]
      rfl
    exact absurd rfl (not_digit_exponent hr '.' point).2
  · have point : '.' ∈ (exponentChars e' ++ r').head? := by
      rw [show exponentChars e' ++ r' = _ from h.symm]
      rfl
    exact absurd rfl (not_digit_exponent hr' '.' point).2
  · obtain ⟨-, h⟩ := List.cons.inj h
    obtain ⟨rfl, same⟩ := run_append_inj (hf _ rfl) (hf' _ rfl)
      (fun c hc => (not_digit_exponent hr c hc).1) (fun c hc => (not_digit_exponent hr' c hc).1) h
    exact ⟨rfl, same⟩

end Ends

variable {n m : Numeral} {r r' : List Char}

/-- A numeral starts with a digit or with a minus sign. -/
theorem Written.head_chars (h : n.Written) :
    ∃ c rest, n.chars = c :: rest ∧ (c.isDigit = true ∨ c = '-') := by
  obtain ⟨c, rest, split⟩ := List.exists_cons_of_ne_nil h.begins
  rw [chars_eq, split]
  cases n.negative
  · exact ⟨c, _, rfl, .inl (h.whole c (by rw [split]; exact List.mem_cons_self))⟩
  · exact ⟨'-', _, rfl, .inr rfl⟩

theorem chars_append_inj (hn : n.Written) (hm : m.Written) (hr : EndsNumber r)
    (hr' : EndsNumber r') (h : n.chars ++ r = m.chars ++ r') : n = m ∧ r = r' := by
  have noSign : ∀ {k : Numeral} {t t'}, k.Written → '-' :: t ≠ k.whole ++ t' := by
    intro k t t' hk same
    obtain ⟨c, rest, split⟩ := List.exists_cons_of_ne_nil hk.begins
    rw [split] at same
    obtain ⟨rfl, -⟩ := List.cons.inj same
    exact absurd (hk.whole '-' (by rw [split]; exact List.mem_cons_self)) (by decide)
  rw [chars_eq, chars_eq, List.append_assoc, List.append_assoc, List.append_assoc,
    List.append_assoc, List.append_assoc, List.append_assoc] at h
  have unsigned : n.negative = m.negative ∧
      n.whole ++ (fractionChars n.fraction ++ (exponentChars n.exponent ++ r)) =
        m.whole ++ (fractionChars m.fraction ++ (exponentChars m.exponent ++ r')) := by
    cases hs : n.negative <;> cases ht : m.negative <;> rw [hs, ht] at h
    · exact ⟨rfl, h⟩
    · exact absurd h.symm (noSign hn)
    · exact absurd h (noSign hm)
    · exact ⟨rfl, (List.cons.inj h).2⟩
  obtain ⟨whole, h⟩ := run_append_inj hn.whole hm.whole (not_digit_fraction hr)
    (not_digit_fraction hr') unsigned.2
  obtain ⟨fraction, h⟩ := fractionChars_append_inj hn.fraction hm.fraction hr hr' h
  obtain ⟨exponent, rest⟩ := exponentChars_append_inj hn.exponent hm.exponent hr hr' h
  obtain ⟨negative, -⟩ := unsigned
  cases n
  cases m
  simp only at negative whole fraction exponent
  exact ⟨by rw [negative, whole, fraction, exponent], rest⟩

end Numeral

namespace Json

/-- The characters that do not stand for themselves between quotes. -/
def specials : List Char := '"' :: '\\' :: (List.range 32).map Char.ofNat

theorem escaped_of_not_special {c : Char} (h : ¬ c ∈ specials) : escaped c = [c] := by
  have notQuote : c ≠ '"' := fun same => h (same ▸ List.mem_cons_self)
  have notBackslash : c ≠ '\\' := fun same => h (same ▸ by decide)
  have notControl : ¬ c.val < 0x20 := by
    intro control
    have small : c.toNat < 32 := control
    refine h (List.mem_cons_of_mem _ (List.mem_cons_of_mem _ (List.mem_map.2 ?_)))
    exact ⟨c.toNat, List.mem_range.2 small, Char.ofNat_toNat c⟩
  simp [escaped, notQuote, notBackslash, notControl]

theorem head_escaped_special : ∀ c ∈ specials, (escaped c).head? = some '\\' := by
  have each : (specials.all fun c => (escaped c).head? == some '\\') = true := by decide +kernel
  simpa using each

/-- No escape starts another. -/
theorem eq_of_escaped_starts {c d : Char} (hc : c ∈ specials) (hd : d ∈ specials)
    (starts : escaped c <+: escaped d) : c = d := by
  have each : (specials.all fun c =>
      specials.all fun d => !(escaped c).isPrefixOf (escaped d) || c == d) = true := by
    decide +kernel
  have pair := List.all_eq_true.1 (List.all_eq_true.1 each c hc) d hd
  rw [List.isPrefixOf_iff_prefix.2 starts] at pair
  simpa using pair

theorem escaped_append_inj {c d : Char} {r r' : List Char} (h : escaped c ++ r = escaped d ++ r') :
    c = d ∧ r = r' := by
  have backslash : ∀ {c d : Char} {r r' : List Char}, c ∈ specials → ¬ d ∈ specials →
      escaped c ++ r ≠ escaped d ++ r' := by
    intro c d r r' hc hd same
    rw [escaped_of_not_special hd] at same
    have first : (escaped c ++ r).head? = some '\\' := by
      rw [List.head?_append, head_escaped_special c hc, Option.some_or]
    rw [same] at first
    obtain rfl := Option.some.inj first
    exact hd (by decide)
  by_cases hc : c ∈ specials <;> by_cases hd : d ∈ specials
  · have same : c = d := by
      rcases List.prefix_or_prefix_of_prefix (List.prefix_append (escaped c) r)
        (h ▸ List.prefix_append (escaped d) r') with p | p
      · exact eq_of_escaped_starts hc hd p
      · exact (eq_of_escaped_starts hd hc p).symm
    subst same
    exact ⟨rfl, List.append_cancel_left h⟩
  · exact absurd h (backslash hc hd)
  · exact absurd h.symm (backslash hd hc)
  · rw [escaped_of_not_special hc, escaped_of_not_special hd] at h
    exact List.cons.inj h

/-- No character between quotes is taken for the closing quote. -/
theorem escaped_ne_quote {c : Char} {r r' : List Char} : escaped c ++ r ≠ '"' :: r' := by
  intro same
  by_cases h : c ∈ specials
  · have first : (escaped c ++ r).head? = some '\\' := by
      rw [List.head?_append, head_escaped_special c h, Option.some_or]
    rw [same, List.head?_cons] at first
    exact absurd first (by decide)
  · rw [escaped_of_not_special h] at same
    obtain ⟨rfl, -⟩ := List.cons.inj same
    exact h List.mem_cons_self

theorem quoted_append_inj {s t r r' : List Char} (h : quoted s ++ r = quoted t ++ r') :
    s = t ∧ r = r' := by
  have one : ReadOff escaped (fun _ => True) fun _ => True := fun c d r r' _ _ _ _ same =>
    escaped_append_inj same
  have inside : s.flatMap escaped ++ '"' :: r = t.flatMap escaped ++ '"' :: r' := by
    simpa [quoted] using h
  have closes : ReadOff (List.flatMap escaped) (fun s => ∀ c ∈ s, True) fun text =>
      ∃ r, text = '"' :: r := by
    refine one.flatMap (fun _ _ _ => trivial) (fun _ _ => trivial) ?_
    rintro c r _ - ⟨r', rfl⟩
    exact escaped_ne_quote
  obtain ⟨rfl, rest⟩ := closes s t _ _ (fun _ _ => trivial) (fun _ _ => trivial) ⟨r, rfl⟩ ⟨r', rfl⟩
    inside
  exact ⟨rfl, (List.cons.inj rest).2⟩

mutual

/-- A document all of which has a text. -/
def Written : Json → Prop
  | .num n => n.Written
  | .arr items => ItemsWritten items
  | .obj fields => FieldsWritten fields
  | .unreadable => False
  | _ => True

/-- Items all of which have a text. -/
def ItemsWritten : List Json → Prop
  | [] => True
  | item :: rest => item.Written ∧ ItemsWritten rest

/-- Fields all of whose values have a text. -/
def FieldsWritten : List (String × Json) → Prop
  | [] => True
  | (_, value) :: rest => value.Written ∧ FieldsWritten rest

end

theorem itemsWritten_iff {items : List Json} :
    ItemsWritten items ↔ ∀ item ∈ items, item.Written := by
  induction items with
  | nil => simp [ItemsWritten]
  | cons item rest ih => rw [ItemsWritten, ih, List.forall_mem_cons]

theorem fieldsWritten_iff {fields : List (String × Json)} :
    FieldsWritten fields ↔ ∀ f ∈ fields, f.2.Written := by
  induction fields with
  | nil => simp [FieldsWritten]
  | cons f rest ih => rw [FieldsWritten, ih, List.forall_mem_cons]

@[simp] theorem written_null : null.Written := trivial

@[simp] theorem written_bool (value : Bool) : (bool value).Written := trivial

@[simp] theorem written_str (s : String) : (str s).Written := trivial

@[simp] theorem written_arr {items : List Json} :
    (arr items).Written ↔ ∀ item ∈ items, item.Written :=
  itemsWritten_iff

@[simp] theorem written_obj {fields : List (String × Json)} :
    (obj fields).Written ↔ ∀ f ∈ fields, f.2.Written :=
  fieldsWritten_iff

/-- What kind of document a text starts with. -/
def kindOfChar (c : Char) : Nat :=
  if c = 'n' then 0
  else if c = 't' then 1
  else if c = 'f' then 2
  else if c = '"' then 3
  else if c = '[' then 4
  else if c = '{' then 5
  else if c.isDigit || c == '-' then 6
  else 7

/-- The kind of a document; `true` and `false` count apart. -/
def kind : Json → Nat
  | .null => 0
  | .bool true => 1
  | .bool false => 2
  | .str _ => 3
  | .arr _ => 4
  | .obj _ => 5
  | .num _ => 6
  | .unreadable => 7

theorem kindOfChar_of_digit {c : Char} (h : c.isDigit = true ∨ c = '-') : kindOfChar c = 6 := by
  have others : ∀ d : Char, (d.isDigit || d == '-') = false → c ≠ d := by
    rintro d no rfl
    rcases h with digit | rfl
    · rw [digit] at no
      cases no
    · exact absurd no (by decide)
  have yes : (c.isDigit || c == '-') = true := by simpa using h
  simp only [kindOfChar, others 'n' (by decide), others 't' (by decide), others 'f' (by decide),
    others '"' (by decide), others '[' (by decide), others '\x7b' (by decide), yes, if_true,
    if_false]

/-- The first character of a text tells the kind of document. -/
theorem head_chars {x : Json} (h : x.Written) :
    ∃ c rest, x.chars = c :: rest ∧ kindOfChar c = x.kind := by
  cases x with
  | null => exact ⟨'n', _, by rw [chars], rfl⟩
  | bool value =>
    cases value
    · exact ⟨'f', _, by rw [chars], rfl⟩
    · exact ⟨'t', _, by rw [chars], rfl⟩
  | str s => exact ⟨'"', _, by rw [chars]; rfl, rfl⟩
  | arr items => exact ⟨'[', _, by rw [chars], rfl⟩
  | obj fields => exact ⟨'\x7b', _, by rw [chars], rfl⟩
  | num n =>
    obtain ⟨c, rest, text, digit⟩ := Numeral.Written.head_chars (by simpa [Written] using h)
    exact ⟨c, rest, by rw [chars, text], kindOfChar_of_digit digit⟩
  | unreadable => exact absurd h (by simp [Written])

theorem kind_ne_seven {x : Json} (h : x.Written) : x.kind ≠ 7 := by
  rcases x with _ | (_ | _) | _ | _ | _ | _ | _ <;> simp_all [kind, Written]

theorem kind_eq_of_chars_append_eq {x y : Json} {r r' : List Char} (hx : x.Written)
    (hy : y.Written) (h : x.chars ++ r = y.chars ++ r') : x.kind = y.kind := by
  obtain ⟨c, rest, text, kind⟩ := head_chars hx
  obtain ⟨d, rest', text', kind'⟩ := head_chars hy
  rw [text, text'] at h
  rw [← kind, ← kind', (List.cons.inj h).1]

/-- What follows an item in an array. -/
def afterItem : List Json → List Char
  | [] => [']']
  | rest => ',' :: itemChars rest

/-- What follows a field in an object. -/
def afterField : List (String × Json) → List Char
  | [] => ['\x7d']
  | rest => ',' :: fieldChars rest

theorem itemChars_cons (item : Json) (rest : List Json) :
    itemChars (item :: rest) = item.chars ++ afterItem rest := by
  cases rest with
  | nil => rw [itemChars, afterItem]
  | cons next rest =>
    rw [itemChars, afterItem]
    all_goals exact nofun

theorem fieldChars_cons (name : String) (value : Json) (rest : List (String × Json)) :
    fieldChars ((name, value) :: rest) =
      quoted name.toList ++ ':' :: (value.chars ++ afterField rest) := by
  cases rest with
  | nil => rw [fieldChars, afterField]
  | cons next rest =>
    rw [fieldChars, afterField]
    all_goals exact nofun

theorem endsNumber_afterItem (rest : List Json) (r : List Char) :
    EndsNumber (afterItem rest ++ r) := by
  cases rest <;> exact endsNumber_cons (by decide)

theorem endsNumber_afterField (rest : List (String × Json)) (r : List Char) :
    EndsNumber (afterField rest ++ r) := by
  cases rest <;> exact endsNumber_cons (by decide)

/-- No document starts with a closing bracket. -/
theorem chars_append_ne_bracket {x : Json} {r r' : List Char} (h : x.Written) :
    x.chars ++ r ≠ ']' :: r' := by
  intro same
  obtain ⟨c, rest, text, kind⟩ := head_chars h
  rw [text] at same
  obtain ⟨rfl, -⟩ := List.cons.inj same
  exact kind_ne_seven h kind.symm

mutual

/-- The text of a document determines the document and where it ends. -/
theorem chars_append_inj : ∀ {x y : Json} {r r' : List Char}, x.Written → y.Written →
    EndsNumber r → EndsNumber r' → x.chars ++ r = y.chars ++ r' → x = y ∧ r = r' := by
  intro x y r r' hx hy hr hr' h
  have same := kind_eq_of_chars_append_eq hx hy h
  rcases x with _ | (_ | _) | n | s | items | fields | _ <;>
    rcases y with _ | (_ | _) | m | t | items' | fields' | _ <;>
    first
      | (simp [kind] at same; done)
      | skip
  · exact ⟨rfl, List.append_cancel_left h⟩
  · exact ⟨rfl, List.append_cancel_left h⟩
  · exact ⟨rfl, List.append_cancel_left h⟩
  · rw [chars, chars] at h
    obtain ⟨numerals, rest⟩ := Numeral.chars_append_inj hx hy hr hr' h
    exact ⟨by rw [numerals], rest⟩
  · rw [chars, chars] at h
    obtain ⟨text, rest⟩ := quoted_append_inj h
    exact ⟨by rw [String.toList_inj.1 text], rest⟩
  · rw [chars, chars] at h
    obtain ⟨inside, rest⟩ := itemChars_append_inj hx hy (List.cons.inj h).2
    exact ⟨by rw [inside], rest⟩
  · rw [chars, chars] at h
    obtain ⟨inside, rest⟩ := fieldChars_append_inj hx hy (List.cons.inj h).2
    exact ⟨by rw [inside], rest⟩
  · exact absurd hx (by simp [Written])

theorem itemChars_append_inj : ∀ {l l' : List Json} {r r' : List Char}, ItemsWritten l →
    ItemsWritten l' → itemChars l ++ r = itemChars l' ++ r' → l = l' ∧ r = r' := by
  intro l l' r r' hl hl' h
  rcases l with _ | ⟨item, rest⟩ <;> rcases l' with _ | ⟨item', rest'⟩
  · exact ⟨rfl, List.append_cancel_left h⟩
  · rw [itemChars_cons, List.append_assoc] at h
    exact absurd h.symm (chars_append_ne_bracket hl'.1)
  · rw [itemChars_cons, List.append_assoc] at h
    exact absurd h (chars_append_ne_bracket hl.1)
  · rw [itemChars_cons, itemChars_cons, List.append_assoc, List.append_assoc] at h
    obtain ⟨items, after⟩ := chars_append_inj hl.1 hl'.1 (endsNumber_afterItem _ _)
      (endsNumber_afterItem _ _) h
    rcases rest with _ | ⟨next, rest⟩ <;> rcases rest' with _ | ⟨next', rest'⟩
    · exact ⟨by rw [items], List.append_cancel_left after⟩
    · exact absurd (List.cons.inj after).1 (by decide)
    · exact absurd (List.cons.inj after).1 (by decide)
    · obtain ⟨others, rest⟩ := itemChars_append_inj hl.2 hl'.2 (List.cons.inj after).2
      exact ⟨by rw [items, others], rest⟩

theorem fieldChars_append_inj : ∀ {l l' : List (String × Json)} {r r' : List Char},
    FieldsWritten l → FieldsWritten l' → fieldChars l ++ r = fieldChars l' ++ r' →
    l = l' ∧ r = r' := by
  intro l l' r r' hl hl' h
  rcases l with _ | ⟨⟨name, value⟩, rest⟩ <;> rcases l' with _ | ⟨⟨name', value'⟩, rest'⟩
  · exact ⟨rfl, List.append_cancel_left h⟩
  · rw [fieldChars_cons] at h
    exact absurd (List.cons.inj h).1 (by decide)
  · rw [fieldChars_cons] at h
    exact absurd (List.cons.inj h).1 (by decide)
  · simp only [fieldChars_cons, List.append_assoc, List.cons_append] at h
    obtain ⟨text, h⟩ := quoted_append_inj h
    have names := String.toList_inj.1 text
    obtain ⟨-, h⟩ := List.cons.inj h
    obtain ⟨values, after⟩ := chars_append_inj hl.1 hl'.1 (endsNumber_afterField _ _)
      (endsNumber_afterField _ _) h
    rcases rest with _ | ⟨next, rest⟩ <;> rcases rest' with _ | ⟨next', rest'⟩
    · exact ⟨by rw [names, values], List.append_cancel_left after⟩
    · exact absurd (List.cons.inj after).1 (by decide)
    · exact absurd (List.cons.inj after).1 (by decide)
    · obtain ⟨others, rest⟩ := fieldChars_append_inj hl.2 hl'.2 (List.cons.inj after).2
      exact ⟨by rw [names, values, others], rest⟩

end

/-- No text of an object starts the text of another. -/
theorem eq_of_render_starts {fields fields' : List (String × Json)}
    (h : (obj fields).Written) (h' : (obj fields').Written)
    (starts : (render (.obj fields)).toList <+: (render (.obj fields')).toList) :
    fields = fields' := by
  obtain ⟨rest, text⟩ := starts
  simp only [render, String.toList_ofList, chars] at text
  have inside : fieldChars fields ++ rest = fieldChars fields' ++ [] := by
    rw [List.append_nil]
    exact (List.cons.inj text).2
  exact (fieldChars_append_inj h h' inside).1

/-- Documents with one text are the same. -/
theorem render_inj {x y : Json} (hx : x.Written) (hy : y.Written) (h : x.render = y.render) :
    x = y := by
  have texts : x.chars ++ [] = y.chars ++ [] := by
    rw [List.append_nil, List.append_nil]
    exact String.ofList_injective h
  exact (chars_append_inj hx hy endsNumber_nil endsNumber_nil texts).1

end Json

end GuidedDecoding
