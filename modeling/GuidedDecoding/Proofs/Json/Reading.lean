import GuidedDecoding.Json.Decode
import GuidedDecoding.Json.Reader
import GuidedDecoding.Proofs.Json.Text
import Mathlib.Tactic.FinCases

/-!
# Texts that are read back

A document without numbers is read back from its text, as long as its containers nest no deeper than
the reader takes (`Json.parse_render`). Between its tokens stand no blanks, each character of a
string is one piece of a literal however it is escaped, and every part is shorter than the whole, so
the reader never stops for want of steps.
-/

namespace GuidedDecoding

namespace Json

mutual

/-- A document without numbers, all of which has a text. -/
def Textual : Json → Prop
  | .num _ => False
  | .arr items => ItemsTextual items
  | .obj fields => FieldsTextual fields
  | .unreadable => False
  | _ => True

/-- Items without numbers. -/
def ItemsTextual : List Json → Prop
  | [] => True
  | item :: rest => item.Textual ∧ ItemsTextual rest

/-- Fields without numbers in their values. -/
def FieldsTextual : List (String × Json) → Prop
  | [] => True
  | (_, value) :: rest => value.Textual ∧ FieldsTextual rest

end

theorem itemsTextual_iff {items : List Json} :
    ItemsTextual items ↔ ∀ item ∈ items, item.Textual := by
  induction items with
  | nil => simp [ItemsTextual]
  | cons item rest ih => rw [ItemsTextual, ih, List.forall_mem_cons]

theorem fieldsTextual_iff {fields : List (String × Json)} :
    FieldsTextual fields ↔ ∀ f ∈ fields, f.2.Textual := by
  induction fields with
  | nil => simp [FieldsTextual]
  | cons f rest ih => rw [FieldsTextual, ih, List.forall_mem_cons]

@[simp] theorem textual_null : null.Textual := trivial

@[simp] theorem textual_bool (value : Bool) : (bool value).Textual := trivial

@[simp] theorem textual_str (s : String) : (str s).Textual := trivial

@[simp] theorem textual_arr {items : List Json} :
    (arr items).Textual ↔ ∀ item ∈ items, item.Textual :=
  itemsTextual_iff

@[simp] theorem textual_obj {fields : List (String × Json)} :
    (obj fields).Textual ↔ ∀ f ∈ fields, f.2.Textual :=
  fieldsTextual_iff

mutual

theorem Textual.written : ∀ {x : Json}, x.Textual → x.Written
  | .null, _ => trivial
  | .bool _, _ => trivial
  | .str _, _ => trivial
  | .arr _, h => ItemsTextual.written h
  | .obj _, h => FieldsTextual.written h

theorem ItemsTextual.written : ∀ {items : List Json}, ItemsTextual items → ItemsWritten items
  | [], _ => trivial
  | _ :: _, h => ⟨h.1.written, ItemsTextual.written h.2⟩

theorem FieldsTextual.written : ∀ {fields : List (String × Json)},
    FieldsTextual fields → FieldsWritten fields
  | [], _ => trivial
  | _ :: _, h => ⟨h.1.written, FieldsTextual.written h.2⟩

end

mutual

/-- Nothing in such a document is beyond a reader. -/
theorem Textual.readable : ∀ {x : Json}, x.Textual → x.readable = true
  | .null, _ => rfl
  | .bool _, _ => rfl
  | .str _, _ => rfl
  | .arr _, h => ItemsTextual.readable h
  | .obj _, h => FieldsTextual.readable h

theorem ItemsTextual.readable : ∀ {items : List Json},
    ItemsTextual items → itemsReadable items = true
  | [], _ => rfl
  | _ :: _, h => Bool.and_eq_true_iff.2 ⟨h.1.readable, ItemsTextual.readable h.2⟩

theorem FieldsTextual.readable : ∀ {fields : List (String × Json)},
    FieldsTextual fields → fieldsReadable fields = true
  | [], _ => rfl
  | _ :: _, h => Bool.and_eq_true_iff.2 ⟨h.1.readable, FieldsTextual.readable h.2⟩

end

section Literals

theorem mem_specials_of_control {c : Char} (h : c.val < 0x20) : c ∈ specials := by
  have small : c.toNat < 32 := h
  refine List.mem_cons_of_mem _ (List.mem_cons_of_mem _ (List.mem_map.2 ?_))
  exact ⟨c.toNat, List.mem_range.2 small, Char.ofNat_toNat c⟩

theorem piece_of_special : ∀ c ∈ specials, ∀ s, piece (escaped c ++ s) = some (.char c, s) := by
  intro c special s
  fin_cases special <;> rfl

/-- However a character stands between quotes, it is one piece of the literal. -/
theorem piece_escaped (c : Char) (s : List Char) : piece (escaped c ++ s) = some (.char c, s) := by
  by_cases special : c ∈ specials
  · exact piece_of_special c special s
  · have notQuote : c ≠ '"' := by
      rintro rfl
      exact special List.mem_cons_self
    have notBackslash : c ≠ '\\' := by
      rintro rfl
      exact special (by decide)
    have notControl : ¬ c.val < 0x20 := fun control => special (mem_specials_of_control control)
    rw [escaped_of_not_special special]
    unfold piece
    split <;> simp_all

theorem literal_quoted (text s : List Char) (fuel : Nat) (enough : text.length < fuel) :
    literal fuel (text.flatMap escaped ++ '"' :: s) = some (some text, s) := by
  induction text generalizing fuel with
  | nil =>
    obtain ⟨fuel, rfl⟩ := Nat.exists_eq_add_one_of_ne_zero (Nat.ne_of_gt enough)
    rfl
  | cons c text ih =>
    obtain ⟨fuel, rfl⟩ := Nat.exists_eq_add_one_of_ne_zero (Nat.ne_of_gt (Nat.zero_lt_of_lt enough))
    rw [List.flatMap_cons, List.append_assoc, literal, piece_escaped]
    simp only [Option.bind_eq_bind, Option.bind_some, ih fuel (Nat.lt_of_succ_lt_succ enough)]
    rfl

theorem length_escaped_pos (c : Char) : 0 < (escaped c).length := by
  by_cases special : c ∈ specials
  · refine List.length_pos_of_ne_nil fun nothing => ?_
    have first := head_escaped_special c special
    rw [nothing] at first
    cases first
  · rw [escaped_of_not_special special]
    exact Nat.one_pos

/-- A string takes a step for each character, one for the closing quote and one for the opening. -/
theorem length_quoted (text : List Char) : text.length + 2 ≤ (quoted text).length := by
  have inside : text.length ≤ (text.flatMap escaped).length := by
    induction text with
    | nil => exact Nat.le_refl 0
    | cons c text ih =>
      have first := length_escaped_pos c
      rw [List.flatMap_cons, List.length_append, List.length_cons]
      omega
  simp only [quoted, List.cons_append, List.length_cons, List.length_append, List.length_nil]
  omega

end Literals

theorem skipBlank_of_solid {c : Char} {s : List Char} (h : isBlank c = false) :
    skipBlank (c :: s) = c :: s :=
  List.dropWhile_cons_of_neg (by rw [h]; exact Bool.false_ne_true)

/-- No document starts with a blank or with a closing bracket. -/
theorem exists_solid_start {x : Json} (h : x.Written) (r : List Char) :
    ∃ c rest, x.chars ++ r = c :: rest ∧ skipBlank (c :: rest) = c :: rest ∧ c ≠ ']' := by
  obtain ⟨c, rest, text, kind⟩ := head_chars h
  have known : kindOfChar c ≠ 7 := kind ▸ kind_ne_seven h
  have other : ∀ d, kindOfChar d = 7 → c ≠ d := by
    rintro d unknown rfl
    exact known unknown
  have space := other ' ' (by decide)
  have tab := other '\t' (by decide)
  have lineFeed := other '\n' (by decide)
  have carriageReturn := other '\r' (by decide)
  refine ⟨c, rest ++ r, by rw [text]; rfl, ?_, other ']' (by decide)⟩
  exact skipBlank_of_solid (by simp [isBlank, space, tab, lineFeed, carriageReturn])

theorem length_chars_pos {x : Json} (h : x.Written) : 0 < x.chars.length := by
  obtain ⟨c, rest, text, -⟩ := head_chars h
  rw [text]
  exact Nat.succ_pos _

theorem within_of_lt {room depth : Nat} {doc : Json} (h : depth < room) :
    within room doc = doc := by
  have room_ne : room ≠ 0 := Nat.ne_of_gt (Nat.zero_lt_of_lt h)
  simp [within, room_ne]

mutual

/-- A document without numbers is read from the front of a text. -/
theorem value_chars : ∀ {x : Json} {fuel room : Nat} {r : List Char}, x.Textual → x.depth ≤ room →
    x.chars.length ≤ fuel → value fuel room (x.chars ++ r) = some (x, r) := by
  intro x fuel room r textual shallow enough
  obtain ⟨c, rest, text, solid, -⟩ := exists_solid_start textual.written r
  obtain ⟨fuel, rfl⟩ := Nat.exists_eq_add_one_of_ne_zero
    (Nat.ne_of_gt (Nat.lt_of_lt_of_le (length_chars_pos textual.written) enough))
  rw [value, text, solid, ← text]
  rcases x with _ | (_ | _) | n | s | items | fields | _
  · rw [chars]; rfl
  · rw [chars]; rfl
  · rw [chars]; rfl
  · exact absurd textual id
  · have length := length_quoted s.toList
    rw [chars] at enough ⊢
    have inside := literal_quoted s.toList r fuel (by omega)
    simp only [quoted, List.cons_append, List.append_assoc, List.nil_append, inside]
    simp
  · rw [chars, List.length_cons] at enough
    rw [depth] at shallow
    rw [chars, List.cons_append]
    cases items with
    | nil => simp [itemChars, skipBlank_of_solid, isBlank, within_of_lt shallow]
    | cons item others =>
      have inside : ItemsTextual (item :: others) := textual
      have read := items_chars (r := r) (List.cons_ne_nil _ _) inside
        (Nat.le_sub_one_of_lt shallow) (Nat.le_of_succ_le_succ enough)
      -- The reader tells an empty array by its next character.
      obtain ⟨c, rest, text, solid, opens⟩ :=
        exists_solid_start inside.1.written (afterItem others ++ r)
      rw [itemChars_cons, List.append_assoc, text] at read ⊢
      simp only [solid]
      split
      · next same => exact absurd (List.cons.inj same).1 opens
      · simp [read, within_of_lt shallow]
  · rw [chars, List.length_cons] at enough
    rw [depth] at shallow
    rw [chars, List.cons_append]
    rcases fields with _ | ⟨⟨name, content⟩, others⟩
    · simp [fieldChars, skipBlank_of_solid, isBlank, within_of_lt shallow]
    · have inside : FieldsTextual ((name, content) :: others) := textual
      have read := fields_chars (r := r) (List.cons_ne_nil _ _) inside
        (Nat.le_sub_one_of_lt shallow) (Nat.le_of_succ_le_succ enough)
      rw [fieldChars_cons, quoted, List.cons_append, List.cons_append, List.cons_append] at read ⊢
      simp only [skipBlank_of_solid (c := '"') rfl]
      split
      · next same => exact absurd (List.cons.inj same).1 (by decide)
      · simp only [read, within_of_lt shallow]
        rfl
  · exact absurd textual id

theorem items_chars : ∀ {l : List Json} {fuel room : Nat} {r : List Char}, l ≠ [] →
    ItemsTextual l → itemsDepth l ≤ room → (itemChars l).length ≤ fuel →
    items fuel room (itemChars l ++ r) = some (l, r) := by
  intro l fuel room r some_item textual shallow enough
  rcases l with _ | ⟨item, others⟩
  · exact absurd rfl some_item
  have starts := length_chars_pos textual.1.written
  rw [itemsDepth, Nat.max_le] at shallow
  rw [itemChars_cons, List.length_append] at enough
  obtain ⟨fuel, rfl⟩ := Nat.exists_eq_add_one_of_ne_zero (n := fuel) (by omega)
  rw [itemChars_cons, List.append_assoc, items]
  rcases others with _ | ⟨next, others⟩
  · rw [afterItem, List.length_singleton] at enough
    rw [afterItem, value_chars textual.1 shallow.1 (by omega), List.singleton_append,
      Option.bind_eq_bind, Option.bind_some]
    simp only [skipBlank_of_solid (c := ']') rfl]
    rfl
  · have after : afterItem (next :: others) = ',' :: itemChars (next :: others) := by
      rw [afterItem]
      exact nofun
    rw [after, List.length_cons] at enough
    rw [after, value_chars textual.1 shallow.1 (by omega), List.cons_append, Option.bind_eq_bind,
      Option.bind_some]
    simp only [skipBlank_of_solid (c := ',') rfl]
    rw [items_chars (List.cons_ne_nil _ _) textual.2 shallow.2 (by omega)]
    rfl

theorem fields_chars : ∀ {l : List (String × Json)} {fuel room : Nat} {r : List Char}, l ≠ [] →
    FieldsTextual l → fieldsDepth l ≤ room → (fieldChars l).length ≤ fuel →
    fields fuel room (fieldChars l ++ r) = some (some l, r) := by
  intro l fuel room r some_field textual shallow enough
  rcases l with _ | ⟨⟨name, content⟩, others⟩
  · exact absurd rfl some_field
  have length := length_quoted name.toList
  rw [fieldsDepth, Nat.max_le] at shallow
  rw [fieldChars_cons, List.length_append, List.length_cons, List.length_append] at enough
  obtain ⟨fuel, rfl⟩ := Nat.exists_eq_add_one_of_ne_zero (n := fuel) (by omega)
  have named := literal_quoted name.toList (':' :: (content.chars ++ (afterField others ++ r)))
    fuel (by omega)
  rw [fieldChars_cons, fields, quoted]
  simp only [List.append_assoc, List.cons_append, List.nil_append]
  rw [skipBlank_of_solid (by decide)]
  simp only [Option.bind_eq_bind, named, Option.bind_some, skipBlank_of_solid (c := ':') rfl]
  rw [value_chars textual.1 shallow.1 (by omega), Option.bind_some]
  rcases others with _ | ⟨⟨next, value⟩, others⟩
  · rw [afterField, List.singleton_append]
    simp only [skipBlank_of_solid (c := '\x7d') rfl]
    simp
  · have after : afterField ((next, value) :: others) =
        ',' :: fieldChars ((next, value) :: others) := by
      rw [afterField]
      exact nofun
    rw [after, List.length_cons] at enough
    rw [after, List.cons_append]
    simp only [skipBlank_of_solid (c := ',') rfl]
    rw [fields_chars (List.cons_ne_nil _ _) textual.2 shallow.2 (by omega)]
    simp

end

/-- A document without numbers is what its text is read as. -/
theorem parse_render {x : Json} (textual : x.Textual) (shallow : x.depth ≤ depthLimit) :
    parse x.render = some x := by
  have read := value_chars (r := []) textual shallow (Nat.le_succ x.chars.length)
  rw [List.append_nil] at read
  rw [parse, render, String.toList_ofList, ofChars?, read]
  rfl

end Json

end GuidedDecoding
