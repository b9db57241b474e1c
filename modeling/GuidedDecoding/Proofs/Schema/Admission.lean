import GuidedDecoding.Json.Reader
import GuidedDecoding.Proofs.Json.Reading
import GuidedDecoding.Proofs.Schema.Validation
import GuidedDecoding.Schema.Literal

/-!
# Which admitted literals are valid

The literals of a type are recognised without being read. For numbers, truth values and `null` this
is as good as reading: what the type admits is a document that its JSON Schema accepts. Of an array
or an object only the brackets are looked at. If there is a document between them, it is an array or
an object, but there may be none.
-/

namespace GuidedDecoding

namespace NumberLiteral

open Json (digits1 wholePart fractionPart exponentPart unsignedNumeral numeral)

variable {s : List Char}

/-! Each part of a number is recognised where it is read. -/

theorem afterDigits?_eq (s : List Char) : afterDigits? s = (digits1 s).map Prod.snd := by
  rcases s with _ | ⟨c, rest⟩
  · rfl
  · by_cases digit : c.isDigit <;> simp [afterDigits?, digits1, Json.digits, digit]

theorem afterWhole?_eq (s : List Char) : afterWhole? s = (wholePart s).map Prod.snd := by
  fun_cases wholePart s with
  | case1 rest => rfl
  | case2 s noZero => rw [afterWhole?, afterDigits?_eq]; exact noZero

theorem afterFraction?_eq (s : List Char) : afterFraction? s = (fractionPart s).map Prod.snd := by
  fun_cases fractionPart s with
  | case1 rest => simp [afterFraction?, afterDigits?_eq, Function.comp_def]
  | case2 s noPoint => rw [afterFraction?]; exacts [rfl, noPoint]

theorem afterExponent?_eq (s : List Char) : afterExponent? s = (exponentPart s).map Prod.snd := by
  have marked : ∀ c rest, (c == 'e' || c == 'E') = true →
      afterExponent? (c :: rest) = (digits1 (afterExponentSign rest)).map Prod.snd := by
    intro c rest mark
    rw [← afterDigits?_eq]
    rcases Bool.or_eq_true_iff.1 mark with mark | mark <;> rw [beq_iff_eq.1 mark] <;> rfl
  fun_cases exponentPart s with
  | case1 => rfl
  | case2 c mark rest => simp [marked _ _ mark, afterExponentSign, Function.comp_def]
  | case3 c mark rest => simp [marked _ _ mark, afterExponentSign, Function.comp_def]
  | case4 c mark rest noMinus noPlus =>
    rw [marked _ _ mark, afterExponentSign, Option.map_map]
    · rfl
    · exact noPlus
    · exact noMinus
  | case5 c rest noMark =>
    unfold afterExponent?
    split <;> simp_all

/-- A number is recognised where one is read. -/
theorem after?_eq (s : List Char) : after? s = (numeral s).map Prod.snd := by
  have unsigned : ∀ negative rest,
      ((afterWhole? rest).bind afterFraction?).bind afterExponent? =
        (unsignedNumeral negative rest).map Prod.snd := by
    intro negative rest
    rw [afterWhole?_eq, unsignedNumeral]
    rcases wholePart rest with _ | ⟨whole, rest⟩
    · rfl
    change (afterFraction? rest).bind afterExponent? = _
    rw [afterFraction?_eq]
    change _ = Option.map Prod.snd ((fractionPart rest).bind _)
    rcases fractionPart rest with _ | ⟨fraction, rest⟩
    · rfl
    change afterExponent? rest = Option.map Prod.snd ((exponentPart rest).bind _)
    rw [afterExponent?_eq]
    cases exponentPart rest <;> rfl
  fun_cases numeral s with
  | case1 rest => exact unsigned true rest
  | case2 s noMinus =>
    rw [after?, afterSign]
    · exact unsigned false s
    · exact noMinus

theorem isNumber_iff : isNumber s = true ↔ ∃ n, numeral s = some (n, []) := by
  simp [isNumber, after?_eq]

end NumberLiteral

namespace Json

open NumberLiteral (hasFractionMark)

variable {s rest : List Char} {n : Numeral} {fuel room : Nat} {doc : Json}

theorem suffix_of_digits1 {found : List Char} (h : digits1 s = some (found, rest)) :
    rest <:+ s := by
  unfold digits1 at h
  split at h
  · cases h
  · cases h
    exact List.dropWhile_suffix _

theorem suffix_of_wholePart {whole : List Char} (h : wholePart s = some (whole, rest)) :
    rest <:+ s := by
  unfold wholePart at h
  split at h
  · cases h
    exact List.suffix_cons _ _
  · exact suffix_of_digits1 h

theorem hasFractionMark_eq_false_iff :
    hasFractionMark s = false ↔ ∀ c ∈ s, c ≠ '.' ∧ c ≠ 'e' ∧ c ≠ 'E' := by
  simp [hasFractionMark, and_assoc]

theorem unmarked_of_subset (unmarked : hasFractionMark s = false) (part : rest ⊆ s) :
    hasFractionMark rest = false := by
  rw [hasFractionMark_eq_false_iff] at unmarked ⊢
  exact fun c inside => unmarked c (part inside)

theorem fractionPart_of_unmarked (unmarked : hasFractionMark s = false) :
    fractionPart s = some (none, s) := by
  fun_cases fractionPart s with
  | case1 rest =>
    obtain ⟨noPoint, -⟩ := hasFractionMark_eq_false_iff.1 unmarked '.' List.mem_cons_self
    exact absurd rfl noPoint
  | case2 s noPoint => rfl

theorem exponentPart_of_unmarked (unmarked : hasFractionMark s = false) :
    exponentPart s = some (none, s) := by
  rcases s with _ | ⟨c, rest⟩
  · rfl
  · obtain ⟨-, lower, upper⟩ := hasFractionMark_eq_false_iff.1 unmarked c List.mem_cons_self
    simp [exponentPart, lower, upper]

/-- A number without the mark of a fraction or an exponent is whole. -/
theorem isWhole_of_unsignedNumeral {negative : Bool} (unmarked : hasFractionMark s = false)
    (h : unsignedNumeral negative s = some (n, rest)) : n.isWhole = true := by
  rw [unsignedNumeral] at h
  obtain ⟨⟨whole, left⟩, read, h⟩ := Option.bind_eq_some_iff.1 h
  have unmarked' := unmarked_of_subset unmarked (suffix_of_wholePart read).subset
  change (fractionPart left).bind _ = _ at h
  rw [fractionPart_of_unmarked unmarked'] at h
  change (exponentPart left).bind _ = _ at h
  rw [exponentPart_of_unmarked unmarked'] at h
  cases h
  rfl

theorem isWhole_of_numeral (unmarked : hasFractionMark s = false)
    (h : numeral s = some (n, rest)) : n.isWhole = true := by
  unfold numeral at h
  split at h
  · exact isWhole_of_unsignedNumeral (unmarked_of_subset unmarked (List.subset_cons_self _ _)) h
  · exact isWhole_of_unsignedNumeral unmarked h

theorem head_of_digits1 {found : List Char} (h : digits1 s = some (found, rest)) :
    ∃ c tail, s = c :: tail ∧ c.isDigit = true := by
  rcases s with _ | ⟨c, tail⟩
  · cases h
  · by_cases digit : c.isDigit
    · exact ⟨c, tail, rfl, digit⟩
    · simp [digits1, digits, digit] at h

/-- A number starts with a minus sign or a digit. -/
theorem head_of_numeral (h : numeral s = some (n, rest)) :
    ∃ c tail, s = c :: tail ∧ (c = '-' ∨ c.isDigit = true) := by
  unfold numeral at h
  split at h
  · exact ⟨_, _, rfl, .inl rfl⟩
  · rw [unsignedNumeral] at h
    obtain ⟨⟨whole, left⟩, read, -⟩ := Option.bind_eq_some_iff.1 h
    unfold wholePart at read
    split at read
    · exact ⟨_, _, rfl, .inr rfl⟩
    · obtain ⟨c, tail, same, digit⟩ := head_of_digits1 read
      exact ⟨c, tail, same, .inr digit⟩

/-- Where a number stands, the reader takes it. -/
theorem value_of_numeral (h : numeral s = some (n, rest)) :
    value (fuel + 1) room s = some (.num n, rest) := by
  obtain ⟨c, tail, rfl, start⟩ := head_of_numeral h
  have other : ∀ d, ¬ (d = '-' ∨ d.isDigit = true) → c ≠ d := by
    rintro d noStart rfl
    exact noStart start
  have solid : isBlank c = false := by
    simp [isBlank, other ' ' (by decide), other '\t' (by decide), other '\n' (by decide),
      other '\r' (by decide)]
  rw [value, skipBlank_of_solid solid]
  split
  case h_7 => rw [h]; rfl
  all_goals
    next same =>
      cases same
      exact absurd rfl (other _ (by decide))

theorem parse_of_numeral {text : String} (h : numeral text.toList = some (n, [])) :
    parse text = some (.num n) := by
  rw [parse, ofChars?, value_of_numeral h]
  rfl

/-- An opening bracket starts an array. -/
theorem eq_arr_of_value (h : value fuel room ('[' :: s) = some (doc, rest)) (shallow : 0 < room) :
    ∃ l, doc = .arr l := by
  rcases fuel with _ | fuel
  · cases h
  rw [value, skipBlank_of_solid rfl] at h
  simp only at h
  split at h
  · cases h
    exact ⟨[], within_of_lt shallow⟩
  · obtain ⟨⟨l, left⟩, -, h⟩ := Option.bind_eq_some_iff.1 h
    cases h
    exact ⟨l, within_of_lt shallow⟩

/-- An opening brace starts an object, which is beyond a reader if a name in it is. -/
theorem eq_obj_of_value (h : value fuel room ('\x7b' :: s) = some (doc, rest))
    (shallow : 0 < room) : doc = .unreadable ∨ ∃ l, doc = .obj l := by
  rcases fuel with _ | fuel
  · cases h
  rw [value, skipBlank_of_solid rfl] at h
  simp only at h
  split at h
  · cases h
    exact .inr ⟨[], within_of_lt shallow⟩
  · obtain ⟨⟨l, left⟩, -, h⟩ := Option.bind_eq_some_iff.1 h
    cases h
    cases l with
    | none => exact .inl rfl
    | some l => exact .inr ⟨l, within_of_lt shallow⟩

theorem exists_value_of_parse {text : String} (h : parse text = some doc) :
    ∃ fuel rest, value fuel depthLimit text.toList = some (doc, rest) := by
  unfold parse ofChars? at h
  split at h
  · next doc' rest read =>
    split at h
    · cases h
      exact ⟨_, _, read⟩
    · cases h
  · cases h

end Json

/-- A number without a fraction and an exponent is an integer. -/
theorem Numeral.exists_value_eq_of_isWhole {n : Numeral} (whole : n.isWhole = true) :
    ∃ i : Int, n.value = i := by
  obtain ⟨negative, digits, fraction, exponent⟩ := n
  obtain ⟨noFraction, noExponent⟩ := Bool.and_eq_true_iff.1 whole
  cases Option.isNone_iff_eq_none.1 noFraction
  cases Option.isNone_iff_eq_none.1 noExponent
  have size : (⟨negative, digits, none, none⟩ : Numeral).size = (digitsValue digits : Int) := by
    simp [Numeral.size, Numeral.places, Numeral.power]
  refine ⟨if negative then -digitsValue digits else digitsValue digits, ?_⟩
  rw [Numeral.value, size]
  cases negative <;> simp

namespace SchemaType

open NumberLiteral (isNumber_iff)

/-- The types whose literals are looked at from end to end. -/
def IsScalar : SchemaType → Prop
  | .number | .integer | .boolean | .null => True
  | .string | .array _ | .object _ => False

/-- A text is a document that the JSON Schema of a type accepts. -/
def ValidText (t : SchemaType) (text : String) : Prop :=
  ∃ doc, Json.parse text = some doc ∧ t.jsonSchema.Accepts doc

variable {t : SchemaType} {text : String}

theorem validText_of_admits (scalar : t.IsScalar) (admitted : t.admits text = true) :
    t.ValidText text := by
  cases t with
  | number =>
    obtain ⟨n, read⟩ := isNumber_iff.1 admitted
    exact ⟨_, Json.parse_of_numeral read, Json.accepts_type.2 (.inl rfl)⟩
  | integer =>
    obtain ⟨number, noMark⟩ := Bool.and_eq_true_iff.1 admitted
    obtain ⟨n, read⟩ := isNumber_iff.1 number
    have whole := Json.isWhole_of_numeral (by simpa using noMark) read
    exact ⟨_, Json.parse_of_numeral read,
      Json.accepts_type.2 (.inr ⟨rfl, n.exists_value_eq_of_isWhole whole⟩)⟩
  | boolean =>
    rcases Bool.or_eq_true_iff.1 admitted with same | same <;> rw [eq_of_beq same]
    · exact ⟨.bool true, rfl, Json.accepts_type.2 rfl⟩
    · exact ⟨.bool false, rfl, Json.accepts_type.2 rfl⟩
  | null =>
    rw [eq_of_beq admitted]
    exact ⟨.null, rfl, Json.accepts_type.2 rfl⟩
  | string | array | object => exact scalar.elim

/-- Every other type admits a text that is no document. -/
theorem exists_admits_of_not_isScalar (notScalar : ¬ t.IsScalar) :
    ∃ text, t.admits text = true ∧ Json.parse text = none := by
  cases t with
  | string => exact ⟨"", rfl, rfl⟩
  | array items => exact ⟨"[x]", rfl, rfl⟩
  | object fields => exact ⟨"\x7ba\x7d", rfl, rfl⟩
  | number | integer | boolean | null => exact absurd trivial notScalar

theorem eq_cons_of_enclosed {first last : Char} {cs : List Char}
    (h : enclosed first last cs = true) : ∃ rest, cs = first :: rest := by
  rcases cs with _ | ⟨c, rest⟩
  · cases h
  · obtain ⟨same, -⟩ := Bool.and_eq_true_iff.1 h
    exact ⟨rest, by rw [Option.some.inj (eq_of_beq same)]⟩

/-- The brackets tell an array and an object from all else. -/
theorem isOfType_of_admits {doc : Json} (notText : t ≠ .string) (admitted : t.admits text = true)
    (read : Json.parse text = some doc) : doc = .unreadable ∨ Json.IsOfType t.name doc := by
  have ofScalar : t.IsScalar → t.jsonSchema = .obj [("type", .str t.name)] →
      doc = .unreadable ∨ Json.IsOfType t.name doc := by
    intro scalar schema
    obtain ⟨doc', read', accepted⟩ := validText_of_admits scalar admitted
    cases read.symm.trans read'
    exact .inr (Json.accepts_type.1 (schema ▸ accepted))
  obtain ⟨fuel, left, value⟩ := Json.exists_value_of_parse read
  cases t with
  | string => exact absurd rfl notText
  | number | integer | boolean | null => exact ofScalar trivial rfl
  | array items =>
    obtain ⟨rest, starts⟩ := eq_cons_of_enclosed admitted
    obtain ⟨l, rfl⟩ := Json.eq_arr_of_value (starts ▸ value) (by decide)
    exact .inr rfl
  | object fields =>
    obtain ⟨rest, starts⟩ := eq_cons_of_enclosed admitted
    obtain rfl | ⟨l, rfl⟩ := Json.eq_obj_of_value (starts ▸ value) (by decide)
    · exact .inl rfl
    · exact .inr rfl

/-- What a scalar type admits is a document that its JSON Schema accepts. Every other type also
admits texts that are no documents. If an admitted text is one, it is of the type that was asked
for, though what is in it may be of any. -/
theorem admission (t : SchemaType) :
    (t.IsScalar → ∀ text, t.admits text = true → t.ValidText text) ∧
      (¬ t.IsScalar → ∃ text, t.admits text = true ∧ Json.parse text = none) ∧
        (t ≠ .string → ∀ text doc, t.admits text = true → Json.parse text = some doc →
          doc = .unreadable ∨ Json.IsOfType t.name doc) :=
  ⟨fun scalar _ => validText_of_admits scalar, exists_admits_of_not_isScalar,
    fun notText _ _ => isOfType_of_admits notText⟩

/-- A number with a fraction and an exponent is valid. Of what stands between brackets nothing is
known but that, where it is read, it is an array. -/
theorem admission_number_array :
    SchemaType.number.ValidText "-0.5e10" ∧
      (∃ text, (SchemaType.array .number).admits text = true ∧ Json.parse text = none) ∧
        (Json.arr [.bool true] = .unreadable ∨ Json.IsOfType "array" (.arr [.bool true])) :=
  ⟨(admission .number).1 trivial _ rfl, (admission (.array .number)).2.1 id,
    (admission (.array .number)).2.2 nofun "[true]" _ rfl rfl⟩

end SchemaType

end GuidedDecoding
