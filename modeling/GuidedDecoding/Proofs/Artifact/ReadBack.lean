import GuidedDecoding.Proofs.Artifact.Written
import GuidedDecoding.Proofs.Constraint.ReadBack
import GuidedDecoding.Proofs.Schema.Address

/-!
# Fragments that are read back

What is written of a fragment, of an entry of advice or of a note is read back, and so is its text,
as long as it nests no deeper than a reader takes (`wireForms_readBack`). Artifacts of which the
same document is digested are the same, part by part.
-/

namespace GuidedDecoding

namespace SchemaType

mutual

theorem textual_toJson : ∀ type : SchemaType, type.toJson.Textual := by
  intro type
  cases type with
  | array items => simp [toJson, textual_toJson items]
  | object fields => simpa [toJson] using textual_fieldsToJson fields
  | _ => simp [toJson]

theorem textual_fieldsToJson : ∀ fields : List (String × SchemaSlot SchemaType),
    ∀ f ∈ fieldsToJson fields, f.2.Textual := by
  intro fields
  rcases fields with _ | ⟨⟨name, slot⟩, rest⟩
  · simp [fieldsToJson]
  · rw [fieldsToJson, List.forall_mem_cons]
    exact ⟨by simp [textual_toJson slot.type], textual_fieldsToJson rest⟩

end

theorem fieldsToJson_eq (fields : List (String × SchemaField)) :
    fieldsToJson fields = fields.map fun e => (e.1, e.2.toJson) := by
  induction fields with
  | nil => rw [fieldsToJson]; rfl
  | cons e rest ih =>
    rw [fieldsToJson, ih]
    rfl

theorem slotOfJson?_toJson {typeOf : Json → Option SchemaType} {slot : SchemaField}
    (inside : typeOf slot.type.toJson = some slot.type) :
    slotOfJson? typeOf slot.toJson = some slot := by
  have parts : slot.toJson.record? [["field_type"], ["optional"], ["source_ids"]] =
      some [some slot.type.toJson, some (.bool slot.optional), some slot.sources.toJson] := rfl
  simp [slotOfJson?, parts, Json.required, Json.bool?, inside]

/-- Sorted fields are read back as soon as the types inside them are. -/
theorem fieldsOfJson?_fieldsToJson {typeOf : Json → Option SchemaType}
    {fields : List (String × SchemaField)} (sorted : Keyed.Sorted fields)
    (inside : ∀ e ∈ fields, typeOf e.2.type.toJson = some e.2.type) :
    fieldsOfJson? typeOf (.obj (fieldsToJson fields)) = some fields := by
  rw [fieldsOfJson?, fieldsToJson_eq,
    Json.entries?_map fun e member => slotOfJson?_toJson (inside e member), Option.map_some,
    Keyed.ofList_of_sorted sorted]

end SchemaType

namespace SchemaSlot

variable {slot : SchemaField}

theorem Ordered.items {items : SchemaType} (ordered : slot.Ordered)
    (type : slot.type = .array items) : Ordered { slot with type := items } :=
  SchemaSlot.Ordered.inner ordered (inner?_items_of_type type)

theorem Ordered.sorted {fields : List (String × SchemaField)} (ordered : slot.Ordered)
    (type : slot.type = .object fields) : Keyed.Sorted fields :=
  ordered [] slot fields rfl type

theorem Ordered.field {fields : List (String × SchemaField)} (ordered : slot.Ordered)
    (type : slot.type = .object fields) : ∀ e ∈ fields, e.2.Ordered := by
  intro e member
  have found : slot.inner? (.field e.1) = some e.2 := by
    rw [inner?_field_of_type type]
    exact Keyed.get?_of_mem (ordered.sorted type) member
  exact ordered.inner found

end SchemaSlot

namespace SchemaType

mutual

/-- A type is read back with as many steps as it nests deep. -/
theorem ofJsonWithin?_toJson : ∀ {type : SchemaType} {optional : Bool} {sources : NameSet}
    {fuel : Nat} (loose : Bool), SchemaSlot.Ordered ⟨type, optional, sources⟩ →
    type.toJson.depth < fuel → ofJsonWithin? fuel loose type.toJson = some type := by
  intro type optional sources fuel loose ordered enough
  obtain ⟨fuel, rfl⟩ := Nat.exists_eq_add_one_of_ne_zero (Nat.ne_of_gt (Nat.zero_lt_of_lt enough))
  cases type with
  | array items =>
    have deep : items.toJson.depth < fuel := by
      simp only [toJson, Json.depth, Json.fieldsDepth] at enough
      omega
    have inside : ofJsonWithin? fuel true items.toJson = some items :=
      ofJsonWithin?_toJson true (ordered.items rfl) deep
    have tag := Json.tagged?_obj loose "type" "array" FieldType.tags [("items", items.toJson)]
      (by simp [textual_toJson items]) (by decide) (by simp)
    rw [toJson, ofJsonWithin?, tag]
    simp [Json.record?_single, Json.required, inside]
  | object fields =>
    have deep : Json.fieldsDepth (fieldsToJson fields) ≤ fuel := by
      simp only [toJson, Json.depth, Json.fieldsDepth] at enough
      omega
    have inside := ofJsonWithin?_fields (ordered.field rfl) deep
    have tag := Json.tagged?_obj loose "type" "object" FieldType.tags
      [("fields", .obj (fieldsToJson fields))]
      (by simpa using textual_fieldsToJson fields) (by decide) (by simp)
    rw [toJson, ofJsonWithin?, tag]
    simp [Json.record?_single, Json.required,
      fieldsOfJson?_fieldsToJson (ordered.sorted rfl) inside]
  | _ => cases loose <;> rfl

theorem ofJsonWithin?_fields : ∀ {fields : List (String × SchemaSlot SchemaType)} {fuel : Nat},
    (∀ e ∈ fields, e.2.Ordered) → Json.fieldsDepth (fieldsToJson fields) ≤ fuel →
    ∀ e ∈ fields, ofJsonWithin? fuel true e.2.type.toJson = some e.2.type := by
  intro fields fuel ordered enough
  rcases fields with _ | ⟨⟨name, type, optional, sources⟩, rest⟩
  · exact nofun
  · obtain ⟨first, others⟩ := List.forall_mem_cons.1 ordered
    simp only [fieldsToJson, Json.fieldsDepth, Json.depth] at enough
    refine List.forall_mem_cons.2 ⟨?_, ofJsonWithin?_fields others (by omega)⟩
    exact ofJsonWithin?_toJson true first (by dsimp only; omega)

end

theorem ofJson?_toJson (loose : Bool) {slot : SchemaField} (ordered : slot.Ordered) :
    ofJson? loose slot.type.toJson = some slot.type :=
  ofJsonWithin?_toJson loose ordered (Nat.lt_succ_self _)

end SchemaType

namespace Schema

/-- The names increase in every object of the schema. -/
def Ordered (s : Schema) : Prop := Keyed.Sorted s.fields ∧ ∀ e ∈ s.fields, e.2.Ordered

theorem textual_toJson (s : Schema) : s.toJson.Textual := by
  simpa [toJson] using SchemaType.textual_fieldsToJson s.fields

theorem ofJson?_toJson {s : Schema} (ordered : s.Ordered) : ofJson? s.toJson = some s := by
  have fields := SchemaType.fieldsOfJson?_fieldsToJson ordered.1 fun e member =>
    SchemaType.ofJson?_toJson false (ordered.2 e member)
  simp [ofJson?, toJson, Json.record?_single, Json.required, fields]

end Schema

namespace GrammarRule

@[simp] theorem textual_toJson (r : GrammarRule) : r.toJson.Textual := by
  rcases r with ⟨_, _ | _, _⟩ <;> simp [toJson, Json.whenSome]

theorem ofJson?_toJson (r : GrammarRule) : ofJson? r.toJson = some r := by
  obtain ⟨alternatives, field, sources⟩ := r
  have parts : (toJson ⟨alternatives, field, sources⟩).record?
      [["alternatives"], ["field"], ["source_ids"]] =
        some [some (Payload.alternativesToJson alternatives), field.map .str,
          some sources.toJson] := by
    cases field <;> rfl
  cases field <;>
    simp [ofJson?, parts, Json.required, Json.defaulted, Json.string?, Json.nullable?]

end GrammarRule

namespace Grammar

theorem textual_toJson (g : Grammar) : g.toJson.Textual := by
  simp only [toJson, Json.textual_obj, List.forall_mem_singleton, List.forall_mem_map]
  exact fun r _ => r.2.textual_toJson

theorem ofJson?_toJson (g : Grammar) : ofJson? g.toJson = some g := by
  have rules : Json.entries? GrammarRule.ofJson? (.obj (g.rules.map fun r => (r.1, r.2.toJson))) =
      some g.rules :=
    Json.entries?_map fun r _ => r.2.ofJson?_toJson
  obtain ⟨rules, sorted⟩ := g
  simp_all [ofJson?, toJson, Json.record?_single, Json.required, ofRules, Keyed.ofList_of_sorted]

end Grammar

namespace NamedPattern

@[simp] theorem textual_toJson (p : NamedPattern) : p.toJson.Textual := by
  simp [toJson]

theorem ofJson?_toJson (p : NamedPattern) : ofJson? p.toJson = some p := rfl

end NamedPattern

namespace PatternSet

theorem textual_toJson (s : PatternSet) : s.toJson.Textual := by
  simp [toJson]

theorem ofJson?_toJson (s : PatternSet) : ofJson? s.toJson = some s := by
  have patterns : Json.list? NamedPattern.ofJson? (.arr (s.patterns.map NamedPattern.toJson)) =
      some s.patterns :=
    Json.list?_map fun p _ => p.ofJson?_toJson
  simp [ofJson?, toJson, Json.record?_single, Json.required, patterns]

end PatternSet

namespace MaskRule

@[simp] theorem textual_toJson (r : MaskRule) : r.toJson.Textual := by
  simp [toJson]

theorem ofJson?_toJson (r : MaskRule) : ofJson? r.toJson = some r := by
  have parts : r.toJson.record? [["action"], ["matcher"], ["source_id"]] =
      some [some r.action.toJson, some r.selects.toJson, some (.str r.source)] := rfl
  simp [ofJson?, parts, Json.required, Json.string?]

end MaskRule

namespace TokenMask

theorem textual_toJson (m : TokenMask) : m.toJson.Textual := by
  simp [toJson]

theorem ofJson?_toJson (m : TokenMask) : ofJson? m.toJson = some m := by
  have rules : Json.list? MaskRule.ofJson? (.arr (m.rules.map MaskRule.toJson)) = some m.rules :=
    Json.list?_map fun r _ => r.ofJson?_toJson
  simp [ofJson?, toJson, Json.record?_single, Json.required, rules]

end TokenMask

namespace AdvisoryEntry

theorem textual_toJson (e : AdvisoryEntry) : e.toJson.Textual := by
  rcases e with ⟨id, priority, _ | winner⟩ <;> simp [toJson, reasonFields]

theorem ofJson?_toJson (e : AdvisoryEntry) : ofJson? e.toJson = some e := by
  obtain ⟨id, priority, reason⟩ := e
  cases reason <;> cases priority <;> rfl

end AdvisoryEntry

namespace CompilationNote

theorem textual_toJson (n : CompilationNote) : n.toJson.Textual := by
  simp [toJson]

theorem ofJson?_toJson (n : CompilationNote) : ofJson? n.toJson = some n := by
  obtain ⟨kept, demoted, keptPriority, demotedPriority⟩ := n
  have tag := Json.tagged?_obj false "note" "conflict_resolved" ["conflict_resolved"]
    [("kept", .str kept), ("demoted", .str demoted),
      ("kept_priority", keptPriority.toJson), ("demoted_priority", demotedPriority.toJson)]
    (by simp) (by simp) (by simp)
  have parts : (Json.obj [("kept", .str kept), ("demoted", .str demoted),
      ("kept_priority", keptPriority.toJson), ("demoted_priority", demotedPriority.toJson)]).record?
        [["kept"], ["demoted"], ["kept_priority"], ["demoted_priority"]] =
      some [some (.str kept), some (.str demoted), some keptPriority.toJson,
        some demotedPriority.toJson] := rfl
  rw [toJson, ofJson?, tag]
  simp [parts, Json.required, Json.string?]

end CompilationNote

/-- A value is read back from its text, if that nests no deeper than a reader takes. -/
def Json.ReadsBack {α : Type} (toJson : α → Json) (read : Json → Option α) (a : α) : Prop :=
  (toJson a).depth ≤ depthLimit → (parse (toJson a).render).bind read = some a

theorem Json.readsBack_of_textual {α : Type} {toJson : α → Json} {read : Json → Option α} {a : α}
    (textual : (toJson a).Textual) (back : read (toJson a) = some a) : ReadsBack toJson read a := by
  intro shallow
  rw [parse_render textual shallow]
  exact back

open Json (ReadsBack readsBack_of_textual)

/-- Every part of an artifact, and every payload, is what is read of its text, and what is digested
of an artifact determines each of its parts. -/
theorem wireForms_readBack :
    (∀ p : Payload, p.Ordered → ReadsBack Payload.toJson (Payload.ofJson? false) p) ∧
    (∀ s : Schema, s.Ordered → ReadsBack Schema.toJson Schema.ofJson? s) ∧
    (∀ g : Grammar, ReadsBack Grammar.toJson Grammar.ofJson? g) ∧
    (∀ s : PatternSet, ReadsBack PatternSet.toJson PatternSet.ofJson? s) ∧
    (∀ m : TokenMask, ReadsBack TokenMask.toJson TokenMask.ofJson? m) ∧
    (∀ e : AdvisoryEntry, ReadsBack AdvisoryEntry.toJson AdvisoryEntry.ofJson? e) ∧
    (∀ n : CompilationNote, ReadsBack CompilationNote.toJson CompilationNote.ofJson? n) ∧
    ∀ a b : Artifact,
      Fingerprint.utf8 a.digestView.render = Fingerprint.utf8 b.digestView.render →
      a.toFragments = b.toFragments ∧ a.advisory = b.advisory ∧ a.notes = b.notes ∧
        a.source = b.source := by
  refine ⟨fun p ordered => readsBack_of_textual p.textual_toJson (p.ofJson?_toJson false ordered),
    fun s ordered => readsBack_of_textual s.textual_toJson (s.ofJson?_toJson ordered),
    fun g => readsBack_of_textual g.textual_toJson g.ofJson?_toJson,
    fun s => readsBack_of_textual s.textual_toJson s.ofJson?_toJson,
    fun m => readsBack_of_textual m.textual_toJson m.ofJson?_toJson,
    fun e => readsBack_of_textual e.textual_toJson e.ofJson?_toJson,
    fun n => readsBack_of_textual n.textual_toJson n.ofJson?_toJson, fun a b views => ?_⟩
  have content : a.digestContent = b.digestContent := by
    rw [Artifact.digestContent, Artifact.digestContent, views]
  obtain rfl := Artifact.eq_of_digestContent_eq content
  exact ⟨rfl, rfl, rfl, rfl⟩

/-- A type with names in which nearly every character has to be escaped. -/
def FieldType.escapedNames : FieldType :=
  .object [("", ⟨.array .integer, true⟩), ("\n\x01é\"\\", ⟨.object [], false⟩)]

/-- A schema with one field of that type. -/
def Schema.escapedNames : Schema where
  fields := [("\t", ⟨.ofDeclared "\"" .escapedNames, true, .singleton "\""⟩)]

theorem wireForms_readBack_escapedNames :
    (Payload.field "a\"b" .escapedNames true).Ordered ∧
    (Json.parse (Payload.field "a\"b" .escapedNames true).toJson.render).bind
      (Payload.ofJson? false) = some (.field "a\"b" .escapedNames true) ∧
    Schema.escapedNames.Ordered ∧
    (Json.parse Schema.escapedNames.toJson.render).bind Schema.ofJson? =
      some Schema.escapedNames ∧
    Fingerprint.utf8 (Artifact.empty (.filled 7)).digestView.render ≠
      Fingerprint.utf8 { Artifact.empty (.filled 7) with
        advisory := [⟨"a", .low, .declared⟩] }.digestView.render := by
  have type : FieldType.escapedNames.EveryObject (List.Pairwise (· < ·)) :=
    ⟨by decide, trivial, ⟨.nil, trivial⟩, trivial⟩
  have payload : (Payload.field "a\"b" .escapedNames true).Ordered := by
    rintro path type optional h
    cases h
    exact type
  have schema : Schema.escapedNames.Ordered := by
    refine ⟨List.pairwise_singleton _ _, fun e member => ?_⟩
    obtain rfl := List.mem_singleton.1 member
    have whole : (Schema.whole Schema.escapedNames.fields).Ordered :=
      Schema.ordered_whole_singleton ⟨_, type, true, rfl⟩
    have found : (Schema.whole Schema.escapedNames.fields).inner? (.field "\t") =
      some ⟨.ofDeclared "\"" .escapedNames, true, .singleton "\""⟩ := rfl
    exact whole.inner found
  refine ⟨payload, wireForms_readBack.1 _ payload (by decide), schema,
    wireForms_readBack.2.1 _ schema (by decide), fun same => ?_⟩
  obtain ⟨-, advisory, -, -⟩ := wireForms_readBack.2.2.2.2.2.2.2 _ _ same
  cases advisory

end GuidedDecoding
