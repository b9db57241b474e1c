import GuidedDecoding.Constraint.Set
import GuidedDecoding.Proofs.Fingerprint
import GuidedDecoding.Proofs.Json.Number

/-!
# What is written of a constraint

The written form of a constraint determines the constraint, apart from a confidence that is not a
finite number (`Constraint.toJson_inj`). The bytes that the fingerprint of a set hashes determine
the written forms of its members (`ConstraintSet.map_toJson_eq_of_content_eq`): each of them ends by
itself, so the lengths between them are not even needed for it.
-/

namespace GuidedDecoding

namespace NameSet

@[simp] theorem written_toJson (s : NameSet) : s.toJson.Written := by
  simp [toJson, Json.strings]

@[simp] theorem toJson_inj {s t : NameSet} : s.toJson = t.toJson ↔ s = t := by
  refine ⟨fun h => ?_, congrArg toJson⟩
  have lists : s.toList = t.toList :=
    List.map_injective_iff.2 (fun _ _ same => Json.str.inj same) (Json.arr.inj h)
  cases s
  cases t
  simpa using lists

theorem isEmpty_iff {s : NameSet} : s.isEmpty = true ↔ s = ∅ := by
  rw [isEmpty, List.isEmpty_iff]
  constructor
  · intro none_left
    cases s
    subst none_left
    rfl
  · rintro rfl
    rfl

end NameSet

section Names

@[simp] theorem Kind.written_toJson (k : Kind) : k.toJson.Written := Json.written_str _

@[simp] theorem Kind.toJson_inj {k l : Kind} : k.toJson = l.toJson ↔ k = l := by
  cases k <;> cases l <;> simp [toJson, name]

@[simp] theorem Priority.written_toJson (p : Priority) : p.toJson.Written := Json.written_str _

@[simp] theorem Priority.toJson_inj {p q : Priority} : p.toJson = q.toJson ↔ p = q := by
  cases p <;> cases q <;> simp [toJson, name]

@[simp] theorem Severity.written_toJson (s : Severity) : s.toJson.Written := Json.written_str _

@[simp] theorem Severity.toJson_inj {s t : Severity} : s.toJson = t.toJson ↔ s = t := by
  cases s <;> cases t <;> simp [toJson, name]

@[simp] theorem Enforcement.written_toJson (e : Enforcement) : e.toJson.Written :=
  Json.written_str _

@[simp] theorem Enforcement.toJson_inj {e f : Enforcement} : e.toJson = f.toJson ↔ e = f := by
  cases e <;> cases f <;> simp [toJson, name]

@[simp] theorem ProvenanceSource.toJson_inj {s t : ProvenanceSource} :
    s.toJson = t.toJson ↔ s = t := by
  cases s <;> cases t <;> simp [toJson, name]

@[simp] theorem MaskAction.written_toJson (a : MaskAction) : a.toJson.Written := Json.written_str _

@[simp] theorem MaskAction.toJson_inj {a b : MaskAction} : a.toJson = b.toJson ↔ a = b := by
  cases a <;> cases b <;> simp [toJson, name]

end Names

/-- A field that may be missing is written where there is something to write. -/
theorem Json.written_whenSome {α : Type} {toJson : α → Json} (name : String) (o : Option α)
    (h : ∀ a, (toJson a).Written) : ∀ f ∈ Json.whenSome name toJson o, f.2.Written := by
  cases o <;> simp [Json.whenSome, h]

namespace Provenance

@[simp] theorem written_toJson (p : Provenance) : p.toJson.Written := by
  have origin := Json.written_whenSome "origin" p.origin Json.written_str
  simp only [toJson, Json.written_obj, List.forall_mem_cons]
  exact ⟨Json.written_str _, origin⟩

@[simp] theorem toJson_inj {p q : Provenance} : p.toJson = q.toJson ↔ p = q := by
  rcases p with ⟨source, _ | origin⟩ <;> rcases q with ⟨source', _ | origin'⟩ <;>
    simp [toJson, Json.whenSome]

end Provenance

namespace FieldType

mutual

theorem written_toJson : ∀ type : FieldType, type.toJson.Written := by
  intro type
  cases type with
  | array items => simp [toJson, written_toJson items]
  | object fields => simpa [toJson] using written_fieldsToJson fields
  | _ => simp [toJson]

theorem written_fieldsToJson : ∀ fields : List (String × Member FieldType),
    ∀ f ∈ fieldsToJson fields, f.2.Written := by
  intro fields
  rcases fields with _ | ⟨⟨name, m⟩, rest⟩
  · simp [fieldsToJson]
  · rw [fieldsToJson, List.forall_mem_cons]
    exact ⟨by simp [written_toJson m.type], written_fieldsToJson rest⟩

end

/-- What is written of a type beside its name. -/
def detail : FieldType → List (String × Json)
  | .array items => [("items", items.toJson)]
  | .object fields => [("fields", .obj (fieldsToJson fields))]
  | _ => []

theorem toJson_eq (type : FieldType) :
    type.toJson = .obj (("type", .str type.name) :: type.detail) := by
  cases type <;> rw [toJson] <;> rfl

mutual

theorem eq_of_toJson_eq : ∀ {a b : FieldType}, a.toJson = b.toJson → a = b := by
  intro a b h
  rw [toJson_eq, toJson_eq] at h
  simp only [Json.obj.injEq, List.cons.injEq, Prod.mk.injEq, true_and, Json.str.injEq] at h
  obtain ⟨names, details⟩ := h
  rcases a with _ | _ | _ | _ | _ | items | fields <;>
    rcases b with _ | _ | _ | _ | _ | items' | fields' <;>
    first
      | rfl
      | (simp [name] at names; done)
      | skip
  · simp only [detail, List.cons.injEq, Prod.mk.injEq, true_and, and_true] at details
    rw [eq_of_toJson_eq details]
  · simp only [detail, List.cons.injEq, Prod.mk.injEq, true_and, and_true,
      Json.obj.injEq] at details
    rw [eq_of_fieldsToJson_eq details]

theorem eq_of_fieldsToJson_eq : ∀ {l l' : List (String × Member FieldType)},
    fieldsToJson l = fieldsToJson l' → l = l' := by
  intro l l' h
  rcases l with _ | ⟨⟨name, ⟨type, optional⟩⟩, rest⟩ <;>
    rcases l' with _ | ⟨⟨name', ⟨type', optional'⟩⟩, rest'⟩
  · rfl
  · simp [fieldsToJson] at h
  · simp [fieldsToJson] at h
  · simp only [fieldsToJson, List.cons.injEq, Prod.mk.injEq, Json.obj.injEq, true_and, and_true,
      Json.bool.injEq] at h
    obtain ⟨⟨names, types, optionals⟩, others⟩ := h
    rw [names, eq_of_toJson_eq types, optionals, eq_of_fieldsToJson_eq others]

end

@[simp] theorem toJson_inj {a b : FieldType} : a.toJson = b.toJson ↔ a = b :=
  ⟨eq_of_toJson_eq, congrArg toJson⟩

end FieldType

namespace Symbol

@[simp] theorem written_toJson (s : Symbol) : s.toJson.Written := by
  cases s <;> simp [toJson]

@[simp] theorem toJson_inj {s t : Symbol} : s.toJson = t.toJson ↔ s = t := by
  cases s <;> cases t <;> simp [toJson]

end Symbol

namespace SymbolMatcher

@[simp] theorem written_toJson (m : SymbolMatcher) : m.toJson.Written := by
  cases m <;> simp [toJson]

@[simp] theorem toJson_inj {m n : SymbolMatcher} : m.toJson = n.toJson ↔ m = n := by
  cases m <;> cases n <;> simp [toJson]

end SymbolMatcher

namespace Payload

@[simp] theorem written_alternativesToJson (alternatives : List (List Symbol)) :
    (alternativesToJson alternatives).Written := by
  simp [alternativesToJson]

@[simp] theorem alternativesToJson_inj {l l' : List (List Symbol)} :
    alternativesToJson l = alternativesToJson l' ↔ l = l' := by
  have symbols :
      Function.Injective fun symbols : List Symbol => Json.arr (symbols.map Symbol.toJson) :=
    fun s t same => List.map_injective_iff.2 (fun _ _ => Symbol.toJson_inj.1) (Json.arr.inj same)
  exact ⟨fun h => List.map_injective_iff.2 symbols (Json.arr.inj h), congrArg alternativesToJson⟩

@[simp] theorem written_toJson (p : Payload) : p.toJson.Written := by
  cases p with
  | field path type optional => simp [toJson, FieldType.written_toJson]
  | production rule alternatives target =>
    have bound := Json.written_whenSome "field" target Json.written_str
    simp only [toJson, Json.written_obj, List.forall_mem_append]
    exact ⟨by simp, bound⟩
  | regex target pattern => simp [toJson]
  | tokenRule action selects => simp [toJson]
  | text description => simp [toJson]

@[simp] theorem toJson_inj {p q : Payload} : p.toJson = q.toJson ↔ p = q := by
  rcases p with _ | ⟨_, _, _ | _⟩ | _ | _ | _ <;> rcases q with _ | ⟨_, _, _ | _⟩ | _ | _ | _ <;>
    simp [toJson, Json.whenSome]

end Payload

namespace Constraint

variable {c d : Constraint}

theorem written_namesField (name : String) (s : NameSet) :
    ∀ f ∈ namesField name s, f.2.Written := by
  simp only [namesField]
  split <;> simp

/-- The fields of a constraint that are always written. -/
def fixedFields (c : Constraint) : List (String × Json) :=
  [("id", .str c.id), ("kind", c.kind.toJson), ("priority", c.priority.toJson),
    ("severity", c.severity.toJson), ("enforcement", c.enforcement.toJson),
    ("pattern_or_spec", c.payload.toJson), ("confidence", .ofDouble c.confidence),
    ("provenance", c.provenance.toJson)]

/-- The fields of a constraint that are written when there are references. -/
def referenceFields (c : Constraint) : List (String × Json) :=
  namesField "depends_on" c.dependsOn ++ namesField "conflicts_with" c.conflictsWith

theorem toJson_eq (c : Constraint) : c.toJson = .obj (c.fixedFields ++ c.referenceFields) := by
  rw [toJson, List.append_assoc]
  rfl

theorem written_toJson (c : Constraint) : c.toJson.Written := by
  rw [toJson_eq, Json.written_obj, List.forall_mem_append]
  refine ⟨?_, List.forall_mem_append.2 ⟨written_namesField _ _, written_namesField _ _⟩⟩
  simp [fixedFields, Json.written_ofDouble]

/-- Sets with fields of different names can be told apart, although a set without members is not
written. -/
theorem referenceFields_inj (h : c.referenceFields = d.referenceFields) :
    c.dependsOn = d.dependsOn ∧ c.conflictsWith = d.conflictsWith := by
  simp only [referenceFields, namesField, NameSet.isEmpty_iff] at h
  by_cases hc : c.dependsOn = ∅ <;> by_cases hd : d.dependsOn = ∅ <;>
    by_cases hc' : c.conflictsWith = ∅ <;> by_cases hd' : d.conflictsWith = ∅ <;>
    simp_all

/-- The written form of a constraint with a finite confidence determines the constraint. -/
theorem toJson_inj (finite : Double.biased c.confidence ≠ 2047) (h : c.toJson = d.toJson) :
    c = d := by
  rw [toJson_eq, toJson_eq] at h
  obtain ⟨fixed, references⟩ := List.append_inj (Json.obj.inj h) rfl
  obtain ⟨dependsOn, conflictsWith⟩ := referenceFields_inj references
  simp only [fixedFields, List.cons.injEq, Prod.mk.injEq, Json.str.injEq, Kind.toJson_inj,
    Priority.toJson_inj, Severity.toJson_inj, Enforcement.toJson_inj, Payload.toJson_inj,
    Provenance.toJson_inj, true_and, and_true] at fixed
  obtain ⟨id, kind, priority, severity, enforcement, payload, confidence, provenance⟩ := fixed
  have confidence := Json.ofDouble_inj finite confidence
  cases c
  cases d
  simp_all

/-- Texts of constraints of which one starts the other belong to one written form. -/
theorem toJson_eq_of_starts (h : c.text.toList <+: d.text.toList) : c.toJson = d.toJson := by
  have hc := c.written_toJson
  have hd := d.written_toJson
  rw [text, text] at h
  rw [toJson_eq] at h hc ⊢
  rw [toJson_eq] at h hd ⊢
  rw [Json.eq_of_render_starts hc hd h]

end Constraint

namespace ConstraintSet

variable {s t : ConstraintSet}

/-- The bytes of some members, each with its length in front. -/
def recordBytes (members : List Constraint) : List UInt8 :=
  members.flatMap fun c =>
    Fingerprint.lengthBytes (Fingerprint.utf8 c.text).length ++ Fingerprint.utf8 c.text

theorem recordBytes_cons_ne_nil {c : Constraint} {members : List Constraint} :
    recordBytes (c :: members) ≠ [] := by
  intro nothing
  have length := congrArg List.length nothing
  simp [recordBytes, Fingerprint.length_lengthBytes] at length

theorem map_toJson_eq_of_recordBytes_eq : ∀ {l l' : List Constraint},
    recordBytes l = recordBytes l' → l.map Constraint.toJson = l'.map Constraint.toJson
  | [], [], _ => rfl
  | [], _ :: _, h => absurd h.symm recordBytes_cons_ne_nil
  | _ :: _, [], h => absurd h recordBytes_cons_ne_nil
  | c :: l, d :: l', h => by
    have split : ∀ (c : Constraint) (l : List Constraint), recordBytes (c :: l) =
        Fingerprint.lengthBytes (Fingerprint.utf8 c.text).length
          ++ (Fingerprint.utf8 c.text ++ recordBytes l) := by
      intro c l
      rw [recordBytes, List.flatMap_cons, List.append_assoc]
      rfl
    rw [split, split] at h
    obtain ⟨-, texts⟩ := List.append_inj h (by simp [Fingerprint.length_lengthBytes])
    have first : c.toJson = d.toJson := by
      rcases Fingerprint.prefix_or_prefix_of_utf8 texts with starts | starts
      · exact Constraint.toJson_eq_of_starts starts
      · exact (Constraint.toJson_eq_of_starts starts).symm
    have same : c.text = d.text := by rw [Constraint.text, Constraint.text, first]
    rw [same] at texts
    have rest := map_toJson_eq_of_recordBytes_eq (List.append_cancel_left texts)
    rw [List.map_cons, List.map_cons, first, rest]

/-- What the fingerprint hashes determines what is written of each member. -/
theorem map_toJson_eq_of_content_eq (h : s.content = t.content) :
    s.members.map Constraint.toJson = t.members.map Constraint.toJson :=
  map_toJson_eq_of_recordBytes_eq (List.append_cancel_left h)

/-- Sets with one content are the same, if the confidences in one of them are finite. -/
theorem eq_of_content_eq (finite : ∀ c ∈ s.members, Double.biased c.confidence ≠ 2047)
    (h : s.content = t.content) : s = t := by
  have lists : ∀ {l l' : List Constraint}, (∀ c ∈ l, Double.biased c.confidence ≠ 2047) →
      l.map Constraint.toJson = l'.map Constraint.toJson → l = l' := by
    intro l
    induction l with
    | nil => exact fun _ same => (List.map_eq_nil_iff.1 same.symm).symm
    | cons c l ih =>
      intro l' finite same
      obtain ⟨d, rest, rfl, first, others⟩ := List.map_eq_cons_iff.1 same.symm
      obtain ⟨here, there⟩ := List.forall_mem_cons.1 finite
      rw [Constraint.toJson_inj here first.symm, ih there others.symm]
  have members := lists finite (map_toJson_eq_of_content_eq h)
  cases s
  cases t
  simpa using members

end ConstraintSet

end GuidedDecoding
