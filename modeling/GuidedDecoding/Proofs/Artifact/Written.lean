import GuidedDecoding.Artifact.Basic
import GuidedDecoding.Proofs.Constraint.Written

/-!
# What is written of an artifact

The document that the digest of an artifact is taken of shows every part of the artifact, so the
bytes that are hashed determine the artifact (`Artifact.eq_of_digestContent_eq`).
-/

namespace GuidedDecoding

namespace SchemaType

mutual

theorem written_toJson : ∀ type : SchemaType, type.toJson.Written := by
  intro type
  cases type with
  | array items => simp [toJson, written_toJson items]
  | object fields => simpa [toJson] using written_fieldsToJson fields
  | _ => simp [toJson]

theorem written_fieldsToJson : ∀ fields : List (String × SchemaSlot SchemaType),
    ∀ f ∈ fieldsToJson fields, f.2.Written := by
  intro fields
  rcases fields with _ | ⟨⟨name, slot⟩, rest⟩
  · simp [fieldsToJson]
  · rw [fieldsToJson, List.forall_mem_cons]
    exact ⟨by simp [written_toJson slot.type], written_fieldsToJson rest⟩

end

/-- What is written of a type beside its name. -/
def detail : SchemaType → List (String × Json)
  | .array items => [("items", items.toJson)]
  | .object fields => [("fields", .obj (fieldsToJson fields))]
  | _ => []

theorem toJson_eq (type : SchemaType) :
    type.toJson = .obj (("type", .str type.name) :: type.detail) := by
  cases type <;> rw [toJson] <;> rfl

mutual

theorem eq_of_toJson_eq : ∀ {a b : SchemaType}, a.toJson = b.toJson → a = b := by
  intro a b h
  rw [toJson_eq, toJson_eq] at h
  simp only [Json.obj.injEq, List.cons.injEq, Prod.mk.injEq, true_and, Json.str.injEq] at h
  obtain ⟨names, details⟩ := h
  rcases a with _ | _ | _ | _ | _ | items | fields <;>
    rcases b with _ | _ | _ | _ | _ | items' | fields' <;>
    first
      | rfl
      | (simp [name] at names; done)
      | skip
  · simp only [detail, List.cons.injEq, Prod.mk.injEq, true_and, and_true] at details
    rw [eq_of_toJson_eq details]
  · simp only [detail, List.cons.injEq, Prod.mk.injEq, true_and, and_true,
      Json.obj.injEq] at details
    rw [eq_of_fieldsToJson_eq details]

theorem eq_of_fieldsToJson_eq : ∀ {l l' : List (String × SchemaSlot SchemaType)},
    fieldsToJson l = fieldsToJson l' → l = l' := by
  intro l l' h
  rcases l with _ | ⟨⟨name, ⟨type, optional, sources⟩⟩, rest⟩ <;>
    rcases l' with _ | ⟨⟨name', ⟨type', optional', sources'⟩⟩, rest'⟩
  · rfl
  · simp [fieldsToJson] at h
  · simp [fieldsToJson] at h
  · simp only [fieldsToJson, List.cons.injEq, Prod.mk.injEq, Json.obj.injEq, true_and, and_true,
      Json.bool.injEq, NameSet.toJson_inj] at h
    obtain ⟨⟨names, types, optionals, sources⟩, others⟩ := h
    rw [names, eq_of_toJson_eq types, optionals, sources, eq_of_fieldsToJson_eq others]

end

end SchemaType

/-- Lists whose members are written in a way that tells them apart. -/
theorem map_toJson_inj {α : Type} {toJson : α → Json} (h : ∀ {a b}, toJson a = toJson b ↔ a = b)
    {l l' : List α} : l.map toJson = l'.map toJson ↔ l = l' :=
  ⟨fun same => List.map_injective_iff.2 (fun _ _ => h.1) same, congrArg (List.map toJson)⟩

namespace Schema

theorem written_toJson (s : Schema) : s.toJson.Written := by
  simpa [toJson] using SchemaType.written_fieldsToJson s.fields

theorem toJson_inj {s t : Schema} : s.toJson = t.toJson ↔ s = t := by
  refine ⟨fun h => ?_, congrArg toJson⟩
  simp only [toJson, Json.obj.injEq, List.cons.injEq, Prod.mk.injEq, true_and, and_true] at h
  have fields := SchemaType.eq_of_fieldsToJson_eq h
  cases s
  cases t
  simpa using fields

end Schema

namespace GrammarRule

@[simp] theorem written_toJson (r : GrammarRule) : r.toJson.Written := by
  have bound := Json.written_whenSome "field" r.field Json.written_str
  simp only [toJson, Json.written_obj, List.forall_mem_cons, List.cons_append,
    List.forall_mem_append]
  exact ⟨by simp, bound, by simp⟩

@[simp] theorem toJson_inj {r q : GrammarRule} : r.toJson = q.toJson ↔ r = q := by
  rcases r with ⟨_, _ | _, _⟩ <;> rcases q with ⟨_, _ | _, _⟩ <;> simp [toJson, Json.whenSome]

end GrammarRule

namespace Grammar

theorem written_toJson (g : Grammar) : g.toJson.Written := by
  simp only [toJson, Json.written_obj, List.forall_mem_singleton, List.forall_mem_map]
  exact fun r _ => r.2.written_toJson

theorem toJson_inj {g h : Grammar} : g.toJson = h.toJson ↔ g = h := by
  have rules : Function.Injective fun r : String × GrammarRule => (r.1, r.2.toJson) := by
    rintro ⟨name, rule⟩ ⟨name', rule'⟩ same
    simpa using same
  refine ⟨fun same => ?_, congrArg toJson⟩
  simp only [toJson, Json.obj.injEq, List.cons.injEq, Prod.mk.injEq, true_and, and_true] at same
  have lists := List.map_injective_iff.2 rules same
  cases g
  cases h
  simpa using lists

end Grammar

namespace NamedPattern

@[simp] theorem written_toJson (p : NamedPattern) : p.toJson.Written := by
  simp [toJson]

@[simp] theorem toJson_inj {p q : NamedPattern} : p.toJson = q.toJson ↔ p = q := by
  cases p
  cases q
  simp [toJson]

end NamedPattern

namespace PatternSet

theorem written_toJson (s : PatternSet) : s.toJson.Written := by
  simp [toJson]

theorem toJson_inj {s t : PatternSet} : s.toJson = t.toJson ↔ s = t := by
  cases s
  cases t
  simp [toJson, map_toJson_inj NamedPattern.toJson_inj]

end PatternSet

namespace MaskRule

@[simp] theorem written_toJson (r : MaskRule) : r.toJson.Written := by
  simp [toJson]

@[simp] theorem toJson_inj {r q : MaskRule} : r.toJson = q.toJson ↔ r = q := by
  cases r
  cases q
  simp [toJson]

end MaskRule

namespace TokenMask

theorem written_toJson (m : TokenMask) : m.toJson.Written := by
  simp [toJson]

theorem toJson_inj {m n : TokenMask} : m.toJson = n.toJson ↔ m = n := by
  cases m
  cases n
  simp [toJson, map_toJson_inj MaskRule.toJson_inj]

end TokenMask

namespace AdvisoryEntry

@[simp] theorem written_toJson (e : AdvisoryEntry) : e.toJson.Written := by
  rcases e with ⟨id, priority, _ | winner⟩ <;> simp [toJson, reasonFields]

@[simp] theorem toJson_inj {e f : AdvisoryEntry} : e.toJson = f.toJson ↔ e = f := by
  rcases e with ⟨_, _, _ | _⟩ <;> rcases f with ⟨_, _, _ | _⟩ <;> simp [toJson, reasonFields]

end AdvisoryEntry

namespace CompilationNote

@[simp] theorem written_toJson (n : CompilationNote) : n.toJson.Written := by
  simp [toJson]

@[simp] theorem toJson_inj {m n : CompilationNote} : m.toJson = n.toJson ↔ m = n := by
  cases m
  cases n
  simp [toJson]

end CompilationNote

namespace Artifact

variable {a b : Artifact}

theorem written_orNull {α : Type} {toJson : α → Json} {o : Option α}
    (h : ∀ a, (toJson a).Written) : (Json.orNull toJson o).Written := by
  cases o with
  | none => exact Json.written_null
  | some a => exact h a

/-- A part that is missing can be told from one that is not, since no part is written as `null`. -/
theorem orNull_inj {α : Type} {toJson : α → Json} (h : ∀ {a b}, toJson a = toJson b ↔ a = b)
    (object : ∀ a, ∃ fields, toJson a = .obj fields) {o p : Option α} :
    Json.orNull toJson o = Json.orNull toJson p ↔ o = p := by
  have notNull : ∀ a, toJson a ≠ .null := by
    intro a null
    obtain ⟨fields, same⟩ := object a
    rw [null] at same
    cases same
  rcases o with _ | a <;> rcases p with _ | b
  · simp
  · simpa [Json.orNull] using (notNull b).symm
  · simpa [Json.orNull] using notNull a
  · simp [Json.orNull, h]

theorem written_digestView (a : Artifact) : a.digestView.Written := by
  have schema := written_orNull (o := a.schema) Schema.written_toJson
  have grammar := written_orNull (o := a.grammar) Grammar.written_toJson
  have patterns := written_orNull (o := a.patterns) PatternSet.written_toJson
  have mask := written_orNull (o := a.mask) TokenMask.written_toJson
  simp [digestView, remarks, schema, grammar, patterns, mask, Fingerprint.toJson]

theorem digestView_inj (h : a.digestView = b.digestView) : a = b := by
  simp only [digestView, remarks, List.cons_append, List.nil_append, Json.obj.injEq,
    List.cons.injEq, Prod.mk.injEq, true_and, and_true, Json.arr.injEq,
    orNull_inj Schema.toJson_inj (fun _ => ⟨_, rfl⟩),
    orNull_inj Grammar.toJson_inj (fun _ => ⟨_, rfl⟩),
    orNull_inj PatternSet.toJson_inj (fun _ => ⟨_, rfl⟩),
    orNull_inj TokenMask.toJson_inj (fun _ => ⟨_, rfl⟩),
    map_toJson_inj AdvisoryEntry.toJson_inj, map_toJson_inj CompilationNote.toJson_inj,
    Fingerprint.toJson_inj] at h
  obtain ⟨schema, grammar, patterns, mask, advisory, notes, source⟩ := h
  rcases a with ⟨⟨_, _, _, _⟩, _, _, _⟩
  rcases b with ⟨⟨_, _, _, _⟩, _, _, _⟩
  simp_all

/-- What the digest hashes determines the artifact. -/
theorem eq_of_digestContent_eq (h : a.digestContent = b.digestContent) : a = b := by
  have texts := Fingerprint.utf8_inj (List.append_cancel_left h)
  exact digestView_inj (Json.render_inj a.written_digestView b.written_digestView texts)

end Artifact

end GuidedDecoding
