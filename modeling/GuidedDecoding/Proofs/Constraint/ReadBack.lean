import GuidedDecoding.Constraint.Codec
import GuidedDecoding.Proofs.Json.Reading
import GuidedDecoding.Proofs.NameSet
import GuidedDecoding.Proofs.Schema.Declared

/-!
# Payloads that are read back

Reading takes back what is written of a payload, in whatever form the payload stands
(`Payload.ofJson?_toJson`). Writing puts the tag first and leaves out only what reading has a
default for; sets and the members of object types are read into the order in which they were
written.
-/

namespace GuidedDecoding

namespace Json

/-- What is written of the members of a list is read member by member. -/
theorem list?_map {α : Type} {toJson : α → Json} {read : Json → Option α} {l : List α}
    (h : ∀ a ∈ l, read (toJson a) = some a) : list? read (.arr (l.map toJson)) = some l := by
  rw [list?]
  induction l with
  | nil => rfl
  | cons a rest ih =>
    obtain ⟨first, others⟩ := List.forall_mem_cons.1 h
    rw [List.map_cons, List.mapM_cons, first, ih others]
    rfl

/-- What is written of entries is read value by value. -/
theorem entries?_map {α : Type} {toJson : α → Json} {read : Json → Option α}
    {entries : List (String × α)} (h : ∀ e ∈ entries, read (toJson e.2) = some e.2) :
    entries? read (.obj (entries.map fun e => (e.1, toJson e.2))) = some entries := by
  rw [entries?]
  induction entries with
  | nil => rfl
  | cons e rest ih =>
    obtain ⟨first, others⟩ := List.forall_mem_cons.1 h
    rw [List.map_cons, List.mapM_cons, first, ih others]
    rfl

theorem record?_single (name : String) (content : Json) :
    record? [[name]] (.obj [(name, content)]) = some [some content] := by
  simp [record?, given]

/-- A tagged value that is written with its tag in front. -/
theorem tagged?_obj (loose : Bool) (tag variant : String) (variants : List String)
    (fields : List (String × Json)) (textual : ∀ f ∈ fields, f.2.Textual)
    (known : variant ∈ variants) (others : ∀ f ∈ fields, f.1 ≠ tag) :
    tagged? loose tag variants (.obj ((tag, .str variant) :: fields)) =
      some (variant, .obj fields) := by
  have readable : (obj ((tag, .str variant) :: fields)).readable = true :=
    Textual.readable (textual_obj.2 (List.forall_mem_cons.2 ⟨textual_str variant, textual⟩))
  have alone : given [tag] ((tag, .str variant) :: fields) = [.str variant] := by
    have none_other : fields.filter (fun f => [tag].contains f.1) = [] :=
      List.filter_eq_nil_iff.2 fun f member => by simpa using others f member
    rw [given, List.filter_cons_of_pos (by simp), none_other]
    rfl
  rw [tagged?, readable, Bool.or_true, if_pos rfl]
  simpa [alone, variant?, known] using fun name value => others (name, value)

end Json

namespace Keyed

variable {α : Type}

/-- A name beyond all others is filed at the end. -/
theorem insert_of_forall_lt {name : String} {value : α} {entries : List (String × α)}
    (last : ∀ e ∈ entries, e.1 < name) :
    insert name value entries = entries ++ [(name, value)] := by
  induction entries with
  | nil => rfl
  | cons e rest ih =>
    obtain ⟨k, v⟩ := e
    obtain ⟨first, others⟩ := List.forall_mem_cons.1 last
    have notBefore : ¬ name < k := fun before =>
      String.lt_irrefl _ (String.lt_trans before first)
    have other : name ≠ k := by
      rintro rfl
      exact String.lt_irrefl _ first
    rw [insert, if_neg notBefore, if_neg other, ih others]
    rfl

/-- Entries that are sorted already are filed as they stand. -/
theorem ofList_of_sorted {entries : List (String × α)} (sorted : Sorted entries) :
    ofList entries = entries := by
  have filed : ∀ (l acc : List (String × α)), Sorted (acc ++ l) →
      l.foldl (fun filed e => insert e.1 e.2 filed) acc = acc ++ l := by
    intro l
    induction l with
    | nil => exact fun acc _ => (List.append_nil acc).symm
    | cons e rest ih =>
      intro acc sorted
      have last : ∀ e' ∈ acc, e'.1 < e.1 := by
        intro e' before
        rw [Sorted, List.map_append, List.pairwise_append] at sorted
        exact sorted.2.2 _ (List.mem_map_of_mem before) _ List.mem_cons_self
      rw [List.foldl_cons, insert_of_forall_lt last, ih _ (by simpa using sorted)]
      simp
  exact filed entries [] sorted

end Keyed

namespace NameSet

@[simp] theorem textual_toJson (s : NameSet) : s.toJson.Textual := by
  simp [toJson, Json.strings]

@[simp] theorem ofList_toList (s : NameSet) : ofList s.toList = s :=
  ext_mem fun _ => mem_ofList.trans mem_def.symm

@[simp] theorem ofJson?_toJson (s : NameSet) : ofJson? s.toJson = some s := by
  have members : (Json.strings s.toList).list? Json.string? = some s.toList :=
    Json.list?_map fun _ _ => rfl
  rw [ofJson?, toJson, members, Option.map_some, ofList_toList]

end NameSet

section Names

@[simp] theorem Priority.textual_toJson (p : Priority) : p.toJson.Textual := Json.textual_str _

@[simp] theorem Priority.ofJson?_toJson (loose : Bool) (p : Priority) :
    Priority.ofJson? loose p.toJson = some p := by
  cases p <;> rfl

@[simp] theorem MaskAction.textual_toJson (a : MaskAction) : a.toJson.Textual := Json.textual_str _

@[simp] theorem MaskAction.ofJson?_toJson (loose : Bool) (a : MaskAction) :
    MaskAction.ofJson? loose a.toJson = some a := by
  cases a <;> rfl

end Names

namespace FieldType

mutual

theorem textual_toJson : ∀ type : FieldType, type.toJson.Textual := by
  intro type
  cases type with
  | array items => simp [toJson, textual_toJson items]
  | object fields => simpa [toJson] using textual_fieldsToJson fields
  | _ => simp [toJson]

theorem textual_fieldsToJson : ∀ fields : List (String × Member FieldType),
    ∀ f ∈ fieldsToJson fields, f.2.Textual := by
  intro fields
  rcases fields with _ | ⟨⟨name, m⟩, rest⟩
  · simp [fieldsToJson]
  · rw [fieldsToJson, List.forall_mem_cons]
    exact ⟨by simp [textual_toJson m.type], textual_fieldsToJson rest⟩

end

/-- What is written of a member of an object type. -/
def memberToJson (m : Member FieldType) : Json :=
  .obj [("field_type", m.type.toJson), ("optional", .bool m.optional)]

theorem fieldsToJson_eq (fields : List (String × Member FieldType)) :
    fieldsToJson fields = fields.map fun e => (e.1, memberToJson e.2) := by
  induction fields with
  | nil => rw [fieldsToJson]; rfl
  | cons e rest ih =>
    rw [fieldsToJson, ih]
    rfl

mutual

/-- A type is read back with as many steps as it nests deep. -/
theorem ofJsonWithin?_toJson : ∀ {type : FieldType} {fuel : Nat} (loose : Bool),
    type.EveryObject (List.Pairwise (· < ·)) → type.toJson.depth < fuel →
    ofJsonWithin? fuel loose type.toJson = some type := by
  intro type fuel loose ordered enough
  obtain ⟨fuel, rfl⟩ := Nat.exists_eq_add_one_of_ne_zero (Nat.ne_of_gt (Nat.zero_lt_of_lt enough))
  cases type with
  | array items =>
    have deep : items.toJson.depth < fuel := by
      simp only [toJson, Json.depth, Json.fieldsDepth] at enough
      omega
    have inside : ofJsonWithin? fuel true items.toJson = some items :=
      ofJsonWithin?_toJson true ordered deep
    have tag := Json.tagged?_obj loose "type" "array" tags [("items", items.toJson)]
      (by simp [textual_toJson items]) (by decide) (by simp)
    rw [toJson, ofJsonWithin?, tag]
    simp [Json.record?_single, Json.required, inside]
  | object fields =>
    have deep : Json.fieldsDepth (fieldsToJson fields) ≤ fuel := by
      simp only [toJson, Json.depth, Json.fieldsDepth] at enough
      omega
    have inside := ofJsonWithin?_members ordered.2 deep
    have tag := Json.tagged?_obj loose "type" "object" tags [("fields", .obj (fieldsToJson fields))]
      (by simpa using textual_fieldsToJson fields) (by decide) (by simp)
    rw [toJson, ofJsonWithin?, tag, fieldsToJson_eq]
    simp only [Option.bind_eq_bind, Option.bind_some, Json.record?_single, Json.defaulted]
    rw [Json.entries?_map]
    · rw [Option.bind_some, Keyed.ofList_of_sorted ordered.1]
      rfl
    · intro e member
      simp [memberToJson, Json.record?, Json.given, Json.required, Json.bool?, inside e member]
  | _ => cases loose <;> rfl

theorem ofJsonWithin?_members : ∀ {fields : List (String × Member FieldType)} {fuel : Nat},
    everyMember (List.Pairwise (· < ·)) fields → Json.fieldsDepth (fieldsToJson fields) ≤ fuel →
    ∀ e ∈ fields, ofJsonWithin? fuel true e.2.type.toJson = some e.2.type := by
  intro fields fuel ordered enough
  rcases fields with _ | ⟨⟨name, m⟩, rest⟩
  · exact nofun
  · simp only [fieldsToJson, Json.fieldsDepth, Json.depth] at enough
    refine List.forall_mem_cons.2 ⟨?_, ofJsonWithin?_members ordered.2 (by omega)⟩
    exact ofJsonWithin?_toJson true ordered.1 (by dsimp only; omega)

end

@[simp] theorem ofJson?_toJson (loose : Bool) {type : FieldType}
    (ordered : type.EveryObject (List.Pairwise (· < ·))) :
    ofJson? loose type.toJson = some type :=
  ofJsonWithin?_toJson loose ordered (Nat.lt_succ_self _)

end FieldType

namespace Symbol

@[simp] theorem textual_toJson (s : Symbol) : s.toJson.Textual := by
  cases s <;> simp [toJson]

@[simp] theorem ofJson?_toJson (s : Symbol) : ofJson? s.toJson = some s := by
  cases s <;> rfl

end Symbol

namespace SymbolMatcher

@[simp] theorem textual_toJson (m : SymbolMatcher) : m.toJson.Textual := by
  cases m <;> simp [toJson]

@[simp] theorem ofJson?_toJson (m : SymbolMatcher) : ofJson? m.toJson = some m := by
  cases m <;> simp [toJson, ofJson?]

end SymbolMatcher

namespace Payload

@[simp] theorem textual_alternativesToJson (alternatives : List (List Symbol)) :
    (alternativesToJson alternatives).Textual := by
  simp [alternativesToJson]

@[simp] theorem alternativesOfJson?_toJson (alternatives : List (List Symbol)) :
    alternativesOfJson? (alternativesToJson alternatives) = some alternatives :=
  Json.list?_map fun _ _ => Json.list?_map fun s _ => s.ofJson?_toJson

/-- The names in every object type that the payload declares increase. -/
def Ordered (p : Payload) : Prop :=
  ∀ path type optional, p = .field path type optional → type.EveryObject (List.Pairwise (· < ·))

/-- What is written of a payload beside its tag. -/
def detail : Payload → List (String × Json)
  | .field path type optional =>
    [("field", .str path), ("field_type", type.toJson), ("optional", .bool optional)]
  | .production rule alternatives target =>
    [("rule", .str rule), ("alternatives", alternativesToJson alternatives)]
      ++ Json.whenSome "field" .str target
  | .regex target pattern => [("field", .str target), ("pattern", .str pattern)]
  | .tokenRule action selects => [("action", action.toJson), ("matcher", selects.toJson)]
  | .text description => [("description", .str description)]

/-- The tag of a payload. -/
def tag : Payload → String
  | .field .. => "field"
  | .production .. => "production"
  | .regex .. => "regex"
  | .tokenRule .. => "token_rule"
  | .text .. => "text"

theorem toJson_eq (p : Payload) : p.toJson = .obj (("type", .str p.tag) :: p.detail) := by
  cases p <;> rfl

theorem textual_detail (p : Payload) : ∀ f ∈ p.detail, f.2.Textual := by
  rcases p with _ | ⟨_, _, _ | _⟩ | _ | _ | _ <;>
    simp [detail, Json.whenSome, FieldType.textual_toJson]

@[simp] theorem textual_toJson (p : Payload) : p.toJson.Textual := by
  rw [toJson_eq, Json.textual_obj, List.forall_mem_cons]
  exact ⟨Json.textual_str _, p.textual_detail⟩

theorem tagged?_toJson (loose : Bool) (p : Payload) :
    p.toJson.tagged? loose "type" tags = some (p.tag, .obj p.detail) := by
  rw [toJson_eq]
  refine Json.tagged?_obj _ _ _ _ _ p.textual_detail ?_ ?_
  · cases p <;> simp [tag, tags]
  · rcases p with _ | ⟨_, _, _ | _⟩ | _ | _ | _ <;> simp [detail, Json.whenSome]

/-- A payload is what is read of what is written of it. -/
theorem ofJson?_toJson (loose : Bool) {p : Payload} (ordered : p.Ordered) :
    ofJson? loose p.toJson = some p := by
  rw [ofJson?, tagged?_toJson]
  cases p with
  | field path type optional =>
    have parts : (Json.obj (field path type optional).detail).record?
        [["field"], ["field_type"], ["optional"]] =
          some [some (.str path), some type.toJson, some (.bool optional)] := rfl
    have type_read := FieldType.ofJson?_toJson true (ordered path type optional rfl)
    simp [tag, parts, Json.required, Json.defaulted, Json.string?, Json.bool?, type_read]
  | production rule alternatives target =>
    have parts : (Json.obj (production rule alternatives target).detail).record?
        [["rule"], ["alternatives"], ["field"]] =
          some [some (.str rule), some (alternativesToJson alternatives), target.map .str] := by
      cases target <;> rfl
    cases target <;> simp [tag, parts, Json.required, Json.defaulted, Json.string?, Json.nullable?]
  | regex target pattern => rfl
  | tokenRule action selects =>
    have parts : (Json.obj (tokenRule action selects).detail).record? [["action"], ["matcher"]] =
        some [some action.toJson, some selects.toJson] := rfl
    simp [tag, parts, Json.required]
  | text description => rfl

end Payload

end GuidedDecoding
