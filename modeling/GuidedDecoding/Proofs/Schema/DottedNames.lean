import GuidedDecoding.Proofs.Schema.Uniting

/-!
# Names with dots are left alone

A field that is merged into an object is filed under the last piece of its name, so nothing is ever
filed under a name with dots. Whatever an object has under such a name, or whether it has nothing
there, stays as it is however often others are merged into it.
-/

namespace GuidedDecoding

namespace Schema

open FieldPath (Plain)
open SchemaSlot (at? at?_cons)

variable {path name : String} {x y m : SchemaField}

theorem get?_of_addField {fields filed : List (String × SchemaField)} {slot : SchemaField}
    (dotted : ¬ Plain name) (h : addField fields path slot = .ok filed) :
    Keyed.get? name filed = Keyed.get? name fields := by
  obtain ⟨merged, rfl, -⟩ := addField_eq_ok_iff.1 h
  have ne : FieldPath.last path ≠ name := by
    rintro rfl
    exact dotted (FieldPath.plain_last path)
  rw [Keyed.get?_insert, if_neg ne]

theorem get?_of_mergeFields {fields incoming filed : List (String × SchemaField)}
    (dotted : ¬ Plain name) (h : mergeFields path fields incoming = .ok filed) :
    Keyed.get? name filed = Keyed.get? name fields := by
  induction incoming generalizing fields with
  | nil =>
    cases h
    rfl
  | cons e rest ih =>
    rw [mergeFields_cons, Outcome.bind_eq_ok_iff] at h
    obtain ⟨middle, first, others⟩ := h
    rw [ih others, get?_of_addField dotted first]

/-- A field that others were merged into. -/
def Grows : SchemaField → SchemaField → Prop :=
  Relation.ReflTransGen fun x m => ∃ path y, mergeSlot path x y = .ok m

theorem grows_of_addField {fields filed : List (String × SchemaField)} {slot : SchemaField}
    (h : addField fields path slot = .ok filed) (present : Keyed.get? name fields = some x) :
    ∃ m, Keyed.get? name filed = some m ∧ Grows x m := by
  obtain ⟨merged, rfl, cases⟩ := addField_eq_ok_iff.1 h
  rw [Keyed.get?_insert]
  by_cases here : FieldPath.last path = name
  · rw [if_pos here]
    rw [here, present] at cases
    obtain ⟨absent, -⟩ | ⟨_, same, done⟩ := cases
    · exact absurd absent (by simp)
    · cases same
      exact ⟨merged, rfl, .single ⟨path, slot, done⟩⟩
  · rw [if_neg here]
    exact ⟨x, present, .refl⟩

theorem grows_of_mergeFields {fields incoming filed : List (String × SchemaField)}
    (h : mergeFields path fields incoming = .ok filed)
    (present : Keyed.get? name fields = some x) :
    ∃ m, Keyed.get? name filed = some m ∧ Grows x m := by
  induction incoming generalizing fields x with
  | nil =>
    cases h
    exact ⟨x, present, .refl⟩
  | cons e rest ih =>
    rw [mergeFields_cons, Outcome.bind_eq_ok_iff] at h
    obtain ⟨middle, first, others⟩ := h
    obtain ⟨x', there, grows⟩ := grows_of_addField first present
    obtain ⟨m, atEnd, further⟩ := ih others there
    exact ⟨m, atEnd, grows.trans further⟩

/-- What is inside a field that another is merged into has others merged into it, too. -/
theorem grows_inner {step : Step} {x' : SchemaField} (h : mergeSlot path x y = .ok m)
    (inside : x.inner? step = some x') : ∃ m', m.inner? step = some m' ∧ Grows x' m' := by
  obtain ⟨merged, merging, rfl⟩ := mergeSlot_eq_ok_iff.1 h
  obtain ⟨type, optional, sources⟩ := x
  obtain ⟨type', optional', sources'⟩ := y
  cases merging with
  | object done =>
    cases step with
    | field k => exact grows_of_mergeFields done inside
    | items => cases inside
  | array done =>
    cases step with
    | field k => cases inside
    | items =>
      cases inside
      have merges := mergeSlot_of_mergeType done optional optional'
      exact ⟨_, rfl, .single ⟨path ++ "[]", _, merges⟩⟩
  | same leaf =>
    cases type with
    | array => exact absurd rfl leaf.1
    | object => exact absurd rfl leaf.2
    | _ => cases step <;> cases inside
  | integerToo => cases step <;> cases inside
  | numberToo => cases step <;> cases inside

/-- There is an object at an address, and this is what it has under a name. -/
def HasAt (address : List Step) (name : String) (found : Option SchemaField) (slot : SchemaField) :
    Prop :=
  ∃ x fields, slot.at? address = some x ∧ x.type = .object fields ∧ Keyed.get? name fields = found

variable {address : List Step} {found found' : Option SchemaField}

theorem HasAt.eq (h : HasAt address name found x) (h' : HasAt address name found' x) :
    found = found' := by
  obtain ⟨a, fields, there, type, rfl⟩ := h
  obtain ⟨a', fields', there', type', rfl⟩ := h'
  obtain rfl : a = a' := Option.some.inj (there.symm.trans there')
  obtain rfl : fields = fields' := SchemaType.object.inj (type.symm.trans type')
  rfl

theorem hasAt_cons {step : Step} {rest : List Step} :
    HasAt (step :: rest) name found x ↔
      ∃ x', x.inner? step = some x' ∧ HasAt rest name found x' := by
  simp only [HasAt, at?_cons, Option.bind_eq_some_iff]
  constructor
  · rintro ⟨a, fields, ⟨x', inside, there⟩, type, has⟩
    exact ⟨x', inside, a, fields, there, type, has⟩
  · rintro ⟨x', inside, a, fields, there, type, has⟩
    exact ⟨a, fields, ⟨x', inside, there⟩, type, has⟩

/-- Merging does not touch what stands under a name with dots. -/
theorem HasAt.mergeSlot (dotted : ¬ Plain name) (has : HasAt address name found x)
    (h : mergeSlot path x y = .ok m) : HasAt address name found m := by
  induction address generalizing path x y m with
  | nil =>
    obtain ⟨_, fields, ⟨⟩, type, has⟩ := has
    obtain ⟨merged, merging, rfl⟩ := mergeSlot_eq_ok_iff.1 h
    obtain ⟨incoming, filed, -, rfl, done⟩ := merging.exists_incoming type
    exact ⟨_, filed, rfl, rfl, (get?_of_mergeFields dotted done).trans has⟩
  | cons step rest ih =>
    obtain ⟨x', inside, has⟩ := hasAt_cons.1 has
    obtain ⟨m', there, grows⟩ := grows_inner h inside
    have after : HasAt rest name found m' := by
      clear there
      induction grows with
      | refl => exact has
      | tail _ last before =>
        obtain ⟨path', y', merged⟩ := last
        exact ih before merged
    exact hasAt_cons.2 ⟨m', there, after⟩

end Schema

end GuidedDecoding
