import GuidedDecoding.Proofs.NameSet
import GuidedDecoding.Proofs.Schema.Address

/-!
# What declarations come to together

A field that unites others has, at each address where one of them has something, the narrowest of
the types there. It may be left out there if each of them may, and has the sources of all of them.
This does not depend on the order of the others, and it determines a field whose entries are sorted.
-/

namespace GuidedDecoding

namespace SchemaType

/-- What is of the type of one name is also of the type of another. -/
def Narrows (kind other : String) : Prop :=
  kind = other ∨ kind = "integer" ∧ other = "number"

theorem narrows_refl (kind : String) : Narrows kind kind := .inl rfl

theorem Narrows.trans {a b c : String} (first : Narrows a b) (second : Narrows b c) :
    Narrows a c := by
  rcases first with rfl | ⟨rfl, rfl⟩
  · exact second
  · rcases second with rfl | ⟨same, -⟩
    · exact .inr ⟨rfl, rfl⟩
    · exact absurd same (by decide)

theorem Narrows.antisymm {a b : String} (first : Narrows a b) (second : Narrows b a) : a = b := by
  rcases first with rfl | ⟨rfl, rfl⟩
  · rfl
  · rcases second with same | ⟨same, -⟩
    · exact same.symm
    · exact absurd same (by decide)

end SchemaType

namespace SchemaSlot

open SchemaType (Narrows narrows_refl)

/-- A field is, by itself, what declarations of it come to together. -/
structure JoinOf (declared : List SchemaField) (slot : SchemaField) : Prop where
  kind : ∃ x ∈ declared, slot.type.name = x.type.name
  narrows : ∀ x ∈ declared, Narrows slot.type.name x.type.name
  optional : slot.optional = true ↔ ∀ x ∈ declared, x.optional = true
  sources : ∀ id, id ∈ slot.sources ↔ ∃ x ∈ declared, id ∈ x.sources

theorem joinOf_singleton (slot : SchemaField) : JoinOf [slot] slot where
  kind := ⟨slot, List.mem_cons_self, rfl⟩
  narrows := by simp [narrows_refl]
  optional := by simp
  sources := by simp

namespace JoinOf

variable {declared declared' others : List SchemaField} {slot slot' : SchemaField}

/-- Declarations that were joined before can stand for themselves again. -/
theorem append (earlier : JoinOf declared slot') (h : JoinOf (slot' :: others) slot) :
    JoinOf (declared ++ others) slot where
  kind := by
    obtain ⟨x, member, same⟩ := h.kind
    rcases List.mem_cons.1 member with rfl | member
    · obtain ⟨y, member, same'⟩ := earlier.kind
      exact ⟨y, List.mem_append_left _ member, same.trans same'⟩
    · exact ⟨x, List.mem_append_right _ member, same⟩
  narrows := by
    intro x member
    rcases List.mem_append.1 member with before | later
    · exact (h.narrows slot' List.mem_cons_self).trans (earlier.narrows x before)
    · exact h.narrows x (List.mem_cons_of_mem _ later)
  optional := by
    rw [h.optional, List.forall_mem_cons, earlier.optional, List.forall_mem_append]
  sources := by
    intro id
    rw [h.sources, List.exists_mem_cons_iff, earlier.sources]
    simp [or_and_right, exists_or]

theorem of_mem_iff (same : ∀ x, x ∈ declared ↔ x ∈ declared') (h : JoinOf declared slot) :
    JoinOf declared' slot where
  kind := by simpa only [same] using h.kind
  narrows := by simpa only [same] using h.narrows
  optional := by simpa only [same] using h.optional
  sources := by simpa only [same] using h.sources

theorem outline_eq (h : JoinOf declared slot) (h' : JoinOf declared slot') :
    slot.outline = slot'.outline := by
  obtain ⟨x, member, name⟩ := h.kind
  obtain ⟨x', member', name'⟩ := h'.kind
  have kind : slot.type.name = slot'.type.name :=
    (name' ▸ h.narrows x' member').antisymm (name ▸ h'.narrows x member)
  have optional : slot.optional = slot'.optional := by
    rw [Bool.eq_iff_iff, h.optional, h'.optional]
  have sources : slot.sources = slot'.sources := by
    apply NameSet.ext_mem
    intro id
    rw [h.sources, h'.sources]
  simp [outline, kind, optional, sources]

end JoinOf

/-- What stands somewhere is what declarations come to; where there is none, nothing stands. -/
def Joined (declared : List SchemaField) : Option SchemaField → Prop
  | some slot => JoinOf declared slot
  | none => declared = []

theorem joined_toList (o : Option SchemaField) : Joined o.toList o := by
  cases o with
  | none => rfl
  | some slot => exact joinOf_singleton slot

namespace Joined

variable {declared declared' others : List SchemaField} {o o' : Option SchemaField}

theorem append (earlier : Joined declared o') (h : Joined (o'.toList ++ others) o) :
    Joined (declared ++ others) o := by
  cases o' with
  | none =>
    have none_yet : declared = [] := earlier
    simpa [none_yet] using h
  | some slot' =>
    cases o with
    | none => exact absurd h (by simp [Joined])
    | some slot => exact JoinOf.append earlier h

theorem of_mem_iff (same : ∀ x, x ∈ declared ↔ x ∈ declared') (h : Joined declared o) :
    Joined declared' o := by
  cases o with
  | none =>
    have none_there : declared = [] := h
    refine List.eq_nil_iff_forall_not_mem.2 fun x member => ?_
    exact absurd ((same x).2 member) (by simp [none_there])
  | some slot => exact JoinOf.of_mem_iff same h

theorem exists_of_mem {x : SchemaField} (h : Joined declared o) (member : x ∈ declared) :
    ∃ slot, o = some slot ∧ JoinOf declared slot := by
  cases o with
  | none =>
    have none_there : declared = [] := h
    exact absurd member (by simp [none_there])
  | some slot => exact ⟨slot, rfl, h⟩

theorem outline_eq (h : Joined declared o) (h' : Joined declared o') :
    o.map outline = o'.map outline := by
  cases o with
  | some slot =>
    obtain ⟨x, member, -⟩ := JoinOf.kind h
    obtain ⟨slot', rfl, join⟩ := h'.exists_of_mem member
    rw [Option.map_some, Option.map_some, JoinOf.outline_eq h join]
  | none =>
    cases o' with
    | none => rfl
    | some slot' =>
      obtain ⟨x, member, -⟩ := JoinOf.kind h'
      obtain ⟨_, none_there, -⟩ := h.exists_of_mem member
      exact absurd none_there (by simp)

end Joined

/-- What the parts have at an address. -/
def found (parts : List SchemaField) (address : List Step) : List SchemaField :=
  parts.filterMap (at? address)

theorem mem_found {parts : List SchemaField} {address : List Step} {x : SchemaField} :
    x ∈ found parts address ↔ ∃ part ∈ parts, part.at? address = some x := by
  simp [found]

theorem found_append (parts others : List SchemaField) (address : List Step) :
    found (parts ++ others) address = found parts address ++ found others address := by
  simp [found]

theorem found_cons (part : SchemaField) (parts : List SchemaField) (address : List Step) :
    found (part :: parts) address = (part.at? address).toList ++ found parts address := by
  cases h : part.at? address <;> simp [found, h]

/-- At every address the whole is what the parts come to there. -/
def Unites (parts : List SchemaField) (whole : SchemaField) : Prop :=
  ∀ address, Joined (found parts address) (whole.at? address)

theorem unites_singleton (slot : SchemaField) : Unites [slot] slot := by
  intro address
  rw [found_cons]
  simpa [found] using joined_toList (slot.at? address)

namespace Unites

variable {parts parts' : List SchemaField} {part whole whole' : SchemaField}

/-- A part more is united with the others by uniting it with what they are united to. -/
theorem append (earlier : Unites parts whole') (h : Unites [whole', part] whole) :
    Unites (parts ++ [part]) whole := by
  intro address
  have here := h address
  rw [found_cons] at here
  rw [found_append]
  exact (earlier address).append here

theorem perm (h : Unites parts whole) (same : parts.Perm parts') : Unites parts' whole := by
  intro address
  exact (h address).of_mem_iff fun x => (same.filterMap _).mem_iff

/-- There is no more than one sorted field that unites the parts. -/
theorem unique (h : Unites parts whole) (h' : Unites parts whole') (ordered : whole.Ordered)
    (ordered' : whole'.Ordered) : whole = whole' :=
  ext_outline ordered ordered' fun address => (h address).outline_eq (h' address)

/-- What the whole has at an address some part has there, with the same name of its type. -/
theorem exists_part (h : Unites parts whole) {address : List Step} {slot : SchemaField}
    (there : whole.at? address = some slot) :
    ∃ part ∈ parts, ∃ x, part.at? address = some x ∧ slot.type.name = x.type.name := by
  have here := h address
  rw [there] at here
  obtain ⟨x, member, same⟩ := JoinOf.kind here
  obtain ⟨part, inParts, at_part⟩ := mem_found.1 member
  exact ⟨part, inParts, x, at_part, same⟩

end Unites

end SchemaSlot

end GuidedDecoding
