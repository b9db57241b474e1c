import GuidedDecoding.Proofs.Schema.Declaring

/-!
# What a schema means

Constraints whose types have no dotted names compile exactly when their paths have no blank names
and all that they declare at one address is of one kind. Their schema then has a field at the
addresses where one of them declares something. It is as narrow as the narrowest declaration there,
may be left out if all of them allow it, and has the constraints that made them as its sources.
-/

namespace GuidedDecoding

open SchemaSlot (at?_cons found mem_found outline Agreeing JoinOf Unites)

namespace SchemaType

/-- The kinds of types that numbers are of. -/
def Numeric (kind : String) : Prop := kind = "number" ∨ kind = "integer"

/-- Types are of one kind if they have the same name or both are of numbers. -/
def SameKind (kind other : String) : Prop := kind = other ∨ Numeric kind ∧ Numeric other

theorem narrows_integer {kind : String} (h : Numeric kind) : Narrows "integer" kind := by
  rcases h with rfl | rfl
  · exact .inr ⟨rfl, rfl⟩
  · exact .inl rfl

theorem sameKind_of_narrows {kind other : String} (h : Narrows kind other) :
    SameKind kind other := by
  rcases h with rfl | ⟨rfl, rfl⟩
  · exact .inl rfl
  · exact .inr ⟨.inr rfl, .inl rfl⟩

theorem agree_iff_sameKind {kind other : String} : Agree kind other ↔ SameKind kind other := by
  constructor
  · rintro ⟨common, rfl | ⟨integer, rfl⟩, second⟩
    · exact sameKind_of_narrows second
    · subst integer
      rcases second with rfl | ⟨-, rfl⟩
      · exact .inr ⟨.inl rfl, .inr rfl⟩
      · exact .inl rfl
  · rintro (rfl | ⟨numeric, numeric'⟩)
    · exact ⟨kind, narrows_refl kind, narrows_refl kind⟩
    · exact ⟨"integer", narrows_integer numeric, narrows_integer numeric'⟩

end SchemaType

open SchemaType (SameKind)

/-- All that is declared at one address is of one kind. -/
def Constraint.KindsAgree (l : List Constraint) : Prop :=
  ∀ address, ∀ c ∈ l, ∀ c' ∈ l, ∀ kind kind' optional optional',
    c.DeclaresAt address kind optional → c'.DeclaresAt address kind' optional' → SameKind kind kind'

namespace Schema

/-- The field of a schema at an address. -/
def at? (s : Schema) : List Step → Option SchemaField
  | .field name :: rest => (Keyed.get? name s.fields).bind (SchemaSlot.at? rest)
  | _ => none

/-- A schema has what the constraints declare together, at every address. -/
structure Means (s : Schema) (l : List Constraint) : Prop where
  present : ∀ address, (∃ slot, s.at? address = some slot) ↔ ∃ c ∈ l, c.Declares address
  kind : ∀ address slot, s.at? address = some slot →
    ∀ c ∈ l, ∀ kind optional, c.DeclaresAt address kind optional → SameKind slot.type.name kind
  integer : ∀ address slot, s.at? address = some slot →
    (slot.type.name = "integer" ↔ ∃ c ∈ l, ∃ optional, c.DeclaresAt address "integer" optional)
  optional : ∀ address slot, s.at? address = some slot →
    (slot.optional = true ↔
      ∀ c ∈ l, ∀ kind optional, c.DeclaresAt address kind optional → optional = true)
  sources : ∀ address slot, s.at? address = some slot →
    ∀ id, id ∈ slot.sources ↔ ∃ c ∈ l, c.id = id ∧ c.Declares address

variable {s : Schema} {l : List Constraint} {ds : List (String × SchemaField)}
  {address : List Step}

theorem at?_eq_whole (below : address ≠ []) : s.at? address = (whole s.fields).at? address := by
  obtain ⟨step, rest, rfl⟩ := List.exists_cons_of_ne_nil below
  cases step <;> rfl

theorem ne_nil_of_declares {c : Constraint} (h : c.Declares address) : address ≠ [] := by
  obtain ⟨kind, optional, declares⟩ := h
  cases declares with
  | parent _ _ started _ => simpa using started
  | inside _ _ => simp [FieldPath.segments, FieldPath.pieces_ne_nil]

/-- All that the constraints add at an address. -/
def added (ds : List (String × SchemaField)) (address : List Step) : List SchemaField :=
  found (whole [] :: ds.map alone) address

theorem added_nil {x : SchemaField} (member : x ∈ added ds []) : x.type.name = "object" := by
  obtain ⟨part, inParts, there⟩ := mem_found.1 member
  cases there
  rcases List.mem_cons.1 inParts with rfl | later
  · rfl
  · obtain ⟨d, -, rfl⟩ := List.mem_map.1 later
    rfl

theorem mem_added_iff {x : SchemaField} (below : address ≠ []) :
    x ∈ added ds address ↔ ∃ d ∈ ds, (alone d).at? address = some x := by
  obtain ⟨step, rest, rfl⟩ := List.exists_cons_of_ne_nil below
  have empty : (whole []).at? (step :: rest) = none := by cases step <;> rfl
  rw [added, mem_found]
  simp [empty]

/-- What is added at an address is what the constraints declare there. -/
theorem exists_mem_added_iff (ordered : ∀ c ∈ l, c.TypeOrdered) (h : l.mapM declared = .ok ds)
    (below : address ≠ []) {p : SchemaSlot String → Prop} :
    (∃ x ∈ added ds address, p x.outline) ↔
      ∃ c ∈ l, ∃ kind optional, c.DeclaresAt address kind optional ∧
        p ⟨kind, optional, .singleton c.id⟩ := by
  constructor
  · rintro ⟨x, member, holds⟩
    obtain ⟨d, inDs, there⟩ := (mem_added_iff below).1 member
    obtain ⟨c, inside, declares⟩ := Outcome.exists_of_mem_mapM h inDs
    obtain ⟨atC, sources⟩ := (outline_alone_iff (ordered c inside) declares below).1
      (congrArg (Option.map outline) there)
    refine ⟨c, inside, _, _, atC, ?_⟩
    rw [← sources]
    exact holds
  · rintro ⟨c, inside, kind, optional, atC, holds⟩
    obtain ⟨d, inDs, declares⟩ := Outcome.exists_mem_of_mapM h inside
    have shown := (outline_alone_iff (ordered c inside) declares below
      (o := ⟨kind, optional, .singleton c.id⟩)).2 ⟨atC, rfl⟩
    obtain ⟨x, there, same⟩ := Option.map_eq_some_iff.1 shown
    exact ⟨x, (mem_added_iff below).2 ⟨d, inDs, there⟩, same ▸ holds⟩

theorem forall_mem_added_iff (ordered : ∀ c ∈ l, c.TypeOrdered) (h : l.mapM declared = .ok ds)
    (below : address ≠ []) {p : SchemaSlot String → Prop} :
    (∀ x ∈ added ds address, p x.outline) ↔
      ∀ c ∈ l, ∀ kind optional, c.DeclaresAt address kind optional →
        p ⟨kind, optional, .singleton c.id⟩ := by
  have counter := exists_mem_added_iff ordered h below (p := fun o => ¬ p o)
  simpa only [not_exists, not_and, not_not] using not_congr counter

/-- What the constraints add agrees if all that they declare at one address is of one kind. -/
theorem agreeing_iff_kindsAgree (ordered : ∀ c ∈ l, c.TypeOrdered) (h : l.mapM declared = .ok ds) :
    Agreeing (whole [] :: ds.map alone) ↔ Constraint.KindsAgree l := by
  have pairs : ∀ address, address ≠ [] →
      ((∀ x ∈ added ds address, ∀ y ∈ added ds address, SameKind x.type.name y.type.name) ↔
        ∀ c ∈ l, ∀ kind optional, c.DeclaresAt address kind optional →
          ∀ c' ∈ l, ∀ kind' optional', c'.DeclaresAt address kind' optional' →
            SameKind kind kind') := by
    intro address below
    rw [← forall_mem_added_iff ordered h below
      (p := fun o => ∀ c' ∈ l, ∀ kind' optional', c'.DeclaresAt address kind' optional' →
        SameKind o.type kind')]
    refine forall₂_congr fun x _ => ?_
    exact forall_mem_added_iff ordered h below (p := fun o => SameKind x.type.name o.type)
  constructor
  · intro agree address c inside c' inside' kind kind' optional optional' declares declares'
    have below := ne_nil_of_declares ⟨kind, optional, declares⟩
    refine (pairs address below).1 (fun x inX y inY => ?_) c inside kind optional declares
      c' inside' kind' optional' declares'
    exact SchemaType.agree_iff_sameKind.1 (agree address x inX y inY)
  · intro agree address x inX y inY
    rw [SchemaType.agree_iff_sameKind]
    by_cases top : address = []
    · subst top
      exact .inl ((added_nil inX).trans (added_nil inY).symm)
    · refine (pairs address top).2 ?_ x inX y inY
      intro c inside kind optional declares c' inside' kind' optional'
      exact agree address c inside c' inside' kind kind' optional optional' declares

theorem exists_mapM_declared_iff :
    (∃ ds, l.mapM declared = .ok ds) ↔ ∀ c ∈ l, c.DeclaresField := by
  simp only [← exists_declared_iff]
  constructor
  · rintro ⟨ds, h⟩ c inside
    obtain ⟨d, -, declares⟩ := Outcome.exists_mem_of_mapM h inside
    exact ⟨d, declares⟩
  · exact Outcome.exists_mapM_eq_ok

theorem pairwise_sharePlainly (plain : ∀ c ∈ l, c.NamesPlain) : l.Pairwise SharePlainly :=
  List.Pairwise.imp_of_mem
    (fun inside inside' _ => sharePlainly_of_namesPlain (plain _ inside) (plain _ inside'))
    (List.pairwise_of_forall fun _ _ => trivial)

/-- Declarations compile if their paths are well-formed and their kinds agree. -/
theorem exists_ofDeclarations_iff_kindsAgree (ordered : ∀ c ∈ l, c.TypeOrdered)
    (plain : ∀ c ∈ l, c.NamesPlain) :
    (∃ s, ofDeclarations l = .ok s) ↔
      (∀ c ∈ l, c.DeclaresField) ∧ Constraint.KindsAgree l := by
  rw [exists_ofDeclarations_iff ordered (pairwise_sharePlainly plain), ← exists_mapM_declared_iff]
  constructor
  · rintro ⟨ds, declares, agree⟩
    exact ⟨⟨ds, declares⟩, (agreeing_iff_kindsAgree ordered declares).1 agree⟩
  · rintro ⟨⟨ds, declares⟩, agree⟩
    exact ⟨ds, declares, (agreeing_iff_kindsAgree ordered declares).2 agree⟩

theorem means_of_unites (ordered : ∀ c ∈ l, c.TypeOrdered) (h : l.mapM declared = .ok ds)
    (united : Unites (whole [] :: ds.map alone) (whole s.fields)) : s.Means l := by
  have below : ∀ {address slot}, s.at? address = some slot → address ≠ [] := by
    rintro _ slot there rfl
    cases there
  have join : ∀ {address slot}, s.at? address = some slot → JoinOf (added ds address) slot := by
    intro address slot there
    have here := united address
    rw [← at?_eq_whole (below there), there] at here
    exact here
  constructor
  case present =>
    intro address
    constructor
    · rintro ⟨slot, there⟩
      obtain ⟨x, member, -⟩ := (join there).kind
      obtain ⟨c, inside, kind, optional, atC, -⟩ := (exists_mem_added_iff ordered h (below there)
        (p := fun _ => True)).1 ⟨x, member, trivial⟩
      exact ⟨c, inside, kind, optional, atC⟩
    · rintro ⟨c, inside, kind, optional, atC⟩
      have below := ne_nil_of_declares ⟨kind, optional, atC⟩
      obtain ⟨x, member, -⟩ := (exists_mem_added_iff ordered h below (p := fun _ => True)).2
        ⟨c, inside, kind, optional, atC, trivial⟩
      obtain ⟨slot, there, -⟩ := (united address).exists_of_mem member
      exact ⟨slot, (at?_eq_whole below).trans there⟩
  case kind =>
    intro address slot there
    refine (forall_mem_added_iff ordered h (below there)
      (p := fun o => SameKind slot.type.name o.type)).1 fun x member => ?_
    exact SchemaType.sameKind_of_narrows ((join there).narrows x member)
  case integer =>
    intro address slot there
    have declaredInteger := exists_mem_added_iff ordered h (below there)
      (p := fun o => o.type = "integer")
    constructor
    · intro integer
      obtain ⟨x, member, same⟩ := (join there).kind
      obtain ⟨c, inside, kind, optional, atC, rfl⟩ :=
        declaredInteger.1 ⟨x, member, same.symm.trans integer⟩
      exact ⟨c, inside, optional, atC⟩
    · rintro ⟨c, inside, optional, atC⟩
      obtain ⟨x, member, same⟩ := declaredInteger.2 ⟨c, inside, _, optional, atC, rfl⟩
      rcases (join there).narrows x member with equal | ⟨integer, -⟩
      · exact equal.trans same
      · exact integer
  case optional =>
    intro address slot there
    rw [(join there).optional]
    exact forall_mem_added_iff ordered h (below there) (p := fun o => o.optional = true)
  case sources =>
    intro address slot there id
    rw [(join there).sources]
    refine (exists_mem_added_iff ordered h (below there) (p := fun o => id ∈ o.sources)).trans ?_
    refine exists_congr fun c => and_congr_right fun _ => ?_
    simp only [NameSet.mem_singleton, Constraint.Declares, exists_and_right, eq_comm]
    exact and_comm

/-- Constraints without dotted names in their types compile exactly if their paths have no blank
names and their kinds agree, and the schema means what they declare. -/
theorem ofConstraints_meaning (l : List Constraint) (ordered : ∀ c ∈ targeted l, c.TypeOrdered)
    (plain : ∀ c ∈ targeted l, c.NamesPlain) :
    ((∃ r, ofConstraints l = .ok r) ↔
      (∀ c ∈ targeted l, c.DeclaresField) ∧ Constraint.KindsAgree (targeted l)) ∧
    (ofConstraints l = .ok none ↔ targeted l = []) ∧
      ∀ s, ofConstraints l = .ok (some s) → s.Means (targeted l) := by
  by_cases noTarget : targeted l = []
  · rw [ofConstraints_of_targeted_eq_nil noTarget, noTarget]
    simp [Constraint.KindsAgree]
  · have compiled : ∀ r, ofConstraints l = .ok r ↔ _ := fun r => ofConstraints_eq_ok_iff noTarget
    refine ⟨?_, by simp [compiled, noTarget], fun s h => ?_⟩
    · rw [← exists_ofDeclarations_iff_kindsAgree ordered plain]
      simp [compiled]
    · obtain ⟨s', done, same⟩ := (compiled _).1 h
      cases same
      obtain ⟨ds, declares, -, united⟩ :=
        (ofDeclarations_eq_ok_iff ordered (pairwise_sharePlainly plain)).1 done
      exact means_of_unites ordered declares united

theorem everyObject_plainNames {p : List String → Prop} (h : p ["amount", "currency"]) :
    ∀ c ∈ plainNames, c.EveryObject p := by
  refine List.forall_mem_cons.2 ⟨Constraint.everyObject_ofField trivial, ?_⟩
  exact List.forall_mem_singleton.2 (Constraint.everyObject_ofField ⟨h, trivial, trivial, trivial⟩)

/-- Two constraints that both declare an object, one of them by way of a path into it, compile to
a schema that means both. -/
theorem means_plainNames : ∃ s, ofConstraints plainNames = .ok (some s) ∧ s.Means plainNames := by
  have ordered : ∀ c ∈ plainNames, c.TypeOrdered := everyObject_plainNames (by decide)
  have plain : ∀ c ∈ plainNames, c.NamesPlain := everyObject_plainNames (by decide)
  have all : targeted plainNames = plainNames := rfl
  have compiled : ofConstraints plainNames = .ok (some _) := rfl
  have meaning := ofConstraints_meaning plainNames (all ▸ ordered) (all ▸ plain)
  rw [all] at meaning
  exact ⟨_, compiled, meaning.2.2 _ compiled⟩

end Schema

end GuidedDecoding
