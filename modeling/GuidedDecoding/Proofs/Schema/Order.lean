import GuidedDecoding.Proofs.Schema.Declared
import GuidedDecoding.Proofs.Schema.DottedNames

/-!
# Declarations in whatever order

As long as no two constraints share an object with a dotted name in it, the schema that constraints
are compiled to unites what they declare, and there is one exactly when there is something that
unites it. Neither depends on the order of the constraints.

The condition cannot be left out. If two constraints share an object in which one of them has a
dotted name, the object has under that name what the first of the two declared there. Two orders in
which each comes first do not give the same schema then.
-/

namespace GuidedDecoding

namespace SchemaSlot.Unites

open FieldPath (Plain)

variable {parts : List SchemaField} {united other : SchemaField}

/-- What the parts share plainly with a field is shared plainly with it by what unites them. -/
theorem sharesPlainly (h : Unites parts united)
    (each : ∀ part ∈ parts, SharesPlainly part other) : SharesPlainly united other := by
  intro address a b fields incoming there thereToo typeA typeB name member
  obtain ⟨part, inParts, x, atPart, same⟩ := h.exists_part there
  rw [typeA] at same
  obtain ⟨mine, typeX⟩ := SchemaType.name_eq_object_iff.1 same.symm
  rcases member with inFields | inIncoming
  · -- Some part has a field of this name in its object, maybe another part than the one above.
    obtain ⟨slot, found⟩ := Option.isSome_iff_exists.1 (Keyed.has_iff.2 inFields)
    have below : united.at? (address ++ [.field name]) = some slot := by
      rw [at?_append, there, Option.bind_some, at?_cons, inner?_field_of_type typeA, found]
      rfl
    obtain ⟨part', inParts', x', atPart', -⟩ := h.exists_part below
    rw [at?_append, Option.bind_eq_some_iff] at atPart'
    obtain ⟨y, atPart', inside⟩ := atPart'
    rw [at?_cons, Option.bind_eq_some_iff] at inside
    obtain ⟨_, inside, -⟩ := inside
    obtain ⟨mine', typeY, present⟩ := exists_fields_of_inner? inside
    have named : name ∈ Keyed.names mine' := by
      rw [← Keyed.has_iff, Keyed.has, present]
      rfl
    exact each part' inParts' address y b mine' incoming atPart' thereToo typeY typeB name
      (.inl named)
  · exact each part inParts address x b mine incoming atPart thereToo typeX typeB name
      (.inr inIncoming)

end SchemaSlot.Unites

namespace Schema

open Constraint (everyObject_ofField)
open FieldPath (Plain)
open SchemaSlot (Agreeing Unites SharesPlainly mem_found)

/-- The object that has nothing but one declared field. -/
def alone (d : String × SchemaField) : SchemaField := whole [d]

/-- Add declared fields one after the other. -/
def addAll (declared : List (String × SchemaField)) (fields : List (String × SchemaField)) :
    Except CompileError (List (String × SchemaField)) :=
  declared.foldlM (fun fields d => addField fields d.1 d.2) fields

variable {d : String × SchemaField} {ds fields filed acc : List (String × SchemaField)}
  {parts : List SchemaField}

theorem sharesPlainly_of_pairwise_cons
    (plain : (parts ++ (d :: ds).map alone).Pairwise SharesPlainly) :
    ∀ part ∈ parts, SharesPlainly part (alone d) := fun part member =>
  (List.pairwise_append.1 plain).2.2 part member (alone d) List.mem_cons_self

/-- Fields that are sorted and that parts come to together. -/
structure Collected (parts : List SchemaField) (fields : List (String × SchemaField)) : Prop where
  unites : Unites parts (whole fields)
  ordered : (whole fields).Ordered

namespace Collected

/-- Parts that agree with a declared field come to something that it can be added to. -/
theorem exists_addField (before : Collected parts acc) (ordered : (alone d).Ordered)
    (plain : ∀ part ∈ parts, SharesPlainly part (alone d)) (agree : Agreeing (parts ++ [alone d])) :
    ∃ filed, addField acc d.1 d.2 = .ok filed := by
  have merges : ∃ m, mergeSlot "" (whole acc) (alone d) = .ok m := by
    refine exists_mergeSlot ordered (before.unites.sharesPlainly plain) ?_
    intro address a b atAcc atD
    obtain ⟨part, inParts, x, atPart, same⟩ := before.unites.exists_part atAcc
    rw [same]
    exact agree address x (mem_found.2 ⟨part, List.mem_append_left _ inParts, atPart⟩)
      b (mem_found.2 ⟨alone d, List.mem_append_right _ List.mem_cons_self, atD⟩)
  obtain ⟨m, done⟩ := merges
  obtain ⟨filed, added, -⟩ := (mergeSlot_whole_singleton ordered).1 done
  exact ⟨filed, added⟩

/-- A declared field is one part more. -/
theorem addField (before : Collected parts acc) (ordered : (alone d).Ordered)
    (plain : ∀ part ∈ parts, SharesPlainly part (alone d))
    (h : addField acc d.1 d.2 = .ok filed) : Collected (parts ++ [alone d]) filed := by
  have merged := (mergeSlot_whole_singleton ordered).2 ⟨filed, h, rfl⟩
  have plainAcc := before.unites.sharesPlainly plain
  exact ⟨before.unites.append (unites_of_mergeSlot merged ordered plainAcc),
    ordered_of_mergeSlot merged before.ordered ordered plainAcc⟩

theorem of_addAll (before : Collected parts acc) (ordered : ∀ d ∈ ds, (alone d).Ordered)
    (plain : (parts ++ ds.map alone).Pairwise SharesPlainly) (h : addAll ds acc = .ok fields) :
    Collected (parts ++ ds.map alone) fields := by
  induction ds generalizing acc parts with
  | nil =>
    cases h
    rwa [List.map_nil, List.append_nil]
  | cons d rest ih =>
    obtain ⟨orderedFirst, orderedRest⟩ := List.forall_mem_cons.1 ordered
    rw [addAll, List.foldlM_cons, Outcome.bind_eq_ok_iff] at h
    obtain ⟨filed, first, others⟩ := h
    have plainFirst := sharesPlainly_of_pairwise_cons plain
    rw [List.map_cons, List.append_cons] at plain ⊢
    exact ih (before.addField orderedFirst plainFirst first) orderedRest plain others

/-- Declared fields can be added one after the other, if they agree with each other. -/
theorem exists_addAll (before : Collected parts acc) (ordered : ∀ d ∈ ds, (alone d).Ordered)
    (plain : (parts ++ ds.map alone).Pairwise SharesPlainly)
    (agree : Agreeing (parts ++ ds.map alone)) : ∃ fields, addAll ds acc = .ok fields := by
  induction ds generalizing acc parts with
  | nil => exact ⟨acc, rfl⟩
  | cons d rest ih =>
    obtain ⟨orderedFirst, orderedRest⟩ := List.forall_mem_cons.1 ordered
    have plainFirst := sharesPlainly_of_pairwise_cons plain
    rw [List.map_cons, List.append_cons] at plain agree
    obtain ⟨filed, first⟩ := before.exists_addField orderedFirst plainFirst
      (agree.mono (List.subset_append_left _ _))
    obtain ⟨fields, others⟩ :=
      ih (before.addField orderedFirst plainFirst first) orderedRest plain agree
    refine ⟨fields, ?_⟩
    rw [addAll, List.foldlM_cons, Outcome.bind_eq_ok_iff]
    exact ⟨filed, first, others⟩

end Collected

/-! ### What constraints declare -/

/-- Where both constraints declare an object, all names in the two objects are plain. -/
def SharePlainly (c c' : Constraint) : Prop :=
  ∀ d d', declared c = .ok d → declared c' = .ok d' → SharesPlainly (alone d) (alone d')

theorem SharePlainly.symm {c c' : Constraint} (h : SharePlainly c c') : SharePlainly c' c :=
  fun d' d declares' declares => (h d d' declares declares').symm

/-- Compiling gives the same for every order of the constraints. -/
def OrderFree (l : List Constraint) : Prop :=
  ∀ l', l'.Perm l → ∀ r, ofConstraints l' = .ok r ↔ ofConstraints l = .ok r

theorem sharesPlainly_empty (plain : Plain d.1) : SharesPlainly (whole []) (alone d) := by
  intro address a b fields incoming there thereToo typeA typeB name member
  cases address with
  | nil =>
    cases there
    cases thereToo
    cases typeA
    cases typeB
    have same : name = d.1 := by simpa [Keyed.names] using member
    rw [same]
    exact plain
  | cons step rest =>
    cases step <;> cases there

variable {l l' : List Constraint} {s : Schema}

theorem ofDeclarations_eq_ok_iff_addAll :
    ofDeclarations l = .ok s ↔ ∃ ds, l.mapM declared = .ok ds ∧ addAll ds [] = .ok s.fields := by
  rw [ofDeclarations, Outcome.map_eq_ok_iff]
  have fold : ∀ fields, l.foldlM declare [] = .ok fields ↔
      ∃ ds, l.mapM declared = .ok ds ∧ addAll ds [] = .ok fields :=
    fun fields => Outcome.foldlM_bind_eq_ok_iff
  simp only [fold]
  constructor
  · rintro ⟨fields, h, rfl⟩
    exact h
  · intro h
    exact ⟨s.fields, h, rfl⟩

theorem ordered_alone {ds : List (String × SchemaField)} (ordered : ∀ c ∈ l, c.TypeOrdered)
    (h : l.mapM declared = .ok ds) : ∀ d ∈ ds, (alone d).Ordered := by
  intro d member
  obtain ⟨c, inside, declares⟩ := Outcome.exists_of_mem_mapM h member
  exact ordered_whole_singleton (declaredBy_of_typeOrdered (ordered c inside) declares).2

theorem pairwise_alone {ds : List (String × SchemaField)} (ordered : ∀ c ∈ l, c.TypeOrdered)
    (plain : l.Pairwise SharePlainly) (h : l.mapM declared = .ok ds) :
    ([whole []] ++ ds.map alone).Pairwise SharesPlainly := by
  refine List.pairwise_cons.2 ⟨fun part member => ?_, List.pairwise_map.2 ?_⟩
  · obtain ⟨d, inside, rfl⟩ := List.mem_map.1 member
    obtain ⟨c, inL, declares⟩ := Outcome.exists_of_mem_mapM h inside
    exact sharesPlainly_empty (declaredBy_of_typeOrdered (ordered c inL) declares).1
  · exact Outcome.pairwise_mapM h (fun c c' d d' share first second => share d d' first second)
      plain

theorem collected_empty : Collected [whole []] [] := by
  refine ⟨SchemaSlot.unites_singleton _, ?_⟩
  intro address x fields there type
  cases address with
  | nil =>
    cases there
    cases type
    exact .nil
  | cons step rest => cases step <;> cases there

/-- The schema of constraints that share no dotted names is what unites their declarations. -/
theorem ofDeclarations_eq_ok_iff (ordered : ∀ c ∈ l, c.TypeOrdered)
    (plain : l.Pairwise SharePlainly) :
    ofDeclarations l = .ok s ↔ ∃ ds, l.mapM declared = .ok ds ∧
      (whole s.fields).Ordered ∧ Unites (whole [] :: ds.map alone) (whole s.fields) := by
  rw [ofDeclarations_eq_ok_iff_addAll]
  refine exists_congr fun ds => and_congr_right fun declares => ?_
  have orderedAll := ordered_alone ordered declares
  have plainAll := pairwise_alone ordered plain declares
  have collected : ∀ fields, addAll ds [] = .ok fields →
      Collected (whole [] :: ds.map alone) fields :=
    fun fields done => collected_empty.of_addAll orderedAll plainAll done
  constructor
  · intro done
    exact ⟨(collected _ done).ordered, (collected _ done).unites⟩
  · rintro ⟨orderedFields, united⟩
    obtain ⟨fields, done⟩ := collected_empty.exists_addAll orderedAll plainAll united.agreeing
    have same := (collected _ done).unites.unique united (collected _ done).ordered orderedFields
    cases same
    exact done

/-- There is a schema of such constraints as soon as what they declare agrees everywhere. -/
theorem exists_ofDeclarations_iff (ordered : ∀ c ∈ l, c.TypeOrdered)
    (plain : l.Pairwise SharePlainly) :
    (∃ s, ofDeclarations l = .ok s) ↔
      ∃ ds, l.mapM declared = .ok ds ∧ Agreeing (whole [] :: ds.map alone) := by
  constructor
  · rintro ⟨s, h⟩
    obtain ⟨ds, declares, -, united⟩ := (ofDeclarations_eq_ok_iff ordered plain).1 h
    exact ⟨ds, declares, united.agreeing⟩
  · rintro ⟨ds, declares, agree⟩
    obtain ⟨fields, done⟩ := collected_empty.exists_addAll (ordered_alone ordered declares)
      (pairwise_alone ordered plain declares) agree
    exact ⟨⟨fields⟩, ofDeclarations_eq_ok_iff_addAll.2 ⟨ds, declares, done⟩⟩

theorem ofDeclarations_of_perm (ordered : ∀ c ∈ l, c.TypeOrdered) (plain : l.Pairwise SharePlainly)
    (perm : l.Perm l') (h : ofDeclarations l = .ok s) : ofDeclarations l' = .ok s := by
  have ordered' : ∀ c ∈ l', c.TypeOrdered := fun c member => ordered c (perm.mem_iff.2 member)
  have plain' : l'.Pairwise SharePlainly := (perm.pairwise_iff SharePlainly.symm).1 plain
  obtain ⟨ds, declares, orderedWhole, unites⟩ := (ofDeclarations_eq_ok_iff ordered plain).1 h
  obtain ⟨ds', declares', permDs⟩ := Outcome.exists_mapM_of_perm perm declares
  refine (ofDeclarations_eq_ok_iff ordered' plain').2 ⟨ds', declares', orderedWhole, ?_⟩
  exact unites.perm ((permDs.map alone).cons _)

/-! ### Shared dotted names -/

variable {address : List Step} {name : String} {found found' : Option SchemaField}

theorem hasAt_of_addAll (dotted : ¬ Plain name) (ordered : ∀ d ∈ ds, (alone d).Ordered)
    (has : HasAt address name found (whole acc)) (h : addAll ds acc = .ok fields) :
    HasAt address name found (whole fields) := by
  induction ds generalizing acc with
  | nil =>
    cases h
    exact has
  | cons d rest ih =>
    obtain ⟨orderedFirst, orderedRest⟩ := List.forall_mem_cons.1 ordered
    rw [addAll, List.foldlM_cons, Outcome.bind_eq_ok_iff] at h
    obtain ⟨filed, first, others⟩ := h
    have merged := (mergeSlot_whole_singleton orderedFirst).2 ⟨filed, first, rfl⟩
    exact ih orderedRest (has.mergeSlot dotted merged) others

/-- Under a dotted name the schema has what the first constraint has there. -/
theorem hasAt_of_ofDeclarations {c : Constraint} {rest : List Constraint} (dotted : ¬ Plain name)
    (ordered : ∀ c' ∈ c :: rest, c'.TypeOrdered) (declares : declared c = .ok d)
    (has : HasAt address name found (alone d)) (h : ofDeclarations (c :: rest) = .ok s) :
    HasAt address name found (whole s.fields) := by
  obtain ⟨ds, all, added⟩ := ofDeclarations_eq_ok_iff_addAll.1 h
  have orderedAll := ordered_alone ordered all
  rw [List.mapM_cons, Outcome.bind_eq_ok_iff] at all
  obtain ⟨d', declares', all⟩ := all
  obtain rfl : d = d' := Except.ok.inj (declares.symm.trans declares')
  obtain ⟨ds', -, same⟩ := Outcome.bind_eq_ok_iff.1 all
  cases same
  have plain := (declaredBy_of_typeOrdered (ordered c List.mem_cons_self) declares).1
  have first : addField [] d.1 d.2 = .ok [d] := by
    rw [addField_of_absent rfl, FieldPath.last_of_plain plain]
    rfl
  rw [addAll, List.foldlM_cons, first] at added
  exact hasAt_of_addAll dotted (fun d member => orderedAll d (List.mem_cons_of_mem _ member)) has
    added

/-- What a constraint has under a name in some object comes from that constraint. -/
theorem sources_of_hasAt {c : Constraint} {x : SchemaField} (ordered : c.TypeOrdered)
    (declares : declared c = .ok d) (has : HasAt address name (some x) (alone d)) :
    x.sources = .singleton c.id := by
  have by_c := (declaredBy_of_typeOrdered ordered declares).2
  obtain ⟨a, fields, there, type, present⟩ := has
  have below : (alone d).at? (address ++ [.field name]) = some x := by
    rw [SchemaSlot.at?_append, there, Option.bind_some, SchemaSlot.at?_cons,
      SchemaSlot.inner?_field_of_type type, present]
    rfl
  cases address with
  | nil => exact (declaredBy_of_inside by_c below).sources
  | cons step rest => exact (declaredBy_of_inside by_c below).sources

/-- Constraints that share a dotted name do not have the same under it. -/
theorem exists_hasAt_ne {c c' : Constraint} (ordered : c.TypeOrdered) (ordered' : c'.TypeOrdered)
    (ne : c.id ≠ c'.id) (shared : ¬ SharePlainly c c') :
    ∃ d d' address name found found', declared c = .ok d ∧ declared c' = .ok d' ∧ ¬ Plain name ∧
      HasAt address name found (alone d) ∧ HasAt address name found' (alone d') ∧
      found ≠ found' := by
  simp only [SharePlainly, SharesPlainly, not_forall] at shared
  obtain ⟨d, d', declares, declares', address, a, b, fields, incoming, there, there', typeA, typeB,
    name, member, dotted⟩ := shared
  have has : HasAt address name (Keyed.get? name fields) (alone d) :=
    ⟨a, fields, there, typeA, rfl⟩
  have has' : HasAt address name (Keyed.get? name incoming) (alone d') :=
    ⟨b, incoming, there', typeB, rfl⟩
  refine ⟨d, d', address, name, _, _, declares, declares', dotted, has, has', fun same => ?_⟩
  have present : ∃ x, Keyed.get? name fields = some x := by
    rw [← Option.isSome_iff_exists]
    rcases member with inFields | inIncoming
    · exact Keyed.has_iff.2 inFields
    · rw [same]
      exact Keyed.has_iff.2 inIncoming
  obtain ⟨x, present⟩ := present
  rw [present] at has same
  rw [← same] at has'
  have sources := sources_of_hasAt ordered declares has
  rw [sources_of_hasAt ordered' declares' has'] at sources
  have member : c.id ∈ NameSet.singleton c'.id := by
    rw [sources]
    exact NameSet.mem_singleton.2 rfl
  exact ne (NameSet.mem_singleton.1 member)

/-- Two orders, each with another one of such constraints at its front, do not agree. -/
theorem not_ofDeclarations_both {c c' : Constraint} {rest : List Constraint}
    (ordered : ∀ e ∈ c :: c' :: rest, e.TypeOrdered) (ne : c.id ≠ c'.id)
    (shared : ¬ SharePlainly c c') (h : ofDeclarations (c :: c' :: rest) = .ok s)
    (h' : ofDeclarations (c' :: c :: rest) = .ok s) : False := by
  have swap : (c' :: c :: rest).Perm (c :: c' :: rest) := .swap ..
  obtain ⟨d, d', address, name, found, found', declares, declares', dotted, has, has', differ⟩ :=
    exists_hasAt_ne (ordered c (by simp)) (ordered c' (by simp)) ne shared
  have first := hasAt_of_ofDeclarations dotted ordered declares has h
  have second := hasAt_of_ofDeclarations dotted (fun e member => ordered e (swap.mem_iff.1 member))
    declares' has' h'
  exact differ (first.eq second)

/-! ### Compiling -/

/-- The constraints that a schema enforces. -/
def targeted (l : List Constraint) : List Constraint := l.filter fun c => c.enforcement = .schema

theorem ofConstraints_of_targeted_eq_nil (h : targeted l = []) : ofConstraints l = .ok none := by
  rw [targeted] at h
  simp only [ofConstraints, h]

theorem ofConstraints_eq_ok_iff (h : targeted l ≠ []) {r : Option Schema} :
    ofConstraints l = .ok r ↔ ∃ s, ofDeclarations (targeted l) = .ok s ∧ some s = r := by
  unfold ofConstraints
  split
  · next none_there => exact absurd none_there h
  · rw [Outcome.map_eq_ok_iff]
    rfl

theorem ofConstraints_of_perm (ordered : ∀ c ∈ l, c.TypeOrdered)
    (plain : (targeted l).Pairwise SharePlainly) (perm : l.Perm l') {r : Option Schema}
    (h : ofConstraints l = .ok r) : ofConstraints l' = .ok r := by
  have permTargeted : (targeted l).Perm (targeted l') := perm.filter _
  by_cases none_there : targeted l = []
  · rw [ofConstraints_of_targeted_eq_nil none_there] at h
    rw [none_there] at permTargeted
    rw [ofConstraints_of_targeted_eq_nil permTargeted.nil_eq.symm, h]
  · have some_there : targeted l' ≠ [] := by
      intro none_there'
      rw [none_there'] at permTargeted
      exact none_there permTargeted.eq_nil
    rw [ofConstraints_eq_ok_iff none_there] at h
    rw [ofConstraints_eq_ok_iff some_there]
    obtain ⟨s, compiled, same⟩ := h
    have orderedTargeted : ∀ c ∈ targeted l, c.TypeOrdered :=
      fun c member => ordered c (List.mem_filter.1 member).1
    exact ⟨s, ofDeclarations_of_perm orderedTargeted plain permTargeted compiled, same⟩

/-- The constraints that a schema enforces come in any order for some order of all constraints. -/
theorem exists_perm_targeted {front : List Constraint} (perm : (targeted l).Perm front) :
    ∃ l', l'.Perm l ∧ targeted l' = front := by
  refine ⟨front ++ l.filter fun c => !decide (c.enforcement = .schema), ?_, ?_⟩
  · exact (perm.symm.append_right _).trans (List.filter_append_perm _ l)
  · have inFront : front.filter (fun c => c.enforcement = .schema) = front := by
      refine List.filter_eq_self.2 fun c member => ?_
      exact (List.mem_filter.1 (perm.mem_iff.2 member)).2
    have others : (l.filter fun c => !decide (c.enforcement = .schema)).filter
        (fun c => c.enforcement = .schema) = [] := by
      refine List.filter_eq_nil_iff.2 fun c member => ?_
      simpa using (List.mem_filter.1 member).2
    rw [targeted, List.filter_append, inFront, others, List.append_nil]

theorem sharePlainly_of_orderFree (ordered : ∀ c ∈ l, c.TypeOrdered)
    (distinct : (l.map Constraint.id).Nodup) {r : Option Schema} (h : ofConstraints l = .ok r)
    (free : OrderFree l) : (targeted l).Pairwise SharePlainly := by
  rw [List.pairwise_iff_forall_sublist]
  intro c c' pair
  by_contra shared
  have ne : c.id ≠ c'.id := by
    have ids := distinct.sublist ((pair.trans List.filter_sublist).map Constraint.id)
    simpa using ids
  obtain ⟨rest, perm⟩ := pair.exists_perm_append
  have swapped : (targeted l).Perm (c' :: c :: rest) := perm.trans (.swap ..)
  -- All orders give the same, so the two with these constraints in front give the same schema.
  have declarations : ∀ front, (targeted l).Perm front → front ≠ [] →
      ∃ s, ofDeclarations front = .ok s ∧ some s = r := by
    intro front permFront nonempty
    obtain ⟨l', permAll, rfl⟩ := exists_perm_targeted permFront
    exact (ofConstraints_eq_ok_iff nonempty).1 ((free l' permAll r).2 h)
  obtain ⟨s, first, rfl⟩ := declarations _ perm (by simp)
  obtain ⟨s', second, same⟩ := declarations _ swapped (by simp)
  cases same
  refine not_ofDeclarations_both (fun e member => ?_) ne shared first second
  exact ordered e (List.mem_filter.1 (perm.mem_iff.2 member)).1

/-- If no two constraints share a dotted name, their order makes no difference to compiling them.
This is necessary as well, if the constraints have different names and can be compiled at all. -/
theorem ofConstraints_orderFree (l : List Constraint) (ordered : ∀ c ∈ l, c.TypeOrdered) :
    ((targeted l).Pairwise SharePlainly → OrderFree l) ∧
    ((l.map Constraint.id).Nodup → (∃ l' r, l'.Perm l ∧ ofConstraints l' = .ok r) →
      OrderFree l → (targeted l).Pairwise SharePlainly) := by
  constructor
  · intro plain l' perm r
    have ordered' : ∀ c ∈ l', c.TypeOrdered := fun c member => ordered c (perm.mem_iff.1 member)
    have plain' : (targeted l').Pairwise SharePlainly :=
      ((perm.filter _).pairwise_iff SharePlainly.symm).2 plain
    exact ⟨ofConstraints_of_perm ordered' plain' perm,
      ofConstraints_of_perm ordered plain perm.symm⟩
  · rintro distinct ⟨l', r, perm, compiled⟩ free
    exact sharePlainly_of_orderFree ordered distinct ((free l' perm r).1 compiled) free

/-- Constraints without dotted names in their types share none. -/
theorem sharePlainly_of_namesPlain {c c' : Constraint} (h : c.NamesPlain) (h' : c'.NamesPlain) :
    SharePlainly c c' := by
  intro d d' declares declares' address a b fields incoming there there' typeA typeB name member
  have single : ∀ name, Plain name → ∀ other ∈ [name], Plain other := by simp
  obtain ⟨plain, by_c⟩ := declaredBy_of_declared h single declares
  obtain ⟨plain', by_c'⟩ := declaredBy_of_declared h' single declares'
  rcases member with inFields | inIncoming
  · exact names_of_whole_singleton by_c (single _ plain) there typeA name inFields
  · exact names_of_whole_singleton by_c' (single _ plain') there' typeB name inIncoming

/-- Two constraints that both declare an object, one of them by way of a path into it. -/
def plainNames : List Constraint :=
  [.ofField "amount" .high "billing.amount" .number,
    .ofField "billing" .high "billing"
      (.object [("amount", ⟨.integer, true⟩), ("currency", ⟨.string, false⟩)])]

/-- The one declares a dotted name, and the other the last piece of it with another type. -/
def dottedName : List Constraint :=
  [.ofField "dotted" .high "x" (.object [("a.b", ⟨.string, false⟩)]),
    .ofField "plain" .high "x" (.object [("b", ⟨.number, false⟩)])]

/-- There is a schema for both, but the second has none in the other order. -/
theorem orderFree_plainNames_not_dottedName :
    OrderFree plainNames ∧ (∃ s, ofConstraints dottedName = .ok (some s)) ∧
      ¬ OrderFree dottedName := by
  have ordered : ∀ c ∈ plainNames, c.TypeOrdered := by
    refine List.forall_mem_cons.2 ⟨everyObject_ofField trivial, List.forall_mem_singleton.2 ?_⟩
    exact everyObject_ofField ⟨by decide, trivial, trivial, trivial⟩
  have orderedDotted : ∀ c ∈ dottedName, c.TypeOrdered := by
    refine List.forall_mem_cons.2 ⟨everyObject_ofField ?_, List.forall_mem_singleton.2 ?_⟩
    · exact ⟨List.pairwise_singleton _ _, trivial, trivial⟩
    · exact everyObject_ofField ⟨List.pairwise_singleton _ _, trivial, trivial⟩
  have compiled : ofConstraints dottedName = .ok (some _) := rfl
  refine ⟨(ofConstraints_orderFree plainNames ordered).1 ?_, ⟨_, compiled⟩, fun free => ?_⟩
  · refine List.pairwise_pair.2 (sharePlainly_of_namesPlain (everyObject_ofField trivial) ?_)
    exact everyObject_ofField ⟨by decide, trivial, trivial, trivial⟩
  · have pairs := (ofConstraints_orderFree dottedName orderedDotted).2 (by decide)
      ⟨dottedName, _, .refl _, compiled⟩ free
    have share := List.rel_of_pairwise_cons pairs List.mem_cons_self
    have plain := share _ _ rfl rfl [.field "x"] _ _ _ _ rfl rfl rfl rfl "a.b" (.inl (by decide))
    exact absurd plain (by decide)

end Schema

end GuidedDecoding
