import GuidedDecoding.Proofs.Schema.Merge

/-!
# Merging two fields, at all levels

Two fields that share objects with plain names only are united by merging them, and they can be
merged exactly when their types agree at every address. Which path they are merged at makes no
difference to that.
-/

namespace GuidedDecoding

namespace SchemaType

/-- Some type narrows both. -/
def Agree (kind other : String) : Prop := ∃ common, Narrows common kind ∧ Narrows common other

/-- Only numbers and integers agree without being the same. -/
theorem Agree.eq {kind other : String} (h : Agree kind other) (noNumber : other ≠ "number")
    (noInteger : other ≠ "integer") : kind = other := by
  obtain ⟨common, narrows, same | ⟨-, number⟩⟩ := h
  · subst same
    rcases narrows with same | ⟨integer, -⟩
    · exact same.symm
    · exact absurd integer noInteger
  · exact absurd number noNumber

/-- A type without others inside it is told by its name. -/
theorem eq_of_name_eq {t u : SchemaType} (leaf : u.name ≠ "array" ∧ u.name ≠ "object")
    (same : t.name = u.name) : t = u := by
  cases t <;> cases u <;> simp_all [name]

end SchemaType

namespace SchemaSlot

open FieldPath (Plain)

/-- Where both fields have an object, all names in the two objects are plain. -/
def SharesPlainly (x y : SchemaField) : Prop :=
  ∀ address a b fields incoming, x.at? address = some a → y.at? address = some b →
    a.type = .object fields → b.type = .object incoming →
    ∀ name, name ∈ Keyed.names fields ∨ name ∈ Keyed.names incoming → Plain name

variable {x y : SchemaField}

theorem SharesPlainly.symm (h : SharesPlainly x y) : SharesPlainly y x := by
  intro address b a incoming fields atY atX typeY typeX name member
  exact h address a b fields incoming atX atY typeX typeY name member.symm

theorem SharesPlainly.inner {step : Step} {x' y' : SchemaField} (h : SharesPlainly x y)
    (inX : x.inner? step = some x') (inY : y.inner? step = some y') : SharesPlainly x' y' := by
  intro address a b fields incoming atX atY
  refine h (step :: address) a b fields incoming ?_ ?_
  · rw [at?_cons, inX]
    exact atX
  · rw [at?_cons, inY]
    exact atY

theorem found_pair {address : List Step} :
    found [x, y] address = (x.at? address).toList ++ (y.at? address).toList := by
  rw [found_cons, found_cons]
  simp [found]

/-- Wherever two of the parts have something, their types agree. -/
def Agreeing (parts : List SchemaField) : Prop :=
  ∀ address, ∀ x ∈ found parts address, ∀ y ∈ found parts address,
    SchemaType.Agree x.type.name y.type.name

theorem Agreeing.mono {parts others : List SchemaField} (h : Agreeing others)
    (among : parts ⊆ others) : Agreeing parts := by
  have found_mono : ∀ address, found parts address ⊆ found others address :=
    fun address => List.filterMap_subset _ among
  exact fun address x inX y inY => h address x (found_mono _ inX) y (found_mono _ inY)

/-- What is united agrees, since the type of the whole narrows the types of all parts. -/
theorem Unites.agreeing {parts : List SchemaField} {united : SchemaField}
    (h : Unites parts united) : Agreeing parts := by
  intro address a inA b inB
  obtain ⟨slot, -, join⟩ := (h address).exists_of_mem inA
  exact ⟨slot.type.name, join.narrows a inA, join.narrows b inB⟩

end SchemaSlot

namespace Schema

open FieldPath (Plain)
open SchemaSlot (JoinOf Unites Joined found at? at?_cons found_pair SharesPlainly)
open SchemaType (Narrows Agree)

variable {path : String} {x y m : SchemaField}

theorem mergeSlot_eq_ok_iff :
    mergeSlot path x y = .ok m ↔ ∃ merged,
      Merging path x.sources y.sources x.type y.type merged ∧
        m = ⟨merged, x.optional && y.optional, x.sources.union y.sources⟩ := by
  rw [mergeSlot, Outcome.map_eq_ok_iff]
  simp only [mergeType_eq_ok_iff, @eq_comm _ m]

theorem mergeSlot_of_mergeType {sources others : NameSet} {mine theirs merged : SchemaType}
    (h : mergeType path sources others mine theirs = .ok merged) (optional optional' : Bool) :
    mergeSlot path ⟨mine, optional, sources⟩ ⟨theirs, optional', others⟩ =
      .ok ⟨merged, optional && optional', sources.union others⟩ := by
  rw [mergeSlot, h]
  rfl

/-- What is merged has, by itself, the narrower type, and is optional and declared as both say. -/
theorem joinOf_of_mergeSlot (h : mergeSlot path x y = .ok m) : JoinOf [x, y] m := by
  obtain ⟨merged, merging, rfl⟩ := mergeSlot_eq_ok_iff.1 h
  obtain ⟨type, optional, sources⟩ := x
  obtain ⟨type', optional', sources'⟩ := y
  constructor
  · cases merging <;> simp [SchemaType.name]
  · cases merging <;> simp [SchemaType.name, Narrows]
  · simp
  · simp

/-- At each step, what is merged has what the two fields merge to there. -/
theorem meets_of_mergeSlot (h : mergeSlot path x y = .ok m) (ordered : y.Ordered)
    (plain : SharesPlainly x y) (step : Step) :
    Meets (x.inner? step) (y.inner? step) (m.inner? step) := by
  obtain ⟨merged, merging, rfl⟩ := mergeSlot_eq_ok_iff.1 h
  obtain ⟨type, optional, sources⟩ := x
  obtain ⟨type', optional', sources'⟩ := y
  cases merging with
  | @object fields incoming merged done =>
    cases step with
    | field k =>
      have distinct := Keyed.nodup_names (ordered [] _ incoming rfl rfl)
      refine meets_of_mergeFields done distinct (fun name member => ?_) k
      exact plain [] _ _ fields incoming rfl rfl rfl rfl name (.inr member)
    | items => exact .absent
  | array done =>
    cases step with
    | field k => exact .absent
    | items => exact .both (mergeSlot_of_mergeType done optional optional')
  | same leaf =>
    cases type with
    | array => exact absurd rfl leaf.1
    | object => exact absurd rfl leaf.2
    | _ => cases step <;> exact .absent
  | integerToo => cases step <;> exact .absent
  | numberToo => cases step <;> exact .absent

/-- What two fields have behind a step is joined behind it, as soon as it is where both have the
step. -/
theorem Meets.joined {a b c : Option SchemaField} {rest : List Step} (h : Meets a b c)
    (both : ∀ path x y m, a = some x → b = some y → mergeSlot path x y = .ok m →
      Joined (found [x, y] rest) (m.at? rest)) :
    Joined ((a.bind (at? rest)).toList ++ (b.bind (at? rest)).toList) (c.bind (at? rest)) := by
  cases h with
  | absent => rfl
  | mine x => simpa using SchemaSlot.joined_toList (x.at? rest)
  | theirs y => simpa using SchemaSlot.joined_toList (y.at? rest)
  | both merged =>
    rw [Option.bind_some, Option.bind_some, Option.bind_some, ← found_pair]
    exact both _ _ _ _ rfl rfl merged

/-- Merging unites. -/
theorem unites_of_mergeSlot (h : mergeSlot path x y = .ok m) (ordered : y.Ordered)
    (plain : SharesPlainly x y) : Unites [x, y] m := by
  intro address
  induction address generalizing path x y m with
  | nil => exact joinOf_of_mergeSlot h
  | cons step rest ih =>
    rw [found_pair, at?_cons, at?_cons, at?_cons]
    refine (meets_of_mergeSlot h ordered plain step).joined ?_
    intro path' x' y' m' inX inY merged
    exact ih merged (ordered.inner inY) (plain.inner inX inY)

theorem ordered_of_mergeSlot (h : mergeSlot path x y = .ok m) (orderedX : x.Ordered)
    (ordered : y.Ordered) (plain : SharesPlainly x y) : m.Ordered := by
  intro address slot fields atM type
  induction address generalizing path x y m with
  | nil =>
    cases atM
    obtain ⟨merged, merging, rfl⟩ := mergeSlot_eq_ok_iff.1 h
    obtain ⟨mine, _, typeX, -, done⟩ := merging.exists_fields type
    exact sorted_of_mergeFields done (orderedX [] x mine rfl typeX)
  | cons step rest ih =>
    have meets := meets_of_mergeSlot h ordered plain step
    rw [at?_cons, Option.bind_eq_some_iff] at atM
    obtain ⟨m', inM, atM'⟩ := atM
    rw [inM] at meets
    generalize inX : x.inner? step = a at meets
    generalize inY : y.inner? step = b at meets
    cases meets with
    | mine => exact orderedX.inner inX rest slot fields atM' type
    | theirs => exact ordered.inner inY rest slot fields atM' type
    | both merged =>
      exact ih merged (orderedX.inner inX) (ordered.inner inY) (plain.inner inX inY) atM'

/-! ### When types agree -/

/-- Types without others inside them merge as soon as they agree. -/
theorem exists_merging_of_leaf {sources others : NameSet} {mine theirs : SchemaType}
    (leaf : theirs.name ≠ "array" ∧ theirs.name ≠ "object") (agree : Agree mine.name theirs.name) :
    ∃ merged, Merging path sources others mine theirs merged := by
  have equal : mine.name = theirs.name →
      ∃ merged, Merging path sources others mine theirs merged := by
    intro same
    obtain rfl := SchemaType.eq_of_name_eq leaf same
    exact ⟨mine, .same leaf⟩
  obtain ⟨common, sameX | ⟨rfl, numberX⟩, sameY | ⟨integer, numberY⟩⟩ := agree
  · exact equal (sameX.symm.trans sameY)
  · rw [integer] at sameX
    obtain rfl : mine = .integer := SchemaType.eq_of_name_eq (by decide) sameX.symm
    obtain rfl : theirs = .number := SchemaType.eq_of_name_eq (by decide) numberY
    exact ⟨_, .numberToo⟩
  · obtain rfl : mine = .number := SchemaType.eq_of_name_eq (by decide) numberX
    obtain rfl : theirs = .integer := SchemaType.eq_of_name_eq (by decide) sameY.symm
    exact ⟨_, .integerToo⟩
  · exact equal (numberX.trans numberY.symm)

/-- Fields merge if their types agree at every address where both have something. -/
theorem exists_mergeSlot (ordered : y.Ordered) (plain : SharesPlainly x y)
    (agree : ∀ address a b, x.at? address = some a → y.at? address = some b →
      Agree a.type.name b.type.name) : ∃ m, mergeSlot path x y = .ok m := by
  induction y using SchemaSlot.induction generalizing x path with
  | step y ih =>
    have inside : ∀ path step x' y', x.inner? step = some x' → y.inner? step = some y' →
        ∃ m, mergeSlot path x' y' = .ok m := by
      intro path step x' y' inX inY
      refine ih step y' inY (ordered.inner inY) (plain.inner inX inY) ?_
      intro address a b atX atY
      exact agree (step :: address) a b (by rw [at?_cons, inX]; exact atX)
        (by rw [at?_cons, inY]; exact atY)
    have top := agree [] x y rfl rfl
    have merges : ∃ merged, Merging path x.sources y.sources x.type y.type merged := by
      cases typeY : y.type with
      | array incoming =>
        rw [typeY] at top
        have same := top.eq (by simp [SchemaType.name]) (by simp [SchemaType.name])
        obtain ⟨items, typeX⟩ := SchemaType.name_eq_array_iff.1 same
        obtain ⟨m, done⟩ := inside (path ++ "[]") .items _ _
          (SchemaSlot.inner?_items_of_type typeX) (SchemaSlot.inner?_items_of_type typeY)
        obtain ⟨merged, merging, -⟩ := mergeSlot_eq_ok_iff.1 done
        rw [typeX]
        exact ⟨_, .array (mergeType_eq_ok_iff.2 merging)⟩
      | object incoming =>
        rw [typeY] at top
        have same := top.eq (by simp [SchemaType.name]) (by simp [SchemaType.name])
        obtain ⟨fields, typeX⟩ := SchemaType.name_eq_object_iff.1 same
        have distinct := Keyed.nodup_names (ordered [] y incoming rfl typeY)
        have done : ∃ merged, mergeFields path fields incoming = .ok merged := by
          refine exists_mergeFields distinct (fun name member => ?_) fun k x' y' inX inY path => ?_
          · exact plain [] x y fields incoming rfl rfl typeX typeY name (.inr member)
          · rw [← SchemaSlot.inner?_field_of_type typeX] at inX
            rw [← SchemaSlot.inner?_field_of_type typeY] at inY
            exact inside path (.field k) x' y' inX inY
        obtain ⟨merged, done⟩ := done
        rw [typeX]
        exact ⟨_, .object done⟩
      | _ =>
        rw [typeY] at top
        exact exists_merging_of_leaf (by decide) top
    obtain ⟨merged, merging⟩ := merges
    exact ⟨_, mergeSlot_eq_ok_iff.2 ⟨merged, merging, rfl⟩⟩

/-! ### Where fields are merged -/

theorem addField_at {path' : String} {fields filed : List (String × SchemaField)}
    {slot : SchemaField} (place : FieldPath.last path' = FieldPath.last path)
    (each : ∀ x m, mergeSlot path x slot = .ok m → mergeSlot path' x slot = .ok m)
    (h : addField fields path slot = .ok filed) : addField fields path' slot = .ok filed := by
  rw [addField_eq_ok_iff] at h ⊢
  rw [place]
  obtain ⟨merged, filedThere, absent | ⟨mine, present, done⟩⟩ := h
  · exact ⟨merged, filedThere, .inl absent⟩
  · exact ⟨merged, filedThere, .inr ⟨mine, present, each mine merged done⟩⟩

theorem mergeFields_at (path' : String) {fields incoming merged : List (String × SchemaField)}
    (each : ∀ name slot, (name, slot) ∈ incoming → ∀ path path' x m,
      mergeSlot path x slot = .ok m → mergeSlot path' x slot = .ok m)
    (h : mergeFields path fields incoming = .ok merged) :
    mergeFields path' fields incoming = .ok merged := by
  induction incoming generalizing fields with
  | nil => exact h
  | cons e rest ih =>
    obtain ⟨name, slot⟩ := e
    rw [mergeFields_cons, Outcome.bind_eq_ok_iff] at h ⊢
    obtain ⟨filed, first, others⟩ := h
    refine ⟨filed, addField_at ?_ (each name slot List.mem_cons_self _ _) first, ?_⟩
    · rw [FieldPath.last_append, FieldPath.last_append]
    · exact ih (fun name slot member => each name slot (List.mem_cons_of_mem _ member)) others

/-- The path only matters for what is said about an error. -/
theorem mergeSlot_at (path' : String) (ordered : y.Ordered) (h : mergeSlot path x y = .ok m) :
    mergeSlot path' x y = .ok m := by
  induction y using SchemaSlot.induction generalizing path path' x m with
  | step y ih =>
    obtain ⟨merged, merging, rfl⟩ := mergeSlot_eq_ok_iff.1 h
    refine mergeSlot_eq_ok_iff.2 ⟨merged, ?_, rfl⟩
    obtain ⟨type, optional, sources⟩ := x
    obtain ⟨type', optional', sources'⟩ := y
    cases merging with
    | @object fields incoming merged done =>
      refine .object (mergeFields_at path' (fun name slot member path path' x m done => ?_) done)
      have found := Keyed.get?_of_mem (ordered [] _ incoming rfl rfl) member
      have inside : SchemaSlot.inner? (.field name) ⟨.object incoming, optional', sources'⟩ =
          some slot := found
      exact ih (.field name) slot inside path' (ordered.inner inside) done
    | @array items incoming merged done =>
      have inside : SchemaSlot.inner? .items ⟨.array incoming, optional', sources'⟩ =
          some ⟨incoming, optional', sources'⟩ := rfl
      have there := ih .items _ inside (path' ++ "[]") (ordered.inner inside)
        (mergeSlot_of_mergeType done optional optional')
      obtain ⟨merged', merging, same⟩ := mergeSlot_eq_ok_iff.1 there
      cases same
      exact .array (mergeType_eq_ok_iff.2 merging)
    | same leaf => exact .same leaf
    | integerToo => exact .integerToo
    | numberToo => exact .numberToo

/-- A whole object, as a field that says nothing else. -/
def whole (fields : List (String × SchemaField)) : SchemaField := ⟨.object fields, true, ∅⟩

theorem mergeSlot_whole_eq_ok_iff {fields incoming : List (String × SchemaField)} :
    mergeSlot path (whole fields) (whole incoming) = .ok m ↔
      ∃ filed, mergeFields path fields incoming = .ok filed ∧ whole filed = m := by
  simp only [mergeSlot, whole, mergeType, Outcome.map_eq_ok_iff]
  constructor
  · rintro ⟨_, ⟨filed, done, rfl⟩, rfl⟩
    exact ⟨filed, done, rfl⟩
  · rintro ⟨filed, done, rfl⟩
    exact ⟨_, ⟨filed, done, rfl⟩, rfl⟩

/-- Adding a field is merging the object that has nothing else. -/
theorem mergeSlot_whole_singleton {fields : List (String × SchemaField)} {name : String}
    {slot : SchemaField} (ordered : (whole [(name, slot)]).Ordered) :
    mergeSlot "" (whole fields) (whole [(name, slot)]) = .ok m ↔
      ∃ filed, addField fields name slot = .ok filed ∧ whole filed = m := by
  have inside : SchemaSlot.inner? (.field name) (whole [(name, slot)]) = some slot := by
    simp [SchemaSlot.inner?, whole, Keyed.get?]
  have orderedSlot : slot.Ordered := ordered.inner inside
  have place : FieldPath.last ("" ++ "." ++ name) = FieldPath.last name :=
    FieldPath.last_append "" name
  have same (filed : List (String × SchemaField)) :
      mergeFields "" fields [(name, slot)] = .ok filed ↔ addField fields name slot = .ok filed := by
    rw [mergeFields_cons, Outcome.bind_eq_ok_iff]
    constructor
    · rintro ⟨_, first, done⟩
      cases done
      exact addField_at place.symm (fun x m => mergeSlot_at name orderedSlot) first
    · intro first
      exact ⟨filed, addField_at place (fun x m => mergeSlot_at _ orderedSlot) first, rfl⟩
  simp only [mergeSlot_whole_eq_ok_iff, same]

end Schema

end GuidedDecoding
