import GuidedDecoding.Keyed
import Mathlib.Data.List.Nodup

/-!
# Look-up and membership in entries sorted by name

In sorted entries a value is filed under a name exactly when the pair is an entry, so what is said
of every entry is said of every look-up. Sorted entries with the same look-ups are the same list.
-/

namespace GuidedDecoding

namespace Keyed

variable {α : Type}

theorem mem_of_get? {name : String} {value : α} {entries : List (String × α)}
    (h : get? name entries = some value) : (name, value) ∈ entries := by
  induction entries with
  | nil => simp [get?] at h
  | cons e rest ih =>
    obtain ⟨k, v⟩ := e
    unfold get? at h
    split at h
    · next same =>
      cases h
      simp [same]
    · exact List.mem_cons_of_mem _ (ih h)

theorem get?_of_mem {name : String} {value : α} {entries : List (String × α)}
    (sorted : Sorted entries) (h : (name, value) ∈ entries) : get? name entries = some value := by
  induction entries with
  | nil => simp at h
  | cons e rest ih =>
    obtain ⟨k, v⟩ := e
    obtain ⟨above, tail⟩ := List.pairwise_cons.1 sorted
    rcases List.mem_cons.1 h with same | later
    · cases same
      simp [get?]
    · have lt : k < name := above name (List.mem_map.2 ⟨_, later, rfl⟩)
      have ne : k ≠ name := by
        rintro rfl
        exact String.lt_irrefl k lt
      simp [get?, ne, ih tail later]

theorem get?_eq_some_iff {name : String} {value : α} {entries : List (String × α)}
    (sorted : Sorted entries) : get? name entries = some value ↔ (name, value) ∈ entries :=
  ⟨mem_of_get?, get?_of_mem sorted⟩

theorem has_iff {name : String} {entries : List (String × α)} :
    has name entries = true ↔ name ∈ names entries := by
  induction entries with
  | nil => simp [has, get?, names]
  | cons e rest ih =>
    obtain ⟨k, v⟩ := e
    by_cases same : k = name
    · simp [has, get?, names, same]
    · have other : ¬ name = k := fun h => same h.symm
      simpa [has, get?, names, same, other] using ih

theorem get?_eq_none_iff {name : String} {entries : List (String × α)} :
    get? name entries = none ↔ ¬ name ∈ names entries := by
  rw [← has_iff, has, Bool.not_eq_true, Option.isSome_eq_false_iff, Option.isNone_iff_eq_none]

theorem mem_names_of_mem {name : String} {value : α} {entries : List (String × α)}
    (h : (name, value) ∈ entries) : name ∈ names entries :=
  List.mem_map.2 ⟨_, h, rfl⟩

theorem mem_names_of_get? {name : String} {value : α} {entries : List (String × α)}
    (h : get? name entries = some value) : name ∈ names entries :=
  mem_names_of_mem (mem_of_get? h)

theorem get?_cons (name other : String) (value : α) (entries : List (String × α)) :
    get? other ((name, value) :: entries) =
      if name = other then some value else get? other entries := rfl

theorem nodup_names {entries : List (String × α)} (sorted : Sorted entries) :
    (names entries).Nodup := by
  apply List.Pairwise.imp _ sorted
  rintro a b lt rfl
  exact String.lt_irrefl a lt

theorem mem_of_mem_insert {name : String} {value : α} {entries : List (String × α)}
    {e : String × α} (h : e ∈ insert name value entries) : e = (name, value) ∨ e ∈ entries := by
  induction entries with
  | nil =>
    rw [insert, List.mem_singleton] at h
    exact .inl h
  | cons first rest ih =>
    obtain ⟨k, v⟩ := first
    unfold insert at h
    split at h
    · exact List.mem_cons.1 h
    · split at h
      · rcases List.mem_cons.1 h with here | later
        · exact .inl here
        · exact .inr (List.mem_cons_of_mem _ later)
      · rcases List.mem_cons.1 h with here | later
        · exact .inr (here ▸ List.mem_cons_self)
        · rcases ih later with new | old
          · exact .inl new
          · exact .inr (List.mem_cons_of_mem _ old)

/-- Filing a value adds what it has, if it has what the value had that it takes the place of. -/
theorem exists_mem_insert_iff {p : α → Prop} {name : String} {value : α}
    {entries : List (String × α)} (keeps : ∀ old, get? name entries = some old → p old → p value) :
    (∃ e ∈ insert name value entries, p e.2) ↔ p value ∨ ∃ e ∈ entries, p e.2 := by
  induction entries with
  | nil => simp [insert]
  | cons first rest ih =>
    obtain ⟨k, v⟩ := first
    rw [get?_cons] at keeps
    unfold insert
    split
    · simp
    · split
      · next same =>
        subst same
        have kept : p v → p value := keeps v (if_pos rfl)
        simp only [List.mem_cons, exists_eq_or_imp]
        tauto
      · next other =>
        rw [if_neg (Ne.symm other)] at keeps
        simp only [List.mem_cons, exists_eq_or_imp, ih keeps, or_left_comm]

theorem mem_of_mem_ofList {entries : List (String × α)} {e : String × α} (h : e ∈ ofList entries) :
    e ∈ entries := by
  have filed : ∀ (l acc : List (String × α)),
      e ∈ l.foldl (fun filed e => insert e.1 e.2 filed) acc → e ∈ acc ∨ e ∈ l := by
    intro l
    induction l with
    | nil => exact fun _ member => .inl member
    | cons first rest ih =>
      intro acc member
      rcases ih _ member with before | later
      · rcases mem_of_mem_insert before with here | old
        · exact .inr (here ▸ List.mem_cons_self)
        · exact .inl old
      · exact .inr (List.mem_cons_of_mem _ later)
  rcases filed entries [] h with none_yet | member
  · exact absurd none_yet List.not_mem_nil
  · exact member

/-- Searching sorted entries finds the one with the smallest name. -/
theorem find?_eq_some_iff {p : String × α → Bool} {entries : List (String × α)}
    (sorted : Sorted entries) {e : String × α} :
    entries.find? p = some e ↔
      e ∈ entries ∧ p e = true ∧ ∀ o ∈ entries, p o = true → e.1 ≤ o.1 := by
  induction entries with
  | nil => simp
  | cons first rest ih =>
    obtain ⟨above, tail⟩ := List.pairwise_cons.1 sorted
    have after : ∀ o ∈ rest, first.1 < o.1 := fun o later =>
      above o.1 (List.mem_map.2 ⟨o, later, rfl⟩)
    by_cases here : p first = true
    · rw [List.find?_cons_of_pos here, Option.some.injEq]
      constructor
      · rintro rfl
        refine ⟨List.mem_cons_self, here, fun o listed _ => ?_⟩
        rcases List.mem_cons.1 listed with rfl | later
        · exact Std.le_refl _
        · exact Std.le_of_lt (after o later)
      · rintro ⟨listed, -, least⟩
        rcases List.mem_cons.1 listed with rfl | later
        · rfl
        · exact absurd (after e later) (String.not_lt.2 (least first List.mem_cons_self here))
    · rw [List.find?_cons_of_neg here, ih tail]
      constructor
      · rintro ⟨later, holds, least⟩
        refine ⟨List.mem_cons_of_mem _ later, holds, fun o listed holds' => ?_⟩
        rcases List.mem_cons.1 listed with rfl | later'
        · exact absurd holds' here
        · exact least o later' holds'
      · rintro ⟨listed, holds, least⟩
        rcases List.mem_cons.1 listed with rfl | later
        · exact absurd holds here
        · exact ⟨later, holds, fun o later' => least o (List.mem_cons_of_mem _ later')⟩

/-- Sorted entries are in one order only. -/
theorem eq_of_perm {entries others : List (String × α)} (sorted : Sorted entries)
    (sorted' : Sorted others) (perm : entries.Perm others) : entries = others := by
  refine perm.eq_of_pairwise ?_ (List.pairwise_map.1 sorted) (List.pairwise_map.1 sorted')
  intro a b _ _ lt gt
  exact absurd (String.lt_trans lt gt) (String.lt_irrefl _)

/-- Sorted entries with the same look-ups are the same. -/
theorem ext_get? {entries others : List (String × α)} (sorted : Sorted entries)
    (sorted' : Sorted others) (same : ∀ name, get? name entries = get? name others) :
    entries = others := by
  have members : ∀ e, e ∈ entries ↔ e ∈ others := by
    intro e
    rw [← get?_eq_some_iff sorted, ← get?_eq_some_iff sorted', same]
  have nodup : entries.Nodup := List.Nodup.of_map Prod.fst (nodup_names sorted)
  have nodup' : others.Nodup := List.Nodup.of_map Prod.fst (nodup_names sorted')
  exact eq_of_perm sorted sorted' ((List.perm_ext_iff_of_nodup nodup nodup').2 members)

end Keyed

end GuidedDecoding
