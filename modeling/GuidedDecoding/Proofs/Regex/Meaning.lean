import GuidedDecoding.Proofs.Regex.Matching
import GuidedDecoding.Proofs.Regex.Reader.Counted
import GuidedDecoding.Regex.Compiled

/-!
# What a text means

The meaning of a text has loops that are proper, since repetitions that are read are. So what the
matcher finds is what the meaning describes.
-/

namespace GuidedDecoding

namespace Regex

theorem Proper.repeated {r : Regex} {least : Nat} {most : Option Nat}
    (room : ∀ m, most = some m → least ≤ m) (proper : r.Proper) :
    (Regex.repeated least most r).Proper := by
  unfold Regex.repeated
  split
  next least' most' same =>
  have room' : ∀ m, most' = some m → least' ≤ m := by
    split at same
    · cases same
      intro m bounded
      cases bounded
      cases most with
      | none => exact Nat.min_le_right _ _
      | some most =>
        have fits : least ≤ most := room most rfl
        simp only [Option.getD_some]
        omega
    · cases same
      exact room
  split
  · trivial
  · split
    · exact proper
    · split
      · split
        · exact proper
        · exact ⟨room', proper⟩
      · exact ⟨room', proper⟩

theorem proper_sequence {l : List Regex} (each : ∀ r ∈ l, r.Proper) : (sequence l).Proper := by
  induction l with
  | nil => trivial
  | cons r rest ih =>
    exact ⟨each r List.mem_cons_self, ih fun s member => each s (List.mem_cons_of_mem r member)⟩

theorem proper_choice {l : List Regex} (each : ∀ r ∈ l, r.Proper) : (choice l).Proper := by
  induction l with
  | nil => trivial
  | cons r rest ih =>
    unfold choice
    split
    · trivial
    · next same =>
      cases same
      exact each _ List.mem_cons_self
    · next same =>
      cases same
      exact ⟨each _ List.mem_cons_self, ih fun s member => each s (List.mem_cons_of_mem _ member)⟩

end Regex

/-- An atom means a condition or a set of characters. -/
theorem Atom.proper_of_meaning? {m : RegexMode} {a : Atom} {r : Regex}
    (h : a.meaning? m = some r) : r.Proper := by
  unfold Atom.meaning? at h
  split at h
  · cases h
    trivial
  · split at h
    · cases h
      trivial
    · cases h
  · split at h
    · cases h
    · cases h
      trivial
  · obtain ⟨s, -, same⟩ := Option.map_eq_some_iff.1 h
    cases same
    trivial

namespace Written

theorem proper_of_meanings? {l : List Written} (each : ∀ w ∈ l, ∀ m r m',
    w.meaning? m = some (r, m') → r.Proper) {m m' : RegexMode} {rs : List Regex}
    (h : meanings? m l = some (rs, m')) : ∀ r ∈ rs, r.Proper := by
  induction l generalizing m rs with
  | nil =>
    cases h
    simp
  | cons w rest ih =>
    unfold meanings? at h
    obtain ⟨⟨r, m₁⟩, first, tail⟩ := Option.bind_eq_some_iff.1 h
    obtain ⟨⟨others, m₂⟩, second, same⟩ := Option.bind_eq_some_iff.1 tail
    cases same
    intro s member
    rcases List.mem_cons.1 member with rfl | later
    · exact each w List.mem_cons_self m _ m₁ first
    · exact ih (fun w later => each w (List.mem_cons_of_mem _ later)) second s later

/-- What is counted means something proper. -/
theorem Counted.proper {w : Written} (counted : w.Counted) : ∀ m r m',
    w.meaning? m = some (r, m') → r.Proper := by
  induction counted with
  | empty =>
    intro m r m' h
    cases h
    trivial
  | flags change =>
    intro m r m' h
    cases h
    trivial
  | atom a =>
    intro m r m' h
    obtain ⟨r', meaning, same⟩ := Option.map_eq_some_iff.1 h
    cases same
    exact Atom.proper_of_meaning? meaning
  | bracketed negated body =>
    intro m r m' h
    obtain ⟨s, -, tail⟩ := Option.bind_eq_some_iff.1 h
    obtain ⟨t, -, same⟩ := Option.bind_eq_some_iff.1 tail
    cases same
    trivial
  | repetition room inner ih =>
    intro m r m' h
    obtain ⟨⟨r', m₁⟩, meaning, same⟩ := Option.bind_eq_some_iff.1 h
    cases same
    exact (ih m r' _ meaning).repeated room
  | group change inner ih =>
    intro m r m' h
    obtain ⟨⟨r', m₁⟩, meaning, same⟩ := Option.bind_eq_some_iff.1 h
    cases same
    exact ih _ _ _ meaning
  | choice each ih =>
    intro m r m' h
    obtain ⟨⟨rs, m₁⟩, meanings, same⟩ := Option.bind_eq_some_iff.1 h
    cases same
    exact Regex.proper_choice (proper_of_meanings? ih meanings)
  | row each ih =>
    intro m r m' h
    obtain ⟨⟨rs, m₁⟩, meanings, same⟩ := Option.bind_eq_some_iff.1 h
    cases same
    exact Regex.proper_sequence (proper_of_meanings? ih meanings)

end Written

namespace Regex

theorem proper_of_ofText? {text : String} {r : Regex} (h : ofText? text = some r) : r.Proper := by
  obtain ⟨w, read, meant⟩ := Option.bind_eq_some_iff.1 h
  obtain ⟨⟨r', m⟩, meaning, rfl⟩ := Option.map_eq_some_iff.1 meant
  exact (Written.counted_of_parse read).proper _ _ _ meaning

end Regex

end GuidedDecoding
