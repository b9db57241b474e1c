import Mathlib.Data.List.Basic

/-!
# Codes that can be read off the front

Things are told by their codes wherever these stand at the front of a text, as long as the text goes
on in a way that does not go on with a code (`ReadOff`). Then lists of things are told by their
codes one after another, and by their codes with a separator between them, if nothing that may
follow a list is taken for one more code.
-/

namespace GuidedDecoding

/-- Characters of a kind end where the first character of another kind stands. -/
theorem run_append_inj {kind : Char → Bool} {a b r r' : List Char}
    (ha : ∀ c ∈ a, kind c = true) (hb : ∀ c ∈ b, kind c = true)
    (hr : ∀ c ∈ r.head?, kind c = false) (hr' : ∀ c ∈ r'.head?, kind c = false)
    (h : a ++ r = b ++ r') : a = b ∧ r = r' := by
  induction a generalizing b with
  | nil =>
    cases b with
    | nil => exact ⟨rfl, h⟩
    | cons d b =>
      subst h
      exact absurd (hb d List.mem_cons_self) (by rw [hr d rfl]; exact Bool.false_ne_true)
  | cons c a ih =>
    cases b with
    | nil =>
      subst h
      exact absurd (ha c List.mem_cons_self) (by rw [hr' c rfl]; exact Bool.false_ne_true)
    | cons d b =>
      obtain ⟨rfl, rest⟩ := List.cons.inj h
      obtain ⟨rfl, same⟩ := ih (fun e he => ha e (List.mem_cons_of_mem _ he))
        (fun e he => hb e (List.mem_cons_of_mem _ he)) rest
      exact ⟨rfl, same⟩

theorem intercalate_cons {α : Type} (separator x : List α) (xs : List (List α)) :
    separator.intercalate (x :: xs) = x ++ xs.flatMap (separator ++ ·) := by
  induction xs generalizing x with
  | nil => simp [List.intercalate]
  | cons y ys ih =>
    have step : separator.intercalate (x :: y :: ys) =
        x ++ (separator ++ separator.intercalate (y :: ys)) := by
      simp [List.intercalate]
    rw [step, ih, List.flatMap_cons, List.append_assoc]

/-- Proper things are told by their codes at the front of texts that go on as they should. -/
def ReadOff {α : Type} (code : α → List Char) (Proper : α → Prop) (Follows : List Char → Prop) :
    Prop :=
  ∀ a b r r', Proper a → Proper b → Follows r → Follows r' → code a ++ r = code b ++ r' →
    a = b ∧ r = r'

namespace ReadOff

variable {α : Type} {code : α → List Char} {Proper : α → Prop} {Follows Stops : List Char → Prop}

/-- Where every code goes on a text as it should, codes before the end of a list do. -/
theorem follows_flatMap (more : ∀ a r, Proper a → Follows (code a ++ r))
    (stops : ∀ r, Stops r → Follows r) {l : List α} {r : List Char} (proper : ∀ a ∈ l, Proper a)
    (stop : Stops r) : Follows (l.flatMap code ++ r) := by
  cases l with
  | nil => exact stops r stop
  | cons a l =>
    rw [List.flatMap_cons, List.append_assoc]
    exact more a _ (proper a List.mem_cons_self)

/-- Codes one after another, up to a text that starts with no code. -/
theorem flatMap (one : ReadOff code Proper Follows)
    (more : ∀ a r, Proper a → Follows (code a ++ r)) (stops : ∀ r, Stops r → Follows r)
    (apart : ∀ a r r', Proper a → Stops r' → code a ++ r ≠ r') :
    ReadOff (List.flatMap code) (fun l => ∀ a ∈ l, Proper a) Stops := by
  intro l l' r r' proper proper' stop stop' same
  induction l generalizing l' with
  | nil =>
    cases l' with
    | nil => exact ⟨rfl, same⟩
    | cons b l' =>
      rw [List.flatMap_cons, List.append_assoc] at same
      exact absurd same.symm (apart b _ r (proper' b List.mem_cons_self) stop)
  | cons a l ih =>
    obtain ⟨first, others⟩ := List.forall_mem_cons.1 proper
    cases l' with
    | nil =>
      rw [List.flatMap_cons, List.append_assoc] at same
      exact absurd same (apart a _ r' first stop')
    | cons b l' =>
      obtain ⟨first', others'⟩ := List.forall_mem_cons.1 proper'
      rw [List.flatMap_cons, List.flatMap_cons, List.append_assoc, List.append_assoc] at same
      obtain ⟨rfl, rest⟩ := one a b _ _ first first' (follows_flatMap more stops others stop)
        (follows_flatMap more stops others' stop') same
      obtain ⟨rfl, rfl⟩ := ih l' others others' rest
      exact ⟨rfl, rfl⟩

/-- Codes with a separator between them. -/
theorem intercalate {separator : List Char} (one : ReadOff code Proper Follows)
    (more : ∀ r, Follows (separator ++ r)) (stops : ∀ r, Stops r → Follows r)
    (apart : ∀ a r r', Proper a → Stops r' → separator ++ (code a ++ r) ≠ r') :
    ReadOff (fun l => separator.intercalate (l.map code)) (fun l => l ≠ [] ∧ ∀ a ∈ l, Proper a)
      Stops := by
  -- all codes but the first stand behind a separator
  have behind : ReadOff (fun a => separator ++ code a) Proper Follows := by
    intro a b r r' proper proper' follows follows' same
    rw [List.append_assoc, List.append_assoc] at same
    exact one a b r r' proper proper' follows follows' (List.append_cancel_left same)
  have more (a : α) (r : List Char) (_ : Proper a) : Follows (separator ++ code a ++ r) := by
    rw [List.append_assoc]
    exact more _
  have apart (a : α) (r r' : List Char) (proper : Proper a) (stop : Stops r') :
      separator ++ code a ++ r ≠ r' := by
    rw [List.append_assoc]
    exact apart a r r' proper stop
  rintro (_ | ⟨a, l⟩) (_ | ⟨b, l'⟩) r r' ⟨some, proper⟩ ⟨some', proper'⟩ stop stop' same
  · exact absurd rfl some
  · exact absurd rfl some
  · exact absurd rfl some'
  · obtain ⟨first, others⟩ := List.forall_mem_cons.1 proper
    obtain ⟨first', others'⟩ := List.forall_mem_cons.1 proper'
    simp only [List.map_cons, intercalate_cons, List.flatMap_map, List.append_assoc] at same
    obtain ⟨rfl, rest⟩ := one a b _ _ first first' (follows_flatMap more stops others stop)
      (follows_flatMap more stops others' stop') same
    obtain ⟨rfl, rfl⟩ := behind.flatMap more stops apart l l' r r' others others' stop stop' rest
    exact ⟨rfl, rfl⟩

end ReadOff

end GuidedDecoding
