import GuidedDecoding.Fingerprint
import Mathlib.Data.List.Basic

/-!
# Bytes of texts and digits of fingerprints

A text can be read off its bytes, and a fingerprint off its digits.
-/

namespace GuidedDecoding

namespace Fingerprint

theorem utf8_inj {s t : String} (h : utf8 s = utf8 t) : s = t := by
  refine String.toByteArray_inj.1 (ByteArray.ext ?_)
  exact Array.toList_inj.1 h

/-- Where the bytes of a text start the bytes of another, the text starts the other. -/
theorem prefix_of_utf8_append_eq {s t : String} {bytes : List UInt8}
    (h : utf8 s ++ bytes = utf8 t) : s.toList <+: t.toList := by
  refine List.isPrefix_of_utf8Encode_append_eq_utf8Encode ⟨bytes.toArray⟩ ?_
  rw [String.utf8Encode_toList, String.utf8Encode_toList]
  refine ByteArray.ext (Array.toList_inj.1 ?_)
  rw [ByteArray.data_append, Array.toList_append]
  exact h

theorem prefix_or_prefix_of_utf8 {s t : String} {r r' : List UInt8}
    (h : utf8 s ++ r = utf8 t ++ r') : s.toList <+: t.toList ∨ t.toList <+: s.toList := by
  rcases List.prefix_or_prefix_of_prefix (List.prefix_append (utf8 s) r)
    (h ▸ List.prefix_append (utf8 t) r') with ⟨more, same⟩ | ⟨more, same⟩
  · exact .inl (prefix_of_utf8_append_eq same)
  · exact .inr (prefix_of_utf8_append_eq same)

theorem length_lengthBytes (n : Nat) : (lengthBytes n).length = 8 := by
  rw [lengthBytes, List.length_map, List.length_range]

theorem digitChar_inj : ∀ a < 16, ∀ b < 16, Nat.digitChar a = Nat.digitChar b → a = b := by decide

theorem hexDigit_eq_iff {a b : Nat} : Json.hexDigit a = Json.hexDigit b ↔ a % 16 = b % 16 := by
  constructor
  · exact digitChar_inj _ (Nat.mod_lt _ (by decide)) _ (Nat.mod_lt _ (by decide))
  · intro same
    rw [Json.hexDigit, Json.hexDigit, same]

/-- Two digits determine a byte. -/
theorem byteDigits_inj {a b : UInt8} (h : byteDigits a = byteDigits b) : a = b := by
  simp only [byteDigits, List.cons.injEq, hexDigit_eq_iff, and_true] at h
  have ha := a.toNat_lt
  have hb := b.toNat_lt
  exact UInt8.toNat_inj.1 (by omega)

theorem flatMap_byteDigits_inj : ∀ {l l' : List UInt8},
    l.flatMap byteDigits = l'.flatMap byteDigits → l = l'
  | [], [], _ => rfl
  | [], _ :: _, h => by simp [byteDigits] at h
  | _ :: _, [], h => by simp [byteDigits] at h
  | a :: l, b :: l', h => by
    rw [List.flatMap_cons, List.flatMap_cons] at h
    obtain ⟨first, rest⟩ := List.append_inj h rfl
    rw [byteDigits_inj first, flatMap_byteDigits_inj rest]

theorem hex_inj {f g : Fingerprint} (h : f.hex = g.hex) : f = g := by
  have bytes := flatMap_byteDigits_inj (String.ofList_injective h)
  cases f
  cases g
  simpa using bytes

@[simp] theorem toJson_inj {f g : Fingerprint} : f.toJson = g.toJson ↔ f = g :=
  ⟨fun h => hex_inj (Json.str.inj h), congrArg toJson⟩

theorem ofContent_eq_iff {content content' : List UInt8} :
    ofContent content = ofContent content' ↔ Blake3.hash content = Blake3.hash content' := by
  simp [ofContent]

end Fingerprint

end GuidedDecoding
