import GuidedDecoding.Decimal.Shortest
import Mathlib

/-!
# The parts of a double

A double is made up of a sign, an exponent and a fraction, and these are numbers in its bits
(`Double.ext_parts`). They tell what the double is: a zero (`Double.isZero_iff`), not a number
(`Double.isNaN_eq_true_iff`), or equal to another one as a number (`Double.beq_iff`).
-/

namespace GuidedDecoding

namespace Double

open Float.Model (Format UnpackedFloat)
open Float.Model.UnpackedFloat

/-- The bits of a double, as a number. -/
def bits (x : Float) : Nat := x.toBits.toNat

/-- The bits of the fraction. -/
def fraction (x : Float) : Nat := bits x % 2 ^ 52

/-- The bits of the exponent. -/
def biased (x : Float) : Nat := bits x / 2 ^ 52 % 2 ^ 11

/-- The bit of the sign. -/
def negative (x : Float) : Bool := bits x / 2 ^ 63 % 2 == 1

/-- One of the two zeros. -/
def IsZero (x : Float) : Prop := biased x = 0 ∧ fraction x = 0

theorem bits_lt (x : Float) : bits x < 2 ^ 64 := x.toBits.toBitVec.isLt

theorem ext_bits {x y : Float} (same : bits x = bits y) : x = y := by
  obtain ⟨⟨u, _⟩⟩ := x
  obtain ⟨⟨v, _⟩⟩ := y
  have words : u = v := UInt64.toNat_inj.1 same
  subst words
  rfl

/-- The three parts make up the double. -/
theorem ext_parts {x y : Float} (sign : negative x = negative y) (exponent : biased x = biased y)
    (rest : fraction x = fraction y) : x = y := by
  apply ext_bits
  have hx := bits_lt x
  have hy := bits_lt y
  have leading : bits x / 2 ^ 63 % 2 = 1 ↔ bits y / 2 ^ 63 % 2 = 1 := by
    simpa [negative] using congrArg (· = true) sign
  unfold biased at exponent
  unfold fraction at rest
  omega

section Parts

variable {b : BitVec Format.binary64.numBits}

theorem toNat_unpackMantissa : (unpackMantissa b).toNat = b.toNat % 2 ^ 52 := by
  simp [unpackMantissa]

theorem toNat_unpackExponent : (unpackExponent b).toNat = b.toNat / 2 ^ 52 % 2 ^ 11 := by
  simp [unpackExponent, Nat.shiftRight_eq_div_pow]

theorem toNat_unpackSign : (unpackSign b).toNat = b.toNat / 2 ^ 63 % 2 := by
  simp [unpackSign, Nat.shiftRight_eq_div_pow]

end Parts

/-- The sign, the biased exponent and the fraction of a double that was taken apart; what is not a
number has none. -/
def parts? : UnpackedFloat → Option (Bool × Nat × Nat)
  | .notANumber => none
  | .infinity s => some (s == .negative, 2047, 0)
  | .zero s => some (s == .negative, 0, 0)
  | .finite s m e _ =>
    if m < 2 ^ 52 then some (s == .negative, 0, m)
    else some (s == .negative, (e + 1075).toNat, m - 2 ^ 52)

theorem ofBitVec_eq_negative {v : BitVec 1} : (Sign.ofBitVec v == .negative) = (v.toNat == 1) := by
  revert v; decide

/-- The bits of a double as a word that can be taken apart. -/
def word (x : Float) : BitVec Format.binary64.numBits := x.toBits.toBitVec

theorem unpack_eq (x : Float) : x.toModel.unpack = unpack .binary64 (word x) := rfl

theorem mantissa_word (x : Float) : (unpackMantissa (word x)).toNat = fraction x :=
  toNat_unpackMantissa

theorem exponent_word (x : Float) : (unpackExponent (word x)).toNat = biased x :=
  toNat_unpackExponent

theorem sign_word (x : Float) :
    (Sign.ofBitVec (unpackSign (word x)) == .negative) = negative x := by
  rw [ofBitVec_eq_negative, toNat_unpackSign]
  rfl

theorem mantissa_eq_zero_iff (x : Float) : unpackMantissa (word x) = 0#_ ↔ fraction x = 0 := by
  rw [← BitVec.toNat_inj, mantissa_word]
  rfl

theorem exponent_eq_zero_iff (x : Float) : unpackExponent (word x) = 0#_ ↔ biased x = 0 := by
  rw [← BitVec.toNat_inj, exponent_word]
  rfl

theorem exponent_eq_full_iff (x : Float) : unpackExponent (word x) = -1#_ ↔ biased x = 2047 := by
  rw [← BitVec.toNat_inj, exponent_word]
  rfl

/-- Taking a double apart loses nothing but the bits of what is not a number. -/
theorem parts?_unpack (x : Float) :
    parts? x.toModel.unpack =
      if biased x = 2047 ∧ fraction x ≠ 0 then none
      else some (negative x, biased x, fraction x) := by
  have small : fraction x < 2 ^ 52 := Nat.mod_lt _ (by decide)
  have bias : (Format.binary64.exponentBias : Int) = 1023 := rfl
  simp only [unpack_eq, unpack]
  split
  · next h =>
    have full := (exponent_eq_full_iff x).1 h
    split
    · next h =>
      have none_left := (mantissa_eq_zero_iff x).1 h
      simp [parts?, full, none_left, sign_word]
    · next h =>
      have some_left := mt (mantissa_eq_zero_iff x).2 h
      simp [parts?, full, some_left]
  · next h =>
    have notFull := mt (exponent_eq_full_iff x).2 h
    split
    · next h =>
      have least := (exponent_eq_zero_iff x).1 h
      split
      · next h =>
        have none_left := (mantissa_eq_zero_iff x).1 h
        simp [parts?, least, none_left, sign_word]
      · have noLeading : (unpackMantissa (word x)).toNat < 2 ^ 52 := by
          rw [mantissa_word]
          exact small
        rw [parts?, if_pos noLeading, mantissa_word, sign_word]
        simp [least]
    · have leading : (1#1 ++ unpackMantissa (word x)).toNat = 2 ^ 52 + fraction x := by
        rw [BitVec.toNat_append, mantissa_word]
        exact (Nat.shiftLeft_add_eq_or_of_lt small 1).symm
      simp [parts?, notFull, leading, sign_word, exponent_word, bias]

theorem isZero_iff {x : Float} : IsZero x ↔ ∃ s, x.toModel.unpack = .zero s := by
  constructor
  · rintro ⟨least, none_left⟩
    refine ⟨Sign.ofBitVec (unpackSign (word x)), ?_⟩
    rw [unpack_eq, unpack]
    simp only [(exponent_eq_zero_iff x).2 least, (mantissa_eq_zero_iff x).2 none_left]
    rfl
  · rintro ⟨s, zero⟩
    have parts := parts?_unpack x
    rw [zero, parts?] at parts
    split at parts
    · cases parts
    · simp only [Option.some.injEq, Prod.mk.injEq] at parts
      exact ⟨parts.2.1.symm, parts.2.2.symm⟩

theorem isNaN_eq_true_iff {x : Float} : x.isNaN = true ↔ biased x = 2047 ∧ fraction x ≠ 0 := by
  have unpacked : x.isNaN = true ↔ parts? x.toModel.unpack = none := by
    change x.toModel.unpack.isNaN = true ↔ _
    cases x.toModel.unpack with
    | notANumber => simp [UnpackedFloat.isNaN, parts?]
    | infinity s => simp [UnpackedFloat.isNaN, parts?]
    | zero s => simp [UnpackedFloat.isNaN, parts?]
    | finite s m e _ =>
      simp only [UnpackedFloat.isNaN, parts?]
      split <;> simp
  rw [unpacked, parts?_unpack]
  split
  · next h => simpa using h
  · next h => simpa using h

/-- Equal as numbers are the same numbers and zeros of either sign. -/
theorem compare_eq_some_eq_iff {a b : UnpackedFloat} :
    a.compare b = some .eq ↔
      (a = b ∧ a ≠ .notANumber) ∨ ∃ s t, a = .zero s ∧ b = .zero t := by
  have then_eq : ∀ {e₁ e₂ : Int} {m₁ m₂ : Nat},
      (compare e₁ e₂).then (compare m₁ m₂) = .eq ↔ m₁ = m₂ ∧ e₁ = e₂ := by
    intro e₁ e₂ m₁ m₂
    rw [Ordering.then_eq_eq, Int.compare_eq_eq, Nat.compare_eq_eq, and_comm]
  have swapped : ∀ o : Ordering, o.swap = .eq ↔ o = .eq := by decide
  have below : compare Sign.negative Sign.positive = .lt := rfl
  have above : compare Sign.positive Sign.negative = .gt := rfl
  have alike : ∀ s : Sign, compare s s = .eq := by
    intro s
    cases s <;> rfl
  -- The table of the comparison asks for both kinds and both signs.
  rcases a with (_ | _) | _ | (_ | _) | ⟨_ | _, m, e, _⟩ <;>
    rcases b with (_ | _) | _ | (_ | _) | ⟨_ | _, m', e', _⟩ <;>
    simp [UnpackedFloat.compare, then_eq, swapped, below, above, alike]

/-- Doubles are equal as numbers when they are the same number, or zeros of either sign. -/
theorem beq_iff {x y : Float} :
    (x == y) = true ↔ (x = y ∧ x.isNaN = false) ∨ (IsZero x ∧ IsZero y) := by
  have compared : (x == y) = (x.toModel.unpack.compare y.toModel.unpack == some .eq) := rfl
  have number : x.toModel.unpack ≠ .notANumber ↔ x.isNaN = false := by
    change _ ↔ x.toModel.unpack.isNaN = false
    cases x.toModel.unpack <;> simp [UnpackedFloat.isNaN]
  rw [compared, beq_iff_eq, compare_eq_some_eq_iff, number, isZero_iff, isZero_iff]
  constructor
  · rintro (⟨same, isNumber⟩ | ⟨s, t, hx, hy⟩)
    · have parts := congrArg parts? same
      have finite : ¬(biased x = 2047 ∧ fraction x ≠ 0) := by
        rw [← isNaN_eq_true_iff, isNumber]
        exact Bool.false_ne_true
      rw [parts?_unpack, parts?_unpack, if_neg finite] at parts
      split at parts
      · cases parts
      · simp only [Option.some.injEq, Prod.mk.injEq] at parts
        exact .inl ⟨ext_parts parts.1 parts.2.1 parts.2.2, isNumber⟩
    · exact .inr ⟨⟨s, hx⟩, ⟨t, hy⟩⟩
  · rintro (⟨rfl, isNumber⟩ | ⟨⟨s, hx⟩, ⟨t, hy⟩⟩)
    · exact .inl ⟨rfl, isNumber⟩
    · exact .inr ⟨s, t, hx, hy⟩

theorem unpack_of_full {x : Float} (full : biased x = 2047) :
    x.toModel.unpack = .notANumber ∨ ∃ s, x.toModel.unpack = .infinity s := by
  rw [unpack_eq, unpack]
  simp only [(exponent_eq_full_iff x).2 full, if_true]
  split
  · exact .inr ⟨_, rfl⟩
  · exact .inl rfl

/-- What lies between two finite doubles is finite. -/
theorem biased_ne_of_le_of_le {x : Float} (low : 0.0 ≤ x) (high : x ≤ 1.0) : biased x ≠ 2047 := by
  intro full
  have zero : (0.0 : Float).toModel.unpack = .zero .positive := by rfl
  have one : (1.0 : Float).toModel.unpack = .finite .positive (2 ^ 52) (-52) (by decide) := by rfl
  have low : ((0.0 : Float).toModel.unpack.compare x.toModel.unpack).any (·.isLE) = true :=
    of_decide_eq_true low
  have high : (x.toModel.unpack.compare (1.0 : Float).toModel.unpack).any (·.isLE) = true :=
    of_decide_eq_true high
  rw [zero] at low
  rw [one] at high
  rcases unpack_of_full full with none_at_all | ⟨_ | _, infinite⟩
  · rw [none_at_all] at low
    exact absurd low Bool.false_ne_true
  · rw [infinite] at low
    exact absurd low Bool.false_ne_true
  · rw [infinite] at high
    exact absurd high Bool.false_ne_true

end Double

end GuidedDecoding
