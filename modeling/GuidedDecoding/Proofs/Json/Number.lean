import GuidedDecoding.Json.Number
import GuidedDecoding.Proofs.Decimal.Double
import GuidedDecoding.Proofs.Decimal.Shortest
import GuidedDecoding.Proofs.Json.Text

/-!
# Doubles in documents

A finite double is written with a decimal that rounds to it, so finite doubles with one written form
are the same (`Json.ofDouble_inj`). What is not a finite number is written as `null`.
-/

namespace GuidedDecoding

theorem digitsValue_eq (digits : List Char) :
    digitsValue digits = Nat.ofDigitChars 10 digits 0 := by
  simp only [digitsValue, Nat.ofDigitChars_eq_foldl, Nat.mul_comm]

theorem digitsValue_toDigits (n : Nat) : digitsValue (Nat.toDigits 10 n) = n := by
  rw [digitsValue_eq, Nat.ofDigitChars_ten_toDigits]

theorem digitsValue_append_zeros (digits : List Char) (k : Nat) :
    digitsValue (digits ++ List.replicate k '0') = digitsValue digits * 10 ^ k := by
  rw [digitsValue_eq, digitsValue_eq, Nat.ofDigitChars_append, Nat.ofDigitChars_replicate_zero,
    Nat.mul_comm]

theorem digitsValue_zeros_append (digits : List Char) (k : Nat) :
    digitsValue (List.replicate k '0' ++ digits) = digitsValue digits := by
  rw [digitsValue_eq, digitsValue_eq, Nat.ofDigitChars_append, Nat.ofDigitChars_replicate_zero,
    Nat.mul_zero]

namespace Numeral

/-- The digits after the point. -/
def places (n : Numeral) : List Char := n.fraction.getD []

/-- The power of ten that the exponent stands for. -/
def power (n : Numeral) : Int :=
  match n.exponent with
  | none => 0
  | some (minus, digits) => if minus then -digitsValue digits else digitsValue digits

/-- The number that a numeral stands for, without its sign. -/
def size (n : Numeral) : ℚ :=
  digitsValue (n.whole ++ n.places) * 10 ^ (n.power - n.places.length)

/-- The digits around the point stand for the decimal. -/
theorem positional_value (d : Decimal) :
    (digitsValue (d.positional.1 ++ d.positional.2) : ℚ) * 10 ^ (-d.positional.2.length : Int) =
      d.value := by
  simp only [Decimal.positional]
  split
  · next whole =>
    have power : ((10 ^ d.exponent.toNat : Nat) : ℚ) = 10 ^ d.exponent := by
      rw [Nat.cast_pow, ← zpow_natCast, Int.toNat_of_nonneg whole]
      rfl
    rw [List.append_nil, digitsValue_append_zeros, digitsValue_toDigits, Nat.cast_mul, power]
    simp [Decimal.value]
  · next parts =>
    have power : (-((-d.exponent).toNat : Int)) = d.exponent := by omega
    split
    · next inside =>
      have count : ((Nat.toDigits 10 d.significand).drop
          ((Nat.toDigits 10 d.significand).length - (-d.exponent).toNat)).length =
            (-d.exponent).toNat := by
        rw [List.length_drop]
        omega
      rw [List.take_append_drop, count, digitsValue_toDigits, power, Decimal.value]
    · next before =>
      have count :
          (List.replicate ((-d.exponent).toNat - (Nat.toDigits 10 d.significand).length) '0'
            ++ Nat.toDigits 10 d.significand).length = (-d.exponent).toNat := by
        rw [List.length_append, List.length_replicate]
        omega
      have digits : digitsValue (['0'] ++
          (List.replicate ((-d.exponent).toNat - (Nat.toDigits 10 d.significand).length) '0'
            ++ Nat.toDigits 10 d.significand)) = d.significand := by
        rw [← List.append_assoc, ← List.replicate_one, List.replicate_append_replicate,
          digitsValue_zeros_append, digitsValue_toDigits]
      rw [digits, count, power, Decimal.value]

/-- A numeral with one digit before the point and with an exponent. -/
theorem size_scientific (negative : Bool) (digits : List Char) (exponent : Int) :
    size ⟨negative, digits.take 1, if (digits.drop 1).isEmpty then none else some (digits.drop 1),
        some (exponent < 0, Nat.toDigits 10 exponent.natAbs)⟩ =
      digitsValue digits * 10 ^ (exponent - (digits.length - 1 : Nat)) := by
  have places : (if (digits.drop 1).isEmpty then none else some (digits.drop 1) :
      Option (List Char)).getD [] = digits.drop 1 := by
    split
    · next none_left => exact (List.isEmpty_iff.1 none_left).symm
    · rfl
  have power : (if decide (exponent < 0) = true then
        -(digitsValue (Nat.toDigits 10 exponent.natAbs) : Int)
      else digitsValue (Nat.toDigits 10 exponent.natAbs)) = exponent := by
    rw [digitsValue_toDigits]
    simp only [decide_eq_true_eq]
    split <;> omega
  simp only [size, Numeral.places, Numeral.power, places, power, List.take_append_drop,
    List.length_drop]

/-- The numeral of a decimal stands for the decimal. -/
theorem size_ofDecimal (negative : Bool) (d : Decimal) : (ofDecimal negative d).size = d.value := by
  simp only [ofDecimal]
  split
  · rw [← positional_value]
    simp only [size, places, power, Option.getD_some]
    split
    · next noPlaces =>
      rw [List.isEmpty_iff.1 noPlaces, ← List.replicate_one, digitsValue_append_zeros,
        List.append_nil]
      simp
    · rw [zero_sub]
  · rw [size_scientific, digitsValue_toDigits, Decimal.value, Decimal.magnitude, Dyadic.digitCount]
    have some : 0 < (Nat.toDigits 10 d.significand).length := Nat.length_toDigits_pos
    congr 2
    omega

theorem digit_toDigits {n : Nat} {c : Char} (h : c ∈ Nat.toDigits 10 n) : c.isDigit = true :=
  Nat.isDigit_of_mem_toDigits (by decide) (by decide) h

theorem digit_zeros {n : Nat} {c : Char} (h : c ∈ List.replicate n '0') : c.isDigit = true := by
  rw [List.eq_of_mem_replicate h]
  decide

/-- Both parts of a decimal are digits, with some before the point. -/
theorem positional_digits (d : Decimal) : d.positional.1 ≠ [] ∧
    (∀ c ∈ d.positional.1, c.isDigit = true) ∧ ∀ c ∈ d.positional.2, c.isDigit = true := by
  simp only [Decimal.positional]
  split
  · refine ⟨?_, fun c hc => ?_, nofun⟩
    · simp
    · exact (List.mem_append.1 hc).elim digit_toDigits digit_zeros
  · split
    · next inside =>
      refine ⟨?_, fun c hc => digit_toDigits (List.mem_of_mem_take hc),
        fun c hc => digit_toDigits (List.mem_of_mem_drop hc)⟩
      rw [← List.length_pos_iff, List.length_take]
      omega
    · refine ⟨by simp, fun c hc => ?_, fun c hc => ?_⟩
      · rw [List.mem_singleton.1 hc]
        decide
      · exact (List.mem_append.1 hc).elim digit_zeros digit_toDigits

theorem written_ofDecimal (negative : Bool) (d : Decimal) : (ofDecimal negative d).Written := by
  simp only [ofDecimal]
  split
  · obtain ⟨begins, whole, fraction⟩ := positional_digits d
    refine ⟨begins, whole, ?_, nofun⟩
    intro digits same c hc
    cases same
    split at hc
    · rw [List.mem_singleton.1 hc]
      decide
    · exact fraction c hc
  · refine ⟨?_, fun c hc => digit_toDigits (List.mem_of_mem_take hc), ?_, ?_⟩
    · rw [← List.length_pos_iff, List.length_take]
      have some : 0 < (Nat.toDigits 10 d.significand).length := Nat.length_toDigits_pos
      omega
    · intro digits same c hc
      split at same
      · cases same
      · cases same
        exact digit_toDigits (List.mem_of_mem_drop hc)
    · intro e same c hc
      cases same
      exact digit_toDigits hc

@[simp] theorem negative_ofDecimal (negative : Bool) (d : Decimal) :
    (ofDecimal negative d).negative = negative := by
  simp only [ofDecimal]
  split <;> rfl

end Numeral

namespace Double

/-- The bits of a double, taken apart into its parts. -/
theorem decode_eq (x : Float) :
    BinaryFormat.double.decode (bits x) =
      if biased x = 2047 then if fraction x = 0 then .infinite (negative x) else .nan
      else if biased x = 0 then
        if fraction x = 0 then .zero (negative x)
        else .finite (negative x) ⟨fraction x, -1074, false⟩
      else
        .finite (negative x)
          ⟨2 ^ 52 + fraction x, -1074 + ((biased x : Int) - 1),
            fraction x == 0 && biased x != 1⟩ := by
  simp only [BinaryFormat.decode, BinaryFormat.double, beq_iff_eq]
  rfl

/-- The magnitude of a finite double that is not zero. -/
def magnitude (x : Float) : Dyadic :=
  if biased x = 0 then ⟨fraction x, -1074, false⟩
  else ⟨2 ^ 52 + fraction x, -1074 + ((biased x : Int) - 1), fraction x == 0 && biased x != 1⟩

variable {x y : Float}

theorem decode_of_zero (zero : IsZero x) :
    BinaryFormat.double.decode (bits x) = .zero (negative x) := by
  rw [decode_eq, if_neg (by rw [zero.1]; decide), if_pos zero.1, if_pos zero.2]

theorem decode_of_not_zero (finite : biased x ≠ 2047) (notZero : ¬ IsZero x) :
    BinaryFormat.double.decode (bits x) = .finite (negative x) (magnitude x) := by
  rw [decode_eq, if_neg finite, magnitude]
  split
  · next least => rw [if_neg fun none_left => notZero ⟨least, none_left⟩]
  · rfl

theorem fraction_lt (x : Float) : fraction x < 2 ^ 52 := Nat.mod_lt _ (by decide)

theorem magnitude_ofDouble (notZero : ¬ IsZero x) : (magnitude x).OfDouble := by
  have small := fraction_lt x
  simp only [magnitude]
  split
  · next least =>
    have some_left : fraction x ≠ 0 := fun none_left => notZero ⟨least, none_left⟩
    exact ⟨Nat.pos_of_ne_zero some_left, by simp only; omega, le_rfl, fun more => absurd rfl more,
      by simp⟩
  · next more =>
    refine ⟨by simp only; omega, by simp only; omega, by simp only; omega, fun _ => ?_, ?_⟩
    · exact Nat.le_add_right _ _
    · simp only [Bool.and_eq_true, beq_iff_eq, bne_iff_ne]
      omega

/-- The sign and the magnitude make up a finite double that is not zero. -/
theorem ext_magnitude (sign : negative x = negative y) (magnitudes : magnitude x = magnitude y) :
    x = y := by
  have smallX := fraction_lt x
  have smallY := fraction_lt y
  have parts : biased x = biased y ∧ fraction x = fraction y := by
    simp only [magnitude] at magnitudes
    split at magnitudes <;> split at magnitudes <;>
      simp only [Dyadic.mk.injEq] at magnitudes <;> omega
  exact ext_parts sign parts.1 parts.2

end Double

namespace Json

variable {x y : Float}

theorem ofDouble_of_zero (zero : Double.IsZero x) :
    ofDouble x = .num ⟨Double.negative x, ['0'], some ['0'], none⟩ := by
  rw [ofDouble, show x.toBits.toNat = Double.bits x from rfl, Double.decode_of_zero zero, ofBinary]

theorem ofDouble_of_not_zero (finite : Double.biased x ≠ 2047) (notZero : ¬ Double.IsZero x) :
    ofDouble x =
      .num (.ofDecimal (Double.negative x) ((Double.magnitude x).shortest .toEven)) := by
  rw [ofDouble, show x.toBits.toNat = Double.bits x from rfl,
    Double.decode_of_not_zero finite notZero, ofBinary]

/-- What is not a finite number is written as `null`. -/
theorem ofDouble_eq_null_iff : ofDouble x = .null ↔ Double.biased x = 2047 := by
  by_cases finite : Double.biased x = 2047
  · rw [ofDouble, show x.toBits.toNat = Double.bits x from rfl, Double.decode_eq, if_pos finite]
    split <;> simp [ofBinary, finite]
  · by_cases zero : Double.IsZero x
    · simp [ofDouble_of_zero zero, finite]
    · simp [ofDouble_of_not_zero finite zero, finite]

/-- The written form of a double is a number with digits in their places, or `null`. -/
theorem written_ofDouble (x : Float) : (ofDouble x).Written := by
  by_cases finite : Double.biased x = 2047
  · rw [ofDouble_eq_null_iff.2 finite]
    exact trivial
  · by_cases zero : Double.IsZero x
    · rw [ofDouble_of_zero zero]
      exact ⟨by simp, by simp, by simp, by simp⟩
    · rw [ofDouble_of_not_zero finite zero]
      exact Numeral.written_ofDecimal _ _

/-- The numeral of a finite double has the sign of the double, and stands for zero or for a number
that rounds to the double. -/
theorem exists_numeral (finite : Double.biased x ≠ 2047) :
    ∃ n, ofDouble x = .num n ∧ n.negative = Double.negative x ∧
      (Double.IsZero x → n.size = 0) ∧
      (¬ Double.IsZero x → (Double.magnitude x).Rounds n.size) := by
  by_cases zero : Double.IsZero x
  · refine ⟨_, ofDouble_of_zero zero, rfl, fun _ => ?_, fun notZero => absurd zero notZero⟩
    simp [Numeral.size, Numeral.places, digitsValue]
  · refine ⟨_, ofDouble_of_not_zero finite zero, Numeral.negative_ofDecimal _ _,
      fun isZero => absurd isZero zero, fun _ => ?_⟩
    rw [Numeral.size_ofDecimal]
    exact Dyadic.rounds_shortest (Double.magnitude_ofDouble zero).fits

/-- Finite doubles with one written form are the same. -/
theorem ofDouble_inj (finite : Double.biased x ≠ 2047) (h : ofDouble x = ofDouble y) : x = y := by
  have finite' : Double.biased y ≠ 2047 := by
    rwa [Ne, ← ofDouble_eq_null_iff, ← h, ofDouble_eq_null_iff]
  obtain ⟨n, written, sign, zeroSize, rounds⟩ := exists_numeral finite
  obtain ⟨m, written', sign', zeroSize', rounds'⟩ := exists_numeral finite'
  obtain rfl : n = m := by
    rw [written, written'] at h
    exact Json.num.inj h
  have signs := sign.symm.trans sign'
  have positive : ∀ {z : Float}, ¬ Double.IsZero z → (Double.magnitude z).Rounds n.size →
      n.size ≠ 0 :=
    fun notZero toZ => (toZ.pos (Double.magnitude_ofDouble notZero).pos).ne'
  by_cases zero : Double.IsZero x <;> by_cases zero' : Double.IsZero y
  · exact Double.ext_parts signs (zero.1.trans zero'.1.symm) (zero.2.trans zero'.2.symm)
  · exact absurd (zeroSize zero) (positive zero' (rounds' zero'))
  · exact absurd (zeroSize' zero') (positive zero (rounds zero))
  · exact Double.ext_magnitude signs (Dyadic.eq_of_rounds (Double.magnitude_ofDouble zero)
      (Double.magnitude_ofDouble zero') (rounds zero) (rounds' zero'))

end Json

end GuidedDecoding
