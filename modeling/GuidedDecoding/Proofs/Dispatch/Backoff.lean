import GuidedDecoding.Dispatch.Retry
import Mathlib.Algebra.Order.Ring.Nat

/-!
# How long the waits between attempts are

The waits grow from attempt to attempt, never exceed the ceiling, and chance takes at most one half
off them (`RetryPolicy.backoff_exact`). They are what doubling without end gives, cut off at the
ceiling, as long as the ceiling is reached within 31 doublings. After these a wait stays as it is,
so a policy that starts low and has a high ceiling never comes up to it.
-/

namespace GuidedDecoding

namespace RetryPolicy

variable {p : RetryPolicy} {attempt earlier later draw : Nat}

/-- The wait after an attempt if waits double without end, up to the ceiling. -/
def doubled (p : RetryPolicy) (attempt : Nat) : Nat :=
  min (p.initialBackoff * 2 ^ (attempt - 1)) p.maxBackoff

/-- A ceiling that is a length of time hides where lengths of time end. -/
theorem baseDelay_eq (fits : p.maxBackoff ≤ Duration.longest) (attempt : Nat) :
    p.baseDelay attempt =
      min (p.initialBackoff * 2 ^ min (attempt - 1) maxDoublings) p.maxBackoff := by
  rw [baseDelay, Nat.one_shiftLeft, Nat.min_assoc, Nat.min_eq_right fits]

theorem baseDelay_le_maxBackoff (p : RetryPolicy) (attempt : Nat) :
    p.baseDelay attempt ≤ p.maxBackoff :=
  Nat.min_le_right _ _

theorem baseDelay_mono (le : earlier ≤ later) : p.baseDelay earlier ≤ p.baseDelay later := by
  have exponents : min (earlier - 1) maxDoublings ≤ min (later - 1) maxDoublings := by omega
  have powers : 2 ^ min (earlier - 1) maxDoublings ≤ 2 ^ min (later - 1) maxDoublings :=
    Nat.pow_le_pow_right Nat.zero_lt_two exponents
  have products := Nat.mul_le_mul_left p.initialBackoff powers
  simp only [baseDelay, Nat.one_shiftLeft]
  omega

theorem baseDelay_eq_doubled (fits : p.maxBackoff ≤ Duration.longest)
    (few : attempt ≤ maxDoublings + 1) : p.baseDelay attempt = p.doubled attempt := by
  have exponent : min (attempt - 1) maxDoublings = attempt - 1 := by omega
  rw [baseDelay_eq fits, doubled, exponent]

/-- After the last doubling the wait stays as it is. -/
theorem baseDelay_eq_of_lt (fits : p.maxBackoff ≤ Duration.longest)
    (many : maxDoublings < attempt) :
    p.baseDelay attempt = min (p.initialBackoff * 2 ^ maxDoublings) p.maxBackoff := by
  have exponent : min (attempt - 1) maxDoublings = maxDoublings := by omega
  rw [baseDelay_eq fits, exponent]

/-- A wait that could still double is shorter than it would be by doubling. -/
theorem baseDelay_lt_doubled (fits : p.maxBackoff ≤ Duration.longest)
    (many : maxDoublings + 1 < attempt) (some : 0 < p.initialBackoff)
    (low : p.initialBackoff * 2 ^ maxDoublings < p.maxBackoff) :
    p.baseDelay attempt < p.doubled attempt := by
  have powers : 2 ^ maxDoublings < 2 ^ (attempt - 1) :=
    Nat.pow_lt_pow_right Nat.one_lt_two (by omega)
  have products := Nat.mul_lt_mul_of_pos_left powers some
  rw [baseDelay_eq_of_lt fits (by omega), doubled, Nat.min_eq_left (Nat.le_of_lt low)]
  exact Nat.lt_min.2 ⟨products, low⟩

/-- Where the ceiling is reached by the last doubling, or there is nothing to double, waits are as
long as if they doubled without end. -/
theorem baseDelay_eq_doubled_of_reached (fits : p.maxBackoff ≤ Duration.longest)
    (reached : p.initialBackoff = 0 ∨ p.maxBackoff ≤ p.initialBackoff * 2 ^ maxDoublings) :
    p.baseDelay attempt = p.doubled attempt := by
  by_cases few : attempt ≤ maxDoublings + 1
  · exact baseDelay_eq_doubled fits few
  obtain none | reached := reached
  · simp [baseDelay_eq fits, doubled, none]
  · have powers : 2 ^ maxDoublings ≤ 2 ^ (attempt - 1) :=
      Nat.pow_le_pow_right Nat.zero_lt_two (by omega)
    have products := Nat.mul_le_mul_left p.initialBackoff powers
    rw [baseDelay_eq_of_lt fits (by omega), doubled, Nat.min_eq_right reached,
      Nat.min_eq_right (Nat.le_trans reached products)]

theorem baseDelay_eq_doubled_iff (fits : p.maxBackoff ≤ Duration.longest) :
    p.baseDelay attempt = p.doubled attempt ↔
      attempt ≤ maxDoublings + 1 ∨ p.initialBackoff = 0 ∨
        p.maxBackoff ≤ p.initialBackoff * 2 ^ maxDoublings := by
  constructor
  · intro same
    by_contra! apart
    obtain ⟨many, some, low⟩ := apart
    exact Nat.ne_of_lt (baseDelay_lt_doubled fits many (Nat.pos_of_ne_zero some) low) same
  · rintro (few | reached)
    · exact baseDelay_eq_doubled fits few
    · exact baseDelay_eq_doubled_of_reached fits reached

/-- What is drawn on top of one half of a wait makes no more than the other half. -/
theorem ofMillis_spread_le (p : RetryPolicy) (attempt : Nat) :
    Duration.ofMillis (p.spread attempt) ≤ p.baseDelay attempt - p.baseDelay attempt / 2 := by
  have whole : p.spread attempt ≤
      Duration.toMillis (p.baseDelay attempt - p.baseDelay attempt / 2) := Nat.mod_le _ _
  exact Nat.le_trans (Nat.mul_le_mul_right _ whole) (Nat.div_mul_le_self _ _)

theorem half_le_delay (p : RetryPolicy) (attempt draw : Nat) :
    p.baseDelay attempt / 2 ≤ p.delay attempt draw := by
  unfold delay
  split
  · exact Nat.le_add_right _ _
  · exact Nat.div_le_self _ _

theorem delay_le_baseDelay (p : RetryPolicy) (attempt draw : Nat) :
    p.delay attempt draw ≤ p.baseDelay attempt := by
  unfold delay
  split
  · have drawn : Duration.ofMillis (min draw (p.spread attempt)) ≤
        Duration.ofMillis (p.spread attempt) := Nat.mul_le_mul_right _ (Nat.min_le_right _ _)
    have rest := p.ofMillis_spread_le attempt
    omega
  · exact Nat.le_refl _

/-- Waits grow from attempt to attempt and never exceed the ceiling, and chance takes at most one
half off them. They are the doubled waits up to the ceiling in exactly these cases: 31 doublings are
enough for the attempt, there is nothing to double, or 31 doublings come up to the ceiling. In all
others the wait is that of 31 doublings. -/
theorem backoff_exact (fits : p.maxBackoff ≤ Duration.longest) :
    (∀ attempt, p.baseDelay attempt = min (p.initialBackoff * 2 ^ (attempt - 1)) p.maxBackoff ↔
      attempt ≤ 32 ∨ p.initialBackoff = 0 ∨ p.maxBackoff ≤ p.initialBackoff * 2 ^ 31) ∧
    (∀ attempt, 32 ≤ attempt →
      p.baseDelay attempt = min (p.initialBackoff * 2 ^ 31) p.maxBackoff) ∧
    (∀ earlier later, earlier ≤ later → p.baseDelay earlier ≤ p.baseDelay later) ∧
    (∀ attempt, p.baseDelay attempt ≤ p.maxBackoff) ∧
    ∀ attempt draw, p.baseDelay attempt / 2 ≤ p.delay attempt draw ∧
      p.delay attempt draw ≤ p.baseDelay attempt := by
  refine ⟨fun attempt => baseDelay_eq_doubled_iff fits, fun attempt many => ?_,
    fun earlier later => baseDelay_mono, p.baseDelay_le_maxBackoff, fun attempt draw => ?_⟩
  · exact baseDelay_eq_of_lt fits many
  · exact ⟨p.half_le_delay attempt draw, p.delay_le_baseDelay attempt draw⟩

/-- A policy that starts with a millisecond and has the highest ceiling in milliseconds. -/
def patient : RetryPolicy where
  maxAttempts := 40
  initialBackoff := Duration.ofMillis 1
  maxBackoff := Duration.ofMillis (UInt64.size - 1)
  jitter := true

/-- The 33rd wait of a policy with a high ceiling is one half of what doubling gives. -/
theorem backoff_exact_patient : patient.maxBackoff ≤ Duration.longest ∧
    patient.baseDelay 33 = Duration.ofMillis (2 ^ 31) ∧
    patient.baseDelay 33 ≠ min (patient.initialBackoff * 2 ^ (33 - 1)) patient.maxBackoff ∧
    patient.baseDelay 33 / 2 ≤ patient.delay 33 1000 := by
  have fits : patient.maxBackoff ≤ Duration.longest := by decide
  have exact := backoff_exact fits
  refine ⟨fits, ?_, ?_, (exact.2.2.2.2 33 1000).1⟩
  · rw [exact.2.1 33 (by omega)]
    decide
  · rw [Ne, exact.1]
    decide

end RetryPolicy

end GuidedDecoding
