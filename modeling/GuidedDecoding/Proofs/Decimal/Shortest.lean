import GuidedDecoding.Decimal.Shortest
import Mathlib.Algebra.Order.Field.Basic
import Mathlib.Algebra.Order.Field.Power
import Mathlib.Tactic.Linarith
import Mathlib.Tactic.NormNum
import Mathlib.Tactic.Ring

/-!
# The shortest decimal reads back

The decimals that round to a double lie in an interval around it. Seventeen digits are always
enough to hit the interval, so the shortest decimal lies in it (`Dyadic.rounds_shortest`); and the
intervals of two doubles have no decimal in common (`Dyadic.eq_of_rounds`).
-/

namespace GuidedDecoding

/-- The number that a decimal stands for. -/
def Decimal.value (d : Decimal) : ℚ := d.significand * 10 ^ d.exponent

namespace Dyadic

variable {x y : Dyadic} {tie : Tie} {a n : Nat} {g : Int} {q : ℚ}

/-- A quarter of the unit of the last place. -/
def quarter (x : Dyadic) : ℚ := 2 ^ (x.exponent - 2)

theorem quarter_pos (x : Dyadic) : 0 < x.quarter := zpow_pos (by norm_num) _

/-- The number that a dyadic stands for. -/
def value (x : Dyadic) : ℚ := (4 * x.mantissa : Nat) * x.quarter

/-- The ends of the interval around a value, in quarters of the unit of the last place. -/
def low (x : Dyadic) : Nat := 4 * x.mantissa - if x.narrow then 1 else 2
def high (x : Dyadic) : Nat := 4 * x.mantissa + 2

/-- A number rounds to a value when it is in the interval around it. The ends of the interval
belong to it when the mantissa is even. -/
structure Rounds (x : Dyadic) (q : ℚ) : Prop where
  notBelow : x.low * x.quarter ≤ q
  notAbove : q ≤ x.high * x.quarter
  inside : x.mantissa % 2 ≠ 0 → x.low * x.quarter ≠ q ∧ q ≠ x.high * x.quarter

theorem zpow_eq_div (b : ℚ) (k : Int) : b ^ k = b ^ k.toNat / b ^ (-k).toNat := by
  rcases le_total 0 k with sign | sign
  · rw [Int.toNat_of_nonpos (Int.neg_nonpos_of_nonneg sign), pow_zero, div_one, ← zpow_natCast,
      Int.toNat_of_nonneg sign]
  · rw [Int.toNat_of_nonpos sign, pow_zero, one_div, ← zpow_natCast,
      Int.toNat_of_nonneg (Int.neg_nonneg_of_nonpos sign), zpow_neg, inv_inv]

theorem quarter_eq (x : Dyadic) : x.quarter = x.quarters.1 / x.quarters.2 := by
  rw [quarter, zpow_eq_div]
  simp only [quarters, Nat.pow_eq]
  split
  · next sign =>
    rw [Int.toNat_of_nonpos (Int.neg_nonpos_of_nonneg sign)]
    push_cast
    rfl
  · next sign =>
    rw [Int.toNat_of_nonpos (le_of_not_ge sign)]
    push_cast
    rfl

theorem quarters_pos (x : Dyadic) : 0 < x.quarters.1 ∧ 0 < x.quarters.2 := by
  simp only [quarters]
  split <;> simp

/-- Both sides of a comparison as quotients of natural numbers. -/
theorem grid_eq (a : Nat) (g : Int) :
    (a * 10 ^ g : ℚ) = (a * 10 ^ g.toNat : Nat) / (10 ^ (-g).toNat : Nat) := by
  rw [zpow_eq_div]
  push_cast
  rw [mul_div_assoc]

theorem places_eq (x : Dyadic) (n : Nat) :
    (n * x.quarter : ℚ) = (n * x.quarters.1 : Nat) / (x.quarters.2 : Nat) := by
  rw [quarter_eq]
  push_cast
  rw [mul_div_assoc]

theorem ten_pos (k : Nat) : (0 : ℚ) < (10 ^ k : Nat) := by exact_mod_cast Nat.pow_pos (by decide)

theorem den_pos (x : Dyadic) : (0 : ℚ) < (x.quarters.2 : Nat) := by exact_mod_cast x.quarters_pos.2

theorem compareAt_eq_lt : x.compareAt a g n = .lt ↔ (a * 10 ^ g : ℚ) < n * x.quarter := by
  rw [grid_eq, places_eq, div_lt_div_iff₀ (ten_pos _) x.den_pos]
  exact Nat.compare_eq_lt.trans (by exact_mod_cast Iff.rfl)

theorem compareAt_eq_gt : x.compareAt a g n = .gt ↔ (n * x.quarter : ℚ) < a * 10 ^ g := by
  rw [grid_eq, places_eq, div_lt_div_iff₀ x.den_pos (ten_pos _)]
  exact Nat.compare_eq_gt.trans (by exact_mod_cast Iff.rfl)

theorem compareAt_eq_eq : x.compareAt a g n = .eq ↔ (a * 10 ^ g : ℚ) = n * x.quarter := by
  rw [grid_eq, places_eq, div_eq_div_iff (ten_pos _).ne' x.den_pos.ne']
  exact Nat.compare_eq_eq.trans (by exact_mod_cast Iff.rfl)

theorem rounds_iff (pos : 0 < x.mantissa) : x.rounds a g = true ↔ x.Rounds (a * 10 ^ g) := by
  have ends : (x.low * x.quarter : ℚ) < x.high * x.quarter := by
    refine mul_lt_mul_of_pos_right ?_ x.quarter_pos
    exact_mod_cast (show x.low < x.high by simp only [low, high]; omega)
  have even : ((x.mantissa % 2 == 0) = true) ↔ ¬ x.mantissa % 2 ≠ 0 := by simp
  simp only [rounds]
  split
  · next below above =>
    have below := compareAt_eq_gt (n := x.low) |>.1 below
    have above := compareAt_eq_lt (n := x.high) |>.1 above
    simp only [true_iff]
    exact ⟨below.le, above.le, fun _ => ⟨below.ne, above.ne⟩⟩
  · next below above =>
    have below := compareAt_eq_eq (n := x.low) |>.1 below
    have above := compareAt_eq_lt (n := x.high) |>.1 above
    rw [even]
    constructor
    · exact fun closed => ⟨below.ge, above.le, fun odd => absurd odd closed⟩
    · exact fun h odd => (h.inside odd).1 below.symm
  · next below above =>
    have below := compareAt_eq_gt (n := x.low) |>.1 below
    have above := compareAt_eq_eq (n := x.high) |>.1 above
    rw [even]
    constructor
    · exact fun closed => ⟨below.le, above.le, fun odd => absurd odd closed⟩
    · exact fun h odd => (h.inside odd).2 above
  · next gtLt eqLt gtEq =>
    simp only [Bool.false_eq_true, false_iff]
    intro h
    rcases lt_or_eq_of_le h.notBelow with below | below
    · rcases lt_or_eq_of_le h.notAbove with above | above
      · exact gtLt (compareAt_eq_gt.2 below) (compareAt_eq_lt.2 above)
      · exact gtEq (compareAt_eq_gt.2 below) (compareAt_eq_eq.2 above)
    · exact eqLt (compareAt_eq_eq.2 below.symm) (compareAt_eq_lt.2 (below ▸ ends))

/-- The factor of the grid that is not above the value. -/
theorem floorAt_spec (x : Dyadic) (g : Int) :
    (x.floorAt g * 10 ^ g : ℚ) ≤ x.value ∧ x.value < (x.floorAt g + 1 : Nat) * 10 ^ g := by
  have positive : 0 < x.quarters.2 * 10 ^ g.toNat :=
    Nat.mul_pos x.quarters_pos.2 (Nat.pow_pos (by decide))
  have floor : x.floorAt g =
      4 * x.mantissa * x.quarters.1 * 10 ^ (-g).toNat / (x.quarters.2 * 10 ^ g.toNat) := rfl
  rw [value, places_eq, grid_eq, grid_eq, div_le_div_iff₀ (ten_pos _) x.den_pos,
    div_lt_div_iff₀ x.den_pos (ten_pos _)]
  have below := Nat.div_mul_le_self (4 * x.mantissa * x.quarters.1 * 10 ^ (-g).toNat)
    (x.quarters.2 * 10 ^ g.toNat)
  have above := Nat.lt_mul_of_div_lt (Nat.lt_succ_self
    (4 * x.mantissa * x.quarters.1 * 10 ^ (-g).toNat / (x.quarters.2 * 10 ^ g.toNat))) positive
  rw [← floor] at below above
  have swapped : ∀ k : Nat, k * (x.quarters.2 * 10 ^ g.toNat) = k * 10 ^ g.toNat * x.quarters.2 :=
    fun k => by ring
  rw [swapped] at below above
  exact ⟨by exact_mod_cast below, by exact_mod_cast above⟩

theorem pow_digitCount_le {n : Nat} (positive : 0 < n) : 10 ^ (digitCount n - 1) ≤ n := by
  by_contra less
  rcases Nat.eq_zero_or_pos (digitCount n - 1) with one | more
  · rw [one, pow_zero] at less
    exact less positive
  · have short := (Nat.length_toDigits_le_iff (by decide) more).2 (not_le.1 less)
    have some : 0 < digitCount n := Nat.length_toDigits_pos
    exact absurd short (by simp only [digitCount] at some ⊢; omega)

theorem lt_pow_digitCount (n : Nat) : n < 10 ^ digitCount n :=
  (Nat.length_toDigits_le_iff (by decide) Nat.length_toDigits_pos).1 le_rfl

/-- The leading digit of a quotient of one or more. -/
theorem pow_le_of_quotient {m k : Nat} (some : 0 < k) (atLeastOne : k ≤ m) :
    10 ^ (digitCount (m / k) - 1) * k ≤ m := by
  have count := pow_digitCount_le (Nat.div_pos atLeastOne some)
  exact (Nat.mul_le_mul_right _ count).trans (Nat.div_mul_le_self _ _)

/-- The leading digit of a quotient below one. -/
theorem le_pow_of_quotient {m k : Nat} (some : 0 < m) : k ≤ m * 10 ^ digitCount ((k - 1) / m) := by
  have less := Nat.lt_mul_of_div_lt (lt_pow_digitCount ((k - 1) / m)) some
  rw [Nat.mul_comm]
  omega

/-- The leading digit is not above the value. -/
theorem pow_top_le (pos : 0 < x.mantissa) : (10 : ℚ) ^ (x.top - 1) ≤ x.value := by
  have number : 0 < 4 * x.mantissa * x.quarters.1 :=
    Nat.mul_pos (Nat.mul_pos (by decide) pos) x.quarters_pos.1
  have asGrid : ((10 : ℚ) ^ (x.top - 1)) = (1 : Nat) * 10 ^ (x.top - 1) := by
    rw [Nat.cast_one, one_mul]
  rw [asGrid, value, places_eq, grid_eq, div_le_div_iff₀ (ten_pos _) x.den_pos]
  have ordered : 1 * 10 ^ (x.top - 1).toNat * x.quarters.2 ≤
      4 * x.mantissa * x.quarters.1 * 10 ^ (-(x.top - 1)).toNat := by
    simp only [top]
    split
    · next atLeastOne =>
      have some : 0 < digitCount (4 * x.mantissa * x.quarters.1 / x.quarters.2) :=
        Nat.length_toDigits_pos
      rw [Int.pred_toNat, Int.toNat_natCast, Int.toNat_of_nonpos (by omega), pow_zero, Nat.mul_one,
        Nat.one_mul]
      exact pow_le_of_quotient x.quarters_pos.2 atLeastOne
    · rw [sub_sub_cancel_left, neg_neg, Int.toNat_neg_natCast, Int.toNat_natCast, pow_zero,
        Nat.one_mul, Nat.one_mul]
      exact le_pow_of_quotient number
  exact_mod_cast ordered

theorem high_eq (x : Dyadic) : x.high * x.quarter = x.value + 2 * x.quarter := by
  rw [value, high]
  push_cast
  ring

theorem low_eq (pos : 0 < x.mantissa) :
    x.low * x.quarter = x.value - (if x.narrow then 1 else 2) * x.quarter := by
  have enough : (if x.narrow then 1 else 2) ≤ 4 * x.mantissa := by split <;> omega
  rw [value, low, Nat.cast_sub enough]
  cases x.narrow
  · push_cast
    ring
  · push_cast
    ring

/-- Only positive numbers round to a value. -/
theorem Rounds.pos (pos : 0 < x.mantissa) (h : x.Rounds q) : 0 < q := by
  refine lt_of_lt_of_le (mul_pos ?_ x.quarter_pos) h.notBelow
  have more : 0 < x.low := by
    simp only [low]
    split <;> omega
  exact_mod_cast more

/-- Numbers strictly inside the interval round to the value. -/
theorem rounds_of_lt_of_lt (below : x.low * x.quarter < q) (above : q < x.high * x.quarter) :
    x.Rounds q :=
  ⟨below.le, above.le, fun _ => ⟨below.ne, above.ne⟩⟩

/-- The mantissa fits 53 bits, and the gap below is narrow at a power of two only. -/
structure Fits (x : Dyadic) : Prop where
  pos : 0 < x.mantissa
  small : x.mantissa < 2 ^ 53
  narrow : x.narrow = true → x.mantissa ≤ 2 ^ 52

/-- Seventeen digits are as fine as the last place, if the mantissa is below their number. -/
theorem seventeenth_le (pos : 0 < x.mantissa) {bound : Nat} (most : x.mantissa ≤ bound) :
    (10 : ℚ) ^ (x.top - 17) ≤ 4 * bound * x.quarter / 10 ^ 16 := by
  have finer : (10 : ℚ) ^ (x.top - 17) = 10 ^ (x.top - 1) / 10 ^ 16 := by
    rw [← zpow_natCast, ← zpow_sub₀ (by norm_num)]
    congr 1
    push_cast
    ring
  have size : x.value ≤ 4 * bound * x.quarter := by
    rw [value]
    refine mul_le_mul_of_nonneg_right ?_ x.quarter_pos.le
    exact_mod_cast Nat.mul_le_mul_left 4 most
  rw [finer]
  exact div_le_div_of_nonneg_right ((pow_top_le pos).trans size) (by norm_num)

/-- Seventeen digits tell a double. -/
theorem rounds_on_seventeenth (h : x.Fits) :
    x.rounds (x.floorAt (x.top - 17)) (x.top - 17) = true ∨
      x.rounds (x.floorAt (x.top - 17) + 1) (x.top - 17) = true := by
  rw [rounds_iff h.pos, rounds_iff h.pos]
  obtain ⟨below, above⟩ := x.floorAt_spec (x.top - 17)
  have width : ∀ bound : Nat, x.mantissa ≤ bound → _ := fun _ => seventeenth_le h.pos
  have quarter := x.quarter_pos
  have high := x.high_eq
  have low := low_eq h.pos
  rw [Nat.cast_add, Nat.cast_one, add_mul, one_mul] at above ⊢
  generalize (x.floorAt (x.top - 17) : ℚ) * 10 ^ (x.top - 17) = down at below above ⊢
  generalize (10 : ℚ) ^ (x.top - 17) = step at width above ⊢
  cases shape : x.narrow with
  | true =>
    have width := width _ (h.narrow shape)
    rw [shape, if_pos rfl] at low
    norm_num at width
    exact .inr (rounds_of_lt_of_lt (by linarith) (by linarith))
  | false =>
    have width := width _ h.small.le
    rw [shape, if_neg Bool.false_ne_true] at low
    norm_num at width
    rcases lt_or_ge (x.value - down) (2 * x.quarter) with near | far
    · exact .inl (rounds_of_lt_of_lt (by linarith) (by linarith))
    · exact .inr (rounds_of_lt_of_lt (by linarith) (by linarith))

/-- Whatever is found on a grid rounds to the value. -/
theorem rounds_of_onGrid? (h : x.onGrid? tie g = some a) : x.rounds a g = true := by
  simp only [onGrid?] at h
  split at h
  · next below _ =>
    cases h
    exact below
  · next above =>
    cases h
    exact above
  · cases h
  · next below above =>
    have either : a = x.floorAt g ∨ a = x.floorAt g + 1 := by
      repeat' split at h
      all_goals cases h
      all_goals simp
    rcases either with rfl | rfl
    · exact below
    · exact above

/-- A grid on which a neighbour of the value rounds to it is not searched in vain. -/
theorem isSome_onGrid? (h : x.rounds (x.floorAt g) g = true ∨ x.rounds (x.floorAt g + 1) g = true) :
    (x.onGrid? tie g).isSome = true := by
  simp only [onGrid?]
  split
  · rfl
  · rfl
  · next below above =>
    rw [below, above] at h
    simp at h
  · repeat' split
    all_goals rfl

theorem value_trim (fuel a : Nat) (g : Int) : (trim fuel a g).value = a * 10 ^ g := by
  induction fuel generalizing a g with
  | zero => rfl
  | succ fuel ih =>
    rw [trim]
    split
    · next zero =>
      have tens : a = a / 10 * 10 := by
        have rest := beq_iff_eq.1 zero
        omega
      have cast : (a : ℚ) = (a / 10 : Nat) * 10 := by exact_mod_cast tens
      rw [ih, cast, zpow_add₀ (by norm_num), zpow_one]
      ring
    · rfl

/-- The search ends on the first grid that has a decimal. -/
theorem rounds_search (pos : 0 < x.mantissa) {top : Int} {last : Nat} :
    ∀ fuel digits : Nat, digits ≤ last → last < digits + fuel →
      (x.onGrid? tie (top - last)).isSome = true →
        x.Rounds (x.search tie top fuel digits).value := by
  intro fuel
  induction fuel with
  | zero =>
    intro digits early late
    omega
  | succ fuel ih =>
    intro digits early late found
    rw [search]
    split
    · next a here =>
      rw [value_trim]
      exact (rounds_iff pos).1 (rounds_of_onGrid? here)
    · next nothing =>
      have later : digits ≠ last := by
        rintro rfl
        rw [nothing] at found
        cases found
      exact ih (digits + 1) (by omega) (by omega) found

/-- The shortest decimal rounds to the value. -/
theorem rounds_shortest (h : x.Fits) : x.Rounds (x.shortest tie).value :=
  have found : (x.onGrid? tie (x.top - (17 : Nat))).isSome = true :=
    isSome_onGrid? (rounds_on_seventeenth h)
  rounds_search h.pos 17 1 (by decide) (by decide) found

/-- What double precision makes of a positive number: 53 bits that start with a one, or fewer at the
least exponent. -/
structure OfDouble (x : Dyadic) : Prop where
  pos : 0 < x.mantissa
  small : x.mantissa < 2 ^ 53
  least : -1074 ≤ x.exponent
  normal : x.exponent ≠ -1074 → 2 ^ 52 ≤ x.mantissa
  narrow_iff : x.narrow = true ↔ x.mantissa = 2 ^ 52 ∧ x.exponent ≠ -1074

theorem OfDouble.fits (h : x.OfDouble) : x.Fits :=
  ⟨h.pos, h.small, fun narrow => ((h.narrow_iff.1 narrow).1).le⟩

/-- The interval around a value of a larger exponent begins beyond a power of two. -/
theorem OfDouble.wide (h : y.OfDouble) (larger : y.exponent ≠ -1074) : 2 ^ 54 ≤ y.low + 1 := by
  have normal := h.normal larger
  simp only [low]
  split
  · omega
  · next notNarrow =>
    have notPower : y.mantissa ≠ 2 ^ 52 := fun equal => notNarrow (h.narrow_iff.2 ⟨equal, larger⟩)
    omega

/-- The intervals of two values of different exponents meet at most in an end, and then it is not
in the lower one. -/
theorem OfDouble.apart_of_exponent_lt (hx : x.OfDouble) (hy : y.OfDouble)
    (less : x.exponent < y.exponent) :
    x.high * x.quarter ≤ y.low * y.quarter ∧
      (x.high * x.quarter = y.low * y.quarter → x.mantissa % 2 ≠ 0) := by
  have wide := hy.wide (by have := hx.least; omega)
  have most : x.high + 2 ≤ 2 ^ 55 := by
    have := hx.small
    simp only [high]
    omega
  have doubled : 2 * x.quarter ≤ y.quarter := by
    rw [quarter, quarter, ← zpow_one_add₀ (by norm_num)]
    exact zpow_le_zpow_right₀ (by norm_num) (by omega)
  have quarter := x.quarter_pos
  have upper : x.high * x.quarter ≤ (2 ^ 54 - 1) * (2 * x.quarter) := by
    have cast : (x.high : ℚ) + 2 ≤ 2 ^ 55 := by exact_mod_cast most
    have scaled := mul_le_mul_of_nonneg_right cast quarter.le
    linarith
  have lower : (2 ^ 54 - 1) * (2 * x.quarter) ≤ y.low * y.quarter := by
    have cast : (2 ^ 54 : ℚ) ≤ y.low + 1 := by exact_mod_cast wide
    exact mul_le_mul (by linarith) doubled (by positivity) (by positivity)
  refine ⟨upper.trans lower, fun equal => ?_⟩
  have full : (x.high + 2 : ℚ) * x.quarter = 2 ^ 55 * x.quarter := by linarith
  have last : x.high + 2 = 2 ^ 55 := by exact_mod_cast mul_right_cancel₀ quarter.ne' full
  simp only [high] at last
  omega

/-- The intervals of two values of one exponent meet at most in an end, and then it is in one of
them only. -/
theorem OfDouble.apart_of_mantissa_lt (hy : y.OfDouble) (same : x.exponent = y.exponent)
    (less : x.mantissa < y.mantissa) :
    x.high * x.quarter ≤ y.low * y.quarter ∧
      (x.high * x.quarter = y.low * y.quarter → x.mantissa % 2 ≠ 0 ∨ y.mantissa % 2 ≠ 0) := by
  have mantissas : (if y.narrow then 1 else 2) ≤ 4 * y.mantissa := by
    have := hy.pos
    split <;> omega
  have units : y.quarter = x.quarter := by rw [quarter, quarter, same]
  have ordered : x.high ≤ y.low := by
    simp only [high, low]
    split <;> omega
  rw [units]
  refine ⟨mul_le_mul_of_nonneg_right (by exact_mod_cast ordered) x.quarter_pos.le, ?_⟩
  intro equal
  have ends : x.high = y.low := by exact_mod_cast mul_right_cancel₀ x.quarter_pos.ne' equal
  simp only [high, low] at ends
  split at ends <;> omega

/-- The intervals of a value and of a larger one overlap at most in an end, which belongs to one of
them only. -/
theorem OfDouble.apart (hx : x.OfDouble) (hy : y.OfDouble)
    (less : x.exponent < y.exponent ∨ x.exponent = y.exponent ∧ x.mantissa < y.mantissa) :
    x.high * x.quarter ≤ y.low * y.quarter ∧
      (x.high * x.quarter = y.low * y.quarter → x.mantissa % 2 ≠ 0 ∨ y.mantissa % 2 ≠ 0) := by
  rcases less with exponent | ⟨exponent, mantissa⟩
  · obtain ⟨apart, oneOpen⟩ := hx.apart_of_exponent_lt hy exponent
    exact ⟨apart, fun equal => .inl (oneOpen equal)⟩
  · exact hy.apart_of_mantissa_lt exponent mantissa

/-- No number rounds to two doubles. -/
theorem eq_of_rounds (hx : x.OfDouble) (hy : y.OfDouble) (toX : x.Rounds q) (toY : y.Rounds q) :
    x = y := by
  have notLess : ∀ {x y : Dyadic}, x.OfDouble → y.OfDouble → x.Rounds q → y.Rounds q →
      ¬ (x.exponent < y.exponent ∨ x.exponent = y.exponent ∧ x.mantissa < y.mantissa) := by
    intro x y hx hy toX toY less
    obtain ⟨apart, oneOpen⟩ := hx.apart hy less
    have low := le_antisymm toY.notBelow (toX.notAbove.trans apart)
    have high := le_antisymm toX.notAbove (apart.trans toY.notBelow)
    rcases oneOpen (high.symm.trans low.symm) with odd | odd
    · exact (toX.inside odd).2 high
    · exact (toY.inside odd).1 low
  have forth := notLess hx hy toX toY
  have back := notLess hy hx toY toX
  have exponents : x.exponent = y.exponent := by omega
  have mantissas : x.mantissa = y.mantissa := by omega
  have narrows : x.narrow = y.narrow := by
    rw [Bool.eq_iff_iff, hx.narrow_iff, hy.narrow_iff, exponents, mantissas]
  cases x
  cases y
  simp only at exponents mantissas narrows
  rw [exponents, mantissas, narrows]

end Dyadic

end GuidedDecoding
