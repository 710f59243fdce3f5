import Mathlib

/-! Rounding to a binary floating format: to the nearest number with so many significant
bits, of two the even one, and close to zero to a multiple of the lowest unit. -/

namespace Clubzey.Foundation.Rounding
variable {K : Type u} [Field K] [LinearOrder K] [IsStrictOrderedRing K] [FloorRing K]

/-- The nearest integer, of two the even one. -/
def nearestEven (number : K) : ℤ :=
  if Int.fract number < 1 / 2 then ⌊number⌋
  else if 1 / 2 < Int.fract number then ⌊number⌋ + 1
  else ⌊number⌋ + ⌊number⌋ % 2

omit [IsStrictOrderedRing K] in
theorem nearestEven_bounds (number : K) : ⌊number⌋ ≤ nearestEven number ∧ nearestEven number ≤ ⌊number⌋ + 1 := by
  unfold nearestEven
  split
  · omega
  · split <;> omega

@[simp] theorem nearestEven_intCast (number : ℤ) : nearestEven (number : K) = number := by
  simp [nearestEven]

theorem nearestEven_mono {first second : K} (ordered : first ≤ second) : nearestEven first ≤ nearestEven second := by
  rcases (Int.floor_le_floor ordered).lt_or_eq with apart | same
  · have below := (nearestEven_bounds first).2
    have above := (nearestEven_bounds second).1
    omega
  · have parts : Int.fract first ≤ Int.fract second := by
      unfold Int.fract
      rw [same]
      exact sub_le_sub_right ordered _
    unfold nearestEven
    rw [same]
    by_cases low : Int.fract second < 1 / 2
    · rw [if_pos (parts.trans_lt low), if_pos low]
    · rw [if_neg low]
      split
      · split <;> omega
      · split
        next high => rw [if_pos (high.trans_le parts)]
        next => split <;> omega

theorem nearestEven_neg (number : K) : nearestEven (-number) = -nearestEven number := by
  by_cases integral : Int.fract number = 0
  · have whole : number = (⌊number⌋ : K) := by
      have split := Int.floor_add_fract number
      rw [integral, add_zero] at split
      exact split.symm
    rw [whole, ← Int.cast_neg, nearestEven_intCast, nearestEven_intCast]
  · have fract : Int.fract (-number) = 1 - Int.fract number := Int.fract_neg integral
    have floor : ⌊-number⌋ = -⌊number⌋ - 1 := by
      have first := Int.floor_add_fract (-number)
      have second := Int.floor_add_fract number
      rw [fract] at first
      have same : ((⌊-number⌋ : ℤ) : K) = ((-⌊number⌋ - 1 : ℤ) : K) := by
        push_cast
        linarith
      exact_mod_cast same
    unfold nearestEven
    rw [fract, floor]
    rcases lt_trichotomy (Int.fract number) (1 / 2) with low | half | high
    · have notLow : ¬ 1 - Int.fract number < 1 / 2 := by linarith
      have upper : 1 / 2 < 1 - Int.fract number := by linarith
      rw [if_neg notLow, if_pos upper, if_pos low]
      omega
    · rw [half]
      norm_num
      omega
    · have lower : 1 - Int.fract number < 1 / 2 := by linarith
      rw [if_pos lower, if_neg high.not_gt, if_pos high]
      omega

/-- On a quotient of naturals it is decided by the remainder. -/
theorem nearestEven_div (number : ℕ) {unit : ℕ} (positive : 0 < unit) :
    nearestEven ((number : K) / unit) =
      ((if unit < 2 * (number % unit) ∨ unit = 2 * (number % unit) ∧ number / unit % 2 = 1 then number / unit + 1
        else number / unit : ℕ) : ℤ) := by
  have unitPositive : (0 : K) < unit := by exact_mod_cast positive
  have fract : Int.fract ((number : K) / unit) = ((number % unit : ℕ) : K) / unit :=
    Int.fract_div_natCast_eq_div_natCast_mod
  have floor : ⌊(number : K) / unit⌋ = ((number / unit : ℕ) : ℤ) := by
    rw [← Int.natCast_floor_eq_floor (by positivity), Nat.floor_div_eq_div]
  have below : Int.fract ((number : K) / unit) < 1 / 2 ↔ 2 * (number % unit) < unit := by
    rw [fract, div_lt_iff₀ unitPositive]
    constructor
    · intro low
      have cast : ((2 * (number % unit) : ℕ) : K) < (unit : K) := by
        push_cast
        linarith
      exact_mod_cast cast
    · intro low
      have cast : ((2 * (number % unit) : ℕ) : K) < (unit : K) := by exact_mod_cast low
      push_cast at cast
      linarith
  have above : 1 / 2 < Int.fract ((number : K) / unit) ↔ unit < 2 * (number % unit) := by
    rw [fract, lt_div_iff₀ unitPositive]
    constructor
    · intro high
      have cast : (unit : K) < ((2 * (number % unit) : ℕ) : K) := by
        push_cast
        linarith
      exact_mod_cast cast
    · intro high
      have cast : (unit : K) < ((2 * (number % unit) : ℕ) : K) := by exact_mod_cast high
      push_cast at cast
      linarith
  unfold nearestEven
  simp only [below, above, floor]
  split
  next low => rw [if_neg (by omega)]
  next notLow =>
    split
    next high => rw [if_pos (Or.inl high), Nat.cast_add, Nat.cast_one]
    next notHigh =>
      have half : unit = 2 * (number % unit) := by omega
      by_cases odd : number / unit % 2 = 1
      · rw [if_pos (Or.inr ⟨half, odd⟩)]
        omega
      · rw [if_neg (by omega)]
        omega

/-- How many significant bits are kept, and the exponent that the last of them never goes
below. -/
structure Format where
  precision : ℕ
  lowest : ℤ
  positive : 0 < precision

namespace Format
variable (format : Format)

/-- The exponent of the last bit that is kept of a number. -/
def exponent (number : K) : ℤ := max (Int.log 2 |number| + 1 - format.precision) format.lowest

def round (number : K) : K := nearestEven (number / 2 ^ format.exponent number) * 2 ^ format.exponent number

def Representable (number : K) : Prop :=
  ∃ significand exponent : ℤ, |significand| < 2 ^ format.precision ∧ format.lowest ≤ exponent ∧
    number = significand * 2 ^ exponent

omit [IsStrictOrderedRing K] in
theorem lowest_le_exponent (number : K) : format.lowest ≤ format.exponent number := le_max_right _ _

omit [IsStrictOrderedRing K] in
theorem exponent_neg (number : K) : format.exponent (-number) = format.exponent number := by
  rw [exponent, abs_neg, exponent]

theorem round_neg (number : K) : format.round (-number) = -format.round number := by
  rw [round, exponent_neg, neg_div, nearestEven_neg, Int.cast_neg, neg_mul, round]

@[simp] theorem round_zero : format.round (0 : K) = 0 := by
  have whole := nearestEven_intCast (K := K) 0
  rw [Int.cast_zero] at whole
  rw [round, zero_div, whole, Int.cast_zero, zero_mul]

omit [LinearOrder K] [IsStrictOrderedRing K] [FloorRing K] in
variable [CharZero K] in
/-- A power is a whole multiple of every lower one. -/
theorem power_multiple {lower upper : ℤ} (ordered : lower ≤ upper) :
    ∃ factor : ℤ, (2 : K) ^ upper = factor * 2 ^ lower := by
  obtain ⟨steps, apart⟩ := Int.le.dest ordered
  use 2 ^ steps
  rw [← apart, zpow_add₀ two_ne_zero, zpow_natCast, mul_comm]
  push_cast
  rfl

theorem abs_lt_power (number : K) : |number| < 2 ^ (Int.log 2 |number| + 1) :=
  Int.lt_zpow_succ_log_self Nat.one_lt_two _

/-- Nothing is dropped from a multiple of the last bit. -/
theorem round_multiple {number : K} {significand : ℤ} (multiple : number = significand * 2 ^ format.exponent number) :
    format.round number = number := by
  have positive : (0 : K) < 2 ^ format.exponent number := by positivity
  have quotient : number / 2 ^ format.exponent number = significand := by
    rw [div_eq_iff positive.ne']
    exact multiple
  rw [round, quotient, nearestEven_intCast]
  exact multiple.symm

theorem multiple_le_round {number : K} {significand : ℤ} (above : significand * 2 ^ format.exponent number ≤ number) :
    significand * 2 ^ format.exponent number ≤ format.round number := by
  have positive : (0 : K) < 2 ^ format.exponent number := by positivity
  have quotient : (significand : K) ≤ number / 2 ^ format.exponent number := (le_div_iff₀ positive).mpr above
  have rounded := nearestEven_mono quotient
  rw [nearestEven_intCast] at rounded
  apply mul_le_mul_of_nonneg_right _ positive.le
  exact_mod_cast rounded

variable {format}

/-- Of a representable number no bit below the last one kept is set. -/
theorem Representable.multiple {number : K} (representable : format.Representable number) :
    ∃ significand : ℤ, number = significand * 2 ^ format.exponent number := by
  obtain ⟨significand, exponent, small, allowed, equal⟩ := representable
  by_cases zero : number = 0
  · use 0
    rw [zero, Int.cast_zero, zero_mul]
  · have positive : (0 : K) < 2 ^ exponent := by positivity
    have bounded : |number| < 2 ^ ((format.precision : ℤ) + exponent) := by
      rw [equal, abs_mul, abs_of_pos positive, zpow_add₀ two_ne_zero, zpow_natCast]
      apply mul_lt_mul_of_pos_right _ positive
      exact_mod_cast small
    have log : Int.log 2 |number| < format.precision + exponent :=
      (Int.lt_zpow_iff_log_lt Nat.one_lt_two (abs_pos.mpr zero)).mp (by exact_mod_cast bounded)
    have below : format.exponent number ≤ exponent := by
      apply max_le _ allowed
      omega
    obtain ⟨factor, power⟩ := power_multiple (K := K) below
    use significand * factor
    rw [Int.cast_mul, mul_assoc, ← power]
    exact equal

theorem round_of_representable {number : K} (representable : format.Representable number) :
    format.round number = number := by
  obtain ⟨significand, multiple⟩ := representable.multiple
  exact format.round_multiple multiple

omit [FloorRing K] in
/-- The power just above the largest significand is representable as well. -/
theorem representable_of_le {number : K} {significand exponent : ℤ} (bounded : |significand| ≤ 2 ^ format.precision)
    (allowed : format.lowest ≤ exponent) (equal : number = significand * 2 ^ exponent) :
    format.Representable number := by
  rcases bounded.lt_or_eq with small | limit
  · exact ⟨significand, exponent, small, allowed, equal⟩
  · obtain ⟨rest, precision⟩ := Nat.exists_eq_succ_of_ne_zero format.positive.ne'
    have sign : significand = significand.sign * 2 ^ rest * 2 := by
      have split := Int.sign_mul_abs significand
      rw [limit, precision, Nat.succ_eq_add_one, pow_succ, ← mul_assoc] at split
      exact split.symm
    have half : |significand.sign * 2 ^ rest| < 2 ^ format.precision := by
      have doubled : |significand.sign * 2 ^ rest| * 2 = 2 ^ format.precision := by
        calc |significand.sign * 2 ^ rest| * 2 = |significand.sign * 2 ^ rest| * |2| := by rw [abs_two]
          _ = |significand| := by rw [← abs_mul, ← sign]
          _ = 2 ^ format.precision := limit
      have power : (0 : ℤ) < 2 ^ format.precision := by positivity
      omega
    refine ⟨significand.sign * 2 ^ rest, exponent + 1, half, by omega, ?_⟩
    rw [equal, zpow_add_one₀ two_ne_zero]
    nth_rewrite 1 [sign]
    push_cast
    ring

variable (format)

theorem significand_bounded (number : K) :
    |nearestEven (number / 2 ^ format.exponent number)| ≤ 2 ^ format.precision := by
  have positive : (0 : K) < 2 ^ format.exponent number := by positivity
  have exponent : Int.log 2 |number| + 1 ≤ format.precision + format.exponent number := by
    have kept : Int.log 2 |number| + 1 - format.precision ≤ format.exponent number := le_max_left _ _
    omega
  have bounded : |number / 2 ^ format.exponent number| ≤ 2 ^ format.precision := by
    rw [abs_div, abs_of_pos positive, div_le_iff₀ positive, ← zpow_natCast, ← zpow_add₀ two_ne_zero]
    apply (abs_lt_power number).le.trans
    exact zpow_le_zpow_right₀ one_le_two exponent
  obtain ⟨lower, upper⟩ := abs_le.mp bounded
  have lowerCast : ((-2 ^ format.precision : ℤ) : K) ≤ number / 2 ^ format.exponent number := by exact_mod_cast lower
  have upperCast : number / 2 ^ format.exponent number ≤ ((2 ^ format.precision : ℤ) : K) := by exact_mod_cast upper
  have above := nearestEven_mono lowerCast
  have below := nearestEven_mono upperCast
  rw [nearestEven_intCast] at above below
  exact abs_le.mpr ⟨above, below⟩

theorem representable_round (number : K) : format.Representable (format.round number) :=
  representable_of_le (format.significand_bounded number) (format.lowest_le_exponent number) rfl

theorem round_nonneg {number : K} (positive : 0 ≤ number) : 0 ≤ format.round number := by
  have above : ((0 : ℤ) : K) * 2 ^ format.exponent number ≤ number := by simpa using positive
  have multiple := format.multiple_le_round above
  simpa using multiple

variable {format}

/-- Representable numbers lie at least the lowest unit apart. -/
theorem Representable.apart {first second : K} (one : format.Representable first) (other : format.Representable second)
    (different : first ≠ second) : (2 : K) ^ format.lowest ≤ |first - second| := by
  obtain ⟨firstSignificand, firstMultiple⟩ := one.multiple
  obtain ⟨secondSignificand, secondMultiple⟩ := other.multiple
  obtain ⟨firstFactor, firstPower⟩ := power_multiple (K := K) (format.lowest_le_exponent first)
  obtain ⟨secondFactor, secondPower⟩ := power_multiple (K := K) (format.lowest_le_exponent second)
  have positive : (0 : K) < 2 ^ format.lowest := by positivity
  have difference : first - second =
      ((firstSignificand * firstFactor - secondSignificand * secondFactor : ℤ) : K) * 2 ^ format.lowest := by
    rw [firstMultiple, secondMultiple, firstPower, secondPower]
    push_cast
    ring
  have nonzero : firstSignificand * firstFactor - secondSignificand * secondFactor ≠ 0 := by
    intro zero
    rw [zero, Int.cast_zero, zero_mul] at difference
    exact different (sub_eq_zero.mp difference)
  rw [difference, abs_mul, abs_of_pos positive]
  apply le_mul_of_one_le_left positive.le
  exact_mod_cast Int.one_le_abs nonzero

end Format
end Clubzey.Foundation.Rounding
