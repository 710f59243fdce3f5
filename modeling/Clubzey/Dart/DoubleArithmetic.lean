import Clubzey.Dart.DoubleText
import Clubzey.Foundation.Rounding

/-! Differences and products of doubles. Every operation answers the number of the
format that is nearest its exact result. -/

namespace Clubzey.Dart
open Foundation Foundation.Rounding

namespace Double

def binary64 : Format := ⟨53, -1074, Nat.succ_pos 52⟩

def ofRat (number : ℚ) : Double :=
  if number < 0 then (ofRatio number.num.natAbs number.den).neg else ofRatio number.num.natAbs number.den

/-- `minuend - subtrahend`. -/
def sub : Double → Double → Double
  | .nan, _ => .nan
  | _, .nan => .nan
  | .finite minuend, .finite subtrahend => ofRat (minuend - subtrahend)
  | .finite _, .infinite negative => .infinite !negative
  | .infinite negative, .finite _ => .infinite negative
  | .infinite first, .infinite second => if first = second then .nan else .infinite first

/-- `first * second`. -/
def mul : Double → Double → Double
  | .nan, _ => .nan
  | _, .nan => .nan
  | .finite first, .finite second => ofRat (first * second)
  | .finite factor, .infinite negative => if factor = 0 then .nan else .infinite (negative != decide (factor < 0))
  | .infinite negative, .finite factor => if factor = 0 then .nan else .infinite (negative != decide (factor < 0))
  | .infinite first, .infinite second => .infinite (first != second)

theorem log_eq {number : ℚ} {power : ℤ} (above : (2 : ℚ) ^ power ≤ number) (below : number < 2 ^ (power + 1)) :
    Int.log 2 number = power := by
  have positive : 0 < number := lt_of_lt_of_le (by positivity) above
  have lower := (Int.zpow_le_iff_le_log Nat.one_lt_two positive).mp (by exact_mod_cast above)
  have upper := (Int.lt_zpow_iff_log_lt Nat.one_lt_two positive).mp (by exact_mod_cast below)
  omega

theorem power_eq_div (power : ℤ) : (2 : ℚ) ^ power = 2 ^ power.toNat / 2 ^ (-power).toNat := by
  rcases le_total 0 power with positive | negative
  · obtain ⟨natural, rfl⟩ := Int.eq_ofNat_of_zero_le positive
    simp
  · obtain ⟨natural, opposite⟩ := Int.eq_ofNat_of_zero_le (neg_nonneg.mpr negative)
    obtain rfl : power = -natural := by omega
    simp

variable {numerator denominator : ℕ}

theorem div_lt_power_iff (positive : 0 < denominator) (power : ℤ) :
    (numerator : ℚ) / denominator < 2 ^ power ↔
      numerator * 2 ^ (-power).toNat < denominator * 2 ^ power.toNat := by
  have first : (0 : ℚ) < denominator := by exact_mod_cast positive
  have second : (0 : ℚ) < 2 ^ (-power).toNat := by positivity
  rw [power_eq_div, div_lt_div_iff₀ first second, mul_comm ((2 : ℚ) ^ power.toNat)]
  norm_cast

theorem log_ratio (nonzero : numerator ≠ 0) (positive : 0 < denominator) :
    let estimate : ℤ := (numerator.log2 : ℤ) - denominator.log2
    Int.log 2 ((numerator : ℚ) / denominator) =
      if numerator * 2 ^ (-estimate).toNat < denominator * 2 ^ estimate.toNat then estimate - 1 else estimate := by
  intro estimate
  have denominatorPositive : (0 : ℚ) < denominator := by exact_mod_cast positive
  have numeratorAbove : (2 : ℚ) ^ (numerator.log2 : ℤ) ≤ numerator := by
    exact_mod_cast Nat.log2_self_le nonzero
  have numeratorBelow : (numerator : ℚ) < 2 ^ ((numerator.log2 : ℤ) + 1) := by
    exact_mod_cast Nat.lt_log2_self
  have denominatorAbove : (2 : ℚ) ^ (denominator.log2 : ℤ) ≤ denominator := by
    exact_mod_cast Nat.log2_self_le positive.ne'
  have denominatorBelow : (denominator : ℚ) < 2 ^ ((denominator.log2 : ℤ) + 1) := by
    exact_mod_cast Nat.lt_log2_self
  have lower : (2 : ℚ) ^ (estimate - 1) ≤ numerator / denominator := by
    rw [le_div_iff₀ denominatorPositive]
    calc (2 : ℚ) ^ (estimate - 1) * denominator ≤ 2 ^ (estimate - 1) * 2 ^ ((denominator.log2 : ℤ) + 1) := by gcongr
      _ = 2 ^ (numerator.log2 : ℤ) := by
        rw [← zpow_add₀ two_ne_zero]
        congr 1
        omega
      _ ≤ numerator := numeratorAbove
  have upper : (numerator : ℚ) / denominator < 2 ^ (estimate + 1) := by
    rw [div_lt_iff₀ denominatorPositive]
    calc (numerator : ℚ) < 2 ^ ((numerator.log2 : ℤ) + 1) := numeratorBelow
      _ = 2 ^ (estimate + 1) * 2 ^ (denominator.log2 : ℤ) := by
        rw [← zpow_add₀ two_ne_zero]
        congr 1
        omega
      _ ≤ 2 ^ (estimate + 1) * denominator := by gcongr
  split
  next below =>
    apply log_eq lower
    rw [sub_add_cancel]
    exact (div_lt_power_iff positive estimate).mpr below
  next above =>
    apply log_eq _ upper
    exact not_lt.mp (mt (div_lt_power_iff positive estimate).mp above)

theorem lastBit_eq (nonzero : numerator ≠ 0) (positive : 0 < denominator) :
    lastBit numerator denominator = binary64.exponent ((numerator : ℚ) / denominator) := by
  have log := log_ratio nonzero positive
  have absolute : |(numerator : ℚ) / denominator| = numerator / denominator := abs_of_nonneg (by positivity)
  simp only [lastBit, Format.exponent, absolute, log, binary64]
  congr 1
  omega

theorem le_log2_iff (natural exponent : ℕ) (positive : 0 < exponent) : exponent ≤ natural.log2 ↔ 2 ^ exponent ≤ natural := by
  by_cases zero : natural = 0
  · subst zero
    simp [Nat.log2_zero]
    omega
  · exact Nat.le_log2 zero

/-- The kept bits overflow exactly when the rounded number does. -/
theorem overflow_iff {bits : ℕ} (small : bits ≤ 2 ^ 53) (last : ℤ) :
    1024 ≤ (bits * 2 ^ last.toNat).log2 ↔ ¬ (bits : ℚ) * 2 ^ last < 2 ^ 1024 := by
  rw [le_log2_iff _ _ (by omega), not_lt]
  rcases le_total 0 last with positive | negative
  · obtain ⟨natural, rfl⟩ := Int.eq_ofNat_of_zero_le positive
    simp only [Int.toNat_natCast, zpow_natCast]
    norm_cast
  · have shifted : last.toNat = 0 := Int.toNat_of_nonpos negative
    have scale : (2 : ℚ) ^ last ≤ 1 := zpow_le_one_of_nonpos₀ one_le_two negative
    have below : (bits : ℚ) * 2 ^ last ≤ 2 ^ 53 := by
      calc (bits : ℚ) * 2 ^ last ≤ bits * 1 := by gcongr
        _ ≤ 2 ^ 53 := by
          rw [mul_one]
          exact_mod_cast small
    have apart : (2 : ℚ) ^ 53 < 2 ^ 1024 := pow_lt_pow_right₀ one_lt_two (by omega)
    have natural : (2 : ℕ) ^ 53 < 2 ^ 1024 := pow_lt_pow_right₀ one_lt_two (by omega)
    rw [shifted, pow_zero, mul_one]
    constructor
    · intro high
      omega
    · intro high
      exact absurd (high.trans below) apart.not_ge

theorem ofRatio_zero (denominator : ℕ) : ofRatio 0 denominator = .finite 0 := by
  simp [ofRatio, Nat.log2_zero]

/-- The nearest number of the format, unless that is out of range. -/
theorem ofRatio_eq (positive : 0 < denominator) :
    ofRatio numerator denominator =
      if binary64.round ((numerator : ℚ) / denominator) < 2 ^ 1024 then
        .finite (binary64.round ((numerator : ℚ) / denominator))
      else .infinite false := by
  by_cases nonzero : numerator = 0
  · subst nonzero
    rw [ofRatio_zero, Nat.cast_zero, zero_div, Format.round_zero, if_pos (by positivity)]
  · have same := lastBit_eq nonzero positive
    have bounded := binary64.significand_bounded ((numerator : ℚ) / denominator)
    rw [← same] at bounded
    set last := lastBit numerator denominator with lastBit
    have unit : 0 < denominator * 2 ^ last.toNat := by positivity
    have quotient : (numerator : ℚ) / denominator / 2 ^ last =
        (numerator * 2 ^ (-last).toNat : ℕ) / (denominator * 2 ^ last.toNat : ℕ) := by
      rw [power_eq_div, div_div_div_eq]
      push_cast
      rfl
    have nearest := nearestEven_div (K := ℚ) (numerator * 2 ^ (-last).toNat) unit
    rw [← quotient] at nearest
    unfold ofRatio
    simp only [← lastBit]
    set bits := if denominator * 2 ^ last.toNat < 2 * (numerator * 2 ^ (-last).toNat % (denominator * 2 ^ last.toNat)) ∨
        denominator * 2 ^ last.toNat = 2 * (numerator * 2 ^ (-last).toNat % (denominator * 2 ^ last.toNat)) ∧
          numerator * 2 ^ (-last).toNat / (denominator * 2 ^ last.toNat) % 2 = 1
      then numerator * 2 ^ (-last).toNat / (denominator * 2 ^ last.toNat) + 1
      else numerator * 2 ^ (-last).toNat / (denominator * 2 ^ last.toNat)
    have small : bits ≤ 2 ^ 53 := by
      rw [nearest, Nat.abs_cast] at bounded
      exact_mod_cast bounded
    have rounded : binary64.round ((numerator : ℚ) / denominator) = bits * 2 ^ last := by
      rw [Format.round, ← same, nearest, Int.cast_natCast]
    have value : mkRat (bits * 2 ^ last.toNat : ℕ) (2 ^ (-last).toNat) = bits * 2 ^ last := by
      rw [Rat.mkRat_eq_div, power_eq_div, mul_div_assoc']
      push_cast
      rfl
    rw [value, rounded]
    by_cases inside : (bits : ℚ) * 2 ^ last < 2 ^ 1024
    · rw [if_pos inside, if_neg (mt (overflow_iff small last).mp (not_not.mpr inside))]
    · rw [if_neg inside, if_pos ((overflow_iff small last).mpr inside)]

theorem ofRat_eq (number : ℚ) :
    ofRat number =
      if |binary64.round number| < 2 ^ 1024 then .finite (binary64.round number)
      else .infinite (decide (number < 0)) := by
  have magnitude : ((number.num.natAbs : ℕ) : ℚ) / number.den = |number| := by
    rw [Nat.cast_natAbs, Int.cast_abs, ← abs_of_pos (a := (number.den : ℚ)) (by exact_mod_cast number.pos), ← abs_div,
      Rat.num_div_den]
  have nearest : ofRatio number.num.natAbs number.den = _ := ofRatio_eq number.pos
  rw [magnitude] at nearest
  unfold ofRat
  rw [nearest]
  by_cases negative : number < 0
  · rw [if_pos negative, abs_of_neg negative, Format.round_neg, decide_eq_true negative]
    have below : binary64.round number ≤ 0 := by
      have mirrored := binary64.round_nonneg (neg_nonneg.mpr negative.le)
      rw [Format.round_neg] at mirrored
      linarith
    rw [abs_of_nonpos below]
    split <;> simp [neg]
  · have above := binary64.round_nonneg (not_lt.mp negative)
    rw [if_neg negative, abs_of_nonneg (not_lt.mp negative), abs_of_nonneg above, decide_eq_false negative]

/-- A value that a double can have. -/
def Valid : Double → Prop
  | .finite value => binary64.Representable value ∧ |value| < 2 ^ 1024
  | _ => True

theorem valid_ofRat (number : ℚ) : (ofRat number).Valid := by
  rw [ofRat_eq]
  split
  next inside => exact ⟨binary64.representable_round number, inside⟩
  next => exact trivial

theorem valid_neg {number : Double} (valid : number.Valid) : number.neg.Valid := by
  cases number with
  | finite value =>
    obtain ⟨⟨significand, exponent, small, allowed, equal⟩, inside⟩ := valid
    refine ⟨⟨-significand, exponent, by rwa [abs_neg], allowed, ?_⟩, by rwa [abs_neg]⟩
    rw [equal, Int.cast_neg, neg_mul]
  | _ => trivial

theorem representable_intCast {whole : ℤ} (small : |whole| ≤ 2 ^ 53) : binary64.Representable (whole : ℚ) :=
  have whole : (whole : ℚ) = whole * 2 ^ (0 : ℤ) := by simp
  Format.representable_of_le small (by decide) whole

theorem roundMagnitude_eq (magnitude : ℕ) : (roundMagnitude magnitude : ℚ) = binary64.round (magnitude : ℚ) := by
  by_cases long : 52 ≤ magnitude.log2
  · have nonzero : magnitude ≠ 0 := by
      rintro rfl
      simp [Nat.log2_zero] at long
    have log : Int.log 2 |(magnitude : ℚ)| = magnitude.log2 := by
      rw [Nat.abs_cast]
      apply log_eq
      · exact_mod_cast Nat.log2_self_le nonzero
      · exact_mod_cast Nat.lt_log2_self
    have exponent : binary64.exponent (magnitude : ℚ) = (magnitude.log2 - 52 : ℕ) := by
      rw [Format.exponent, log]
      simp only [binary64]
      omega
    have nearest := nearestEven_div (K := ℚ) magnitude (Nat.two_pow_pos (magnitude.log2 - 52))
    rw [Nat.cast_pow, Nat.cast_two] at nearest
    rw [Format.round, exponent, zpow_natCast, nearest, Int.cast_natCast, roundMagnitude]
    split
    · push_cast
      rfl
    · push_cast
      rfl
  · have small : magnitude < 2 ^ 53 := by
      apply Nat.lt_log2_self.trans_le
      exact Nat.pow_le_pow_right two_pos (by omega)
    have exact : binary64.Representable ((magnitude : ℤ) : ℚ) := by
      apply representable_intCast
      rw [Nat.abs_cast]
      exact_mod_cast small.le
    rw [Int.cast_natCast] at exact
    rw [Format.round_of_representable exact, roundMagnitude, Nat.sub_eq_zero_of_le (by omega)]
    simp [Nat.mod_one]

theorem ofInt_eq (number : ℤ) : ofInt number = .finite (binary64.round (number : ℚ)) := by
  rw [ofInt]
  congr 1
  rcases le_total 0 number with positive | negative
  · obtain ⟨natural, rfl⟩ := Int.eq_ofNat_of_zero_le positive
    rw [Int.natAbs_natCast, Int.cast_mul, Int.cast_natCast, roundMagnitude_eq, Int.cast_natCast]
    by_cases zero : natural = 0
    · subst zero
      simp
    · rw [Int.sign_natCast_of_ne_zero zero, Int.cast_one, one_mul]
  · obtain ⟨natural, opposite⟩ := Int.eq_ofNat_of_zero_le (neg_nonneg.mpr negative)
    obtain rfl : number = -natural := by omega
    rw [Int.natAbs_neg, Int.natAbs_natCast, Int.cast_mul, Int.cast_natCast, roundMagnitude_eq, Int.cast_neg,
      Format.round_neg, Int.cast_natCast, Int.sign_neg]
    by_cases zero : natural = 0
    · subst zero
      simp
    · rw [Int.sign_natCast_of_ne_zero zero]
      push_cast
      ring

theorem ofInt_small {number : ℤ} (small : |number| ≤ 2 ^ 53) : ofInt number = .finite number := by
  rw [ofInt_eq, Format.round_of_representable (representable_intCast small)]

/-- What is representable is answered exactly. -/
theorem ofRat_exact {number : ℚ} (valid : (finite number).Valid) : ofRat number = .finite number := by
  rw [ofRat_eq, Format.round_of_representable valid.1, if_pos valid.2]

theorem ofRat_whole {number : ℤ} (small : |number| ≤ 2 ^ 53) : ofRat number = .finite number := by
  apply ofRat_exact
  have apart : (2 : ℚ) ^ 53 < 2 ^ 1024 := pow_lt_pow_right₀ one_lt_two (by omega)
  have bounded : |(number : ℚ)| ≤ 2 ^ 53 := by exact_mod_cast small
  exact ⟨representable_intCast small, bounded.trans_lt apart⟩

theorem valid_ofRatio {numerator denominator : ℕ} (positive : 0 < denominator) : (ofRatio numerator denominator).Valid := by
  rw [ofRatio_eq positive]
  split
  next inside =>
    have quotient : (0 : ℚ) ≤ (numerator : ℚ) / denominator :=
      div_nonneg (Nat.cast_nonneg numerator) (Nat.cast_nonneg denominator)
    have above := binary64.round_nonneg quotient
    refine ⟨binary64.representable_round _, ?_⟩
    rw [abs_of_nonneg above]
    exact inside
  next => trivial

theorem valid_unsigned {text : List Char} {number : Double} (read : unsigned text = some number) : number.Valid := by
  unfold unsigned at read
  dsimp only at read
  split at read
  all_goals
    split at read
    · cases read
    · obtain ⟨written, -, rfl⟩ := Option.map_eq_some_iff.mp read
      exact valid_ofRatio (by positivity)

theorem valid_ofText {text : List Char} {number : Double} (read : ofText text = some number) : number.Valid := by
  unfold ofText at read
  split at read
  · cases read
    trivial
  · split at read
    · cases read
      trivial
    · exact valid_unsigned read

end Double

theorem valid_parseDouble {source : String} {number : Double} (parsed : parseDouble source = .ok number) :
    number.Valid := by
  unfold parseDouble at parsed
  dsimp only at parsed
  split at parsed
  next read =>
    cases parsed
    split at read
    · obtain ⟨opposite, found, rfl⟩ := Option.map_eq_some_iff.mp read
      exact Double.valid_neg (Double.valid_ofText found)
    · exact Double.valid_ofText read
    · exact Double.valid_ofText read
  next => cases parsed

section
variable {digits : List Char} (all : digits.all Char.isDigit = true)
include all

theorem ofText_digits (typed : digits ≠ []) : Double.ofText digits = some (.ofRatio (Decimal.value digits) 1) := by
  have digit := List.all_eq_true.mp all
  have notNumber : digits ≠ "NaN".toList := by
    rintro rfl
    exact absurd (digit 'N' (by simp)) (by decide)
  have notInfinity : digits ≠ "Infinity".toList := by
    rintro rfl
    exact absurd (digit 'I' (by simp)) (by decide)
  have whole : digits.takeWhile Char.isDigit = digits := List.takeWhile_eq_self_iff.mpr digit
  have nothing : digits.dropWhile Char.isDigit = [] := List.dropWhile_eq_nil_iff.mpr digit
  rw [Double.ofText, if_neg notNumber, if_neg notInfinity, Double.unsigned]
  simp [whole, nothing, typed, Double.exponent]

/-- A whole number, written in digits, is read exactly up to two to the power of 53. -/
theorem parseDouble_digits {source : String} (written : trim source.toList = digits) (typed : digits ≠ [])
    (small : Decimal.value digits ≤ 2 ^ 53) : parseDouble source = .ok (.finite (Decimal.value digits)) := by
  have exact : Double.ofRatio (Decimal.value digits) 1 = .finite (Decimal.value digits) := by
    have smallCast : |((Decimal.value digits : ℕ) : ℤ)| ≤ 2 ^ 53 := by
      rw [Nat.abs_cast]
      exact_mod_cast small
    have whole := Double.ofRat_whole smallCast
    have positive : ¬ ((Decimal.value digits : ℤ) : ℚ) < 0 := by
      rw [Int.cast_natCast]
      exact not_lt.mpr (Nat.cast_nonneg _)
    rw [Double.ofRat, if_neg positive] at whole
    simpa using whole
  have read := ofText_digits all typed
  rw [exact] at read
  obtain ⟨first, rest, rfl⟩ := List.exists_cons_of_ne_nil typed
  have digit : first.isDigit = true := by
    rw [List.all_cons, Bool.and_eq_true] at all
    exact all.1
  unfold parseDouble
  rw [written]
  split
  next minus =>
    rw [List.cons.injEq] at minus
    rw [minus.1] at digit
    exact absurd digit (by decide)
  next plus =>
    rw [List.cons.injEq] at plus
    rw [plus.1] at digit
    exact absurd digit (by decide)
  next => rw [read]

end
end Clubzey.Dart
