import Reckoner.Proofs.Numeral.Magnitude

/-!
# Numeral — values

What a decimal is rounded to is settled by its value. A coefficient and a power of ten are
one of many ways to write it down, and so is the quotient of units that is rounded: equal
quotients have the same nearest magnitude. The bounds that spare powers of ten only spare
work.
-/

namespace Reckoner

namespace Binary64

variable {negative : Bool} {num den other divisor : ℕ}

theorem nearestRank_congr (hden : 0 < den) (hdivisor : 0 < divisor)
    (h : num * divisor = other * den) : nearestRank num den = nearestRank other divisor := by
  refine eq_of_forall_lt_iff fun rank => ?_
  rw [lt_nearestRank_iff rank num hden, lt_nearestRank_iff rank other hdivisor]
  generalize units rank + units (rank + 1) = middle
  -- Over the common divisor both quotients are compared with the same middle.
  have hmiddle : middle * den * divisor = middle * divisor * den := Nat.mul_right_comm _ _ _
  have hnum : 2 * num * divisor = 2 * other * den := by rw [mul_assoc, h, mul_assoc]
  have hlt : middle * den < 2 * num ↔ middle * divisor < 2 * other := by
    rw [← Nat.mul_lt_mul_right hdivisor, hmiddle, hnum, Nat.mul_lt_mul_right hden]
  have heq : middle * den = 2 * num ↔ middle * divisor = 2 * other := by
    rw [← Nat.mul_left_inj hdivisor.ne', hmiddle, hnum, Nat.mul_left_inj hden.ne']
  rw [hlt, heq]

theorem round_congr (hden : 0 < den) (hdivisor : 0 < divisor) (h : num * divisor = other * den) :
    round negative num den = round negative other divisor := by
  rw [round, round, nearestRank_congr hden hdivisor h]

theorem round_eq_zero (h : (round negative num den).isZero = true) :
    round negative num den = .zero negative := by
  rw [round, isZero_ofRank] at h
  rw [round, h]
  rfl

end Binary64

namespace Numeral

variable {negative : Bool} {coefficient other : ℕ} {exponent power : ℤ}

/-- A decimal is rounded as the quotient of units that it is, also where `roundDecimal` does not
form it. -/
theorem roundDecimal_eq_round : roundDecimal negative coefficient exponent =
    .round negative (coefficient * Nat.pow 10 exponent.toNat * Binary64.unitsPerOne)
      (Nat.pow 10 (-exponent).toNat) := by
  have hden : 0 < Nat.pow 10 (-exponent).toNat := Nat.pow_pos (by decide)
  have hscaled := cast_scaled coefficient exponent
  -- In each of the three short cuts rounding the quotient would come to the same.
  rw [roundDecimal]
  split
  · next hzero =>
    have hvanishes : Vanishes ((coefficient : ℚ) * 10 ^ exponent) := by simp [hzero, Vanishes]
    exact (Binary64.round_eq_zero
      ((Binary64.isZero_round_iff_vanishes hden hscaled).2 hvanishes)).symm
  split
  · next hcoefficient hgreat =>
    exact ((Binary64.round_eq_infinite_iff_overflows hden hscaled).2
      (overflows_of_exponent hcoefficient hgreat)).symm
  split
  · next hsmall =>
    exact (Binary64.round_eq_zero
      ((Binary64.isZero_round_iff_vanishes hden hscaled).2 (vanishes_of_exponent hsmall))).symm
  · rfl

/-- Decimals of the same value are rounded to the same number. -/
theorem roundDecimal_congr (h : (coefficient : ℚ) * 10 ^ exponent = other * 10 ^ power) :
    roundDecimal negative coefficient exponent = roundDecimal negative other power := by
  rw [roundDecimal_eq_round, roundDecimal_eq_round]
  refine Binary64.round_congr (Nat.pow_pos (by decide)) (Nat.pow_pos (by decide)) ?_
  have hleft := cast_scaled coefficient exponent
  have hright := cast_scaled other power
  rw [← h] at hright
  apply Nat.cast_injective (R := ℚ)
  rw [Nat.cast_mul (_ * Binary64.unitsPerOne), Nat.cast_mul (_ * Binary64.unitsPerOne), hleft,
    hright]
  generalize (2 : ℚ) ^ 1074 = unit
  ring

end Numeral

end Reckoner
