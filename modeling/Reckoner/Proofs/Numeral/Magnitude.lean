import Mathlib.Tactic.Linarith
import Reckoner.Proofs.Binary64.Nearest
import Reckoner.Proofs.Numeral.Literal

/-!
# Numeral — magnitudes

Which decimals are read as a zero and which as an infinity: those whose value `Vanishes` and
those whose value `Overflows`. The bounds that spare powers of ten agree with what is
rounded: only the exact value of a decimal counts.
-/

namespace Reckoner

/-- Whether `magnitude` is so small that it is rounded to zero. -/
def Vanishes (magnitude : ℚ) : Prop := magnitude ≤ 2 ^ (-1075 : ℤ)

/-- Whether `magnitude` is so great that it is rounded to infinity. -/
def Overflows (magnitude : ℚ) : Prop := 2 ^ 1024 - 2 ^ 970 ≤ magnitude

variable {magnitude : ℚ}

/-! ## Powers of two and of ten -/

theorem vanishes_iff : Vanishes magnitude ↔ magnitude * (2 * 2 ^ 1074) ≤ 1 := by
  have hpow : (2 : ℚ) ^ (-1075 : ℤ) = 1 / (2 * 2 ^ 1074) := by
    rw [zpow_neg, one_div, ← pow_succ']
    rfl
  rw [Vanishes, hpow, le_div_iff₀ (by positivity)]

theorem overflows_iff : Overflows magnitude ↔ 0x3FFFFFFFFFFFFF * 2 ^ 970 ≤ magnitude := by
  have hpow : (2 : ℚ) ^ 1024 = 2 ^ 54 * 2 ^ 970 := by rw [← pow_add]
  have hmiddle : (2 : ℚ) ^ 54 - 1 = 0x3FFFFFFFFFFFFF := by norm_num
  rw [Overflows, hpow, ← sub_one_mul, hmiddle]

theorem Vanishes.not_overflows (h : Vanishes magnitude) : ¬ Overflows magnitude := by
  have hsmall : (2 : ℚ) ^ (-1075 : ℤ) < 1 := zpow_lt_one_of_neg₀ (by norm_num) (by norm_num)
  have hgreat : (1 : ℚ) ≤ 0x3FFFFFFFFFFFFF * 2 ^ 970 :=
    one_le_mul_of_one_le_of_one_le (by norm_num) (one_le_pow₀ (by norm_num))
  rw [overflows_iff, not_le]
  exact h.trans_lt (hsmall.trans_le hgreat)

theorem Overflows.not_vanishes (h : Overflows magnitude) : ¬ Vanishes magnitude :=
  fun hsmall => hsmall.not_overflows h

theorem overflows_of_le (h : 10 ^ 310 ≤ magnitude) : Overflows magnitude := by
  have hpow : (2 : ℚ) ^ 1024 ≤ 10 ^ 310 := by
    exact_mod_cast (by decide +kernel : (2 : ℕ) ^ 1024 ≤ 10 ^ 310)
  have hpos : (0 : ℚ) < 2 ^ 970 := by positivity
  exact (sub_le_self _ hpos.le).trans (hpow.trans h)

theorem vanishes_of_le (h : magnitude ≤ 10 ^ (-324 : ℤ)) : Vanishes magnitude := by
  have hpow : (2 : ℚ) ^ 1075 ≤ 10 ^ 324 := by
    exact_mod_cast (by decide +kernel : (2 : ℕ) ^ 1075 ≤ 10 ^ 324)
  refine h.trans ?_
  rw [zpow_neg, zpow_neg]
  exact inv_anti₀ (by positivity) hpow

theorem cast_eq_pow {num base power : ℕ} (h : num = base ^ power) :
    (num : ℚ) = (base : ℚ) ^ power := by
  rw [h, Nat.cast_pow]

/-- The power of ten of a decimal is a quotient of two powers with natural exponents. -/
theorem ten_zpow_mul (exponent : ℤ) :
    (10 : ℚ) ^ exponent * 10 ^ (-exponent).toNat = 10 ^ exponent.toNat := by
  rw [← zpow_natCast, ← zpow_natCast, ← zpow_add₀ (by norm_num)]
  congr 1
  omega

/-! ## Rounding a quotient of units -/

namespace Binary64

variable {negative : Bool} {num den : ℕ}

theorem cast_unitsPerOne : (unitsPerOne : ℚ) = 2 ^ 1074 := cast_eq_pow (by decide +kernel)

theorem isZero_round_iff_vanishes (hden : 0 < den)
    (h : (num : ℚ) = magnitude * 2 ^ 1074 * den) :
    (round negative num den).isZero = true ↔ Vanishes magnitude := by
  have hpos : (0 : ℚ) < den := by exact_mod_cast hden
  have hnum : 2 * (num : ℚ) = magnitude * (2 * 2 ^ 1074) * den := by
    rw [h]
    generalize (2 : ℚ) ^ 1074 = unit
    ring
  rw [isZero_round_iff hden, ← Nat.cast_le (α := ℚ), Nat.cast_mul, Nat.cast_two, hnum,
    mul_le_iff_le_one_left hpos, vanishes_iff]

theorem round_eq_infinite_iff_overflows (hden : 0 < den)
    (h : (num : ℚ) = magnitude * 2 ^ 1074 * den) :
    round negative num den = .infinite negative ↔ Overflows magnitude := by
  have hpos : (0 : ℚ) < 2 * 2 ^ 1074 * den := by positivity
  have hpow : (2 : ℚ) ^ 2045 = 2 * 2 ^ 1074 * 2 ^ 970 := by rw [← pow_succ', ← pow_add]
  have hbound : ((0x3FFFFFFFFFFFFF * 2 ^ 2045 * den : ℕ) : ℚ) =
      0x3FFFFFFFFFFFFF * 2 ^ 970 * (2 * 2 ^ 1074 * den) := by
    rw [Nat.cast_mul, Nat.cast_mul, Nat.cast_pow, Nat.cast_ofNat, Nat.cast_ofNat, hpow]
    generalize (2 : ℚ) ^ 1074 = unit, (2 : ℚ) ^ 970 = last
    ring
  have hnum : ((2 * num : ℕ) : ℚ) = magnitude * (2 * 2 ^ 1074 * den) := by
    rw [Nat.cast_mul, Nat.cast_ofNat, h]
    generalize (2 : ℚ) ^ 1074 = unit
    ring
  rw [round_eq_infinite_iff hden, ← Nat.cast_le (α := ℚ), hbound, hnum,
    mul_le_mul_iff_left₀ hpos, overflows_iff]

end Binary64

/-! ## Rounding a decimal -/

namespace Numeral

variable {negative : Bool} {coefficient : ℕ} {exponent : ℤ}

theorem overflows_of_exponent (hcoefficient : coefficient ≠ 0) (h : 310 ≤ exponent) :
    Overflows ((coefficient : ℚ) * 10 ^ exponent) := by
  have hone : (1 : ℚ) ≤ coefficient := by exact_mod_cast Nat.one_le_iff_ne_zero.2 hcoefficient
  have hpow : (10 : ℚ) ^ (310 : ℤ) ≤ 10 ^ exponent := zpow_le_zpow_right₀ (by norm_num) h
  apply overflows_of_le
  calc (10 : ℚ) ^ 310 ≤ 10 ^ exponent := hpow
    _ ≤ coefficient * 10 ^ exponent := le_mul_of_one_le_left (by positivity) hone

theorem vanishes_of_exponent (h : exponent + coefficient.log2 + 1 ≤ -324) :
    Vanishes ((coefficient : ℚ) * 10 ^ exponent) := by
  -- A power of ten in place of the power of two is far too much, and enough.
  have hlog : (coefficient : ℚ) ≤ 10 ^ (coefficient.log2 + 1) := by
    have htwo : coefficient ≤ 10 ^ (coefficient.log2 + 1) :=
      Nat.lt_log2_self.le.trans (Nat.pow_le_pow_left (by decide) _)
    exact_mod_cast htwo
  apply vanishes_of_le
  calc (coefficient : ℚ) * 10 ^ exponent
      ≤ 10 ^ (coefficient.log2 + 1) * 10 ^ exponent :=
        mul_le_mul_of_nonneg_right hlog (by positivity)
    _ = 10 ^ (exponent + coefficient.log2 + 1) := by
        rw [← zpow_natCast, ← zpow_add₀ (by norm_num)]
        congr 1
        push_cast
        ring
    _ ≤ 10 ^ (-324 : ℤ) := zpow_le_zpow_right₀ (by norm_num) h

/-- What `roundDecimal` hands to `Binary64.round` is the value of a decimal in units of
`2^-1074`. -/
theorem cast_scaled (coefficient : ℕ) (exponent : ℤ) :
    ((coefficient * Nat.pow 10 exponent.toNat * Binary64.unitsPerOne : ℕ) : ℚ) =
      (coefficient : ℚ) * 10 ^ exponent * 2 ^ 1074 * (Nat.pow 10 (-exponent).toNat : ℕ) := by
  have hpow := ten_zpow_mul exponent
  have hscale : ∀ power, ((Nat.pow 10 power : ℕ) : ℚ) = 10 ^ power := fun power => cast_eq_pow rfl
  rw [Nat.cast_mul, Nat.cast_mul, Binary64.cast_unitsPerOne, hscale, hscale, ← hpow]
  generalize (2 : ℚ) ^ 1074 = unit
  ring

/-- A decimal is read as a zero exactly if its value `Vanishes`, also where `roundDecimal` forms
no power of ten. -/
theorem isZero_roundDecimal_iff : (roundDecimal negative coefficient exponent).isZero = true ↔
    Vanishes ((coefficient : ℚ) * 10 ^ exponent) := by
  rw [roundDecimal]
  split
  · next hzero => simp [hzero, Vanishes, Binary64.zero, Binary64.isZero]
  split
  · next hcoefficient hgreat =>
    have hover := overflows_of_exponent hcoefficient hgreat
    simp [Binary64.isZero, hover.not_vanishes]
  split
  · next hsmall => simp [Binary64.zero, Binary64.isZero, vanishes_of_exponent hsmall]
  · exact Binary64.isZero_round_iff_vanishes (Nat.pow_pos (by decide)) (cast_scaled _ _)

/-- A decimal is read as an infinity exactly if its value `Overflows`, also where `roundDecimal`
forms no power of ten. -/
theorem roundDecimal_eq_infinite_iff :
    roundDecimal negative coefficient exponent = .infinite negative ↔
      Overflows ((coefficient : ℚ) * 10 ^ exponent) := by
  rw [roundDecimal]
  split
  · next hzero =>
    have hsmall : Vanishes ((coefficient : ℚ) * 10 ^ exponent) := by simp [hzero, Vanishes]
    simp [Binary64.zero, hsmall.not_overflows]
  split
  · next hcoefficient hgreat => simp [overflows_of_exponent hcoefficient hgreat]
  split
  · next hsmall => simp [Binary64.zero, (vanishes_of_exponent hsmall).not_overflows]
  · exact Binary64.round_eq_infinite_iff_overflows (Nat.pow_pos (by decide)) (cast_scaled _ _)

end Numeral

end Reckoner
