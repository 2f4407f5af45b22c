import Mathlib.Data.List.DropRight
import Reckoner.Decimal.Shortest
import Reckoner.Proofs.Numeral.Plain
import Reckoner.Proofs.Numeral.Value

/-!
# Decimal — shortest digits

The decimal found for a magnitude is read back as it, whatever the search comes to:
`shortest` goes through candidates that were read back, and if there are none, it ends with
the exact value of the magnitude, which is a decimal itself. Dropping the zeros at the end
of the digits does not change the value.
-/

namespace Reckoner

namespace Decimal

def value (decimal : Decimal) : ℚ :=
  (Numeral.ofDigits decimal.digits : ℚ) * 10 ^ (decimal.point - decimal.digits.length)

/-! ## Decimals of a coefficient -/

section Coefficient

variable {coefficient : ℕ} {exponent : ℤ}

/-- The digits of a coefficient are those that `dropTrailingZeros` keeps and zeros. -/
theorem exists_toDigits_eq (coefficient : ℕ) : ∃ zeros,
    Nat.toDigits 10 coefficient =
      dropTrailingZeros (Nat.toDigits 10 coefficient) ++ List.replicate zeros '0' := by
  generalize Nat.toDigits 10 coefficient = digits
  have hzeros : ∀ c ∈ digits.rtakeWhile (· == '0'), c = '0' := by
    intro c hc
    simpa using List.mem_rtakeWhile_imp hc
  refine ⟨(digits.rtakeWhile (· == '0')).length, ?_⟩
  rw [← List.eq_replicate_of_mem hzeros]
  exact List.rdropWhile_append_rtakeWhile.symm

theorem ofDigits_toDigits (coefficient : ℕ) :
    Numeral.ofDigits (Nat.toDigits 10 coefficient) = coefficient :=
  Nat.ofDigitChars_ten_toDigits

theorem value_ofCoefficient :
    (ofCoefficient coefficient exponent).value = coefficient * 10 ^ exponent := by
  obtain ⟨zeros, hdigits⟩ := exists_toDigits_eq coefficient
  have hcoefficient := ofDigits_toDigits coefficient
  rw [value, ofCoefficient]
  generalize dropTrailingZeros (Nat.toDigits 10 coefficient) = kept at *
  rw [hdigits, Numeral.ofDigits_append_replicate] at hcoefficient
  have hpoint : ((Nat.toDigits 10 coefficient).length + exponent - kept.length : ℤ) =
      zeros + exponent := by
    rw [hdigits, List.length_append, List.length_replicate]
    omega
  rw [hpoint, zpow_add₀ (by norm_num), ← hcoefficient, Nat.cast_mul, Nat.cast_pow,
    Nat.cast_ofNat, zpow_natCast, mul_assoc]

theorem allIn_digits_ofCoefficient (h : coefficient ≠ 0) :
    AllIn Char.isDigit (ofCoefficient coefficient exponent).digits := by
  obtain ⟨zeros, hdigits⟩ := exists_toDigits_eq coefficient
  have hcoefficient := ofDigits_toDigits coefficient
  have hall : ∀ c ∈ Nat.toDigits 10 coefficient, c.isDigit = true := by
    intro c hc
    exact Nat.isDigit_of_mem_toDigits (by decide) (by decide) hc
  rw [ofCoefficient]
  generalize dropTrailingZeros (Nat.toDigits 10 coefficient) = kept at *
  rw [hdigits] at hcoefficient hall
  refine ⟨?_, (List.forall_mem_append.1 hall).1⟩
  rintro rfl
  rw [Numeral.ofDigits_append_replicate] at hcoefficient
  exact h (hcoefficient.symm.trans (Nat.zero_mul _))

end Coefficient

/-! ## The search -/

/-- The exact value of a magnitude is read back as it, so `shortest` has something to fall back
on. -/
theorem readsBack_exactCoefficient (rank : Rank) :
    ReadsBack rank (exactCoefficient rank) (-1074) := by
  have hzero : (-1074 : ℤ).toNat = 0 := rfl
  have hscale : (- -1074 : ℤ).toNat = 1074 := rfl
  rw [ReadsBack, Numeral.roundDecimal_eq_round, exactCoefficient, hzero, hscale]
  unfold Binary64.unitsPerOne
  -- As a numeral the exponent would be computed with.
  generalize 1074 = power
  have hten : Nat.pow 5 power * Nat.pow 2 power = Nat.pow 10 power := (Nat.mul_pow 5 2 power).symm
  have hpos : 0 < Nat.pow 10 power := Nat.pow_pos (by decide)
  have hone : Nat.pow 10 0 = 1 := rfl
  rw [hone, Nat.mul_one, Nat.mul_assoc, hten, Binary64.round,
    Binary64.nearestRank_units rank.val hpos, Binary64.ofRank, dif_pos rank.isLt]

theorem ReadsBack.coefficient_ne_zero {rank : Rank} {coefficient : ℕ} {exponent : ℤ}
    (h : ReadsBack rank coefficient exponent) (hrank : rank.val ≠ 0) : coefficient ≠ 0 := by
  rintro rfl
  rw [ReadsBack, Numeral.roundDecimal, if_pos rfl, Binary64.zero, Binary64.finite.injEq] at h
  exact hrank (congrArg Fin.val h.2.symm)

/-- A `candidate?` was read back before it became one. -/
theorem exists_of_candidate? {rank : Rank} {dropped : ℕ} {decimal : Decimal}
    (h : candidate? rank dropped = some decimal) : ∃ coefficient exponent,
      decimal = ofCoefficient coefficient exponent ∧ ReadsBack rank coefficient exponent := by
  rw [candidate?, Option.map_eq_some_iff] at h
  obtain ⟨coefficient, hfound, rfl⟩ := h
  exact ⟨coefficient, _, rfl, by simpa using List.find?_some hfound⟩

theorem exists_shortest_eq (rank : Rank) : ∃ coefficient exponent,
    shortest rank = ofCoefficient coefficient exponent ∧
      ReadsBack rank coefficient exponent := by
  rw [shortest]
  -- Where no candidate is found the exact value is taken, and that is read back too.
  cases hfound : (List.range (Nat.toDigits 10 (exactCoefficient rank)).length).reverse.findSome?
      (candidate? rank) with
  | none => exact ⟨_, _, rfl, readsBack_exactCoefficient rank⟩
  | some decimal =>
    obtain ⟨dropped, -, hcandidate⟩ := List.exists_of_findSome?_eq_some hfound
    exact exists_of_candidate? hcandidate

theorem allIn_digits_shortest {rank : Rank} (hrank : rank.val ≠ 0) :
    AllIn Char.isDigit (shortest rank).digits := by
  obtain ⟨coefficient, exponent, heq, hread⟩ := exists_shortest_eq rank
  rw [heq]
  exact allIn_digits_ofCoefficient (hread.coefficient_ne_zero hrank)

/-- Whatever has the value of `shortest rank` is read back as that magnitude. -/
theorem readsBack_of_value {rank : Rank} {coefficient : ℕ} {exponent : ℤ}
    (h : (shortest rank).value = coefficient * 10 ^ exponent) :
    ReadsBack rank coefficient exponent := by
  obtain ⟨found, power, heq, hread⟩ := exists_shortest_eq rank
  rw [heq, value_ofCoefficient] at h
  exact (Numeral.roundDecimal_congr h).symm.trans hread

end Decimal

end Reckoner
