import Mathlib.Algebra.Order.Field.Rat
import Mathlib.Order.Monotone.Basic
import Mathlib.Tactic.Ring
import Reckoner.Binary64.Basic

/-!
# Binary64 — nearest magnitudes

`lt_nearestRank_iff` is the law of rounding: a magnitude is rounded beyond a rank exactly if
it lies beyond the middle between the magnitudes of this rank and of the next one, or in the
middle if the rank is odd. So a magnitude of the format is rounded to itself. Two middles
matter by themselves: half a unit is still rounded to zero, and halfway from the greatest
finite magnitude to the next power of two is already rounded to infinity.
-/

namespace Reckoner

/-! ## Rounding a quotient -/

/-- The rounded quotient is beyond `place` if `num / den` is beyond the middle between it and
`place + 1`. In the middle the even one of the two is taken. -/
theorem lt_roundDiv_iff (place num : ℕ) {den : ℕ} (hden : 0 < den) :
    place < roundDiv num den ↔ (2 * place + 1) * den < 2 * num ∨
      (2 * place + 1) * den = 2 * num ∧ place % 2 = 1 := by
  have hnum := Nat.div_add_mod num den
  have hmod := Nat.mod_lt num hden
  have hmiddle : (2 * place + 1) * den = 2 * (den * place) + den := by ring
  rw [hmiddle, roundDiv]
  generalize num / den = quotient at *
  generalize num % den = rest at *
  -- Only at the quotient itself does the rest decide, and with it the parity.
  rcases Nat.lt_trichotomy place quotient with hlt | rfl | hgt
  · have hle : den * place + den ≤ den * quotient := Nat.mul_le_mul_left den hlt
    split <;> omega
  · split
    · next h =>
      have hrest := Nat.compare_eq_lt.1 h
      omega
    · next h =>
      have hrest := Nat.compare_eq_gt.1 h
      omega
    · next h =>
      have hrest := Nat.compare_eq_eq.1 h
      omega
  · have hle : den * quotient + den ≤ den * place := Nat.mul_le_mul_left den hgt
    split <;> omega

theorem roundDiv_le {place num den : ℕ} (hden : 0 < den) (h : num ≤ place * den) :
    roundDiv num den ≤ place := by
  rw [← Nat.not_lt, lt_roundDiv_iff place num hden]
  have hmiddle : (2 * place + 1) * den = 2 * (place * den) + den := by ring
  omega

theorem le_roundDiv {place num den : ℕ} (hden : 0 < den) (h : place * den ≤ num) :
    place ≤ roundDiv num den := by
  cases place with
  | zero => exact Nat.zero_le _
  | succ place =>
    have hnext : (place + 1) * den = place * den + den := Nat.succ_mul place den
    have hmiddle : (2 * place + 1) * den = 2 * (place * den) + den := by ring
    exact (lt_roundDiv_iff place num hden).2 (.inl (by omega))

namespace Binary64

/-! ## The grid of the magnitudes -/

/-- Where `rank` stands: among the first `2^53` ranks, or among those between two powers of two,
whose magnitudes are `2^shift` units apart. -/
structure OnGrid (rank shift place : ℕ) : Prop where
  rank_eq : rank = shift * 0x10000000000000 + place
  place_lt : place < 0x20000000000000
  le_place : 0 < shift → 0x10000000000000 ≤ place

theorem exists_onGrid (rank : ℕ) : ∃ shift place, OnGrid rank shift place := by
  by_cases h : rank < 0x20000000000000
  · exact ⟨0, rank, ⟨by omega, h, by omega⟩⟩
  · refine ⟨rank / 0x10000000000000 - 1, 0x10000000000000 + rank % 0x10000000000000, ?_, ?_, ?_⟩
      <;> omega

namespace OnGrid

variable {rank shift place : ℕ}

theorem units_eq (h : OnGrid rank shift place) : units rank = place * 2 ^ shift := by
  obtain ⟨rfl, hlt, hle⟩ := h
  rw [units]
  split
  · have hshift : shift = 0 := by omega
    subst hshift
    omega
  · by_cases hplace : place < 0x10000000000000
    · omega
    · have hmod : (shift * 0x10000000000000 + place) % 0x10000000000000 =
          place - 0x10000000000000 := by omega
      have hdiv : (shift * 0x10000000000000 + place) / 0x10000000000000 - 1 = shift := by omega
      have hsum : 0x10000000000000 + (place - 0x10000000000000) = place := by omega
      simp only [hmod, hdiv, hsum, Nat.pow_eq]

/-- The next magnitude is one `place` further, also over a power of two. -/
theorem units_succ (h : OnGrid rank shift place) :
    units (rank + 1) = (place + 1) * 2 ^ shift := by
  obtain ⟨hrank, hlt, hle⟩ := h
  by_cases hnext : place + 1 < 0x20000000000000
  · exact units_eq ⟨by omega, hnext, fun hshift => (hle hshift).trans (Nat.le_succ _)⟩
  · have hgrid : OnGrid (rank + 1) (shift + 1) 0x10000000000000 :=
      ⟨by omega, by decide, fun _ => Nat.le_refl _⟩
    have hplace : place + 1 = 0x10000000000000 * 2 := by omega
    rw [hgrid.units_eq, hplace, Nat.pow_succ]
    ring

end OnGrid

/-! ## The nearest rank -/

variable {num den : ℕ}

/-- The place to which `num / den` is rounded, with the bounds of the power of two that `shift`
belongs to. -/
theorem exists_nearestRank_eq (num : ℕ) (hden : 0 < den) :
    ∃ shift, nearestRank num den = shift * 0x10000000000000 + roundDiv num (den * 2 ^ shift) ∧
      num < 0x20000000000000 * (den * 2 ^ shift) ∧
      (0 < shift → 0x10000000000000 * (den * 2 ^ shift) ≤ num) := by
  refine ⟨(num / den).log2 - 52, by simp [nearestRank], ?_, ?_⟩
  · have hlt : num < 2 ^ ((num / den).log2 + 1) * den :=
      (Nat.div_lt_iff_lt_mul hden).1 Nat.lt_log2_self
    have hpow : 2 ^ ((num / den).log2 + 1) ≤ 2 ^ (53 + ((num / den).log2 - 52)) :=
      Nat.pow_le_pow_right (by decide) (by omega)
    calc num < 2 ^ ((num / den).log2 + 1) * den := hlt
      _ ≤ 2 ^ (53 + ((num / den).log2 - 52)) * den := Nat.mul_le_mul_right den hpow
      _ = 0x20000000000000 * (den * 2 ^ ((num / den).log2 - 52)) := by
        rw [pow_add]
        ring
  · -- Without truncation at 52 the logarithm gives the bound from below.
    intro hshift
    have hne : num / den ≠ 0 := by
      intro hzero
      simp [hzero] at hshift
    have hlog : (num / den).log2 = 52 + ((num / den).log2 - 52) := by omega
    calc 0x10000000000000 * (den * 2 ^ ((num / den).log2 - 52))
        = 2 ^ (52 + ((num / den).log2 - 52)) * den := by
          rw [pow_add]
          ring
      _ = 2 ^ (num / den).log2 * den := by rw [← hlog]
      _ ≤ num / den * den := Nat.mul_le_mul_right den (Nat.log2_self_le hne)
      _ ≤ num := Nat.div_mul_le_self num den

/-- The law of rounding: the nearest rank is beyond `rank` exactly if `num / den` is beyond the
middle between `units rank` and `units (rank + 1)`, or in the middle and `rank` is odd. -/
theorem lt_nearestRank_iff (rank num : ℕ) (hden : 0 < den) : rank < nearestRank num den ↔
    (units rank + units (rank + 1)) * den < 2 * num ∨
      (units rank + units (rank + 1)) * den = 2 * num ∧ rank % 2 = 1 := by
  obtain ⟨shift, place, hgrid⟩ := exists_onGrid rank
  obtain ⟨step, hnearest, hlt, hle⟩ := exists_nearestRank_eq num hden
  have hscaled : ∀ power, 0 < den * 2 ^ power := fun power => Nat.mul_pos hden (Nat.two_pow_pos _)
  have hmiddle : (units rank + units (rank + 1)) * den = (2 * place + 1) * (den * 2 ^ shift) := by
    rw [hgrid.units_eq, hgrid.units_succ]
    ring
  obtain ⟨hrank, hplace, hnormal⟩ := hgrid
  rw [hmiddle, hnearest]
  rcases Nat.lt_trichotomy shift step with hbelow | rfl | habove
  · -- The magnitude belongs to a greater power of two than the rank.
    have hround := le_roundDiv (hscaled step) (hle (by omega))
    have hdouble : den * 2 ^ (shift + 1) ≤ den * 2 ^ step :=
      Nat.mul_le_mul_left den (Nat.pow_le_pow_right (by decide) hbelow)
    have hhalf : den * 2 ^ (shift + 1) = 2 * (den * 2 ^ shift) := by ring
    have hnum := hle (by omega)
    have hplaces : (2 * place + 1) * (den * 2 ^ shift) <
        0x40000000000000 * (den * 2 ^ shift) :=
      Nat.mul_lt_mul_of_pos_right (by omega) (hscaled shift)
    constructor
    · intro _
      exact .inl (by omega)
    · intro _
      omega
  · -- Both belong to the same power of two, where places are rounded.
    have hround := lt_roundDiv_iff place num (hscaled shift)
    have hparity : rank % 2 = place % 2 := by omega
    rw [hparity, ← hround]
    omega
  · -- The magnitude belongs to a smaller power of two than the rank.
    have hround := roundDiv_le (hscaled step) hlt.le
    have hdouble : den * 2 ^ (step + 1) ≤ den * 2 ^ shift :=
      Nat.mul_le_mul_left den (Nat.pow_le_pow_right (by decide) habove)
    have hhalf : den * 2 ^ (step + 1) = 2 * (den * 2 ^ step) := by ring
    have hplaces : 0x20000000000001 * (den * 2 ^ shift) ≤
        (2 * place + 1) * (den * 2 ^ shift) :=
      Nat.mul_le_mul_right _ (by have := hnormal (by omega); omega)
    constructor
    · intro _
      have := hnormal (by omega)
      omega
    · intro _
      omega

/-! ## The magnitudes themselves -/

theorem strictMono_units : StrictMono units := by
  refine strictMono_nat_of_lt_succ fun rank => ?_
  obtain ⟨shift, place, hgrid⟩ := exists_onGrid rank
  rw [hgrid.units_eq, hgrid.units_succ]
  exact Nat.mul_lt_mul_of_pos_right (Nat.lt_succ_self place) (Nat.two_pow_pos shift)

/-- A magnitude of the format is its own nearest one, so `nearestRank` undoes `units`. -/
theorem nearestRank_units (rank : ℕ) (hden : 0 < den) :
    nearestRank (units rank * den) den = rank := by
  refine eq_of_forall_lt_iff fun other => ?_
  have hnext : units other < units (other + 1) := strictMono_units (Nat.lt_succ_self other)
  have hbeyond := lt_nearestRank_iff other (units rank * den) hden
  rw [← mul_assoc, Nat.mul_lt_mul_right hden, Nat.mul_left_inj hden.ne'] at hbeyond
  rw [hbeyond]
  constructor
  · intro hmiddle
    refine strictMono_units.lt_iff_lt.1 ?_
    omega
  · intro hlt
    have hle : units (other + 1) ≤ units rank := strictMono_units.monotone hlt
    exact .inl (by omega)

/-! ## Rounding to zero and to infinity -/

@[simp] theorem isZero_ofRank {negative : Bool} {rank : ℕ} :
    (ofRank negative rank).isZero = true ↔ rank = 0 := by
  rw [ofRank]
  split
  · simp [isZero]
  · simp only [isZero, Bool.false_eq_true, false_iff]
    omega

theorem ofRank_eq_infinite_iff {negative other : Bool} {rank : ℕ} :
    ofRank negative rank = .infinite other ↔ negative = other ∧ 0x7FF0000000000000 ≤ rank := by
  rw [ofRank]
  split
  · simp only [reduceCtorEq, false_iff, not_and, Nat.not_le]
    intro _
    assumption
  · simp only [infinite.injEq, iff_self_and]
    omega

/-- Up to half a unit is rounded to zero. -/
theorem isZero_round_iff {negative : Bool} (hden : 0 < den) :
    (round negative num den).isZero = true ↔ 2 * num ≤ den := by
  have hbeyond := lt_nearestRank_iff 0 num hden
  have hmiddle : units 0 + units (0 + 1) = 1 := rfl
  rw [hmiddle, Nat.one_mul] at hbeyond
  rw [round, isZero_ofRank]
  omega

/-- The last rank is the last place of the last power of two. -/
theorem onGrid_last : OnGrid 0x7FEFFFFFFFFFFFFF 2045 0x1FFFFFFFFFFFFF :=
  ⟨by decide, by decide, by decide⟩

/-- From the middle after the last magnitude on, what is rounded is infinite. -/
theorem round_eq_infinite_iff {negative : Bool} (hden : 0 < den) :
    round negative num den = .infinite negative ↔
      0x3FFFFFFFFFFFFF * 2 ^ 2045 * den ≤ 2 * num := by
  have hbeyond := lt_nearestRank_iff 0x7FEFFFFFFFFFFFFF num hden
  have hmiddle : units 0x7FEFFFFFFFFFFFFF + units (0x7FEFFFFFFFFFFFFF + 1) =
      0x3FFFFFFFFFFFFF * 2 ^ 2045 := by
    rw [onGrid_last.units_eq, onGrid_last.units_succ, ← Nat.add_mul]
  rw [hmiddle] at hbeyond
  rw [round, ofRank_eq_infinite_iff, eq_self_iff_true, true_and]
  generalize 0x3FFFFFFFFFFFFF * 2 ^ 2045 * den = bound at hbeyond ⊢
  omega

end Binary64

end Reckoner
