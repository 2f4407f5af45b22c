import Reckoner.Binary64.Arithmetic
import Reckoner.Proofs.Binary64.Nearest

/-!
# Binary64 — signs of results

What the operations make of operands without a minus sign, stated as `Signed`: when the
result is `nan`, and when its sign bit is set. Only a difference can have a sign, and it has
the one of the order of its operands. No operation makes a negative zero of such operands.
-/

namespace Reckoner

namespace Binary64

/-! ## Order and sign bit -/

/-- The order of the numbers by their values, an inductive so that nothing unfolds `units` on
closed numbers. `nan` has no place in it. -/
inductive Less : Binary64 → Binary64 → Prop where
  | infinite : Less (.infinite true) (.infinite false)
  | infinite_finite {sign : Bool} {rank : Rank} : Less (.infinite true) (.finite sign rank)
  | finite_infinite {sign : Bool} {rank : Rank} : Less (.finite sign rank) (.infinite false)
  | finite {s t : Bool} {a b : Rank} (h : signedUnits s a < signedUnits t b) :
      Less (.finite s a) (.finite t b)

instance : LT Binary64 := ⟨Less⟩

theorem finite_lt_finite_iff {a b : Rank} :
    (.finite false a : Binary64) < .finite false b ↔ units a < units b := by
  constructor
  · intro h
    cases h with
    | finite hless => exact Int.ofNat_lt.1 hless
  · intro h
    exact .finite (Int.ofNat_lt.2 h)

theorem msb_signedBits (negative : Bool) {magnitude : ℕ} (h : magnitude < 0x8000000000000000) :
    (signedBits negative magnitude).msb = negative := by
  rw [signedBits, BitVec.msb_eq_decide, BitVec.toNat_ofNat]
  cases negative with
  | false =>
    simp only [Bool.false_eq_true, if_false, decide_eq_false_iff_not]
    omega
  | true =>
    simp only [if_true, decide_eq_true_eq]
    omega

/-- The sign bit of `ofRank` is the sign that it is given. -/
theorem msb_bits_ofRank (negative : Bool) (rank : ℕ) :
    (ofRank negative rank).bits.msb = negative := by
  rw [ofRank]
  split
  · exact msb_signedBits negative (by simp only; omega)
  · exact msb_signedBits negative (by decide)

/-- Whether a number has no minus sign. `nan` has no sign at all. -/
inductive Unsigned : Binary64 → Prop where
  | infinite : Unsigned (.infinite false)
  | finite (rank : Rank) : Unsigned (.finite false rank)

/-- When `result` is `nan` and when it has a minus sign. It is no negative zero. -/
structure Signed (result : Binary64) (undefined negative : Prop) : Prop where
  eq_nan_iff : result = .nan ↔ undefined
  msb_bits_iff : result ≠ .nan → (result.bits.msb = true ↔ negative)
  ne_negativeZero : result ≠ .zero true

variable {undefined negative : Prop}

theorem signed_nan (h : undefined) : Signed .nan undefined negative where
  eq_nan_iff := iff_of_true rfl h
  msb_bits_iff := (absurd rfl ·)
  ne_negativeZero := Binary64.noConfusion

/-- A result without a minus sign is a number that is not negative. -/
theorem Unsigned.signed {x : Binary64} (h : Unsigned x) (hundefined : ¬ undefined)
    (hnegative : ¬ negative) : Signed x undefined negative where
  eq_nan_iff := by
    refine iff_of_false ?_ hundefined
    cases h <;> exact Binary64.noConfusion
  msb_bits_iff _ := by
    refine iff_of_false ?_ hnegative
    rw [Bool.not_eq_true]
    cases h with
    | infinite => decide
    | finite rank => exact msb_signedBits false (by omega)
  ne_negativeZero := by
    cases h <;> simp [zero]

theorem unsigned_zero : Unsigned (.zero false) := .finite _

theorem unsigned_round (num den : ℕ) : Unsigned (.round false num den) := by
  rw [round, ofRank]
  split
  · exact .finite _
  · exact .infinite

/-- At least one unit is rounded to a number with the sign `sign`, and not to zero. -/
theorem signed_round {sign : Bool} {num : ℕ} (hnum : num ≠ 0) (hundefined : ¬ undefined)
    (hnegative : sign = true ↔ negative) : Signed (.round sign num 1) undefined negative where
  eq_nan_iff := by
    refine iff_of_false ?_ hundefined
    rw [round, ofRank]
    split <;> exact Binary64.noConfusion
  msb_bits_iff _ := by rw [round, msb_bits_ofRank, hnegative]
  ne_negativeZero := by
    intro heq
    -- Only half a unit is rounded to zero, and this is at least one.
    have hzero : (round sign num 1).isZero = true := by
      rw [heq]
      rfl
    have hhalf := (isZero_round_iff Nat.one_pos).1 hzero
    omega

/-! ## The operations -/

section Operations

variable {x y : Binary64}

theorem finite_add_finite (a b : Rank) : (.finite false a + .finite false b : Binary64) =
    if (units a + units b : ℤ) = 0 then .zero false
    else .round (decide ((units a + units b : ℤ) < 0)) (units a + units b : ℤ).natAbs 1 :=
  rfl

theorem finite_sub_finite (a b : Rank) : (.finite false a - .finite false b : Binary64) =
    if (units a + -units b : ℤ) = 0 then .zero false
    else .round (decide ((units a + -units b : ℤ) < 0)) (units a + -units b : ℤ).natAbs 1 :=
  rfl

theorem infinite_mul_finite (b : Rank) : (.infinite false * .finite false b : Binary64) =
    if b.val = 0 then .nan else .infinite false :=
  rfl

theorem finite_mul_infinite (a : Rank) : (.finite false a * .infinite false : Binary64) =
    if a.val = 0 then .nan else .infinite false :=
  rfl

theorem finite_mul_finite (a b : Rank) : (.finite false a * .finite false b : Binary64) =
    .round false (units a * units b) unitsPerOne := by
  show mul (.finite false a) (.finite false b) = _
  simp only [mul, bne_self_eq_false]

theorem finite_div_finite {a b : Rank} (hb : b.val ≠ 0) :
    (.finite false a / .finite false b : Binary64) =
      .round false (units a * unitsPerOne) (units b) :=
  if_neg hb

theorem signed_add (hx : Unsigned x) (hy : Unsigned y) : Signed (x + y) False False := by
  refine Unsigned.signed ?_ id id
  cases hx with
  | infinite => cases hy <;> exact .infinite
  | finite a =>
    cases hy with
    | infinite => exact .infinite
    | finite b =>
      have hpos : ¬ (units a + units b : ℤ) < 0 := by omega
      rw [finite_add_finite, decide_eq_false hpos]
      split
      · exact unsigned_zero
      · exact unsigned_round _ _

/-- A difference has the sign of the order of `x` and `y`. Two infinities have none. -/
theorem signed_sub (hx : Unsigned x) (hy : Unsigned y) :
    Signed (x - y) (x = .infinite false ∧ y = .infinite false) (x < y) := by
  cases hx with
  | infinite =>
    cases hy with
    | infinite => exact signed_nan ⟨rfl, rfl⟩
    | finite b => exact Unsigned.infinite.signed (by simp) nofun
  | finite a =>
    cases hy with
    | infinite =>
      have hsub : (.finite false a - .infinite false : Binary64) = .infinite true := rfl
      rw [hsub]
      exact ⟨by simp, fun _ => iff_of_true (by decide) .finite_infinite, Binary64.noConfusion⟩
    | finite b =>
      rw [finite_sub_finite, finite_lt_finite_iff]
      split
      · exact unsigned_zero.signed (by simp) (by omega)
      -- Two magnitudes that differ do so by at least one unit, which no rounding takes away.
      · refine signed_round (by omega) (by simp) ?_
        rw [decide_eq_true_eq]
        omega

theorem signed_mul (hx : Unsigned x) (hy : Unsigned y) : Signed (x * y)
    (x = .infinite false ∧ y.isZero = true ∨ x.isZero = true ∧ y = .infinite false) False := by
  cases hx with
  | infinite =>
    cases hy with
    | infinite => exact Unsigned.infinite.signed (by simp [isZero]) id
    | finite b =>
      rw [infinite_mul_finite]
      split
      · next hb => exact signed_nan (.inl ⟨rfl, by simpa [isZero] using hb⟩)
      · next hb => exact Unsigned.infinite.signed (by simpa [isZero] using hb) id
  | finite a =>
    cases hy with
    | infinite =>
      rw [finite_mul_infinite]
      split
      · next ha => exact signed_nan (.inr ⟨by simpa [isZero] using ha, rfl⟩)
      · next ha => exact Unsigned.infinite.signed (by simpa [isZero] using ha) id
    | finite b =>
      rw [finite_mul_finite]
      exact (unsigned_round _ _).signed (by simp) id

/-- A quotient of two infinities is `nan`. The divisor is no zero, as `Operator.apply` checks.
-/
theorem signed_div (hx : Unsigned x) (hy : Unsigned y) (hzero : ¬ y.isZero = true) :
    Signed (x / y) (x = .infinite false ∧ y = .infinite false) False := by
  cases hx with
  | infinite =>
    cases hy with
    | infinite => exact signed_nan ⟨rfl, rfl⟩
    | finite b => exact Unsigned.infinite.signed (by simp) id
  | finite a =>
    cases hy with
    | infinite => exact unsigned_zero.signed (by simp) id
    | finite b =>
      rw [finite_div_finite (by simpa [isZero] using hzero)]
      exact (unsigned_round _ _).signed (by simp) id

end Operations

end Binary64

end Reckoner
