import Reckoner.Proofs.Binary64.Sign
import Reckoner.Proofs.Calculation.Spelling

/-!
# Calculation — special results

When an expression comes to what is not a number, and when to a number with a minus sign. A
number token has no sign, so it is read as a magnitude, which may be rounded to a zero or to
an infinity; all other tokens are read as `nan`. What each operation makes of two magnitudes
then settles the result.
-/

namespace Reckoner

/-! ## Magnitudes -/

/-- What `number` is if it is read for `magnitude`: never `nan`, infinite if it `Overflows`,
zero if it `Vanishes`. -/
structure ReadFor (magnitude : ℚ) (number : Binary64) : Prop where
  unsigned : number.Unsigned
  isZero_iff : number.isZero = true ↔ Vanishes magnitude
  eq_infinite_iff : number = .infinite false ↔ Overflows magnitude

theorem Numeral.unsigned_roundDecimal (coefficient : ℕ) (exponent : ℤ) :
    Binary64.Unsigned (roundDecimal false coefficient exponent) := by
  rw [roundDecimal]
  split
  · exact Binary64.unsigned_zero
  split
  · exact .infinite
  split
  · exact Binary64.unsigned_zero
  · exact Binary64.unsigned_round _ _

/-- A number token denotes a magnitude, and `Calculation.operand` is `ReadFor` it. -/
theorem Token.IsSpelled.exists_denotes {token : Token} (h : token.IsSpelled)
    (hkind : token.kind = .number) :
    ∃ value, Denotes token.value value ∧ ReadFor value (Calculation.operand token.value) := by
  obtain ⟨coefficient, exponent, hdenotes, hoperand⟩ := h.operand_eq_round hkind
  refine ⟨_, hdenotes, ?_⟩
  rw [hoperand]
  exact ⟨Numeral.unsigned_roundDecimal _ _, Numeral.isZero_roundDecimal_iff,
    Numeral.roundDecimal_eq_infinite_iff⟩

/-! ## Results -/

/-- Whether `sign` between two magnitudes has no number for its result: two that overflow are
subtracted or divided, or one that overflows and one that vanishes are multiplied. -/
def Indeterminate (sign : String) (lhs rhs : ℚ) : Prop :=
  sign = "-" ∧ Overflows lhs ∧ Overflows rhs ∨
    sign = "*" ∧ (Overflows lhs ∧ Vanishes rhs ∨ Vanishes lhs ∧ Overflows rhs) ∨
    sign = "/" ∧ Overflows lhs ∧ Overflows rhs

namespace Operator

variable {operator : Operator} {lhs rhs result : Binary64}

theorem eq_nan_of_apply (hnan : lhs = .nan ∨ rhs = .nan)
    (h : operator.apply lhs rhs = .ok result) : result = .nan := by
  rcases hnan with rfl | rfl
  · cases operator with
    | divide =>
      rw [apply] at h
      split at h <;> cases h
      rfl
    | _ =>
      cases h
      rfl
  · cases operator <;> cases h <;> cases lhs <;> rfl

/-- What `operator` comes to on the numbers that are read for `x` and `y`. -/
theorem signed_apply {x y : ℚ} (hlhs : ReadFor x lhs) (hrhs : ReadFor y rhs)
    (h : operator.apply lhs rhs = .ok result) :
    result.Signed (Indeterminate operator.sign x y) (operator.sign = "-" ∧ lhs < rhs) := by
  -- Which magnitudes overflow and which vanish is told by the numbers that are read.
  simp only [Indeterminate, ← hlhs.eq_infinite_iff, ← hrhs.eq_infinite_iff, ← hlhs.isZero_iff,
    ← hrhs.isZero_iff]
  cases operator with
  | add =>
    cases h
    simpa [sign] using Binary64.signed_add hlhs.unsigned hrhs.unsigned
  | subtract =>
    cases h
    simpa [sign] using Binary64.signed_sub hlhs.unsigned hrhs.unsigned
  | multiply =>
    cases h
    simpa [sign] using Binary64.signed_mul hlhs.unsigned hrhs.unsigned
  | divide =>
    rw [apply] at h
    split at h
    · cases h
    · next hzero =>
      cases h
      simpa [sign] using Binary64.signed_div hlhs.unsigned hrhs.unsigned hzero

end Operator

/-- Whether what two tokens and `sign` between them come to is `nan`. -/
def Undefined (lhs rhs : Token) (sign : String) : Prop :=
  lhs.kind ≠ .number ∨ rhs.kind ≠ .number ∨
    lhs.kind = .number ∧ rhs.kind = .number ∧
      ∃ x y, Denotes lhs.value x ∧ Denotes rhs.value y ∧ Indeterminate sign x y

theorem undefined_iff {lhs rhs : Token} {sign : String} {x y : ℚ} (hlhs : lhs.kind = .number)
    (hrhs : rhs.kind = .number) (hx : Denotes lhs.value x) (hy : Denotes rhs.value y) :
    Undefined lhs rhs sign ↔ Indeterminate sign x y := by
  constructor
  · rintro (h | h | ⟨-, -, value, other, hvalue, hother, h⟩)
    · exact absurd hlhs h
    · exact absurd hrhs h
    · rwa [hvalue.unique hx, hother.unique hy] at h
  · intro h
    exact .inr (.inr ⟨hlhs, hrhs, x, y, hx, hy, h⟩)

/-- What `operator` comes to on what two tokens are read as. -/
theorem signed_of_apply {lhs rhs : Token} {operator : Operator} {result : Binary64}
    (hlhs : lhs.IsSpelled) (hrhs : rhs.IsSpelled)
    (h : operator.apply (Calculation.operand lhs.value) (Calculation.operand rhs.value) =
      .ok result) :
    result.Signed (Undefined lhs rhs operator.sign) (operator.sign = "-" ∧
      Calculation.operand lhs.value < Calculation.operand rhs.value) := by
  by_cases hleft : lhs.kind = .number
  · by_cases hright : rhs.kind = .number
    · obtain ⟨x, hx, hreadx⟩ := hlhs.exists_denotes hleft
      obtain ⟨y, hy, hready⟩ := hrhs.exists_denotes hright
      rw [undefined_iff hleft hright hx hy]
      exact Operator.signed_apply hreadx hready h
    · rw [Operator.eq_nan_of_apply (.inr (hrhs.operand_eq_nan hright)) h]
      exact Binary64.signed_nan (.inr (.inl hright))
  · rw [Operator.eq_nan_of_apply (.inl (hlhs.operand_eq_nan hleft)) h]
    exact Binary64.signed_nan (.inl hleft)

/-- An expression with a result has an operator between two operands. The result is not a
number exactly if an operand is no number token or the operator has no number for the result
of their magnitudes. Otherwise it has a minus sign exactly if the operator is a minus and the
first number that is read is less than the second. It is no negative zero. -/
theorem special_of_calculate {source : String} {result : Binary64}
    (h : calculate source = .ok result) :
    ∃ lhs operator rhs others,
      tokenize source = .ok (lhs :: operator :: rhs :: others) ∧
      (∀ token ∈ [lhs, rhs], token.kind = .number → ∃! value, Denotes token.value value) ∧
      (result = .nan ↔ Undefined lhs rhs operator.value) ∧
      (result ≠ .nan → (result.bits.msb = true ↔ operator.value = "-" ∧
        Calculation.operand lhs.value < Calculation.operand rhs.value)) ∧
      result ≠ .zero true := by
  -- A result means that the first three tokens are there, with an operator among them.
  have hverdict : Verdict.On source .result := by
    rw [← Verdict.ofAnswer_eq_iff, h]
    rfl
  cases hverdict with
  | @result lhs operator rhs others htokens hkind _ =>
    have hspelled := isSpelled_of_tokenize htokens
    have hlhs := hspelled lhs (by simp)
    have hrhs := hspelled rhs (by simp)
    obtain ⟨sign, hsign⟩ := (hspelled operator (by simp)).exists_eq_sign_iff.2 hkind
    rw [calculate_of_tokens htokens, evaluate_of_sign hsign] at h
    have hsigned := signed_of_apply hlhs hrhs h
    rw [← hsign] at hsigned
    refine ⟨lhs, operator, rhs, others, htokens, ?_, hsigned.eq_nan_iff, hsigned.msb_bits_iff,
      hsigned.ne_negativeZero⟩
    intro token hmem hnumber
    have htoken : token.IsSpelled := by
      simp only [List.mem_cons, List.not_mem_nil, or_false] at hmem
      rcases hmem with rfl | rfl <;> assumption
    obtain ⟨value, hvalue, -⟩ := htoken.exists_denotes hnumber
    exact ⟨value, hvalue, fun other hother => hother.unique hvalue⟩

/-- Two from one is a number with a minus sign, and the parenthesis after it is not looked at. -/
theorem special_of_calculate_less :
    calculate "1 - 2)" = .ok (.ofRank true 0x3FF0000000000000) ∧
      (.ofRank true 0x3FF0000000000000 : Binary64).bits.msb = true ∧
      Calculation.operand "1" < Calculation.operand "2" := by
  have hresult : calculate "1 - 2)" = .ok (.ofRank true 0x3FF0000000000000) := by decide +kernel
  have htokens : tokenize "1 - 2)" =
      .ok [⟨.number, "1"⟩, ⟨.operator, "-"⟩, ⟨.number, "2"⟩, ⟨.parenthesis, ")"⟩] := by
    decide +kernel
  have hmsb : (.ofRank true 0x3FF0000000000000 : Binary64).bits.msb = true :=
    Binary64.msb_bits_ofRank true _
  obtain ⟨lhs, operator, rhs, others, hread, -, -, hsign, -⟩ := special_of_calculate hresult
  rw [htokens] at hread
  cases hread
  have hnumber : (.ofRank true 0x3FF0000000000000 : Binary64) ≠ .nan := by decide
  obtain ⟨-, hless⟩ := (hsign hnumber).1 hmsb
  exact ⟨hresult, hmsb, hless⟩

/-- What is no number token is not a number, also next to one. -/
example : calculate "(+1" = .ok .nan := by decide +kernel

end Reckoner
