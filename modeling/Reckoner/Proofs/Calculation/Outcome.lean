import Reckoner.Proofs.Calculation.Verdict
import Reckoner.Proofs.Numeral.Magnitude

/-!
# Calculation — outcomes of any tokens

What tokens come to that need not be those of any expression, told by `Verdict.Of`. Kinds
play no part, nor does anything after the third token. The operator is looked at before the
operands, and what is divided by is a zero as soon as it is rounded to one, however it is
written.
-/

namespace Reckoner

/-! ## What counts of the tokens -/

/-- The texts of the first three tokens, if there are so many. -/
def Calculation.texts? : List Token → Option (String × String × String)
  | lhs :: operator :: rhs :: _ => some (lhs.value, operator.value, rhs.value)
  | _ => none

/-- What `evaluate` comes to goes by `Calculation.texts?` alone. -/
theorem evaluate_eq_of_texts? (tokens : List Token) : evaluate tokens =
    match Calculation.texts? tokens with
    | some (lhs, operator, rhs) => (Operator.ofSign operator).bind fun operator =>
        operator.apply (Calculation.operand lhs) (Calculation.operand rhs)
    | none => .error .insufficientTokens := by
  rcases tokens with _ | ⟨lhs, _ | ⟨operator, _ | ⟨rhs, others⟩⟩⟩
  · rfl
  · rfl
  · rfl
  · show ((Operator.ofSign operator.value).map _).bind Calculation.result =
      (Operator.ofSign operator.value).bind _
    cases Operator.ofSign operator.value <;> rfl

/-! ## Zeros -/

/-- A text is read as a zero exactly if it denotes a `value` that is rounded to zero. -/
theorem readsAsZero_iff {text : String} :
    ReadsAsZero text ↔ ∃ value, Denotes text value ∧ Vanishes |value| := by
  constructor
  · rintro ⟨numeral, hparse, hzero⟩
    cases numeral with
    | nan => cases hzero
    | infinity negative => cases hzero
    | decimal negative coefficient exponent =>
      obtain ⟨literal, htext⟩ := Literal.exists_of_parse? hparse
      obtain ⟨-, rfl, rfl⟩ :=
        Numeral.decimal.inj (Option.some.inj ((Literal.parse?_eq htext).symm.trans hparse))
      refine ⟨literal.value, ⟨literal, htext, rfl⟩, ?_⟩
      rw [literal.abs_value]
      exact Numeral.isZero_roundDecimal_iff.1 hzero
  · rintro ⟨value, ⟨literal, htext, rfl⟩, hzero⟩
    rw [literal.abs_value] at hzero
    exact ⟨_, Literal.parse?_eq htext, Numeral.isZero_roundDecimal_iff.2 hzero⟩

theorem mem_signs_iff {text : String} :
    text ∈ ["+", "-", "*", "/"] ↔ ∃ operator : Operator, text = operator.sign := by
  constructor
  · intro h
    simp only [List.mem_cons, List.not_mem_nil, or_false] at h
    rcases h with rfl | rfl | rfl | rfl
    · exact ⟨.add, rfl⟩
    · exact ⟨.subtract, rfl⟩
    · exact ⟨.multiply, rfl⟩
    · exact ⟨.divide, rfl⟩
  · rintro ⟨operator, rfl⟩
    cases operator <;> decide

/-! ## The verdict -/

namespace Verdict

/-- The verdict on tokens, by the texts of the first three and by what these `Denotes`. -/
inductive Of : List Token → Verdict → Prop where
  | insufficientTokens {tokens : List Token} (hlength : tokens.length < 3) :
      Of tokens .insufficientTokens
  | unsupportedOperator {lhs operator rhs : Token} {others : List Token}
      (hsign : operator.value ∉ ["+", "-", "*", "/"]) :
      Of (lhs :: operator :: rhs :: others) (.unsupportedOperator operator.value)
  | divisionByZero {lhs operator rhs : Token} {others : List Token}
      (hdivide : operator.value = "/")
      (hzero : ∃ value, Denotes rhs.value value ∧ Vanishes |value|) :
      Of (lhs :: operator :: rhs :: others) .divisionByZero
  | result {lhs operator rhs : Token} {others : List Token}
      (hsign : operator.value ∈ ["+", "-", "*", "/"])
      (hzero : ¬ (operator.value = "/" ∧ ∃ value, Denotes rhs.value value ∧ Vanishes |value|)) :
      Of (lhs :: operator :: rhs :: others) .result

theorem exists_of (tokens : List Token) : ∃ verdict, Of tokens verdict := by
  rcases tokens with _ | ⟨lhs, _ | ⟨operator, _ | ⟨rhs, others⟩⟩⟩
  · exact ⟨_, .insufficientTokens (by decide)⟩
  · exact ⟨_, .insufficientTokens (by simp)⟩
  · exact ⟨_, .insufficientTokens (by simp)⟩
  · by_cases hsign : operator.value ∈ ["+", "-", "*", "/"]
    · by_cases hzero : operator.value = "/" ∧ ∃ value, Denotes rhs.value value ∧ Vanishes |value|
      · exact ⟨_, .divisionByZero hzero.1 hzero.2⟩
      · exact ⟨_, .result hsign hzero⟩
    · exact ⟨_, .unsupportedOperator hsign⟩

theorem Of.ofAnswer_eq {tokens : List Token} {verdict : Verdict} (h : Of tokens verdict) :
    ofAnswer (evaluate tokens) = verdict := by
  cases h with
  | insufficientTokens hlength =>
    rw [evaluate_of_length hlength]
    rfl
  | unsupportedOperator hsign =>
    rw [evaluate_of_not_sign (mem_signs_iff.not.1 hsign)]
    rfl
  | @divisionByZero lhs operator rhs others hdivide hzero =>
    have hsign : operator.value = Operator.divide.sign := hdivide
    rw [← readsAsZero_iff, ← isZero_operand_iff_readsAsZero] at hzero
    rw [evaluate_of_sign hsign, Operator.apply_eq_error_iff.2 ⟨rfl, hzero, rfl⟩]
    rfl
  | @result lhs operator rhs others hsign hzero =>
    obtain ⟨sign, hsign⟩ := mem_signs_iff.1 hsign
    rw [← readsAsZero_iff, ← isZero_operand_iff_readsAsZero, hsign] at hzero
    rw [evaluate_of_sign hsign]
    cases hanswer : sign.apply (Calculation.operand lhs.value) (Calculation.operand rhs.value) with
    | ok answer => rfl
    | error error =>
      -- An error of the operator would be a divisor that vanishes.
      obtain ⟨rfl, hrhs, -⟩ := Operator.apply_eq_error_iff.1 hanswer
      exact absurd ⟨rfl, hrhs⟩ hzero

end Verdict

/-- Any tokens come to the verdict that the texts of the first three tell, and tokens with
the same three texts, or with too few, have the same answer. -/
theorem ofAnswer_evaluate_eq_iff (tokens : List Token) :
    (∀ verdict, Verdict.ofAnswer (evaluate tokens) = verdict ↔ Verdict.Of tokens verdict) ∧
      ∀ others, Calculation.texts? others = Calculation.texts? tokens →
        evaluate others = evaluate tokens := by
  constructor
  · intro verdict
    constructor
    · rintro rfl
      obtain ⟨verdict, h⟩ := Verdict.exists_of tokens
      rwa [h.ofAnswer_eq]
    · exact Verdict.Of.ofAnswer_eq
  · intro others htexts
    rw [evaluate_eq_of_texts?, evaluate_eq_of_texts?, htexts]

/-- A decimal between `10 ^ -324` and half the least positive magnitude, so it `Vanishes` by its
digits and not by its exponent. -/
def Literal.small : Literal where
  sign := .minus
  whole := ['2']
  fraction := some ['4', '7']
  exponent := some ⟨'E', .minus, ['0', '3', '2', '4'], .inr rfl, by decide⟩
  whole_digits := List.all_eq_true.1 rfl
  fraction_digits := List.all_eq_true.1 rfl
  some_digit := .inl (by decide)

theorem Literal.vanishes_small : Vanishes |small.value| := by
  have hcoefficient : small.coefficient = 247 := by decide
  have hscale : small.scale = -326 := by decide
  have hpow : (247 : ℚ) * 2 ^ 1075 ≤ 10 ^ 326 := by
    exact_mod_cast (by decide +kernel : 247 * 2 ^ 1075 ≤ 10 ^ 326)
  rw [abs_value, hcoefficient, hscale, Vanishes, zpow_neg, zpow_neg, ← div_eq_mul_inv, ← one_div,
    div_le_div_iff₀ (by positivity) (by positivity), one_mul]
  exact hpow

/-- A small divisor divides nothing, whatever its kind and whatever follows it. -/
theorem ofAnswer_evaluate_small :
    Verdict.ofAnswer (evaluate [⟨.operator, ""⟩, ⟨.parenthesis, "/"⟩, ⟨.operator, "-2.47E-0324"⟩]) =
        .divisionByZero ∧
      evaluate [⟨.operator, ""⟩, ⟨.parenthesis, "/"⟩, ⟨.operator, "-2.47E-0324"⟩] =
        evaluate [⟨.number, ""⟩, ⟨.operator, "/"⟩, ⟨.number, "-2.47E-0324"⟩, ⟨.number, "1"⟩] := by
  have hdenotes : Denotes "-2.47E-0324" Literal.small.value := ⟨Literal.small, by decide, rfl⟩
  obtain ⟨hverdict, -⟩ := ofAnswer_evaluate_eq_iff
    [⟨.operator, ""⟩, ⟨.parenthesis, "/"⟩, ⟨.operator, "-2.47E-0324"⟩]
  obtain ⟨-, htexts⟩ := ofAnswer_evaluate_eq_iff
    [⟨.number, ""⟩, ⟨.operator, "/"⟩, ⟨.number, "-2.47E-0324"⟩, ⟨.number, "1"⟩]
  refine ⟨(hverdict _).2 (.divisionByZero rfl ⟨_, hdenotes, Literal.vanishes_small⟩), ?_⟩
  exact htexts _ rfl

end Reckoner
