import Reckoner.Calculation
import Reckoner.Proofs.Scan.Stray
import Reckoner.Proofs.Token.Reading

/-!
# Calculation — verdicts

What an expression comes to, told by the kinds of its tokens. A calculation goes by the
texts of tokens alone, but the text of a token tells its kind: operators and nothing else
are spelled as the signs are, and only a number is read as a zero. So each expression falls
under one of the five cases of `Verdict.On`, which are tried in order and settle what is
reported.
-/

namespace Reckoner

/-- Whether `Numeral.parse?` reads `text` as a number that is a zero. -/
def ReadsAsZero (text : String) : Prop :=
  ∃ numeral, Numeral.parse? text = some numeral ∧ numeral.toBinary64.isZero = true

theorem isZero_operand_iff_readsAsZero {text : String} :
    (Calculation.operand text).isZero = true ↔ ReadsAsZero text := by
  unfold Calculation.operand ReadsAsZero
  cases Numeral.parse? text <;> simp [Binary64.isZero]

/-- Whether `operator` and the token after it ask to divide by a zero. -/
def DividesByZero (operator rhs : Token) : Prop :=
  operator.value = "/" ∧ rhs.kind = .number ∧ ReadsAsZero rhs.value

/-- What an expression comes to: one of the errors or a result. -/
inductive Verdict where
  | invalidCharacter
  | insufficientTokens
  | unsupportedOperator (text : String)
  | divisionByZero
  | result

namespace Verdict

/-- The verdict that an answer is. Of `invalidCharacter` it keeps neither the position nor the
character. -/
def ofAnswer : Except Error Binary64 → Verdict
  | .error (.invalidCharacter _ _) => .invalidCharacter
  | .error .insufficientTokens => .insufficientTokens
  | .error (.unsupportedOperator text) => .unsupportedOperator text
  | .error .divisionByZero => .divisionByZero
  | .ok _ => .result

/-- The verdict on `source` by the kinds of its tokens. -/
inductive On (source : String) : Verdict → Prop where
  | invalidCharacter (h : ¬ ∃ tokens, tokenize source = .ok tokens) : On source .invalidCharacter
  | insufficientTokens {tokens : List Token} (h : tokenize source = .ok tokens)
      (hlength : tokens.length < 3) : On source .insufficientTokens
  | unsupportedOperator {lhs operator rhs : Token} {others : List Token}
      (h : tokenize source = .ok (lhs :: operator :: rhs :: others))
      (hkind : operator.kind ≠ .operator) : On source (.unsupportedOperator operator.value)
  | divisionByZero {lhs operator rhs : Token} {others : List Token}
      (h : tokenize source = .ok (lhs :: operator :: rhs :: others))
      (hkind : operator.kind = .operator) (hzero : DividesByZero operator rhs) :
      On source .divisionByZero
  | result {lhs operator rhs : Token} {others : List Token}
      (h : tokenize source = .ok (lhs :: operator :: rhs :: others))
      (hkind : operator.kind = .operator) (hzero : ¬ DividesByZero operator rhs) :
      On source .result

theorem exists_on (source : String) : ∃ verdict, On source verdict := by
  cases h : tokenize source with
  | error error => exact ⟨_, .invalidCharacter (by simp [h])⟩
  | ok tokens =>
    rcases tokens with _ | ⟨lhs, _ | ⟨operator, _ | ⟨rhs, others⟩⟩⟩
    · exact ⟨_, .insufficientTokens h (by decide)⟩
    · exact ⟨_, .insufficientTokens h (by simp)⟩
    · exact ⟨_, .insufficientTokens h (by simp)⟩
    · by_cases hkind : operator.kind = .operator
      · by_cases hzero : DividesByZero operator rhs
        · exact ⟨_, .divisionByZero h hkind hzero⟩
        · exact ⟨_, .result h hkind hzero⟩
      · exact ⟨_, .unsupportedOperator h hkind⟩

end Verdict

/-! ## Signs -/

theorem eq_singleton_of_toList {text : String} {c : Char} (h : text.toList = [c]) :
    text = String.singleton c := by
  rw [← String.toList_inj, h, String.toList_singleton]

namespace Operator

theorem ofSign_eq_ok_iff {text : String} {operator : Operator} :
    ofSign text = .ok operator ↔ text = operator.sign := by
  constructor
  · intro h
    unfold ofSign at h
    split at h <;> cases h <;> rfl
  · rintro rfl
    exact ofSign_sign operator

theorem ofSign_eq_error {text : String} (h : ¬ ∃ operator : Operator, text = operator.sign) :
    ofSign text = .error (.unsupportedOperator text) := by
  cases hsign : ofSign text with
  | ok operator => exact absurd ⟨operator, ofSign_eq_ok_iff.1 hsign⟩ h
  | error error =>
    unfold ofSign at hsign
    split at hsign <;> cases hsign
    rfl

theorem exists_eq_sign_iff {text : String} :
    (∃ operator : Operator, text = operator.sign) ↔
      LexemeKind.Spells .operator text.toList := by
  constructor
  · rintro ⟨operator, rfl⟩
    cases operator <;> decide
  · rintro ⟨c, htext, hc⟩
    obtain rfl := eq_singleton_of_toList htext
    simp only [List.mem_cons, List.not_mem_nil, or_false] at hc
    rcases hc with rfl | rfl | rfl | rfl
    · exact ⟨.add, rfl⟩
    · exact ⟨.subtract, rfl⟩
    · exact ⟨.multiply, rfl⟩
    · exact ⟨.divide, rfl⟩

theorem apply_eq_error_iff {operator : Operator} {lhs rhs : Binary64} {error : Error} :
    operator.apply lhs rhs = .error error ↔
      operator = .divide ∧ rhs.isZero = true ∧ error = .divisionByZero := by
  cases operator with
  | divide => cases h : rhs.isZero <;> simp [apply, h, eq_comm]
  | _ => simp [apply]

end Operator

/-! ## Texts that tell their kinds -/

namespace Token.IsSpelled

variable {token : Token}

theorem kind_eq_iff {kind : TokenKind} (h : token.IsSpelled) :
    token.kind = kind ↔ kind.lexemeKind.Spells token.value.toList := by
  constructor
  · rintro rfl
    exact h
  · intro hspells
    exact TokenKind.lexemeKind_inj.1 (h.kind_eq hspells)

theorem exists_eq_sign_iff (h : token.IsSpelled) :
    (∃ operator : Operator, token.value = operator.sign) ↔ token.kind = .operator := by
  rw [h.kind_eq_iff]
  exact Operator.exists_eq_sign_iff

theorem operand_eq_nan (h : token.IsSpelled) (hkind : token.kind ≠ .number) :
    Calculation.operand token.value = .nan := by
  obtain ⟨kind, value⟩ := token
  cases kind with
  | number => exact absurd rfl hkind
  | operator =>
    obtain ⟨operator, rfl⟩ := h.exists_eq_sign_iff.2 rfl
    cases operator <;> rfl
  | parenthesis =>
    obtain ⟨c, htext, hc⟩ := h
    obtain rfl : value = String.singleton c := eq_singleton_of_toList htext
    simp only [List.mem_cons, List.not_mem_nil, or_false] at hc
    rcases hc with rfl | rfl <;> rfl

theorem isZero_operand_iff (h : token.IsSpelled) :
    (Calculation.operand token.value).isZero = true ↔
      token.kind = .number ∧ ReadsAsZero token.value := by
  by_cases hkind : token.kind = .number
  · simp [isZero_operand_iff_readsAsZero, hkind]
  · simp [h.operand_eq_nan hkind, hkind, Binary64.isZero]

end Token.IsSpelled

/-- To ask to divide by a zero is to `divide` by one. -/
theorem dividesByZero_iff {operator rhs : Token} {sign : Operator} (hrhs : rhs.IsSpelled)
    (hsign : operator.value = sign.sign) : DividesByZero operator rhs ↔
      sign = .divide ∧ (Calculation.operand rhs.value).isZero = true := by
  rw [hrhs.isZero_operand_iff, DividesByZero, hsign]
  refine and_congr_left' ?_
  cases sign <;> decide

/-! ## The verdict -/

section Calculate

variable {source : String} {tokens others : List Token} {lhs operator rhs : Token}

theorem calculate_of_tokens (h : tokenize source = .ok tokens) :
    calculate source = evaluate tokens := by
  rw [calculate, h]
  rfl

theorem calculate_of_error {error : Error} (h : tokenize source = .error error) :
    calculate source = .error error := by
  rw [calculate, h]
  rfl

theorem evaluate_of_length (h : tokens.length < 3) :
    evaluate tokens = .error .insufficientTokens := by
  rcases tokens with _ | ⟨lhs, _ | ⟨operator, _ | ⟨rhs, others⟩⟩⟩
  · rfl
  · rfl
  · rfl
  · simp only [List.length_cons] at h
    omega

theorem evaluate_of_sign {sign : Operator} (h : operator.value = sign.sign) :
    evaluate (lhs :: operator :: rhs :: others) =
      sign.apply (Calculation.operand lhs.value) (Calculation.operand rhs.value) := by
  rw [evaluate, Calculation.ofTokens, h, Operator.ofSign_sign]
  rfl

theorem evaluate_of_not_sign (h : ¬ ∃ sign : Operator, operator.value = sign.sign) :
    evaluate (lhs :: operator :: rhs :: others) =
      .error (.unsupportedOperator operator.value) := by
  rw [evaluate, Calculation.ofTokens, Operator.ofSign_eq_error h]
  rfl

/-- What `calculate` comes to is the verdict that the kinds of the tokens tell. -/
theorem Verdict.On.ofAnswer_eq {verdict : Verdict} (h : On source verdict) :
    ofAnswer (calculate source) = verdict := by
  cases h with
  | invalidCharacter h =>
    cases htokens : tokenize source with
    | ok tokens => exact absurd ⟨tokens, htokens⟩ h
    | error error =>
      obtain ⟨before, c, after, -, -, -, rfl⟩ := clean_of_tokenize htokens
      rw [calculate_of_error htokens]
      rfl
  | insufficientTokens h hlength =>
    rw [calculate_of_tokens h, evaluate_of_length hlength]
    rfl
  | @unsupportedOperator lhs operator rhs others h hkind =>
    have hspelled := isSpelled_of_tokenize h operator (by simp)
    rw [calculate_of_tokens h, evaluate_of_not_sign (hspelled.exists_eq_sign_iff.not.2 hkind)]
    rfl
  | @divisionByZero lhs operator rhs others h hkind hzero =>
    have hspelled := isSpelled_of_tokenize h
    obtain ⟨sign, hsign⟩ := (hspelled operator (by simp)).exists_eq_sign_iff.2 hkind
    obtain ⟨rfl, hrhs⟩ := (dividesByZero_iff (hspelled rhs (by simp)) hsign).1 hzero
    rw [calculate_of_tokens h, evaluate_of_sign hsign,
      Operator.apply_eq_error_iff.2 ⟨rfl, hrhs, rfl⟩]
    rfl
  | @result lhs operator rhs others h hkind hzero =>
    have hspelled := isSpelled_of_tokenize h
    obtain ⟨sign, hsign⟩ := (hspelled operator (by simp)).exists_eq_sign_iff.2 hkind
    rw [dividesByZero_iff (hspelled rhs (by simp)) hsign] at hzero
    rw [calculate_of_tokens h, evaluate_of_sign hsign]
    cases hanswer : sign.apply (Calculation.operand lhs.value) (Calculation.operand rhs.value) with
    | ok answer => rfl
    | error error =>
      obtain ⟨hdivide, hrhs, -⟩ := Operator.apply_eq_error_iff.1 hanswer
      exact absurd ⟨hdivide, hrhs⟩ hzero

theorem Verdict.ofAnswer_eq_iff {verdict : Verdict} :
    ofAnswer (calculate source) = verdict ↔ On source verdict := by
  constructor
  · rintro rfl
    obtain ⟨verdict, h⟩ := exists_on source
    rwa [h.ofAnswer_eq]
  · exact On.ofAnswer_eq

/-- A character that cannot be read is reported by `calculate` as it is by `tokenize`. -/
theorem calculate_eq_invalidCharacter_iff {position : Nat} {c : Char} :
    calculate source = .error (.invalidCharacter position c) ↔
      tokenize source = .error (.invalidCharacter position c) := by
  constructor
  · intro h
    cases htokens : tokenize source with
    | error error =>
      rw [calculate_of_error htokens] at h
      cases h
      rfl
    | ok tokens =>
      -- With tokens the verdict would be another one.
      have hverdict : Verdict.ofAnswer (calculate source) = .invalidCharacter := by
        rw [h]
        rfl
      cases Verdict.ofAnswer_eq_iff.1 hverdict with
      | invalidCharacter hnone => exact absurd ⟨tokens, htokens⟩ hnone
  · exact calculate_of_error

end Calculate

/-- Exactly one `Verdict` on an expression holds and it is what the calculation comes to: a
character that cannot be read before all else, then too few tokens, then a token in the
operator's place that is none, then a zero as the divisor. The signs tell operators from all
other tokens. -/
theorem ofAnswer_calculate_eq_iff (source : String) :
    (∃! verdict, Verdict.On source verdict) ∧
      (∀ verdict, Verdict.ofAnswer (calculate source) = verdict ↔ Verdict.On source verdict) ∧
      (∀ position c, calculate source = .error (.invalidCharacter position c) ↔
        tokenize source = .error (.invalidCharacter position c)) ∧
      ∀ tokens, tokenize source = .ok tokens → ∀ token ∈ tokens,
        ((∃ sign, Operator.ofSign token.value = .ok sign) ↔ token.kind = .operator) := by
  refine ⟨?_, fun _ => Verdict.ofAnswer_eq_iff, fun _ _ => calculate_eq_invalidCharacter_iff, ?_⟩
  · obtain ⟨verdict, h⟩ := Verdict.exists_on source
    refine ⟨verdict, h, ?_⟩
    intro other hother
    exact hother.ofAnswer_eq.symm.trans h.ofAnswer_eq
  · intro tokens htokens token hmem
    simp only [Operator.ofSign_eq_ok_iff]
    exact (isSpelled_of_tokenize htokens token hmem).exists_eq_sign_iff

/-- A zero with a fraction divides nothing, and what follows it is not looked at. -/
theorem ofAnswer_calculate_zero :
    tokenize "6 /0.00)" =
        .ok [⟨.number, "6"⟩, ⟨.operator, "/"⟩, ⟨.number, "0.00"⟩, ⟨.parenthesis, ")"⟩] ∧
      Verdict.On "6 /0.00)" .divisionByZero ∧
      Verdict.ofAnswer (calculate "6 /0.00)") = .divisionByZero ∧
      ¬ ∃ sign, Operator.ofSign ")" = .ok sign := by
  have htokens : tokenize "6 /0.00)" =
      .ok [⟨.number, "6"⟩, ⟨.operator, "/"⟩, ⟨.number, "0.00"⟩, ⟨.parenthesis, ")"⟩] := by
    decide +kernel
  have hzero : ReadsAsZero "0.00" := ⟨.decimal false 0 (-2), rfl, rfl⟩
  have hverdict : Verdict.On "6 /0.00)" .divisionByZero :=
    .divisionByZero htokens rfl ⟨rfl, rfl, hzero⟩
  obtain ⟨-, hanswer, -, hsigns⟩ := ofAnswer_calculate_eq_iff "6 /0.00)"
  refine ⟨htokens, hverdict, (hanswer _).2 hverdict, ?_⟩
  have hparenthesis := hsigns _ htokens ⟨.parenthesis, ")"⟩ (by simp)
  exact hparenthesis.not.2 (by decide)

end Reckoner
