import Reckoner.Proofs.Calculation.Verdict
import Reckoner.Proofs.Numeral.Plain
import Reckoner.Proofs.Numeral.Value
import Reckoner.Proofs.Token.Elision

/-!
# Calculation — spelling of numbers

One number can be written in many ways, and its text is kept as it is up to the calculation.
What it is read as there depends on its value alone, in the sense of `SameValue`, so
expressions with the same operator between equal numbers come to the same, however many
zeros the numbers are written with and on whichever side of a rounding boundary these seem
to put them.
-/

namespace Reckoner

/-- Whether two texts denote the same number, in the sense of `Denotes`. -/
def SameValue (text other : String) : Prop :=
  ∃ value, Denotes text value ∧ Denotes other value

/-- Whether the first three tokens of `source` are two numbers with an operator between them. -/
def IsOperation (source lhs operator rhs : String) : Prop :=
  ∃ others, tokenize source =
    .ok (⟨.number, lhs⟩ :: ⟨.operator, operator⟩ :: ⟨.number, rhs⟩ :: others)

/-! ## Numbers of the same value -/

theorem Calculation.operand_plainText {whole decimals : List Char}
    (hwhole : AllIn Char.isDigit whole) (hdecimals : ∀ c ∈ decimals, c.isDigit = true) :
    operand (String.ofList (Numeral.plainText whole decimals)) =
      Numeral.roundDecimal false (Numeral.ofDigits (whole ++ decimals))
        (-(decimals.length : ℤ)) := by
  rw [operand, Numeral.parse?_plainText hwhole hdecimals]
  rfl

/-- A number token is read as the number that its text `Denotes`, rounded. -/
theorem Token.IsSpelled.operand_eq_round {token : Token} (h : token.IsSpelled)
    (hkind : token.kind = .number) : ∃ (coefficient : ℕ) (exponent : ℤ),
      Denotes token.value ((coefficient : ℚ) * 10 ^ exponent) ∧
        Calculation.operand token.value = Numeral.roundDecimal false coefficient exponent := by
  obtain ⟨whole, decimals, htext, hwhole, hdecimals⟩ :=
    LexemeKind.spells_number_iff.1 (h.kind_eq_iff.1 hkind)
  have hvalue : token.value = String.ofList (Numeral.plainText whole decimals) := by
    rw [← htext, String.ofList_toList]
  rw [hvalue]
  exact ⟨_, _, Numeral.denotes_plainText hwhole hdecimals,
    Calculation.operand_plainText hwhole hdecimals⟩

/-- Number tokens with the `SameValue` are read as the same number. -/
theorem operand_eq_of_sameValue {token other : Token} (h : token.IsSpelled)
    (hother : other.IsSpelled) (hkind : token.kind = .number) (hkind' : other.kind = .number)
    (hvalue : SameValue token.value other.value) :
    Calculation.operand token.value = Calculation.operand other.value := by
  obtain ⟨coefficient, exponent, hdenotes, hread⟩ := h.operand_eq_round hkind
  obtain ⟨coefficient', exponent', hdenotes', hread'⟩ := hother.operand_eq_round hkind'
  obtain ⟨value, hleft, hright⟩ := hvalue
  have heq : (coefficient : ℚ) * 10 ^ exponent = coefficient' * 10 ^ exponent' :=
    (hdenotes.unique hleft).trans (hright.unique hdenotes')
  rw [hread, hread', Numeral.roundDecimal_congr heq]

/-- Zeros before a number and after its last decimal do not change its value. Without `decimals`
the trailing zeros come with a point. -/
theorem sameValue_padded (whole decimals : List Char) (hwhole : AllIn Char.isDigit whole)
    (hdecimals : ∀ c ∈ decimals, c.isDigit = true) (leading trailing : ℕ) :
    SameValue (String.ofList (Numeral.plainText whole decimals))
      (String.ofList (Numeral.plainText (List.replicate leading '0' ++ whole)
        (decimals ++ List.replicate trailing '0'))) := by
  refine ⟨_, Numeral.denotes_plainText hwhole hdecimals, ?_⟩
  rw [← Numeral.plainValue_padded leading trailing]
  refine Numeral.denotes_plainText ⟨by simp [hwhole.1], ?_⟩ ?_
  · exact List.forall_mem_append.2 ⟨Numeral.isDigit_of_mem_replicate, hwhole.2⟩
  · exact List.forall_mem_append.2 ⟨hdecimals, Numeral.isDigit_of_mem_replicate⟩

/-! ## Expressions of the same value -/

section Operation

variable {source other lhs operator rhs lhs' rhs' : String}

/-- The texts of an operation stand in `source` one after the other, but for blanks. -/
theorem IsOperation.isPrefix (h : IsOperation source lhs operator rhs) :
    (lhs ++ operator ++ rhs).toList <+: (elideBlanks source).toList := by
  obtain ⟨others, htokens⟩ := h
  have hjoined := (tokenize_eq_ok_iff_reads.1 htokens).filter_eq_joined
  refine ⟨Token.joined others, ?_⟩
  rw [toList_elideBlanks, hjoined]
  simp

theorem IsOperation.calculate_eq (h : IsOperation source lhs operator rhs) :
    ∃ sign, Operator.ofSign operator = .ok sign ∧
      calculate source = sign.apply (Calculation.operand lhs) (Calculation.operand rhs) := by
  obtain ⟨others, htokens⟩ := h
  have hspelled := isSpelled_of_tokenize htokens ⟨.operator, operator⟩ (by simp)
  obtain ⟨sign, hsign⟩ := hspelled.exists_eq_sign_iff.2 rfl
  refine ⟨sign, Operator.ofSign_eq_ok_iff.2 hsign, ?_⟩
  rw [calculate_of_tokens htokens, evaluate_of_sign hsign]

theorem IsOperation.isSpelled (h : IsOperation source lhs operator rhs) :
    Token.IsSpelled ⟨.number, lhs⟩ ∧ Token.IsSpelled ⟨.number, rhs⟩ := by
  obtain ⟨others, htokens⟩ := h
  have hspelled := isSpelled_of_tokenize htokens
  exact ⟨hspelled _ (by simp), hspelled _ (by simp)⟩

/-- Two expressions with the same `operator` between numbers of the same value come to the same
result or to the same error. What their tokens hold are the texts as they were written. -/
theorem calculate_eq_of_sameValue (h : IsOperation source lhs operator rhs)
    (hother : IsOperation other lhs' operator rhs') (hlhs : SameValue lhs lhs')
    (hrhs : SameValue rhs rhs') :
    calculate source = calculate other ∧
      (lhs ++ operator ++ rhs).toList <+: (elideBlanks source).toList ∧
      (lhs' ++ operator ++ rhs').toList <+: (elideBlanks other).toList := by
  refine ⟨?_, h.isPrefix, hother.isPrefix⟩
  obtain ⟨hleft, hright⟩ := h.isSpelled
  obtain ⟨hleft', hright'⟩ := hother.isSpelled
  obtain ⟨sign, hsign, hcalculate⟩ := h.calculate_eq
  obtain ⟨sign', hsign', hcalculate'⟩ := hother.calculate_eq
  have heq : sign = sign' := Except.ok.inj (hsign.symm.trans hsign')
  rw [hcalculate, hcalculate', heq, operand_eq_of_sameValue hleft hleft' rfl rfl hlhs,
    operand_eq_of_sameValue hright hright' rfl rfl hrhs]

end Operation

/-- A quotient of numbers with zeros before them and after them is that of the numbers. -/
theorem calculate_eq_of_sameValue_zeros :
    IsOperation "7.5 / 3" "7.5" "/" "3" ∧
      IsOperation "007.500/03.00 )" "007.500" "/" "03.00" ∧
      SameValue "7.5" "007.500" ∧ SameValue "3" "03.00" ∧
      calculate "7.5 / 3" = calculate "007.500/03.00 )" := by
  have hplain : IsOperation "7.5 / 3" "7.5" "/" "3" := ⟨[], by decide +kernel⟩
  have hzeros : IsOperation "007.500/03.00 )" "007.500" "/" "03.00" :=
    ⟨[⟨.parenthesis, ")"⟩], by decide +kernel⟩
  have hlhs : SameValue "7.5" "007.500" :=
    sameValue_padded ['7'] ['5'] (by decide) (List.forall_mem_singleton.2 rfl) 2 2
  have hrhs : SameValue "3" "03.00" :=
    sameValue_padded ['3'] [] (by decide) (List.forall_mem_nil _) 1 2
  exact ⟨hplain, hzeros, hlhs, hrhs, (calculate_eq_of_sameValue hplain hzeros hlhs hrhs).1⟩

end Reckoner
