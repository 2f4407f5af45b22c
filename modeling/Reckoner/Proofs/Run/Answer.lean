import Reckoner.Proofs.Calculation.Spelling
import Reckoner.Proofs.Decimal.Layout
import Reckoner.Proofs.Run.Ending

/-!
# Run — answers

The text that a run writes for a result can be put into an expression again, as `ReadAgain`
says for each kind of number. The text of a finite number without a minus sign is one number
token and is read as that very number, whether it takes hundreds of zeros before its digits
or after them. A minus sign is a token of its own, and the rest is read as the magnitude.
Infinities and what is not a number are written with letters, which no expression has.
-/

namespace Reckoner

/-- What `text` for a number is as an expression. A finite number is read again from its token,
after a minus sign if it has one. For any other number there is no token from the first letter
on. -/
inductive ReadAgain : Binary64 → String → Prop where
  | positive {rank : Rank} {text : String} (htokens : tokenize text = .ok [⟨.number, text⟩])
      (hread : Calculation.operand text = .finite false rank) :
      ReadAgain (.finite false rank) text
  | negative {rank : Rank} {digits : String}
      (htokens : tokenize ("-" ++ digits) = .ok [⟨.operator, "-"⟩, ⟨.number, digits⟩])
      (hread : Calculation.operand digits = .finite false rank) :
      ReadAgain (.finite true rank) ("-" ++ digits)
  | special {number : Binary64} {text : String} (before : List Char) (c : Char)
      (after : List Char) (hnumber : ∀ negative rank, number ≠ .finite negative rank)
      (htext : text.toList = before ++ c :: after)
      (hbefore : ∀ d ∈ before, d.isAlpha = false) (hc : c.isAlpha = true)
      (herror : tokenize text = .error (.invalidCharacter before.length c)) :
      ReadAgain number text

/-! ## The tokens of a number -/

section Spelled

variable {text : String} (h : Token.IsSpelled ⟨.number, text⟩)

include h

theorem tokenize_number : tokenize text = .ok [⟨.number, text⟩] := by
  refine tokenize_eq_ok_iff_reads.2 ?_
  rw [← List.append_nil text.toList]
  exact .token h (by simp) .done

/-- The minus sign before a number is a token of its own, see `LexemeKind.all`. -/
theorem tokenize_minus :
    tokenize ("-" ++ text) = .ok [⟨.operator, "-"⟩, ⟨.number, text⟩] := by
  have hminus : Token.IsSpelled ⟨.operator, "-"⟩ := ⟨'-', rfl, by simp⟩
  have hnumber := tokenize_eq_ok_iff_reads.1 (tokenize_number h)
  refine tokenize_eq_ok_iff_reads.2 ?_
  rw [String.toList_append]
  exact .token hminus (fun c _ => rfl) hnumber

end Spelled

/-! ## The text of a result -/

/-- The text of a magnitude `IsSpelled` as a number token, and it is read as the magnitude. -/
theorem isSpelled_text (rank : Rank) :
    Token.IsSpelled ⟨.number, Layout.plain.text (.finite false rank)⟩ ∧
      Calculation.operand (Layout.plain.text (.finite false rank)) = .finite false rank := by
  obtain ⟨whole, decimals, htext, hwhole, hdecimals, hread⟩ := Layout.exists_plainText rank
  rw [htext]
  constructor
  · refine LexemeKind.spells_number_iff.2 ⟨whole, decimals, ?_, hwhole, hdecimals⟩
    exact String.toList_ofList
  · rw [Calculation.operand_plainText hwhole hdecimals, hread]

theorem readAgain_text (number : Binary64) : ReadAgain number (Layout.plain.text number) := by
  cases number with
  | nan =>
    exact .special [] 'N' ['a', 'N'] (by simp) (by decide) (by simp) (by decide)
      (by decide +kernel)
  | infinite negative =>
    cases negative with
    | false =>
      exact .special [] 'i' ['n', 'f'] (by simp) (by decide) (by simp) (by decide)
        (by decide +kernel)
    | true =>
      exact .special ['-'] 'i' ['n', 'f'] (by simp) (by decide)
        (List.forall_mem_singleton.2 rfl) (by decide) (by decide +kernel)
  | finite negative rank =>
    obtain ⟨hspelled, hread⟩ := isSpelled_text rank
    cases negative with
    | false => exact .positive (tokenize_number hspelled) hread
    | true =>
      rw [Layout.text_negative]
      exact .negative (tokenize_minus hspelled) hread

/-- The text of a result can be read again, and it is what a run writes for the result. -/
theorem readAgain_of_evaluate {tokens : List Token} {result : Binary64}
    (h : evaluate tokens = .ok result) :
    ReadAgain result (Layout.plain.text result) ∧
      ∀ expression eval listed, tokenize expression = .ok listed → tokenize eval = .ok tokens →
        (Run.ofExpressions expression eval).stdout =
          Run.header expression ++ Token.listing listed ++ "\n\n" ++
            ("Evaluating '" ++ eval ++ "': " ++ Layout.plain.text result ++ "\n") := by
  refine ⟨readAgain_text result, ?_⟩
  intro expression eval listed hlisted htokens
  rw [Run.ofExpressions_of_tokens hlisted, Run.evaluation_of_ok htokens h]

/-- A difference below zero is written as a minus sign and a magnitude. -/
theorem readAgain_of_evaluate_negative :
    tokenize "1 - 1.5" = .ok [⟨.number, "1"⟩, ⟨.operator, "-"⟩, ⟨.number, "1.5"⟩] ∧
      evaluate [⟨.number, "1"⟩, ⟨.operator, "-"⟩, ⟨.number, "1.5"⟩] =
        .ok (Numeral.roundDecimal true 5 (-1)) ∧
      Layout.plain.text (Numeral.roundDecimal true 5 (-1)) = "-0.5" ∧
      ReadAgain (Numeral.roundDecimal true 5 (-1)) "-0.5" ∧
      (Run.ofExpressions "(" "1 - 1.5").stdout =
        Run.header "(" ++ Token.listing [⟨.parenthesis, "("⟩] ++ "\n\n" ++
          ("Evaluating '1 - 1.5': -0.5\n") := by
  have htokens : tokenize "1 - 1.5" =
      .ok [⟨.number, "1"⟩, ⟨.operator, "-"⟩, ⟨.number, "1.5"⟩] := by decide +kernel
  have hresult : evaluate [⟨.number, "1"⟩, ⟨.operator, "-"⟩, ⟨.number, "1.5"⟩] =
      .ok (Numeral.roundDecimal true 5 (-1)) := by decide +kernel
  have htext : Layout.plain.text (Numeral.roundDecimal true 5 (-1)) = "-0.5" := by
    decide +kernel
  obtain ⟨hread, hstdout⟩ := readAgain_of_evaluate hresult
  have hwritten := hstdout "(" "1 - 1.5" [⟨.parenthesis, "("⟩] (by decide +kernel) htokens
  rw [htext] at hread hwritten
  exact ⟨htokens, hresult, htext, hread, hwritten⟩

end Reckoner
