import Reckoner.Proofs.Numeral.Literal

/-!
# Numeral — plain numbers

Numbers that are written with digits and at most one point between them, without a sign and
without an exponent. The texts of number lexemes are of the form `plainText` and of no
other. A plain number is read as the whole number of all its digits, over a power of ten for
those after the point, so zeros at either end do not count.
-/

namespace Reckoner

namespace Numeral

/-- The text of a number by its digits before and after the point, which stands there only
if digits follow it. -/
def plainText (whole decimals : List Char) : List Char :=
  whole ++ if decimals = [] then [] else '.' :: decimals

/-- The value of a number by its digits before and after the point. -/
def plainValue (whole decimals : List Char) : ℚ :=
  (ofDigits (whole ++ decimals) : ℚ) * 10 ^ (-(decimals.length : ℤ))

end Numeral

/-- The lexemes of the kind `number` are the plain numbers. -/
theorem LexemeKind.spells_number_iff {text : List Char} : Spells .number text ↔
    ∃ whole decimals, text = Numeral.plainText whole decimals ∧ AllIn Char.isDigit whole ∧
      ∀ c ∈ decimals, c.isDigit = true := by
  constructor
  · rintro ⟨whole, fraction, rfl, hwhole, rfl | ⟨digits, rfl, hne, hdigits⟩⟩
    · exact ⟨whole, [], rfl, hwhole, by simp⟩
    · exact ⟨whole, digits, by rw [Numeral.plainText, if_neg hne], hwhole, hdigits⟩
  · rintro ⟨whole, decimals, rfl, hwhole, hdecimals⟩
    refine ⟨whole, _, rfl, hwhole, ?_⟩
    split
    · exact .inl rfl
    · next hne => exact .inr ⟨decimals, rfl, hne, hdecimals⟩

/-! ## Reading a plain number -/

/-- A plain number as a `Literal`, without a sign and without an exponent. -/
def Literal.plain {whole decimals : List Char} (hwhole : AllIn Char.isDigit whole)
    (hdecimals : ∀ c ∈ decimals, c.isDigit = true) : Literal where
  sign := .absent
  whole := whole
  fraction := if decimals = [] then none else some decimals
  exponent := none
  whole_digits := hwhole.2
  fraction_digits := by
    split
    · simp
    · exact hdecimals
  some_digit := .inl hwhole.1

namespace Numeral

section Plain

variable {whole decimals : List Char} (hwhole : AllIn Char.isDigit whole)
  (hdecimals : ∀ c ∈ decimals, c.isDigit = true)

include hwhole hdecimals

theorem text_plain : (Literal.plain hwhole hdecimals).text = plainText whole decimals := by
  unfold Literal.plain Literal.text Literal.body plainText
  split <;> simp [SignMark.text]

theorem decimals_plain : (Literal.plain hwhole hdecimals).decimals = decimals := by
  unfold Literal.plain Literal.decimals
  split
  · next hnil => exact hnil.symm
  · rfl

theorem coefficient_plain :
    (Literal.plain hwhole hdecimals).coefficient = ofDigits (whole ++ decimals) := by
  rw [Literal.coefficient, decimals_plain hwhole hdecimals]
  rfl

theorem scale_plain : (Literal.plain hwhole hdecimals).scale = -(decimals.length : ℤ) := by
  rw [Literal.scale, decimals_plain hwhole hdecimals]
  exact zero_sub _

theorem denotes_plainText :
    Denotes (String.ofList (plainText whole decimals)) (plainValue whole decimals) := by
  refine ⟨Literal.plain hwhole hdecimals, ?_, ?_⟩
  · rw [text_plain hwhole hdecimals, String.toList_ofList]
  · rw [Literal.value_eq, coefficient_plain hwhole hdecimals, scale_plain hwhole hdecimals]
    exact one_mul _

/-- A plain number is read as all its digits and as many places as `decimals` has. -/
theorem parse?_plainText : parse? (String.ofList (plainText whole decimals)) =
    some (.decimal false (ofDigits (whole ++ decimals)) (-(decimals.length : ℤ))) := by
  have htext : (Literal.plain hwhole hdecimals).text =
      (String.ofList (plainText whole decimals)).toList := by
    rw [text_plain hwhole hdecimals, String.toList_ofList]
  rw [Literal.parse?_eq htext, coefficient_plain hwhole hdecimals, scale_plain hwhole hdecimals]
  rfl

end Plain

/-! ## Zeros at either end -/

theorem isDigit_of_mem_replicate {zeros : ℕ} :
    ∀ c ∈ List.replicate zeros '0', c.isDigit = true := by
  intro c hc
  rw [List.eq_of_mem_replicate hc]
  rfl

theorem ofDigits_replicate (zeros : ℕ) : ofDigits (List.replicate zeros '0') = 0 := by
  rw [ofDigits, Nat.ofDigitChars_replicate_zero, Nat.mul_zero]

theorem ofDigits_replicate_append (zeros : ℕ) (digits : List Char) :
    ofDigits (List.replicate zeros '0' ++ digits) = ofDigits digits := by
  rw [ofDigits_append, ofDigits_replicate, Nat.zero_mul, Nat.zero_add]

theorem ofDigits_append_replicate (digits : List Char) (zeros : ℕ) :
    ofDigits (digits ++ List.replicate zeros '0') = ofDigits digits * 10 ^ zeros := by
  rw [ofDigits_append, ofDigits_replicate, List.length_replicate, Nat.add_zero]

/-- Zeros before a number and after its last decimal do not change its value. -/
theorem plainValue_padded (leading trailing : ℕ) (whole decimals : List Char) :
    plainValue (List.replicate leading '0' ++ whole) (decimals ++ List.replicate trailing '0') =
      plainValue whole decimals := by
  have hten : (10 : ℚ) ^ (trailing : ℤ) ≠ 0 := zpow_ne_zero _ (by norm_num)
  rw [plainValue, plainValue, List.append_assoc, ← List.append_assoc whole,
    ofDigits_replicate_append, ofDigits_append_replicate, List.length_append,
    List.length_replicate, Nat.cast_mul, Nat.cast_pow, Nat.cast_ofNat, ← zpow_natCast,
    Nat.cast_add, neg_add, zpow_add₀ (by norm_num), zpow_neg, zpow_neg]
  field_simp

end Numeral

end Reckoner
