import Reckoner.Decimal.Layout
import Reckoner.Proofs.Decimal.Shortest

/-!
# Decimal — layout of results

A result is laid out as a `Numeral.plainText`, with zeros where its digits do not reach the
point. They are the only characters that come to the digits of the decimal and do not change
its value, so each magnitude is read back from its text.
-/

namespace Reckoner

namespace Decimal

/-! ## Digits on either side of the point -/

/-- The digits before the point. -/
def whole (decimal : Decimal) : List Char :=
  if decimal.point ≤ 0 then ['0']
  else decimal.digits.take decimal.point.toNat ++
    List.replicate (decimal.point.toNat - (decimal.digits.take decimal.point.toNat).length) '0'

/-- The digits after the point. -/
def decimals (decimal : Decimal) : List Char :=
  if decimal.digits.drop decimal.point.toNat = [] then []
  else List.replicate (-decimal.point).toNat '0' ++ decimal.digits.drop decimal.point.toNat

theorem positionalText_plain (decimal : Decimal) : Layout.plain.positionalText decimal =
    String.ofList (Numeral.plainText decimal.whole decimal.decimals) := by
  have htext : Layout.plain.positionalText decimal = String.ofList decimal.whole ++
      if decimal.digits.drop decimal.point.toNat = [] then ""
      else "." ++ String.ofList (List.replicate (-decimal.point).toNat '0' ++
        decimal.digits.drop decimal.point.toNat) := rfl
  rw [htext, Numeral.plainText]
  by_cases hnone : decimal.digits.drop decimal.point.toNat = []
  · have hdecimals : decimal.decimals = [] := if_pos hnone
    rw [if_pos hnone, if_pos hdecimals, String.append_empty, List.append_nil]
  · have hdecimals : decimal.decimals = List.replicate (-decimal.point).toNat '0' ++
        decimal.digits.drop decimal.point.toNat := if_neg hnone
    have hne : decimal.decimals ≠ [] := by simp [hdecimals, hnone]
    rw [if_neg hnone, if_neg hne, ← hdecimals, ← List.singleton_append, String.ofList_append,
      String.ofList_append]

section Padded

variable {decimal : Decimal} (h : AllIn Char.isDigit decimal.digits)

include h

/-- On both sides of the point there are the `digits` of the decimal, with zeros before them up
to the point or after them. -/
theorem exists_zeros : ∃ leading trailing : ℕ,
    decimal.whole ++ decimal.decimals =
      List.replicate leading '0' ++ (decimal.digits ++ List.replicate trailing '0') ∧
    decimal.point - decimal.digits.length = trailing - (decimal.decimals.length : ℤ) := by
  rcases le_or_gt decimal.point 0 with hpoint | hpoint
  · have hnone : decimal.point.toNat = 0 := Int.toNat_of_nonpos hpoint
    have hwhole : decimal.whole = List.replicate 1 '0' := if_pos hpoint
    have hdecimals : decimal.decimals =
        List.replicate (-decimal.point).toNat '0' ++ decimal.digits := by
      rw [decimals, hnone, List.drop_zero, if_neg h.1]
    -- The zero before the point and those after it come before all digits.
    refine ⟨1 + (-decimal.point).toNat, 0, ?_, ?_⟩
    · rw [hwhole, hdecimals, ← List.append_assoc, List.replicate_append_replicate,
        List.replicate_zero, List.append_nil]
    · rw [hdecimals, List.length_append, List.length_replicate]
      omega
  · have hnone : (-decimal.point).toNat = 0 := by omega
    have hwhole : decimal.whole = _ := if_neg (by omega)
    have hdecimals : decimal.decimals = decimal.digits.drop decimal.point.toNat := by
      rw [decimals, hnone, List.replicate_zero, List.nil_append, ite_eq_right_iff]
      exact Eq.symm
    refine ⟨0, decimal.point.toNat - decimal.digits.length, ?_, ?_⟩
    · rw [hwhole, hdecimals, List.replicate_zero, List.nil_append]
      -- The point stands behind all digits, or it parts them.
      rcases le_total decimal.digits.length decimal.point.toNat with hle | hle
      · rw [List.take_of_length_le hle, List.drop_eq_nil_of_le hle, List.append_nil]
      · rw [List.length_take_of_le hle, Nat.sub_self, Nat.sub_eq_zero_of_le hle,
          List.replicate_zero, List.append_nil, List.append_nil, List.take_append_drop]
    · rw [hdecimals, List.length_drop]
      omega

theorem forall_isDigit : ∀ c ∈ decimal.whole ++ decimal.decimals, c.isDigit = true := by
  obtain ⟨leading, trailing, happend, -⟩ := exists_zeros h
  rw [happend]
  exact List.forall_mem_append.2 ⟨Numeral.isDigit_of_mem_replicate,
    List.forall_mem_append.2 ⟨h.2, Numeral.isDigit_of_mem_replicate⟩⟩

theorem allIn_whole : AllIn Char.isDigit decimal.whole := by
  refine ⟨?_, (List.forall_mem_append.1 (forall_isDigit h)).1⟩
  rw [whole]
  split
  · simp
  · next hpoint =>
    have hplace : decimal.point.toNat ≠ 0 := by omega
    simp [hplace, h.1]

theorem plainValue_eq : Numeral.plainValue decimal.whole decimal.decimals = decimal.value := by
  obtain ⟨leading, trailing, happend, hplaces⟩ := exists_zeros h
  rw [Numeral.plainValue, value, happend, hplaces, Numeral.ofDigits_replicate_append,
    Numeral.ofDigits_append_replicate, sub_eq_add_neg, zpow_add₀ (by norm_num), zpow_natCast,
    Nat.cast_mul, Nat.cast_pow, Nat.cast_ofNat, mul_assoc]

end Padded

end Decimal

/-! ## The text of a magnitude -/

namespace Layout

/-- A magnitude is laid out as a `Numeral.plainText` that is read back as it. -/
theorem exists_plainText (rank : Rank) : ∃ whole decimals,
    plain.text (.finite false rank) = String.ofList (Numeral.plainText whole decimals) ∧
      AllIn Char.isDigit whole ∧ (∀ c ∈ decimals, c.isDigit = true) ∧
      Numeral.roundDecimal false (Numeral.ofDigits (whole ++ decimals))
        (-(decimals.length : ℤ)) = .finite false rank := by
  by_cases hrank : rank.val = 0
  · have hzero : Binary64.zero false = .finite false rank := by
      rw [Binary64.zero, Binary64.finite.injEq]
      exact ⟨rfl, Fin.ext hrank.symm⟩
    exact ⟨['0'], [], by rw [text, if_pos hrank]; rfl, by decide, by simp, hzero⟩
  · have hdigits := Decimal.allIn_digits_shortest hrank
    refine ⟨_, _, ?_, Decimal.allIn_whole hdigits,
      (List.forall_mem_append.1 (Decimal.forall_isDigit hdigits)).2,
      Decimal.readsBack_of_value (Decimal.plainValue_eq hdigits).symm⟩
    rw [text, if_neg hrank, ← Decimal.positionalText_plain]
    exact String.empty_append

/-- The other sign only puts a minus sign before the text. -/
theorem text_negative (rank : Rank) :
    plain.text (.finite true rank) = "-" ++ plain.text (.finite false rank) := by
  have hsign : signText false = "" := rfl
  rw [text, text, hsign, String.empty_append]
  rfl

end Layout

end Reckoner
