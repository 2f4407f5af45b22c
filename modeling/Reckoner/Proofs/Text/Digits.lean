import Mathlib.Tactic.IntervalCases

/-!
# Text — digits

Numbers as `Nat.toDigits` writes them in a base up to sixteen, as positions are and the
numbers of unprintable characters. A number is told by its digits, and no other characters
stand among them.
-/

namespace Reckoner

/-! ## One digit -/

theorem toNat_digitChar {digit : Nat} (h : digit < 16) :
    digit.digitChar.toNat = if digit < 10 then 48 + digit else 87 + digit := by
  interval_cases digit <;> rfl

theorem digitChar_inj {digit other : Nat} (hdigit : digit < 16) (hother : other < 16)
    (h : digit.digitChar = other.digitChar) : digit = other := by
  have hnat := congrArg Char.toNat h
  rw [toNat_digitChar hdigit, toNat_digitChar hother] at hnat
  split at hnat <;> split at hnat <;> omega

/-! ## All digits of a number -/

section Base

variable {base number other : Nat}

theorem exists_digit_of_mem_toDigits (hbase : 1 < base) {c : Char}
    (h : c ∈ Nat.toDigits base number) : ∃ digit < base, c = digit.digitChar := by
  induction number using Nat.strongRecOn with
  | ind number ih =>
    rw [Nat.toDigits_eq_if hbase] at h
    split at h
    · next hlt => exact ⟨number, hlt, List.mem_singleton.1 h⟩
    · rcases List.mem_append.1 h with h | h
      · exact ih _ (Nat.div_lt_self (by omega) hbase) h
      · exact ⟨number % base, Nat.mod_lt _ (by omega), List.mem_singleton.1 h⟩

/-- The digits of `Nat.toDigits` tell the number, since their last one is the remainder and
those before it are the digits of the quotient. -/
theorem toDigits_inj (hbase : 1 < base) (hle : base ≤ 16)
    (h : Nat.toDigits base number = Nat.toDigits base other) : number = other := by
  induction number using Nat.strongRecOn generalizing other with
  | ind number ih =>
    rcases Nat.lt_or_ge number base with hnumber | hnumber <;>
      rcases Nat.lt_or_ge other base with hother | hother
    · rw [Nat.toDigits_of_lt_base hnumber, Nat.toDigits_of_lt_base hother] at h
      exact digitChar_inj (by omega) (by omega) (List.singleton_inj.1 h)
    -- A single digit has none before it.
    · rw [Nat.toDigits_of_lt_base hnumber, Nat.toDigits_of_base_le hbase hother] at h
      exact absurd (congrArg List.length h) (by simp)
    · rw [Nat.toDigits_of_base_le hbase hnumber, Nat.toDigits_of_lt_base hother] at h
      exact absurd (congrArg List.length h) (by simp)
    · rw [Nat.toDigits_of_base_le hbase hnumber, Nat.toDigits_of_base_le hbase hother] at h
      obtain ⟨hinit, hlast⟩ := List.append_inj' h rfl
      have hquotient := ih _ (Nat.div_lt_self (by omega) hbase) hinit
      have hmod : number % base < base := Nat.mod_lt _ (by omega)
      have hmod' : other % base < base := Nat.mod_lt _ (by omega)
      have hremainder := digitChar_inj (by omega) (by omega) (List.singleton_inj.1 hlast)
      rw [← Nat.div_add_mod number base, ← Nat.div_add_mod other base, hquotient, hremainder]

end Base

/-- No character before `0` or after `f` stands in a hexadecimal number. -/
theorem not_mem_toDigits_sixteen {c : Char} (h : c.toNat < 48 ∨ 102 < c.toNat)
    (number : Nat) : c ∉ Nat.toDigits 16 number := by
  intro hmem
  obtain ⟨digit, hdigit, rfl⟩ := exists_digit_of_mem_toDigits (by decide) hmem
  rw [toNat_digitChar hdigit] at h
  split at h <;> omega

theorem not_mem_toDigits {c : Char} (h : c.isDigit = false) (number : Nat) :
    c ∉ Nat.toDigits 10 number := by
  intro hmem
  have hdigit := Nat.isDigit_of_mem_toDigits (by decide) (by decide) hmem
  simp [h] at hdigit

end Reckoner
