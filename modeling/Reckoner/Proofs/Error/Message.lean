import Reckoner.Error
import Reckoner.Proofs.Text.Quoted

/-!
# Error — messages

What the message of an error tells. Its `initials` tell what is wrong. After them a position
ends at the colon, and a character or a text stands in quotes, so whatever was read the
error can be told by its message, and the message has only one line.
-/

namespace Reckoner

namespace Error

/-! ## What is wrong -/

/-- The first letters of `message`, which tell the constructors apart. -/
def initials : Error → List Char
  | .invalidCharacter _ _ => ['i', 'n', 'v']
  | .insufficientTokens => ['i', 'n', 's']
  | .unsupportedOperator _ => ['u', 'n', 's']
  | .divisionByZero => ['d', 'i', 'v']

theorem take_message (error : Error) : error.message.toList.take 3 = error.initials := by
  cases error with
  | invalidCharacter position c =>
    unfold message
    simp only [String.toList_append, List.append_assoc]
    rfl
  | insufficientTokens => rfl
  | unsupportedOperator text =>
    unfold message
    rw [String.toList_append]
    rfl
  | divisionByZero => rfl

/-! ## What is wrong where, and with what -/

theorem invalidCharacter_message_inj {position position' : Nat} {c c' : Char}
    (h : (invalidCharacter position c).message = (invalidCharacter position' c').message) :
    position = position' ∧ c = c' := by
  unfold message at h
  rw [← String.toList_inj] at h
  simp only [String.toList_append, List.append_assoc] at h
  have hdigits : Nat.toDigits 10 position ++ ':' :: ' ' :: (quoteChar c).toList =
      Nat.toDigits 10 position' ++ ':' :: ' ' :: (quoteChar c').toList := by
    simpa using List.append_cancel_left h
  have hcolon := not_mem_toDigits (c := ':') (by decide)
  obtain ⟨hposition, hrest⟩ := append_cons_inj (hcolon _) (hcolon _) hdigits
  have hquoted := String.toList_inj.1 (List.cons.inj hrest).2
  exact ⟨toDigits_inj (by decide) (by decide) hposition, quoteChar_inj hquoted⟩

theorem unsupportedOperator_message_inj {text text' : String}
    (h : (unsupportedOperator text).message = (unsupportedOperator text').message) :
    text = text' := by
  unfold message at h
  rw [← String.toList_inj, String.toList_append, String.toList_append] at h
  exact quoteString_inj (String.toList_inj.1 (List.append_cancel_left h))

theorem message_inj {error other : Error} (h : error.message = other.message) :
    error = other := by
  have hinitials : error.initials = other.initials := by
    rw [← take_message, ← take_message, h]
  -- Two constructors have other initials, so only the diagonal is left.
  cases error with
  | invalidCharacter position c =>
    cases other with
    | invalidCharacter position' c' =>
      obtain ⟨rfl, rfl⟩ := invalidCharacter_message_inj h
      rfl
    | _ => simp [initials] at hinitials
  | insufficientTokens =>
    cases other with
    | insufficientTokens => rfl
    | _ => simp [initials] at hinitials
  | unsupportedOperator text =>
    cases other with
    | unsupportedOperator text' =>
      obtain rfl := unsupportedOperator_message_inj h
      rfl
    | _ => simp [initials] at hinitials
  | divisionByZero =>
    cases other with
    | divisionByZero => rfl
    | _ => simp [initials] at hinitials

/-! ## One line -/

theorem lineBreak_not_mem_message (error : Error) :
    '\n' ∉ error.message.toList ∧ '\r' ∉ error.message.toList := by
  cases error with
  | invalidCharacter position c =>
    have hopening : '\n' ∉ "invalid character at position ".toList ∧
        '\r' ∉ "invalid character at position ".toList := by decide
    have hmiddle : '\n' ∉ ": ".toList ∧ '\r' ∉ ": ".toList := by decide
    have hfeed : '\n' ∉ Nat.toDigits 10 position := not_mem_toDigits (by decide) _
    have hreturn : '\r' ∉ Nat.toDigits 10 position := not_mem_toDigits (by decide) _
    have hquoted := lineBreak_not_mem_quoteChar c
    unfold message
    simp only [String.toList_append, List.mem_append, not_or, Nat.toString_eq_repr,
      Nat.toList_repr]
    exact ⟨⟨⟨⟨hopening.1, hfeed⟩, hmiddle.1⟩, hquoted.1⟩,
      ⟨⟨⟨hopening.2, hreturn⟩, hmiddle.2⟩, hquoted.2⟩⟩
  | insufficientTokens => decide
  | unsupportedOperator text =>
    have hopening : '\n' ∉ "unsupported operator: ".toList ∧
        '\r' ∉ "unsupported operator: ".toList := by decide
    have hquoted := lineBreak_not_mem_quoteString text
    unfold message
    simp only [String.toList_append, List.mem_append, not_or]
    exact ⟨⟨hopening.1, hquoted.1⟩, hopening.2, hquoted.2⟩
  | divisionByZero => decide

/-- Errors are told by their messages, each of which stands on one line. -/
theorem message_eq_iff_and_lineBreak_not_mem (error other : Error) :
    (error.message = other.message ↔ error = other) ∧
      '\n' ∉ error.message.toList ∧ '\r' ∉ error.message.toList := by
  refine ⟨⟨message_inj, ?_⟩, lineBreak_not_mem_message error⟩
  rintro rfl
  rfl

/-- Text that looks like an escaped line feed has another message than a line feed. -/
example : (unsupportedOperator "\n").message = "unsupported operator: \"\\n\"" ∧
    (unsupportedOperator "\\n").message = "unsupported operator: \"\\\\n\"" := by
  decide +kernel

end Error

end Reckoner
