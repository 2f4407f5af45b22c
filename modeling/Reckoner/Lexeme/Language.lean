import Reckoner.Lexeme

/-!
# Lexeme — languages

Which texts are lexemes of a kind, said by `LexemeKind.Spells` without the search for them.
The longest prefix that a kind finds is such a text, and any other that the text begins with
is a part of it.
-/

namespace Reckoner

/-- At least one character, and all of them in `inClass`. -/
def AllIn (inClass : Char → Bool) (text : List Char) : Prop :=
  text ≠ [] ∧ ∀ c ∈ text, inClass c = true

/-- Nothing, or a point before digits. -/
def IsFraction (text : List Char) : Prop :=
  text = [] ∨ ∃ digits, text = '.' :: digits ∧ AllIn Char.isDigit digits

namespace LexemeKind

/-- Whether a text is a lexeme of a kind. The signs and the parentheses are listed here, so that
this says nothing of `longestPrefix`. -/
def Spells : LexemeKind → List Char → Prop
  | .number, text => ∃ whole fraction, text = whole ++ fraction ∧
      AllIn Char.isDigit whole ∧ IsFraction fraction
  | .operator, text => ∃ sign, text = [sign] ∧ sign ∈ ['+', '-', '*', '/']
  | .parenthesis, text => ∃ c, text = [c] ∧ c ∈ ['(', ')']
  | .whitespace, text => AllIn isBlank text

/-! ## Classes of characters -/

theorem isOperatorSign_iff_mem {c : Char} :
    isOperatorSign c = true ↔ c ∈ ['+', '-', '*', '/'] := by
  simp [isOperatorSign, or_assoc]

theorem isParenthesis_iff_mem {c : Char} : isParenthesis c = true ↔ c ∈ ['(', ')'] := by
  simp [isParenthesis]

theorem allIn_takeWhile {inClass : Char → Bool} {text : List Char}
    (h : text.takeWhile inClass ≠ []) : AllIn inClass (text.takeWhile inClass) :=
  ⟨h, List.all_eq_true.1 List.all_takeWhile⟩

theorem takeWhile_append_of_allIn {inClass : Char → Bool} {run : List Char}
    (h : AllIn inClass run) (rest : List Char) :
    (run ++ rest).takeWhile inClass = run ++ rest.takeWhile inClass :=
  List.takeWhile_append_of_pos h.2

theorem dropWhile_append_of_allIn {inClass : Char → Bool} {run : List Char}
    (h : AllIn inClass run) (rest : List Char) :
    (run ++ rest).dropWhile inClass = rest.dropWhile inClass :=
  List.dropWhile_append_of_pos h.2

/-! ## What is found is a lexeme -/

theorem isFraction_leadingFraction (text : List Char) : IsFraction (leadingFraction text) := by
  unfold leadingFraction
  split
  · next rest =>
    split
    · exact .inl rfl
    · next hne => exact .inr ⟨_, rfl, allIn_takeWhile hne⟩
  · exact .inl rfl

theorem spells_firstIf {inClass : Char → Bool} {text : List Char} (h : firstIf inClass text ≠ []) :
    ∃ c, firstIf inClass text = [c] ∧ inClass c = true := by
  cases text with
  | nil => exact absurd rfl h
  | cons c rest =>
    rw [firstIf] at h ⊢
    split
    · next hc => exact ⟨c, rfl, hc⟩
    · next hc => exact absurd (if_neg hc) h

/-- What `longestPrefix` finds is a lexeme of the kind. -/
theorem spells_longestPrefix {kind : LexemeKind} {text : List Char}
    (h : kind.longestPrefix text ≠ []) : kind.Spells (kind.longestPrefix text) := by
  cases kind with
  | number =>
    simp only [longestPrefix, leadingNumber] at h ⊢
    split
    · next hnil => simp [hnil] at h
    · next hne => exact ⟨_, _, rfl, allIn_takeWhile hne, isFraction_leadingFraction _⟩
  | operator =>
    obtain ⟨sign, hfound, hsign⟩ := spells_firstIf h
    exact ⟨sign, hfound, isOperatorSign_iff_mem.1 hsign⟩
  | parenthesis =>
    obtain ⟨c, hfound, hc⟩ := spells_firstIf h
    exact ⟨c, hfound, isParenthesis_iff_mem.1 hc⟩
  | whitespace => exact allIn_takeWhile h

/-! ## What is a lexeme is found -/

theorem leadingNumber_of_digits {digits rest : List Char} (h : AllIn Char.isDigit digits) :
    leadingNumber (digits ++ rest) =
      digits ++ rest.takeWhile Char.isDigit ++ leadingFraction (rest.dropWhile Char.isDigit) := by
  unfold leadingNumber
  rw [takeWhile_append_of_allIn h, dropWhile_append_of_allIn h]
  split
  · next hnil => exact absurd (List.append_eq_nil_iff.1 hnil).1 h.1
  · rfl

theorem leadingFraction_of_digits {digits rest : List Char} (h : AllIn Char.isDigit digits) :
    leadingFraction ('.' :: (digits ++ rest)) =
      '.' :: (digits ++ rest.takeWhile Char.isDigit) := by
  unfold leadingFraction
  simp only [takeWhile_append_of_allIn h]
  split
  · next hnil => exact absurd (List.append_eq_nil_iff.1 hnil).1 h.1
  · rfl

theorem firstIf_of_mem {inClass : Char → Bool} {c : Char} (h : inClass c = true)
    (rest : List Char) : firstIf inClass (c :: rest) = [c] := if_pos h

/-- A lexeme at the beginning of a text is a part of what `longestPrefix` finds there. -/
theorem isPrefix_longestPrefix_of_spells {kind : LexemeKind} {found : List Char}
    (h : kind.Spells found) (rest : List Char) :
    found <+: kind.longestPrefix (found ++ rest) := by
  cases kind with
  | number =>
    obtain ⟨whole, fraction, rfl, hwhole, hfraction⟩ := h
    simp only [longestPrefix]
    rw [List.append_assoc, leadingNumber_of_digits hwhole, List.append_assoc]
    refine (List.prefix_append_right_inj whole).2 ?_
    -- Without a fraction the text may go on with one, and then more is found.
    obtain rfl | ⟨digits, rfl, hdigits⟩ := hfraction
    · exact List.nil_prefix
    · rw [List.cons_append, List.takeWhile_cons_of_neg (by decide),
        List.dropWhile_cons_of_neg (by decide), leadingFraction_of_digits hdigits]
      exact ⟨rest.takeWhile Char.isDigit, rfl⟩
  | operator =>
    obtain ⟨sign, rfl, hsign⟩ := h
    exact ⟨[], (firstIf_of_mem (isOperatorSign_iff_mem.2 hsign) rest).symm⟩
  | parenthesis =>
    obtain ⟨c, rfl, hc⟩ := h
    exact ⟨[], (firstIf_of_mem (isParenthesis_iff_mem.2 hc) rest).symm⟩
  | whitespace =>
    simp only [longestPrefix]
    rw [takeWhile_append_of_allIn h]
    exact List.prefix_append _ _

/-- No lexeme at the beginning of `text` is longer than what `longestPrefix` finds there. -/
theorem length_le_longestPrefix {kind : LexemeKind} {found text : List Char}
    (h : kind.Spells found) (hbegin : found <+: text) :
    found.length ≤ (kind.longestPrefix text).length := by
  obtain ⟨rest, rfl⟩ := hbegin
  exact (isPrefix_longestPrefix_of_spells h rest).length_le

end LexemeKind

end Reckoner
