import Reckoner.Proofs.Scan.Stray

/-!
# Scan — cuts

What becomes of stray characters when the rest of a text is cut off. A character that
`IsStray` stays so in any beginning of the text that holds it, since a cut adds no digits
around it. Only a cut between a point and its digit makes another one stray. So the text
before the first stray character has tokens, and no longer beginning has.
-/

namespace Reckoner

theorem exists_tokens_iff {source : String} :
    (∃ tokens, tokenize source = .ok tokens) ↔ ∀ index, ¬ IsStray source.toList index := by
  constructor
  · rintro ⟨tokens, h⟩
    exact not_isStray_of_tokenize h
  · intro h
    cases htokens : tokenize source with
    | ok tokens => exact ⟨tokens, rfl⟩
    | error error =>
      obtain ⟨index, c, -, -, hleast⟩ := isLeast_of_tokenize htokens
      exact absurd hleast.1 (h index)

/-! ## What is before a cut -/

section Cut

variable {before after rest : List Char} {index : Nat}

/-- The text after a point counts by its first character alone, so `rest` changes nothing unless
it comes first. -/
theorem isDecimalPoint_append_right
    (h : after = [] → ∀ d ∈ rest.head?, d.isDigit = false) :
    IsDecimalPoint before (after ++ rest) ↔ IsDecimalPoint before after := by
  refine and_congr_left' ?_
  cases after with
  | nil =>
    constructor
    · rintro ⟨d, hd, hdigit⟩
      rw [h rfl d hd] at hdigit
      cases hdigit
    · rintro ⟨d, hd, -⟩
      cases hd
  | cons d after => exact Iff.rfl

theorem IsDecimalPoint.append (h : IsDecimalPoint before after) (rest : List Char) :
    IsDecimalPoint before (after ++ rest) := by
  obtain ⟨⟨d, hd, hdigit⟩, hbefore⟩ := h
  refine ⟨⟨d, ?_, hdigit⟩, hbefore⟩
  rw [List.head?_append, hd]
  rfl

/-- A character that is stray is so in any beginning `before` of the text that holds it. -/
theorem isStray_of_append (hindex : index < before.length) (h : IsStray (before ++ after) index) :
    IsStray before index := by
  unfold IsStray at h ⊢
  rw [List.getElem?_append_left hindex, List.take_append_of_le_length hindex.le,
    List.drop_append_of_le_length hindex] at h
  obtain ⟨c, hc, hdigit, hmem, hblank, hpoint⟩ := h
  refine ⟨c, hc, hdigit, hmem, hblank, ?_⟩
  rintro ⟨rfl, h⟩
  exact hpoint ⟨rfl, h.append after⟩

/-- A cut that parts no point from a digit leaves what stands in `before` as it is. -/
theorem isStray_append_left
    (hpoint : before.getLast? = some '.' → ∀ d ∈ after.head?, d.isDigit = false)
    (hindex : index < before.length) : IsStray (before ++ after) index ↔ IsStray before index := by
  refine ⟨isStray_of_append hindex, ?_⟩
  unfold IsStray
  rw [List.getElem?_append_left hindex, List.take_append_of_le_length hindex.le,
    List.drop_append_of_le_length hindex]
  rintro ⟨c, hc, hdigit, hmem, hblank, hnot⟩
  refine ⟨c, hc, hdigit, hmem, hblank, ?_⟩
  rintro ⟨rfl, h⟩
  refine hnot ⟨rfl, (isDecimalPoint_append_right ?_).1 h⟩
  -- The text after the point is empty only if the point is the last character before the cut.
  intro hdrop
  apply hpoint
  have hlast : index = before.length - 1 := by
    have hle := List.drop_eq_nil_iff.1 hdrop
    omega
  rw [List.getLast?_eq_getElem?, ← hlast]
  exact hc

end Cut

/-! ## The longest beginning that has tokens -/

theorem IsStray.lt_length {text : List Char} {index : Nat} (h : IsStray text index) :
    index < text.length := by
  obtain ⟨c, hc, -⟩ := h
  obtain ⟨hlt, -⟩ := List.getElem?_eq_some_iff.1 hc
  exact hlt

section Error

variable {source : String} {position : Nat} {c : Char}

theorem exists_tokens_take (h : tokenize source = .error (.invalidCharacter position c)) :
    ∃ tokens, tokenize (String.ofList (source.toList.take position)) = .ok tokens := by
  obtain ⟨hc, ⟨d, hd, hdigit, -⟩, hnone⟩ := tokenize_eq_error_iff_first.1 h
  -- The character after the cut is no digit, so no point before it loses one.
  have hpoint : ∀ d ∈ (source.toList.drop position).head?, d.isDigit = false := by
    intro e he
    rw [List.head?_drop, hd] at he
    cases he
    exact hdigit
  rw [exists_tokens_iff, String.toList_ofList]
  intro index hindex
  have hlt := hindex.lt_length
  have hstray := (isStray_append_left (fun _ => hpoint) hlt).2 hindex
  rw [List.take_append_drop] at hstray
  rw [List.length_take] at hlt
  exact hnone index (by omega) hstray

theorem not_exists_tokens_of_longer (h : tokenize source = .error (.invalidCharacter position c))
    {longer : String} (hbegin : longer.toList <+: source.toList)
    (hlonger : position < longer.length) : ¬ ∃ tokens, tokenize longer = .ok tokens := by
  obtain ⟨-, hstray, -⟩ := tokenize_eq_error_iff_first.1 h
  obtain ⟨rest, hrest⟩ := hbegin
  rw [← hrest] at hstray
  rw [exists_tokens_iff]
  intro hnone
  rw [← String.length_toList] at hlonger
  exact hnone position (isStray_of_append hlonger hstray)

/-- The `position` of an error is the length of the longest beginning that has tokens, and the
character that is reported comes right after it. -/
theorem isLongest_take_of_error (h : tokenize source = .error (.invalidCharacter position c)) :
    (∃ tokens, tokenize (String.ofList (source.toList.take position)) = .ok tokens) ∧
      (∀ longer : String, longer.toList <+: source.toList → position < longer.length →
        ¬ ∃ tokens, tokenize longer = .ok tokens) ∧
      source.toList[position]? = some c := by
  refine ⟨exists_tokens_take h, ?_, (tokenize_eq_error_iff_first.1 h).1⟩
  intro longer
  exact not_exists_tokens_of_longer h

end Error

/-- A shorter beginning than the longest may have none: here the point lacks its digit. -/
theorem isLongest_take_of_error_point :
    tokenize "1.5&" = .error (.invalidCharacter 3 '&') ∧
      ((∃ tokens, tokenize (String.ofList ("1.5&".toList.take 3)) = .ok tokens) ∧
        (∀ longer : String, longer.toList <+: "1.5&".toList → 3 < longer.length →
          ¬ ∃ tokens, tokenize longer = .ok tokens) ∧
        "1.5&".toList[3]? = some '&') ∧
      tokenize (String.ofList ("1.5&".toList.take 2)) = .error (.invalidCharacter 1 '.') := by
  have htokens : tokenize "1.5&" = .error (.invalidCharacter 3 '&') := by
    rw [tokenize_eq_error_iff_first]
    decide
  refine ⟨htokens, isLongest_take_of_error htokens, ?_⟩
  rw [tokenize_eq_error_iff_first]
  decide

end Reckoner
