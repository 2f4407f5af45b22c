import Reckoner.Proofs.Scan.Cut
import Reckoner.Proofs.Token.Reading

/-!
# Scan — seams

Cuts that go through no number. Whether a character is stray depends on the digits around it
alone, and an `IsSeam` parts no digit from another one or from a point. So the parts of an
expression on both sides of a seam have their own tokens and their own stray characters, and
what the parts come to says what the whole comes to. Blanks make a seam on both sides.
-/

namespace Reckoner

/-- Whether no number can go on from the end of `before` to the beginning of `after`. -/
def IsSeam (before after : List Char) : Prop :=
  ∀ c ∈ before.getLast?, ∀ d ∈ after.head?,
    ¬ (c.isDigit = true ∧ d.isDigit = true) ∧ ¬ (c.isDigit = true ∧ d = '.') ∧
      ¬ (c = '.' ∧ d.isDigit = true)

instance (before after : List Char) : Decidable (IsSeam before after) :=
  have (c : Char) : Decidable (∀ d ∈ after.head?,
      ¬ (c.isDigit = true ∧ d.isDigit = true) ∧ ¬ (c.isDigit = true ∧ d = '.') ∧
        ¬ (c = '.' ∧ d.isDigit = true)) := Option.decidableForallMem _
  Option.decidableForallMem before.getLast?

/-! ## Stray characters after a seam -/

section Stray

variable {before after rest : List Char} {index : Nat}

/-- No digits end before more of a number: `after` begins with a digit or a point. -/
theorem IsSeam.rtakeWhile_eq_nil {d : Char} (h : IsSeam before (d :: after))
    (hd : d.isDigit = true ∨ d = '.') : before.rtakeWhile Char.isDigit = [] := by
  refine rtakeWhile_eq_nil_of_last ?_
  intro c hc
  obtain ⟨hdigit, hpoint, -⟩ := h c hc d rfl
  rcases hd with hd | rfl
  · simpa [hd] using hdigit
  · simpa using hpoint

/-- After digits that begin at a seam a point `IsDecimalPoint` if a digit follows. -/
theorem isDecimalPoint_digits_iff (hseam : IsSeam before after)
    (hdigits : AllIn Char.isDigit after) :
    IsDecimalPoint (before ++ after) rest ↔ ∃ c ∈ rest.head?, c.isDigit = true := by
  obtain ⟨d, tail, rfl⟩ := List.exists_cons_of_ne_nil hdigits.1
  have hd : d.isDigit = true := hdigits.2 d (by simp)
  have hpoint : before.getLast? ≠ some '.' := by
    intro hc
    exact (hseam '.' hc d rfl).2.2 ⟨rfl, hd⟩
  constructor
  · intro h
    exact h.1
  · exact isDecimalPoint_after_whole (hseam.rtakeWhile_eq_nil (.inl hd)) hpoint hdigits

/-- The text before a point counts by its last digits and the character before them, so `before`
does not count wherever `after` begins at a seam. -/
theorem isDecimalPoint_append_left (hseam : IsSeam before (after ++ '.' :: rest)) :
    IsDecimalPoint (before ++ after) rest ↔ IsDecimalPoint after rest := by
  by_cases hstop : after.rdropWhile Char.isDigit = []
  · have hdigits := List.rdropWhile_eq_nil_iff.1 hstop
    cases after with
    | nil => simp [IsDecimalPoint, hseam.rtakeWhile_eq_nil (.inr rfl)]
    | cons d after =>
      have hwhole : AllIn Char.isDigit (d :: after) := ⟨by simp, hdigits⟩
      have hbegin : IsSeam before (d :: after) := hseam
      have hnil : IsSeam [] (d :: after) := by simp [IsSeam]
      exact (isDecimalPoint_digits_iff hbegin hwhole).trans
        (isDecimalPoint_digits_iff hnil hwhole).symm
  · simp [IsDecimalPoint, rtakeWhile_append_of_ne_nil hstop, rdropWhile_append_of_ne_nil hstop,
      List.getLast?_append, hstop]

/-- A text after a seam has the characters that it has alone for which `IsStray` holds. -/
theorem isStray_append_right (hseam : IsSeam before after) :
    IsStray (before ++ after) (before.length + index) ↔ IsStray after index := by
  have hpoint : ∀ c ∈ after[index]?,
      (c = '.' ∧ IsDecimalPoint (before ++ after.take index) (after.drop (index + 1)) ↔
        c = '.' ∧ IsDecimalPoint (after.take index) (after.drop (index + 1))) := by
    intro c hc
    refine and_congr_right ?_
    rintro rfl
    obtain ⟨hlt, hget⟩ := List.getElem?_eq_some_iff.1 hc
    refine isDecimalPoint_append_left ?_
    rwa [← hget, ← List.drop_eq_getElem_cons hlt, List.take_append_drop]
  unfold IsStray
  rw [List.getElem?_append_right (by omega), Nat.add_sub_cancel_left,
    List.take_length_add_append, Nat.add_assoc, List.drop_length_add_append]
  refine exists_congr fun c => and_congr_right fun hc => ?_
  rw [hpoint c hc]

end Stray

/-! ## Tokens at a seam -/

section Seam

variable {before after : List Char}

theorem IsSeam.of_append (init : List Char) (h : IsSeam (init ++ before) after) :
    IsSeam before after := by
  intro c hc
  refine h c ?_
  rw [List.getLast?_append, hc]
  rfl

theorem IsSeam.isDigit_eq_false (h : IsSeam before after) (hlast : before.getLast? = some '.') :
    ∀ d ∈ after.head?, d.isDigit = false := by
  intro d hd
  simpa using (h '.' hlast d hd).2.2

theorem not_digit_of_isBlank {c : Char} (hc : isBlank c = true) : c.isDigit = false ∧ c ≠ '.' := by
  simpa [TokenKind.lexemeKind, LexemeKind.continues] using TokenKind.number.continues_blank hc

theorem isSeam_of_head_blank (h : ∀ c ∈ after.head?, isBlank c = true) : IsSeam before after := by
  intro c _ d hd
  simp [not_digit_of_isBlank (h d hd)]

theorem isSeam_of_last_blank (h : ∀ c ∈ before.getLast?, isBlank c = true) :
    IsSeam before after := by
  intro c hc
  simp [not_digit_of_isBlank (h c hc)]

/-- A token ends at a seam, for nothing there `continues` it. -/
theorem IsSeam.continues_eq_false {kind : TokenKind} (h : IsSeam before after)
    (hspells : kind.lexemeKind.Spells before) :
    ∀ c ∈ after.head?, kind.lexemeKind.continues c = false := by
  intro c hc
  cases kind with
  | number =>
    obtain ⟨init, d, rfl, hd⟩ := hspells.last
    have hd : d.isDigit = true := hd
    obtain ⟨hdigit, hpoint, -⟩ := h d (by simp) c hc
    simp only [hd, true_and, Bool.not_eq_true] at hdigit hpoint
    simp [TokenKind.lexemeKind, LexemeKind.continues, hdigit, hpoint]
  | operator => rfl
  | parenthesis => rfl

/-- Texts with an `IsSeam` between them can be read one after the other. -/
theorem Reads.append {tokens others : List Token} (h : Reads before tokens)
    (hafter : Reads after others) (hseam : IsSeam before after) :
    Reads (before ++ after) (tokens ++ others) := by
  induction h with
  | done => exact hafter
  | @blank c _ _ hc _ ih => exact .blank hc (ih (IsSeam.of_append [c] hseam))
  | @token token text _ hspelled hnext _ ih =>
    rw [List.append_assoc]
    refine .token hspelled ?_ (ih (IsSeam.of_append token.value.toList hseam))
    cases text with
    | nil =>
      rw [List.append_nil] at hseam
      exact hseam.continues_eq_false hspelled
    | cons c text => exact hnext

end Seam

/-- What an expression made of two parts comes to, where `second` begins after `count`
characters: the error of `first`, or else that of `second` as many characters later, or else the
tokens of both. -/
structure IsComposed (source first : String) (count : Nat) (second : String) : Prop where
  firstError : ∀ position c, tokenize first = .error (.invalidCharacter position c) →
    tokenize source = .error (.invalidCharacter position c)
  tokens : ∀ tokens others, tokenize first = .ok tokens → tokenize second = .ok others →
    tokenize source = .ok (tokens ++ others)
  secondError : ∀ tokens position c, tokenize first = .ok tokens →
    tokenize second = .error (.invalidCharacter position c) →
    tokenize source = .error (.invalidCharacter (count + position) c)

theorem tokenize_append_of_firstError {first second : String} {position : Nat} {c : Char}
    (hseam : IsSeam first.toList second.toList)
    (h : tokenize first = .error (.invalidCharacter position c)) :
    tokenize (first ++ second) = .error (.invalidCharacter position c) := by
  rw [tokenize_eq_error_iff_first] at h ⊢
  rw [String.toList_append]
  obtain ⟨hc, hstray, hnone⟩ := h
  obtain ⟨hlt, -⟩ := List.getElem?_eq_some_iff.1 hc
  refine ⟨by rwa [List.getElem?_append_left hlt],
    (isStray_append_left hseam.isDigit_eq_false hlt).2 hstray, ?_⟩
  intro other hother h
  exact hnone other hother
    ((isStray_append_left hseam.isDigit_eq_false (hother.trans hlt)).1 h)

theorem tokenize_append_of_secondError {first second : String} {tokens : List Token}
    {position : Nat} {c : Char} (hseam : IsSeam first.toList second.toList)
    (hfirst : tokenize first = .ok tokens)
    (h : tokenize second = .error (.invalidCharacter position c)) :
    tokenize (first ++ second) = .error (.invalidCharacter (first.length + position) c) := by
  rw [tokenize_eq_error_iff_first] at h ⊢
  rw [String.toList_append, ← String.length_toList]
  obtain ⟨hc, hstray, hnone⟩ := h
  refine ⟨?_, (isStray_append_right hseam).2 hstray, ?_⟩
  · rwa [List.getElem?_append_right (by omega), Nat.add_sub_cancel_left]
  · intro other hother h
    by_cases hlt : other < first.toList.length
    · exact not_isStray_of_tokenize hfirst other (isStray_of_append hlt h)
    · obtain ⟨index, rfl⟩ := Nat.exists_eq_add_of_le (Nat.le_of_not_lt hlt)
      exact hnone index (by omega) ((isStray_append_right hseam).1 h)

theorem isComposed_of_isSeam {first second : String}
    (h : IsSeam first.toList second.toList) :
    IsComposed (first ++ second) first first.length second where
  firstError _ _ := tokenize_append_of_firstError h
  tokens tokens others hfirst hsecond := by
    rw [tokenize_eq_ok_iff_reads] at hfirst hsecond ⊢
    rw [String.toList_append]
    exact hfirst.append hsecond h
  secondError _ _ _ := tokenize_append_of_secondError h

theorem exists_invalidCharacter {source : String} {error : Error}
    (h : tokenize source = .error error) : ∃ position c, error = .invalidCharacter position c := by
  obtain ⟨position, c, rfl, -⟩ := isLeast_of_tokenize h
  exact ⟨position, c, rfl⟩

theorem position_lt_length {source : String} {position : Nat} {c : Char}
    (h : tokenize source = .error (.invalidCharacter position c)) : position < source.length := by
  rw [← String.length_toList]
  exact (tokenize_eq_error_iff_first.1 h).2.1.lt_length

/-- The error of a whole is that of `first`, or else that of `second`. -/
theorem tokenize_append_eq_error_iff {first second : String} {position : Nat} {c : Char}
    (hseam : IsSeam first.toList second.toList) :
    tokenize (first ++ second) = .error (.invalidCharacter position c) ↔
      tokenize first = .error (.invalidCharacter position c) ∨
        (∃ tokens, tokenize first = .ok tokens) ∧ ∃ index, position = first.length + index ∧
          tokenize second = .error (.invalidCharacter index c) := by
  have hcomposed := isComposed_of_isSeam hseam
  constructor
  · intro h
    cases hfirst : tokenize first with
    | error error =>
      obtain ⟨other, d, rfl⟩ := exists_invalidCharacter hfirst
      exact .inl ((hcomposed.firstError other d hfirst).symm.trans h)
    | ok tokens =>
      cases hsecond : tokenize second with
      | error error =>
        obtain ⟨index, d, rfl⟩ := exists_invalidCharacter hsecond
        cases h.symm.trans (hcomposed.secondError tokens index d hfirst hsecond)
        exact .inr ⟨⟨tokens, rfl⟩, index, rfl, rfl⟩
      | ok others => cases h.symm.trans (hcomposed.tokens tokens others hfirst hsecond)
  · rintro (h | ⟨⟨tokens, hfirst⟩, index, rfl, h⟩)
    · exact hcomposed.firstError position c h
    · exact hcomposed.secondError tokens index c hfirst h

/-- Between two seams `body` has the error of the whole if nothing is wrong before it. -/
theorem tokenize_middle_eq_error_iff {before body after : String} {index : Nat} {c : Char}
    (hbefore : IsSeam before.toList (body ++ after).toList)
    (hafter : IsSeam body.toList after.toList) (hindex : index < body.length) :
    tokenize (before ++ (body ++ after)) = .error (.invalidCharacter (before.length + index) c) ↔
      (∃ tokens, tokenize before = .ok tokens) ∧
        tokenize body = .error (.invalidCharacter index c) := by
  rw [tokenize_append_eq_error_iff hbefore]
  constructor
  · rintro (h | ⟨htokens, other, heq, h⟩)
    · have hlt := position_lt_length h
      omega
    · obtain rfl : index = other := by omega
      rcases (tokenize_append_eq_error_iff hafter).1 h with h | ⟨-, other, hfar, -⟩
      · exact ⟨htokens, h⟩
      · omega
  · rintro ⟨htokens, h⟩
    exact .inr ⟨htokens, index, rfl, (tokenize_append_eq_error_iff hafter).2 (.inl h)⟩

theorem tokenize_of_blank {source : String} (h : ∀ c ∈ source.toList, isBlank c = true) :
    tokenize source = .ok [] := by
  rw [tokenize_eq_ok_iff_reads]
  simpa using Reads.done.blanks h

/-- Blanks may stand between any two parts, whether there `IsSeam` or not. -/
theorem isComposed_of_blanks {first gap second : String} (h : AllIn isBlank gap.toList) :
    IsComposed (first ++ gap ++ second) first (first ++ gap).length second := by
  have hgap := tokenize_of_blank h.2
  -- The gap is composed with the first part, and both with the second.
  have hleft : IsComposed (first ++ gap) first first.length gap := by
    refine isComposed_of_isSeam (isSeam_of_head_blank ?_)
    intro c hc
    exact h.2 c (List.mem_of_mem_head? hc)
  have hright :
      IsComposed (first ++ gap ++ second) (first ++ gap) (first ++ gap).length second := by
    refine isComposed_of_isSeam (isSeam_of_last_blank ?_)
    obtain ⟨init, c, hinit, hc⟩ := h.last
    rw [String.toList_append, hinit, ← List.append_assoc, List.getLast?_concat]
    rintro _ ⟨⟩
    exact hc
  have htokens : ∀ tokens, tokenize first = .ok tokens → tokenize (first ++ gap) = .ok tokens := by
    intro tokens hfirst
    simpa using hleft.tokens tokens [] hfirst hgap
  refine ⟨?_, ?_, ?_⟩
  · intro position c hfirst
    exact hright.firstError position c (hleft.firstError position c hfirst)
  · intro tokens others hfirst
    exact hright.tokens tokens others (htokens tokens hfirst)
  · intro tokens position c hfirst
    exact hright.secondError tokens position c (htokens tokens hfirst)

/-- Parts with an `IsSeam` between them have their tokens one after the other, and the error of
the first part that has one is that of the whole, counted from its beginning. Between any two
parts there may be blanks instead. -/
theorem isComposed_append :
    (∀ first second : String, IsSeam first.toList second.toList →
      IsComposed (first ++ second) first first.length second) ∧
    ∀ first gap second : String, AllIn isBlank gap.toList →
      IsComposed (first ++ gap ++ second) first (first ++ gap).length second :=
  ⟨fun _ _ => isComposed_of_isSeam, fun _ _ _ => isComposed_of_blanks⟩

/-- Blanks on both sides of a seam are skipped, the error counts the first part, and
blanks keep two numbers apart. -/
theorem isComposed_append_spaced :
    IsSeam "1 \u2003".toList "\n2.5&".toList ∧ tokenize "1 \u2003" = .ok [⟨.number, "1"⟩] ∧
      tokenize "\n2.5&" = .error (.invalidCharacter 4 '&') ∧
      tokenize ("1 \u2003" ++ "\n2.5&") = .error (.invalidCharacter (3 + 4) '&') ∧
      AllIn isBlank "\t\u00a0".toList ∧
      tokenize ("7" ++ "\t\u00a0" ++ "5") = .ok ([⟨.number, "7"⟩] ++ [⟨.number, "5"⟩]) := by
  have hseam : IsSeam "1 \u2003".toList "\n2.5&".toList := by decide
  have hfirst : tokenize "1 \u2003" = .ok [⟨.number, "1"⟩] := by decide +kernel
  have hsecond : tokenize "\n2.5&" = .error (.invalidCharacter 4 '&') := by decide +kernel
  have hblank : AllIn isBlank "\t\u00a0".toList := by decide
  have hseven : tokenize "7" = .ok [⟨.number, "7"⟩] := by decide +kernel
  have hfive : tokenize "5" = .ok [⟨.number, "5"⟩] := by decide +kernel
  exact ⟨hseam, hfirst, hsecond,
    (isComposed_append.1 _ _ hseam).secondError _ _ _ hfirst hsecond, hblank,
    (isComposed_append.2 "7" "\t\u00a0" "5" hblank).tokens _ _ hseven hfive⟩

end Reckoner
