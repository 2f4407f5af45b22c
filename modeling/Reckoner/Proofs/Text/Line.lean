import Mathlib.Data.List.DropRight
import Reckoner.Text.Line

/-!
# Text — lines around a position

Where the line that holds a position begins and ends, said of the text itself: after a
line feed or at the beginning of the text, and after the next line feed or at the end
of the text. `Line.at?` finds this line, and its number is one more than the line
feeds before the position.
-/

namespace Reckoner

theorem getElem?_middle (before after : List Char) {text : List Char} {offset : Nat}
    (h : offset < text.length) :
    (before ++ text ++ after)[before.length + offset]? = text[offset]? := by
  rw [List.append_assoc, List.getElem?_append_right (Nat.le_add_right _ _),
    Nat.add_sub_cancel_left, List.getElem?_append_left h]

/-- Whether `line` between two texts is one whole line, with its line feed. -/
structure IsLine (before line after : List Char) : Prop where
  starts : before = [] ∨ before.getLast? = some '\n'
  nonempty : line ≠ []
  single : '\n' ∉ line.dropLast
  ends : line.getLast? = some '\n' ∨ after = []

namespace Line

/-! ## Splitting at a line feed -/

theorem split_ne_nil {text : List Char} (h : text ≠ []) : split text ≠ [] := by
  intro hnil
  have hflatten := flatten_split text
  rw [hnil] at hflatten
  exact h hflatten.symm

theorem prepend_append {c : Char} {lines rest : List (List Char)} (h : lines ≠ []) :
    prepend c (lines ++ rest) = prepend c lines ++ rest := by
  cases lines with
  | nil => exact absurd rfl h
  | cons first lines =>
    simp only [prepend, List.cons_append]
    split <;> rfl

/-- Lines after a line feed are split on their own. -/
theorem split_append {before : List Char} (h : before = [] ∨ before.getLast? = some '\n')
    (rest : List Char) : split (before ++ rest) = split before ++ split rest := by
  -- Only the last character of the text before matters, so a single one is a case of its own.
  induction before with
  | nil => rfl
  | cons c before ih =>
    rw [List.cons_append, split_cons, split_cons]
    cases before with
    | nil =>
      have hc : c = '\n' := by simpa using h
      subst hc
      cases hrest : split rest with
      | nil => simp [hrest, prepend]
      | cons first lines => simp [hrest, prepend]
    | cons d before =>
      have hlast : (d :: before).getLast? = some '\n' := by simpa using h
      rw [ih (.inr hlast), prepend_append (split_ne_nil (List.cons_ne_nil d before))]

/-- There are as many lines as line feeds, if `before` ends with one. -/
theorem length_split {before : List Char} (h : before = [] ∨ before.getLast? = some '\n') :
    (split before).length = before.count '\n' := by
  induction before with
  | nil => rfl
  | cons c before ih =>
    rw [split_cons]
    cases before with
    | nil =>
      have hc : c = '\n' := by simpa using h
      subst hc
      rfl
    | cons d before =>
      have hlast : (d :: before).getLast? = some '\n' := by simpa using h
      have hlength := ih (.inr hlast)
      cases hsplit : split (d :: before) with
      | nil => exact absurd hsplit (split_ne_nil (List.cons_ne_nil d before))
      | cons first lines =>
        rw [hsplit] at hlength
        -- A line feed in front is a line of its own, any other character joins the first line.
        by_cases hc : c = '\n'
        · subst hc
          simp [prepend, ← hlength]
        · have hcount : (c :: d :: before).count '\n' = (d :: before).count '\n' :=
            List.count_cons_of_ne hc
          simp [prepend, hc, hcount, ← hlength]

theorem split_eq_singleton {line : List Char} (hne : line ≠ []) (h : '\n' ∉ line.dropLast) :
    split line = [line] := by
  induction line with
  | nil => exact absurd rfl hne
  | cons c line ih =>
    cases line with
    | nil => rfl
    | cons d line =>
      simp only [List.dropLast_cons_cons, List.mem_cons, not_or] at h
      obtain ⟨hc, hline⟩ := h
      rw [split_cons, ih (List.cons_ne_nil d line) hline]
      simp [prepend, Ne.symm hc]

/-! ## Finding the line of a position -/

theorem locate_append (lines rest : List (List Char)) (number position : Nat) :
    locate (lines ++ rest) number (lines.flatten.length + position) =
      locate rest (number + lines.length) position := by
  induction lines generalizing number with
  | nil => simp
  | cons line lines ih =>
    have hfar : ¬ (line :: lines).flatten.length + position < line.length := by
      simp only [List.flatten_cons, List.length_append]
      omega
    have hleft : (line :: lines).flatten.length + position - line.length =
        lines.flatten.length + position := by
      simp only [List.flatten_cons, List.length_append]
      omega
    rw [List.cons_append, locate, if_neg hfar, hleft, ih, List.length_cons]
    congr 1
    omega

end Line

namespace IsLine

variable {before line after : List Char}

theorem split_eq (h : IsLine before line after) :
    Line.split (before ++ line ++ after) =
      Line.split before ++ line :: Line.split after := by
  rw [List.append_assoc, Line.split_append h.starts]
  rcases h.ends with hlast | rfl
  · rw [Line.split_append (.inr hlast), Line.split_eq_singleton h.nonempty h.single]
    rfl
  · rw [List.append_nil, Line.split_eq_singleton h.nonempty h.single]
    rfl

/-- Positions in a line are found there by `Line.at?`, under the number of the line. -/
theorem at?_eq (h : IsLine before line after) {offset : Nat} (hoffset : offset < line.length) :
    Line.at? (String.ofList (before ++ line ++ after)) (before.length + offset) =
      some ⟨before.count '\n' + 1, String.ofList line, offset⟩ := by
  have hflatten : (Line.split before).flatten.length = before.length := by
    rw [Line.flatten_split]
  rw [Line.at?, String.toList_ofList, h.split_eq, ← hflatten, Line.locate_append,
    Line.length_split h.starts, Line.locate, if_pos hoffset, Nat.add_comm]

/-- No line feed stands between the beginning of `line` and a position in it. -/
theorem count_take (h : IsLine before line after) {offset : Nat} (hoffset : offset < line.length) :
    ((before ++ line ++ after).take (before.length + offset)).count '\n' =
      before.count '\n' := by
  have hnone : (line.take offset).count '\n' = 0 := by
    rw [List.count_eq_zero]
    intro hmem
    apply h.single
    rw [List.dropLast_eq_take]
    exact List.take_subset_take_left line (by omega) hmem
  have htake : (line ++ after).take offset = line.take offset := by
    rw [List.take_append_of_le_length (by omega)]
  rw [List.append_assoc, List.take_length_add_append, List.count_append, htake, hnone,
    Nat.add_zero]

end IsLine

/-! ## Every position has a line -/

/-- Whether `body` between two texts is one line without its line feed. -/
structure IsLineText (before body after : List Char) : Prop where
  starts : before = [] ∨ before.getLast? = some '\n'
  single : '\n' ∉ body
  ends : after = [] ∨ ∃ rest, after = '\n' :: rest

/-- A line feed at the beginning of `after` belongs to the line, which `IsLine` with it. -/
theorem IsLineText.isLine {before body after : List Char} (h : IsLineText before body after)
    (hne : body ++ after.take 1 ≠ []) : IsLine before (body ++ after.take 1) (after.drop 1) := by
  obtain ⟨hstarts, hsingle, hends⟩ := h
  refine ⟨hstarts, hne, ?_, ?_⟩
  · rcases hends with rfl | ⟨rest, rfl⟩
    · intro hmem
      rw [List.take_nil, List.append_nil] at hmem
      exact hsingle (List.dropLast_subset _ hmem)
    · simpa using hsingle
  · rcases hends with rfl | ⟨rest, rfl⟩
    · exact .inr rfl
    · exact .inl (by simp)

namespace Line

/-- What comes before the line of `position`. -/
def textBefore (text : List Char) (position : Nat) : List Char :=
  (text.take position).rdropWhile (· ≠ '\n')

/-- The line of `position` without its line feed. -/
def textAround (text : List Char) (position : Nat) : List Char :=
  (text.take position).rtakeWhile (· ≠ '\n') ++ (text.drop position).takeWhile (· ≠ '\n')

/-- What comes after the line of `position`, from its line feed on. -/
def textAfter (text : List Char) (position : Nat) : List Char :=
  (text.drop position).dropWhile (· ≠ '\n')

section Around

variable {text : List Char} {position : Nat}

theorem append_text (text : List Char) (position : Nat) :
    textBefore text position ++ textAround text position ++ textAfter text position = text := by
  rw [textBefore, textAround, textAfter, ← List.append_assoc, List.rdropWhile_append_rtakeWhile,
    List.append_assoc, List.takeWhile_append_dropWhile, List.take_append_drop]

theorem isLineText (text : List Char) (position : Nat) : IsLineText (textBefore text position)
    (textAround text position) (textAfter text position) where
  starts := by
    by_cases hnil : textBefore text position = []
    · exact .inl hnil
    · have hlast : (textBefore text position).getLast hnil = '\n' := by
        simpa [textBefore] using List.rdropWhile_last_not _ _ hnil
      rw [List.getLast?_eq_some_getLast hnil, hlast]
      exact .inr rfl
  single := by
    intro hmem
    rcases List.mem_append.1 hmem with hmem | hmem
    · simpa using List.mem_rtakeWhile_imp hmem
    · simpa using List.mem_takeWhile_imp hmem
  ends := by
    cases hrest : textAfter text position with
    | nil => exact .inl rfl
    | cons c rest =>
      have hhead := List.head?_dropWhile_not (· ≠ '\n') (text.drop position)
      rw [← textAfter, hrest] at hhead
      have hc : c = '\n' := by simpa using hhead
      exact .inr ⟨rest, by rw [hc]⟩

/-- What comes before `position` is what comes before its line, and some of its line. -/
theorem exists_offset (h : position ≤ text.length) :
    ∃ offset ≤ (textAround text position).length,
      (textBefore text position).length + offset = position := by
  refine ⟨((text.take position).rtakeWhile (· ≠ '\n')).length, ?_, ?_⟩
  · rw [textAround, List.length_append]
    exact Nat.le_add_right _ _
  · rw [textBefore, ← List.length_append, List.rdropWhile_append_rtakeWhile, List.length_take]
    exact Nat.min_eq_left h

/-- A character that is no line feed is in `textAround` its position. -/
theorem exists_textAround_getElem? {c : Char} (h : text[position]? = some c) (hc : c ≠ '\n') :
    ∃ offset, (textBefore text position).length + offset = position ∧
      (textAround text position)[offset]? = some c := by
  obtain ⟨hlt, -⟩ := List.getElem?_eq_some_iff.1 h
  obtain ⟨offset, hle, hposition⟩ := exists_offset hlt.le
  refine ⟨offset, hposition, ?_⟩
  have hline := isLineText text position
  rw [← append_text text position] at h
  generalize textBefore text position = before at *
  generalize textAround text position = body at *
  generalize textAfter text position = after at *
  subst hposition
  rcases Nat.lt_or_eq_of_le hle with hinside | rfl
  · rwa [getElem?_middle before after hinside] at h
  · -- Right after the line there is nothing but its line feed.
    rw [← List.length_append, List.getElem?_append_right (Nat.le_refl _), Nat.sub_self] at h
    rcases hline.ends with rfl | ⟨rest, rfl⟩
    · cases h
    · cases h
      exact absurd rfl hc

end Around

end Line

/-- Every position of a text is in a line, and `offset` says where. -/
theorem exists_isLine {text : List Char} {position : Nat} (h : position < text.length) :
    ∃ before line after offset, text = before ++ line ++ after ∧ IsLine before line after ∧
      offset < line.length ∧ before.length + offset = position := by
  obtain ⟨offset, hle, hposition⟩ := Line.exists_offset h.le
  have hlt : offset < (Line.textAround text position ++
      (Line.textAfter text position).take 1).length := by
    have hlength := congrArg List.length (Line.append_text text position)
    simp only [List.length_append, List.length_take] at hlength ⊢
    omega
  have hne := List.ne_nil_of_length_pos (Nat.zero_lt_of_lt hlt)
  refine ⟨_, _, _, offset, ?_, (Line.isLineText text position).isLine hne, hlt, hposition⟩
  rw [← List.append_assoc, List.append_assoc _ (List.take _ _), List.take_append_drop,
    Line.append_text]

/-! ## Exactly the line of a position is found -/

namespace Line

/-- Whether `line` is the one of `text` in which `position` falls: it is numbered by the line
feeds before the position, it is a whole line of the text, and its offset is the position
without what comes before the line. -/
structure IsAt (text : List Char) (position : Nat) (line : Line) : Prop where
  number_eq : line.number = (text.take position).count '\n' + 1
  cut : ∃ before after, text = before ++ line.text.toList ++ after ∧
    IsLine before line.text.toList after ∧ before.length + line.offset = position
  offset_lt : line.offset < line.text.toList.length
  character_eq : line.text.toList[line.offset]? = text[position]?

/-- The line around `offset` is the one at the position that the offset has in the text. -/
theorem isAt_of_isLine {before line after : List Char} (h : IsLine before line after)
    {offset : Nat} (hoffset : offset < line.length) :
    IsAt (before ++ line ++ after) (before.length + offset)
      ⟨before.count '\n' + 1, String.ofList line, offset⟩ := by
  refine ⟨?_, ⟨before, after, ?_, ?_, rfl⟩, ?_, ?_⟩
  · rw [h.count_take hoffset]
  · rw [String.toList_ofList]
  · rwa [String.toList_ofList]
  · rwa [String.toList_ofList]
  · rw [String.toList_ofList, getElem?_middle before after hoffset]

theorem IsAt.at?_eq {text : String} {position : Nat} {line : Line}
    (h : line.IsAt text.toList position) : at? text position = some line := by
  obtain ⟨hnumber, ⟨before, after, htext, hline, rfl⟩, hoffset, -⟩ := h
  rw [htext, hline.count_take hoffset] at hnumber
  rw [← String.ofList_toList (s := text), htext, hline.at?_eq hoffset, ← hnumber,
    String.ofList_toList]

theorem exists_isAt {text : List Char} {position : Nat} (h : position < text.length) :
    ∃ line : Line, line.IsAt text position := by
  obtain ⟨before, line, after, offset, rfl, hline, hoffset, rfl⟩ := exists_isLine h
  exact ⟨_, isAt_of_isLine hline hoffset⟩

theorem IsAt.lt_length {text : List Char} {position : Nat} {line : Line}
    (h : line.IsAt text position) : position < text.length := by
  obtain ⟨-, ⟨before, after, rfl, -, rfl⟩, hoffset, -⟩ := h
  simp only [List.length_append]
  omega

theorem at?_eq_some_iff {text : String} {position : Nat} {line : Line} :
    at? text position = some line ↔ line.IsAt text.toList position := by
  constructor
  · intro h
    have hlt : position < text.toList.length := by
      rw [← Nat.not_le, ← at?_eq_none_iff, h]
      simp
    obtain ⟨found, hfound⟩ := exists_isAt hlt
    cases h.symm.trans hfound.at?_eq
    exact hfound
  · exact IsAt.at?_eq

/-- A position beyond `text` has no line. Any other has exactly one, and `at?` finds it with its
number and the offset of the position. -/
theorem at?_iff_isAt (text : String) (position : Nat) :
    (at? text position = none ↔ text.toList.length ≤ position) ∧
      ((∃! line, IsAt text.toList position line) ↔ position < text.toList.length) ∧
      ∀ line, at? text position = some line ↔ IsAt text.toList position line := by
  refine ⟨at?_eq_none_iff, ⟨?_, ?_⟩, fun _ => at?_eq_some_iff⟩
  · rintro ⟨line, hline, -⟩
    exact hline.lt_length
  · intro hlt
    obtain ⟨line, hline⟩ := exists_isAt hlt
    refine ⟨line, hline, ?_⟩
    intro other hother
    exact Option.some.inj (hother.at?_eq.symm.trans hline.at?_eq)

/-- A line feed is the last character of its line, also if it is the only one. -/
example : at? "7\n\n8" 2 = some ⟨2, "\n", 0⟩ := by decide

end Line

end Reckoner
