import Reckoner.Proofs.Diagnostic.Spot
import Reckoner.Proofs.Scan.Stray
import Reckoner.Proofs.Text.Digits

/-!
# Diagnostic — the marker

Where the marker stands. The lines of an excerpt, `Spot.upper`, `Spot.numbered` and
`Spot.lower`, are written out from the spot that is shown: the bar has room for the line's
number and a blank before it in all of them, and the marker is as far from the bar as the
character of the spot is.
-/

namespace Reckoner

/-- Whether `shown` is `line` without the blanks around it. -/
def IsTrimmed (line shown : List Char) : Prop :=
  ∃ lead trail, line = lead ++ shown ++ trail ∧
    (∀ c ∈ lead, isBlank c = true) ∧ (∀ c ∈ trail, isBlank c = true) ∧
    (∀ c ∈ shown.head?, isBlank c = false) ∧ ∀ c ∈ shown.getLast?, isBlank c = false

/-- Whether the last three lines that are shown of an error point at `c`, which stands at
`position` in `source`: `numbered` is the line that holds the position, without the blanks
around it and after its number, the bars stand in one column, and the marker is the last
character of `lower` and stands under `c`. -/
structure PointsAt (source : List Char) (position : Nat) (c : Char)
    (upper numbered lower : List Char) : Prop where
  numbered_eq : ∃ before line after shown, source = before ++ line ++ after ∧
    IsLine before line after ∧ before.length ≤ position ∧
    position < before.length + line.length ∧ IsTrimmed line shown ∧
    numbered = (toString ((source.take position).count '\n' + 1)).toList ++
      [' ', '|', ' '] ++ shown
  bars : ∃ column, ∀ line ∈ [upper, numbered, lower], line.idxOf? '|' = some column
  marker : ∃ column, lower.length = column + 1 ∧ lower[column]? = some '^' ∧
    numbered[column]? = some c

/-! ## No other line feeds, no other bars -/

theorem ne_lineFeed_of_not_blank {c : Char} (h : isBlank c = false) : c ≠ '\n' := by
  intro heq
  subst heq
  simp [isBlank] at h

/-- The only line feed of a line is among the blanks at its end. -/
theorem IsTrimmed.lineFeed_not_mem {line shown : List Char} (h : IsTrimmed line shown)
    (hline : '\n' ∉ line.dropLast) : '\n' ∉ shown := by
  obtain ⟨lead, trail, rfl, -, -, -, hlast⟩ := h
  rcases List.eq_nil_or_concat' shown with rfl | ⟨init, last, rfl⟩
  · simp
  · intro hmem
    -- The last character that is shown is no blank, so a line feed would be inside the line.
    have hne : last ≠ '\n' := ne_lineFeed_of_not_blank (hlast last (by simp))
    have hinit : '\n' ∈ init := by
      simpa [hne.symm] using hmem
    apply hline
    rw [List.append_assoc, List.append_assoc, List.dropLast_append_of_ne_nil (by simp),
      List.dropLast_append_of_ne_nil (by simp)]
    simp [hinit]

/-- What `Diagnostic.trim` leaves is what stands between the blanks at both ends. -/
theorem IsTrimmed.trim_eq {line shown : List Char} (h : IsTrimmed line shown) :
    Diagnostic.trim line = shown := by
  obtain ⟨lead, trail, rfl, hlead, htrail, hhead, hlast⟩ := h
  show ((lead ++ shown ++ trail).dropWhile isBlank).rdropWhile isBlank = shown
  rw [List.append_assoc, List.dropWhile_append_of_pos hlead]
  cases shown with
  | nil =>
    rw [List.nil_append, List.dropWhile_eq_nil_iff.2 htrail, List.rdropWhile_nil]
  | cons c shown =>
    have hhead' : ∀ d ∈ (c :: shown ++ trail).head?, isBlank d = false := by simpa using hhead
    rw [dropWhile_eq_self_of_head hhead', rdropWhile_append_of_all htrail,
      rdropWhile_eq_self (rtakeWhile_eq_nil_of_last hlast)]

theorem idxOf?_append_cons {c : Char} {init : List Char} (h : c ∉ init) (rest : List Char) :
    (init ++ c :: rest).idxOf? c = some init.length := by
  induction init with
  | nil => simp [List.idxOf?_cons]
  | cons d init ih =>
    simp only [List.mem_cons, not_or] at h
    obtain ⟨hd, hinit⟩ := h
    rw [List.cons_append, List.idxOf?_cons, ih hinit]
    simp [Ne.symm hd]

theorem lineFeed_not_mem_headline (position : Nat) {c : Char} (h : c ≠ '\n') :
    '\n' ∉ (Diagnostic.headline (.invalidCharacter position c)).toList := by
  simp [Diagnostic.headline, Error.name, Error.tip?, Ne.symm h]

namespace Spot

/-! ## The lines of an excerpt -/

/-- The line over the text, with the bar only. -/
def upper (spot : Spot) : List Char :=
  List.replicate ((toString spot.number).length + 1) ' ' ++ ['|']

def numbered (spot : Spot) : List Char :=
  (toString spot.number).toList ++ [' ', '|', ' '] ++ spot.shown

/-- The line under the text, which begins as `upper` does and ends with the marker. -/
def lower (spot : Spot) : List Char :=
  spot.upper ++ ' ' :: List.replicate spot.passed.length '-' ++ ['^']

theorem isTrimmed_shown (spot : Spot) : IsTrimmed spot.line spot.shown := by
  refine ⟨spot.indent, spot.tail.rtakeWhile isBlank, ?_, spot.blank_indent, ?_, ?_, ?_⟩
  · simp [line, shown]
  · intro c hc
    exact List.mem_rtakeWhile_imp hc
  · rw [shown, head?_append_cons]
    exact spot.head_passed
  · rw [shown, ← rdropWhile_append_cons spot.character_not_blank]
    exact getLast?_rdropWhile _

theorem passed_line (spot : Spot) : Line.Passed ⟨spot.number, String.ofList spot.line,
    spot.indent.length + spot.passed.length⟩ spot.passed :=
  ⟨spot.indent, spot.character, spot.tail, String.toList_ofList, rfl, spot.blank_indent,
    spot.head_passed⟩

/-- The lines `upper`, `numbered` and `lower` join up to the excerpt, unless the marker is too
far. -/
theorem excerpt_eq (spot : Spot) :
    Diagnostic.excerpt ⟨spot.number, String.ofList spot.line,
        spot.indent.length + spot.passed.length⟩ =
      if Diagnostic.lastColumn ≤ spot.passed.length then .error .markerTooFar
      else .ok (String.ofList
        ('\n' :: (spot.upper ++ '\n' :: (spot.numbered ++ '\n' :: spot.lower)))) := by
  rw [spot.passed_line.excerpt_eq, String.toList_ofList, spot.isTrimmed_shown.trim_eq]
  split
  · rfl
  · apply congrArg Except.ok
    rw [← String.toList_inj]
    simp [Diagnostic.gutter, Diagnostic.marker, upper, numbered, lower]

/-- What is shown of an error about the character of `spot`. -/
theorem render_eq {spot : Spot} {source : String} (h : spot.text = source.toList) :
    Diagnostic.render (.invalidCharacter spot.position spot.character) source =
      if Diagnostic.lastColumn ≤ spot.passed.length then .error .markerTooFar
      else .ok (String.ofList (['\n'].intercalate
        [(Diagnostic.headline (.invalidCharacter spot.position spot.character)).toList,
          spot.upper, spot.numbered, spot.lower])) := by
  have hat : (Error.invalidCharacter spot.position spot.character).position?.bind
      (Line.at? source) = some ⟨spot.number, String.ofList spot.line,
        spot.indent.length + spot.passed.length⟩ := at?_eq h
  rw [Diagnostic.render, hat]
  simp only [excerpt_eq]
  by_cases hfar : Diagnostic.lastColumn ≤ spot.passed.length
  · rw [if_pos hfar, if_pos hfar]
    rfl
  · rw [if_neg hfar, if_neg hfar, Except.map]
    apply congrArg Except.ok
    rw [← String.toList_inj]
    simp

/-! ## What the lines show -/

theorem lineFeed_not_mem_shown (spot : Spot) : '\n' ∉ spot.shown :=
  spot.isTrimmed_shown.lineFeed_not_mem spot.isLine.single

theorem lineFeed_not_mem (spot : Spot) :
    ∀ line ∈ [spot.upper, spot.numbered, spot.lower], '\n' ∉ line := by
  have hdigits : '\n' ∉ Nat.toDigits 10 spot.number := not_mem_toDigits (by decide) _
  simp [upper, numbered, lower, hdigits, spot.lineFeed_not_mem_shown]

/-- The bars stand after the digits of the number and a blank, or the width of these. -/
theorem idxOf?_bar (spot : Spot) : ∀ line ∈ [spot.upper, spot.numbered, spot.lower],
    line.idxOf? '|' = some ((toString spot.number).length + 1) := by
  have hdigits : '|' ∉ Nat.toDigits 10 spot.number := not_mem_toDigits (by decide) _
  have hupper : '|' ∉ List.replicate ((toString spot.number).length + 1) ' ' := by simp
  have hnumbered : '|' ∉ (toString spot.number).toList ++ [' '] := by simp [hdigits]
  intro line hline
  simp only [List.mem_cons, List.not_mem_nil, or_false] at hline
  rcases hline with rfl | rfl | rfl
  · rw [upper, idxOf?_append_cons hupper, List.length_replicate]
  · have hline : spot.numbered =
        (toString spot.number).toList ++ [' '] ++ '|' :: ' ' :: spot.shown := by
      simp [numbered]
    rw [hline, idxOf?_append_cons hnumbered, List.length_append, String.length_toList]
    rfl
  · have hline : spot.lower = List.replicate ((toString spot.number).length + 1) ' ' ++
        '|' :: ' ' :: (List.replicate spot.passed.length '-' ++ ['^']) := by
      simp [lower, upper]
    rw [hline, idxOf?_append_cons hupper, List.length_replicate]

/-- The column of the character in `numbered` and of the marker in `lower`. -/
def column (spot : Spot) : Nat := (toString spot.number).length + 3 + spot.passed.length

theorem length_lower (spot : Spot) : spot.lower.length = spot.column + 1 := by
  simp only [lower, upper, column, List.length_append, List.length_cons, List.length_replicate,
    List.length_nil]
  omega

theorem lower_getElem? (spot : Spot) : spot.lower[spot.column]? = some '^' := by
  have hlast : spot.lower.getLast? = some '^' := List.getLast?_concat
  rw [List.getLast?_eq_getElem?, length_lower] at hlast
  exact hlast

theorem numbered_getElem? (spot : Spot) :
    spot.numbered[spot.column]? = some spot.character := by
  have hlength : spot.column =
      ((toString spot.number).toList ++ [' ', '|', ' '] ++ spot.passed).length := by
    simp only [column, List.length_append, List.length_cons, List.length_nil,
      String.length_toList]
  rw [numbered, shown, ← List.append_assoc, hlength]
  simp

theorem pointsAt (spot : Spot) :
    PointsAt spot.text spot.position spot.character spot.upper spot.numbered spot.lower where
  numbered_eq := by
    have hlt := spot.position_lt_length
    refine ⟨spot.before, spot.line, spot.after, spot.shown, rfl, spot.isLine, ?_, ?_,
      spot.isTrimmed_shown, ?_⟩
    · exact Nat.le_add_right _ _
    · exact Nat.add_lt_add_left hlt _
    · rw [← spot.number_eq, numbered]
  bars := ⟨_, spot.idxOf?_bar⟩
  marker := ⟨spot.column, spot.length_lower, spot.lower_getElem?, spot.numbered_getElem?⟩

end Spot

/-! ## The marker of an unexpected character -/

/-- The character that a failed scan reports has a `Spot`. -/
theorem exists_spot_of_tokenize {source : String} {position : Nat} {c : Char}
    (h : tokenize source = .error (.invalidCharacter position c)) :
    ∃ spot : Spot, spot.text = source.toList ∧ spot.position = position ∧
      spot.character = c := by
  obtain ⟨before, d, after, hsource, -, hbegins, herror⟩ := clean_of_tokenize h
  cases herror
  refine Spot.exists_of_getElem? ?_ (hbegins .whitespace)
  rw [hsource]
  simp

/-- If an unexpected character is shown at all, the marker stands under it. -/
theorem render_pointsAt {source text : String} {position : Nat} {c : Char}
    (htokens : tokenize source = .error (.invalidCharacter position c))
    (htext : Diagnostic.render (.invalidCharacter position c) source = .ok text) :
    ∃ upper numbered lower,
      text.toList.splitOn '\n' =
        [(Diagnostic.headline (.invalidCharacter position c)).toList, upper, numbered, lower] ∧
      PointsAt source.toList position c upper numbered lower := by
  obtain ⟨spot, hsource, rfl, rfl⟩ := exists_spot_of_tokenize htokens
  rw [Spot.render_eq hsource] at htext
  split at htext
  · simp at htext
  · refine ⟨spot.upper, spot.numbered, spot.lower, ?_, hsource ▸ spot.pointsAt⟩
    rw [← Except.ok.inj htext, String.toList_ofList]
    apply List.splitOn_intercalate
    · have hne := ne_lineFeed_of_not_blank spot.character_not_blank
      intro line hline
      rcases List.mem_cons.1 hline with rfl | hline
      · exact lineFeed_not_mem_headline _ hne
      · exact spot.lineFeed_not_mem line hline
    · simp

/-- A marker in the second line, behind blanks that are not shown and one that is. -/
theorem render_pointsAt_indented :
    tokenize "2 *\n\t\u00a03\u3000& 4\n" = .error (.invalidCharacter 8 '&') ∧
      ∃ text, Diagnostic.render (.invalidCharacter 8 '&') "2 *\n\t\u00a03\u3000& 4\n" = .ok text ∧
        ∃ upper numbered lower,
          text.toList.splitOn '\n' =
            [(Diagnostic.headline (.invalidCharacter 8 '&')).toList, upper, numbered, lower] ∧
          PointsAt "2 *\n\t\u00a03\u3000& 4\n".toList 8 '&' upper numbered lower := by
  have htokens : tokenize "2 *\n\t\u00a03\u3000& 4\n" = .error (.invalidCharacter 8 '&') := by
    rw [tokenize_eq_error_iff_first]
    decide
  have htext : Diagnostic.render (.invalidCharacter 8 '&') "2 *\n\t\u00a03\u3000& 4\n" =
      .ok ("Error: InvalidCharacter (Unexpected character `&`, expected a number, " ++
        "one of `+ - * /` or a parenthesis)\n  |\n2 | 3\u3000& 4\n  | --^") := by
    decide +kernel
  exact ⟨htokens, _, htext, render_pointsAt htokens htext⟩

end Reckoner
