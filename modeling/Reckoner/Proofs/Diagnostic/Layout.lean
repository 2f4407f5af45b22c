import Reckoner.Proofs.Diagnostic.Marker

/-!
# Diagnostic — layout of any error

What is shown of an error about any position of any source, also of one that was never
reported for that source. The position can fall on a blank or on a line feed, before the
text of its line or far behind it, or beyond the source. Where it falls settles what is
shown, and no source is shown in another way. `Shows` lists the cases with the lines written
out.
-/

namespace Reckoner

/-- The first line that is shown of an error: its name, and its `tip?` in parentheses. -/
inductive IsHeadline : Error → String → Prop where
  | name {error : Error} (h : error.tip? = none) :
      IsHeadline error ("Error: " ++ error.name)
  | tip {error : Error} {tip : String} (h : error.tip? = some tip) :
      IsHeadline error ("Error: " ++ error.name ++ " (" ++ tip ++ ")")

/-- What there is to show of an error for `source`. An error without a position, or with one
beyond `source`, is shown by its headline alone. Otherwise the line that holds the position
decides: there is no place for a marker among the blanks at its beginning nor behind column
65535, and else the marker follows as many dashes as `passed` has characters, which run from the
first one that is no blank up to the position. The bars are written out, so that this does not
say the same as `Diagnostic.gutter`. -/
inductive Shows (source : List Char) : Error → Except LayoutFault String → Prop where
  | unplaced {error : Error} {headline : String} (hheadline : IsHeadline error headline)
      (h : error.position? = none) :
      Shows source error (.ok headline)
  | beyond {position : Nat} {c : Char} {headline : String}
      (hheadline : IsHeadline (.invalidCharacter position c) headline)
      (h : source.length ≤ position) :
      Shows source (.invalidCharacter position c) (.ok headline)
  | beforeText {position : Nat} {c : Char} {line : Line} (hline : line.IsAt source position)
      (hblank : ∀ d ∈ line.text.toList.take (line.offset + 1), isBlank d = true) :
      Shows source (.invalidCharacter position c) (.error .markerBeforeText)
  | tooFar {position : Nat} {c : Char} {line : Line} {passed : List Char}
      (hline : line.IsAt source position) (hpassed : line.Passed passed)
      (hfar : 65535 < passed.length + 1) :
      Shows source (.invalidCharacter position c) (.error .markerTooFar)
  | excerpt {position : Nat} {c : Char} {line : Line} {passed shown bar : List Char}
      {headline : String} (hheadline : IsHeadline (.invalidCharacter position c) headline)
      (hline : line.IsAt source position) (hpassed : line.Passed passed)
      (hnear : passed.length + 1 ≤ 65535) (hshown : IsTrimmed line.text.toList shown)
      (hbar : bar = List.replicate ((toString line.number).length + 1) ' ' ++ ['|']) :
      Shows source (.invalidCharacter position c) (.ok ("\n".intercalate
        [headline,
          String.ofList bar,
          toString line.number ++ " | " ++ String.ofList shown,
          String.ofList (bar ++ ' ' :: List.replicate passed.length '-' ++ ['^'])]))

theorem IsHeadline.headline_eq {error : Error} {text : String} (h : IsHeadline error text) :
    Diagnostic.headline error = text := by
  cases h with
  | name h => simp [Diagnostic.headline, h]
  | tip h => simp [Diagnostic.headline, h, String.append_assoc]

theorem isHeadline_headline (error : Error) :
    IsHeadline error (Diagnostic.headline error) := by
  cases h : error.tip? with
  | none =>
    have hname := IsHeadline.name h
    rwa [hname.headline_eq]
  | some tip =>
    have htip := IsHeadline.tip h
    rwa [htip.headline_eq]

/-! ## Excerpts of any line -/

/-- Where only blanks stand up to `line.offset`, the place is not shown. -/
theorem excerpt_of_blank {line : Line} (hoffset : line.offset < line.text.toList.length)
    (h : ∀ c ∈ line.text.toList.take (line.offset + 1), isBlank c = true) :
    Diagnostic.excerpt line = .error .markerBeforeText := by
  have htake : line.text.toList.takeWhile isBlank = line.text.toList.take (line.offset + 1) ++
      (line.text.toList.drop (line.offset + 1)).takeWhile isBlank := by
    conv_lhs => rw [← List.take_append_drop (line.offset + 1) line.text.toList]
    exact List.takeWhile_append_of_pos h
  have hbefore : line.offset < (line.text.toList.takeWhile isBlank).length := by
    rw [htake, List.length_append, List.length_take]
    omega
  rw [Diagnostic.excerpt]
  exact if_pos hbefore

theorem isTrimmed_trim (line : List Char) : IsTrimmed line (Diagnostic.trim line) := by
  refine ⟨line.takeWhile isBlank, (line.dropWhile isBlank).rtakeWhile isBlank, ?_, ?_, ?_, ?_, ?_⟩
  · show _ = _ ++ (line.dropWhile isBlank).rdropWhile isBlank ++ _
    rw [List.append_assoc, List.rdropWhile_append_rtakeWhile, List.takeWhile_append_dropWhile]
  · intro c hc
    exact List.mem_takeWhile_imp hc
  · intro c hc
    exact List.mem_rtakeWhile_imp hc
  · intro c hc
    -- What is left at the end begins as the text did before its end was trimmed.
    obtain ⟨shown, hshown⟩ := List.head?_eq_some_iff.1 hc
    have hprefix : Diagnostic.trim line <+: line.dropWhile isBlank :=
      List.rdropWhile_prefix isBlank _
    obtain ⟨trail, htrail⟩ := hprefix
    have hhead := List.head?_dropWhile_not isBlank line
    rw [← htrail, hshown] at hhead
    exact hhead
  · exact getLast?_rdropWhile _

/-! ## What is shown -/

theorem render_of_isAt {source : String} {position : Nat} {line : Line} (c : Char)
    (h : line.IsAt source.toList position) :
    Diagnostic.render (.invalidCharacter position c) source =
      (Diagnostic.excerpt line).map (Diagnostic.headline (.invalidCharacter position c) ++ ·) := by
  have hat : (Error.invalidCharacter position c).position?.bind (Line.at? source) = some line :=
    h.at?_eq
  rw [Diagnostic.render, hat]

theorem Shows.render_eq {source : String} {error : Error} {answer : Except LayoutFault String}
    (h : Shows source.toList error answer) : Diagnostic.render error source = answer := by
  cases h with
  | unplaced hheadline h =>
    rw [Diagnostic.render, h, ← hheadline.headline_eq]
    rfl
  | @beyond position c _ hheadline h =>
    have hat : (Error.invalidCharacter position c).position?.bind (Line.at? source) = none :=
      Line.at?_eq_none_iff.2 h
    rw [Diagnostic.render, hat, ← hheadline.headline_eq]
  | beforeText hline hblank =>
    rw [render_of_isAt _ hline, excerpt_of_blank hline.offset_lt hblank]
    rfl
  | tooFar hline hpassed hfar =>
    have hcolumn : Diagnostic.lastColumn ≤ _ := Nat.lt_add_one_iff.1 hfar
    rw [render_of_isAt _ hline, hpassed.excerpt_eq, if_pos hcolumn]
    rfl
  | excerpt hheadline hline hpassed hnear hshown hbar =>
    have hcolumn : ¬ Diagnostic.lastColumn ≤ _ := Nat.not_le.2 hnear
    rw [render_of_isAt _ hline, hpassed.excerpt_eq, if_neg hcolumn, hshown.trim_eq, Except.map,
      hheadline.headline_eq, hbar]
    apply congrArg Except.ok
    rw [← String.toList_inj]
    simp [Diagnostic.gutter, Diagnostic.marker]

theorem exists_shows (source : List Char) (error : Error) :
    ∃ answer, Shows source error answer := by
  have hheadline := isHeadline_headline error
  cases error with
  | invalidCharacter position c =>
    by_cases hlt : position < source.length
    · obtain ⟨line, hline⟩ := Line.exists_isAt hlt
      by_cases hblank : ∀ d ∈ line.text.toList.take (line.offset + 1), isBlank d = true
      · exact ⟨_, .beforeText hline hblank⟩
      · obtain ⟨passed, hpassed⟩ := Line.exists_passed hline.offset_lt hblank
        by_cases hfar : 65535 < passed.length + 1
        · exact ⟨_, .tooFar hline hpassed hfar⟩
        · exact ⟨_, .excerpt hheadline hline hpassed (Nat.not_lt.1 hfar) (isTrimmed_trim _) rfl⟩
    · exact ⟨_, .beyond hheadline (Nat.not_lt.1 hlt)⟩
  | insufficientTokens => exact ⟨_, .unplaced hheadline rfl⟩
  | unsupportedOperator text => exact ⟨_, .unplaced hheadline rfl⟩
  | divisionByZero => exact ⟨_, .unplaced hheadline rfl⟩

/-- An error is shown as the place of its position in the source says, whatever the source
and the position are. -/
theorem render_eq_iff_shows (error : Error) (source : String) (answer : Except LayoutFault String) :
    Diagnostic.render error source = answer ↔ Shows source.toList error answer := by
  constructor
  · rintro rfl
    obtain ⟨answer, h⟩ := exists_shows source.toList error
    rwa [h.render_eq]
  · exact Shows.render_eq

/-- The number of line 10 takes two columns, so the bars stand in the fourth. -/
example : Diagnostic.render (.invalidCharacter 12 '#') "\n\n\n\n\n\n\n\n\n  1# " =
    .ok ("Error: InvalidCharacter (Unexpected character `#`, expected a number, " ++
      "one of `+ - * /` or a parenthesis)\n   |\n10 | 1#\n   | -^") := rfl

/-- The line feed of a blank line is a blank of that line. -/
example : Diagnostic.render (.invalidCharacter 1 'x') " \n 7" = .error .markerBeforeText := rfl

end Reckoner
