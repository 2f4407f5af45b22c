import Reckoner.Proofs.Diagnostic.Layout
import Reckoner.Proofs.Scan.Seam

/-!
# Diagnostic — indentation

Blanks that `widenLine` puts around the line of an error make no difference to what is
shown. Put before the line they move the character that is reported by as many positions as
they are, and nothing else of the error. The marker is counted from the first character of
the line that is no blank, so it stays where it is, and the blanks themselves are not shown.
-/

namespace Reckoner

/-- The source with `lead` and `trail` at both ends of the line of `position`, before the line
feed of that line if it has one. -/
def widenLine (lead trail source : String) (position : Nat) : String :=
  String.ofList <|
    Line.textBefore source.toList position ++
      (lead.toList ++ Line.textAround source.toList position ++ trail.toList) ++
      Line.textAfter source.toList position

/-! ## The error of a line -/

section Seams

variable {before body after : List Char}

/-- Between two lines there is an `IsSeam`: no number goes on from one to the next. -/
theorem IsLineText.isSeam_before (h : IsLineText before body after) (rest : List Char) :
    IsSeam before rest := by
  rcases h.starts with rfl | hlast
  · simp [IsSeam]
  · refine isSeam_of_last_blank ?_
    rw [hlast]
    rintro _ ⟨⟩
    rfl

theorem IsLineText.isSeam_after (h : IsLineText before body after) (rest : List Char) :
    IsSeam rest after := by
  rcases h.ends with rfl | ⟨tail, rfl⟩
  · simp [IsSeam]
  · refine isSeam_of_head_blank ?_
    rintro _ ⟨⟩
    rfl

end Seams

/-- Blanks before `body` move its error, blanks after it do not. -/
theorem tokenize_between_blanks {lead body trail : String} {index : Nat} {c : Char}
    (hlead : ∀ d ∈ lead.toList, isBlank d = true) (htrail : ∀ d ∈ trail.toList, isBlank d = true)
    (h : tokenize body = .error (.invalidCharacter index c)) :
    tokenize (lead ++ (body ++ trail)) = .error (.invalidCharacter (lead.length + index) c) := by
  have hbefore : IsSeam lead.toList (body ++ trail).toList :=
    isSeam_of_last_blank fun d hd => hlead d (List.mem_of_getLast? hd)
  have hafter : IsSeam body.toList trail.toList :=
    isSeam_of_head_blank fun d hd => htrail d (List.mem_of_mem_head? hd)
  exact (tokenize_middle_eq_error_iff hbefore hafter (position_lt_length h)).2
    ⟨⟨[], tokenize_of_blank hlead⟩, h⟩

/-- The error of a line is moved by the blanks `lead` before the line. -/
theorem tokenize_widened (before body after : String) {lead trail : String} {index : Nat} {c : Char}
    (hline : IsLineText before.toList body.toList after.toList)
    (hlead : ∀ d ∈ lead.toList, isBlank d = true) (htrail : ∀ d ∈ trail.toList, isBlank d = true)
    (hindex : index < body.length)
    (h : tokenize (before ++ (body ++ after)) =
      .error (.invalidCharacter (before.length + index) c)) :
    tokenize (before ++ (lead ++ (body ++ trail) ++ after)) =
      .error (.invalidCharacter (before.length + (lead.length + index)) c) := by
  obtain ⟨htokens, hbody⟩ := (tokenize_middle_eq_error_iff (hline.isSeam_before _)
    (hline.isSeam_after _) hindex).1 h
  have hwidened := tokenize_between_blanks hlead htrail hbody
  exact (tokenize_middle_eq_error_iff (hline.isSeam_before _) (hline.isSeam_after _)
    (position_lt_length hwidened)).2 ⟨htokens, hwidened⟩

/-! ## The excerpt of a line -/

section Excerpt

variable {lead trail : List Char}

theorem IsTrimmed.append {line shown : List Char} (h : IsTrimmed line shown)
    (hlead : ∀ d ∈ lead, isBlank d = true) (htrail : ∀ d ∈ trail, isBlank d = true) :
    IsTrimmed (lead ++ line ++ trail) shown := by
  obtain ⟨first, last, rfl, hfirst, hlast, hends⟩ := h
  exact ⟨lead ++ first, last ++ trail, by simp, List.forall_mem_append.2 ⟨hlead, hfirst⟩,
    List.forall_mem_append.2 ⟨hlast, htrail⟩, hends⟩

/-- Blanks around `text` are trimmed with those that it has. -/
theorem trim_append (text : List Char) (hlead : ∀ d ∈ lead, isBlank d = true)
    (htrail : ∀ d ∈ trail, isBlank d = true) :
    Diagnostic.trim (lead ++ text ++ trail) = Diagnostic.trim text :=
  ((isTrimmed_trim text).append hlead htrail).trim_eq

/-- With blanks before a line the same text is `passed` up to a character of it. -/
theorem Line.Passed.widen {line : Line} {passed : List Char} (h : line.Passed passed)
    (hlead : ∀ d ∈ lead, isBlank d = true) (trail : List Char) :
    Line.Passed ⟨line.number, String.ofList (lead ++ line.text.toList ++ trail),
      lead.length + line.offset⟩ passed := by
  obtain ⟨indent, c, rest, htext, hoffset, hindent, hhead⟩ := h
  refine ⟨lead ++ indent, c, rest ++ trail, ?_, ?_, ?_, hhead⟩
  · rw [String.toList_ofList, htext]
    simp
  · rw [List.length_append, Nat.add_assoc, ← hoffset]
  · exact List.forall_mem_append.2 ⟨hlead, hindent⟩

/-- The excerpt of a line shows none of `lead` and `trail` around it. -/
theorem excerpt_widened (line : Line) {c : Char} (hlead : ∀ d ∈ lead, isBlank d = true)
    (htrail : ∀ d ∈ trail, isBlank d = true) (hc : line.text.toList[line.offset]? = some c)
    (hblank : isBlank c = false) :
    Diagnostic.excerpt ⟨line.number, String.ofList (lead ++ line.text.toList ++ trail),
      lead.length + line.offset⟩ = Diagnostic.excerpt line := by
  obtain ⟨passed, hpassed⟩ := Line.exists_passed_of_getElem? hc hblank
  rw [(hpassed.widen hlead trail).excerpt_eq, hpassed.excerpt_eq, String.toList_ofList,
    trim_append _ hlead htrail]
  rfl

end Excerpt

/-! ## What is shown of an error -/

section Render

variable {before body after : List Char} {offset : Nat} {c : Char}

/-- An error about a character of `body` is shown in the line as it is without its line feed. -/
theorem IsLineText.render_eq (h : IsLineText before body after) (hc : body[offset]? = some c)
    (hblank : isBlank c = false) :
    Diagnostic.render (.invalidCharacter (before.length + offset) c)
        (String.ofList (before ++ body ++ after)) =
      (Diagnostic.excerpt ⟨before.count '\n' + 1, String.ofList body, offset⟩).map
        (Diagnostic.headline (.invalidCharacter (before.length + offset) c) ++ ·) := by
  obtain ⟨hlt, -⟩ := List.getElem?_eq_some_iff.1 hc
  have hoffset : offset < (body ++ after.take 1).length := by
    rw [List.length_append]
    omega
  have hat := Line.isAt_of_isLine (h.isLine (List.ne_nil_of_length_pos (by omega))) hoffset
  rw [← List.append_assoc, List.append_assoc _ (after.take 1), List.take_append_drop,
    ← String.toList_ofList (l := before ++ body ++ after)] at hat
  -- The line feed is one more blank after the text of the line.
  have hending : ∀ d ∈ after.take 1, isBlank d = true := by
    rcases h.ends with rfl | ⟨rest, rfl⟩
    · simp
    · simp [isBlank]
  have hline : (String.ofList body).toList[offset]? = some c := by rwa [String.toList_ofList]
  have hexcerpt := excerpt_widened ⟨before.count '\n' + 1, String.ofList body, offset⟩
    (List.forall_mem_nil _) hending hline hblank
  rw [String.toList_ofList, List.nil_append, List.length_nil, Nat.zero_add] at hexcerpt
  rw [render_of_isAt c hat, hexcerpt]

/-- Blanks around a line make no difference to what is shown of an error in it. -/
theorem IsLineText.render_widened {lead trail : List Char} (h : IsLineText before body after)
    (hlead : ∀ d ∈ lead, isBlank d = true ∧ d ≠ '\n')
    (htrail : ∀ d ∈ trail, isBlank d = true ∧ d ≠ '\n') (hc : body[offset]? = some c)
    (hblank : isBlank c = false) :
    Diagnostic.render (.invalidCharacter (before.length + (lead.length + offset)) c)
        (String.ofList (before ++ (lead ++ body ++ trail) ++ after)) =
      Diagnostic.render (.invalidCharacter (before.length + offset) c)
        (String.ofList (before ++ body ++ after)) := by
  have hwidened : IsLineText before (lead ++ body ++ trail) after := by
    refine ⟨h.starts, ?_, h.ends⟩
    simp only [List.mem_append, not_or]
    exact ⟨⟨fun hmem => (hlead _ hmem).2 rfl, h.single⟩, fun hmem => (htrail _ hmem).2 rfl⟩
  obtain ⟨hlt, -⟩ := List.getElem?_eq_some_iff.1 hc
  have hmoved : (lead ++ body ++ trail)[lead.length + offset]? = some c := by
    rw [getElem?_middle lead trail hlt, hc]
  have hline : (String.ofList body).toList[offset]? = some c := by rwa [String.toList_ofList]
  have hexcerpt := excerpt_widened ⟨before.count '\n' + 1, String.ofList body, offset⟩
    (fun d hd => (hlead d hd).1) (fun d hd => (htrail d hd).1) hline hblank
  rw [String.toList_ofList] at hexcerpt
  rw [hwidened.render_eq hmoved hblank, h.render_eq hc hblank, hexcerpt]
  -- The headline names the character and not its position.
  rfl

end Render

/-- With blanks put around the line of an error by `widenLine`, the error is about the same
character, as many positions further on as there are blanks before the line. What is shown of it
is the same, or nothing can be shown for the same reason. -/
theorem render_widenLine {source : String} {error : Error} (h : tokenize source = .error error) :
    ∃ position c, error = .invalidCharacter position c ∧
      ∀ lead trail : String, (∀ d ∈ lead.toList, isBlank d = true ∧ d ≠ '\n') →
        (∀ d ∈ trail.toList, isBlank d = true ∧ d ≠ '\n') →
        tokenize (widenLine lead trail source position) =
            .error (.invalidCharacter (position + lead.length) c) ∧
          Diagnostic.render (.invalidCharacter (position + lead.length) c)
              (widenLine lead trail source position) =
            Diagnostic.render error source := by
  obtain ⟨position, c, rfl⟩ := exists_invalidCharacter h
  refine ⟨position, c, rfl, ?_⟩
  intro lead trail hlead htrail
  obtain ⟨hc, ⟨d, hd, -, -, hblank, -⟩, -⟩ := tokenize_eq_error_iff_first.1 h
  obtain rfl : c = d := Option.some.inj (hc.symm.trans hd)
  obtain ⟨offset, hposition, hoffset⟩ :=
    Line.exists_textAround_getElem? hc (ne_lineFeed_of_not_blank hblank)
  have hline := Line.isLineText source.toList position
  have hsource := congrArg String.ofList (Line.append_text source.toList position)
  rw [String.ofList_toList] at hsource
  rw [widenLine]
  -- From here on only the three texts count, not how they were cut.
  generalize Line.textBefore source.toList position = before at *
  generalize Line.textAround source.toList position = body at *
  generalize Line.textAfter source.toList position = after at *
  subst hposition
  rw [← hsource] at h ⊢
  rw [← String.length_toList, Nat.add_assoc, Nat.add_comm offset]
  refine ⟨?_, hline.render_widened hlead htrail hoffset hblank⟩
  obtain ⟨hlt, -⟩ := List.getElem?_eq_some_iff.1 hoffset
  have hwidened := tokenize_widened (String.ofList before) (String.ofList body)
    (String.ofList after) (by simpa using hline) (fun d hd => (hlead d hd).1)
    (fun d hd => (htrail d hd).1) (by simpa using hlt) (by simpa using h)
  simpa [String.append_assoc, String.length_toList] using hwidened

/-- A tab before the second of three lines and a wide blank after it. -/
theorem render_widenLine_second :
    tokenize "2 *\n 3 & 4\n5" = .error (.invalidCharacter 7 '&') ∧
      widenLine "\t" "\u3000" "2 *\n 3 & 4\n5" 7 = "2 *\n\t 3 & 4\u3000\n5" ∧
      tokenize "2 *\n\t 3 & 4\u3000\n5" = .error (.invalidCharacter 8 '&') ∧
      Diagnostic.render (.invalidCharacter 8 '&') "2 *\n\t 3 & 4\u3000\n5" =
        Diagnostic.render (.invalidCharacter 7 '&') "2 *\n 3 & 4\n5" := by
  have htokens : tokenize "2 *\n 3 & 4\n5" = .error (.invalidCharacter 7 '&') := by
    rw [tokenize_eq_error_iff_first]
    decide
  have hwidened : widenLine "\t" "\u3000" "2 *\n 3 & 4\n5" 7 = "2 *\n\t 3 & 4\u3000\n5" := by
    decide +kernel
  obtain ⟨position, c, herror, hwiden⟩ := render_widenLine htokens
  cases herror
  obtain ⟨hmoved, hshown⟩ := hwiden "\t" "\u3000" (by simp [isBlank]) (by simp [isBlank])
  rw [hwidened] at hmoved hshown
  exact ⟨htokens, hwidened, hmoved, hshown⟩

end Reckoner
