import Reckoner.Diagnostic
import Reckoner.Proofs.Text.Class
import Reckoner.Proofs.Text.Line

/-!
# Diagnostic — spots

A `Spot` is a character of a source with all that stands around it, as far as showing it is
concerned: the lines before its own, the blanks at the beginning of its line, the text up to
it, and what follows. Every character that is no blank has such a spot, and the excerpt of a
source is computed from the spot.
-/

namespace Reckoner

/-! ## The excerpt of a line -/

/-- The text `passed` of a line from its first character that is no blank up to `line.offset`.
-/
def Line.Passed (line : Line) (passed : List Char) : Prop :=
  ∃ indent c rest, line.text.toList = indent ++ passed ++ c :: rest ∧
    line.offset = indent.length + passed.length ∧ (∀ d ∈ indent, isBlank d = true) ∧
    ∀ d ∈ (passed ++ [c]).head?, isBlank d = false

/-- Unless only blanks stand up to `line.offset`, some text of the line is passed there. -/
theorem Line.exists_passed {line : Line} (hoffset : line.offset < line.text.toList.length)
    (h : ¬ ∀ c ∈ line.text.toList.take (line.offset + 1), isBlank c = true) :
    ∃ passed, line.Passed passed := by
  obtain ⟨indent, run, htake, hindent, hrun⟩ :=
    exists_takeWhile isBlank (line.text.toList.take (line.offset + 1))
  -- Behind the indentation the run ends with the character at the offset.
  rcases List.eq_nil_or_concat' run with rfl | ⟨passed, c, rfl⟩
  · rw [htake, List.append_nil] at h
    exact absurd hindent h
  · refine ⟨passed, indent, c, line.text.toList.drop (line.offset + 1), ?_, ?_, hindent, hrun⟩
    · conv_lhs => rw [← List.take_append_drop (line.offset + 1) line.text.toList, htake]
      simp
    · have hlength := congrArg List.length htake
      simp only [List.length_take, List.length_append, List.length_singleton] at hlength
      omega

theorem Line.exists_passed_of_getElem? {line : Line} {c : Char}
    (h : line.text.toList[line.offset]? = some c) (hc : isBlank c = false) :
    ∃ passed, line.Passed passed := by
  obtain ⟨hlt, -⟩ := List.getElem?_eq_some_iff.1 h
  refine Line.exists_passed hlt ?_
  intro hall
  have hmem : c ∈ line.text.toList.take (line.offset + 1) :=
    List.mem_of_getElem? (by rw [List.getElem?_take_of_lt (Nat.lt_add_one _), h])
  simp [hall c hmem] at hc

theorem takeWhile_isBlank_of_head {indent passed rest : List Char} {c : Char}
    (hindent : ∀ d ∈ indent, isBlank d = true)
    (hhead : ∀ d ∈ (passed ++ [c]).head?, isBlank d = false) :
    (indent ++ passed ++ c :: rest).takeWhile isBlank = indent := by
  rw [← head?_append_cons passed c rest] at hhead
  rw [List.append_assoc, List.takeWhile_append_of_pos hindent, takeWhile_eq_nil_of_head hhead,
    List.append_nil]

/-- The marker stands under a place after as many dashes as `passed` has characters, unless
there are more than `Diagnostic.lastColumn` allows. -/
theorem Line.Passed.excerpt_eq {line : Line} {passed : List Char} (h : line.Passed passed) :
    Diagnostic.excerpt line =
      if Diagnostic.lastColumn ≤ passed.length then .error .markerTooFar
      else .ok <|
        "\n" ++ Diagnostic.gutter line ++
        "\n" ++ toString line.number ++ " | " ++ String.ofList (Diagnostic.trim line.text.toList) ++
        "\n" ++ Diagnostic.gutter line ++ " " ++ Diagnostic.marker passed.length := by
  obtain ⟨indent, c, rest, htext, hoffset, hindent, hhead⟩ := h
  have hbefore : ¬ line.offset < indent.length := by omega
  have hdashes : line.offset - indent.length = passed.length := by omega
  have htake : line.text.toList.takeWhile isBlank = indent := by
    rw [htext, takeWhile_isBlank_of_head hindent hhead]
  rw [Diagnostic.excerpt]
  simp only [htake, hdashes, Nat.lt_add_one_iff]
  rw [if_neg hbefore]

/-! ## Spots -/

/-- A character in a text with its surroundings: the lines before, the indentation of
its own line, what comes between the indentation and the character, the rest of the
line, and the lines after. -/
structure Spot where
  before : List Char
  indent : List Char
  passed : List Char
  character : Char
  tail : List Char
  after : List Char
  isLine : IsLine before (indent ++ passed ++ character :: tail) after
  blank_indent : ∀ c ∈ indent, isBlank c = true
  head_passed : ∀ c ∈ (passed ++ [character]).head?, isBlank c = false
  character_not_blank : isBlank character = false

namespace Spot

/-- The line of a spot, from its `indent` to its `tail`. -/
def line (spot : Spot) : List Char := spot.indent ++ spot.passed ++ spot.character :: spot.tail

/-- The whole text around a spot. -/
def text (spot : Spot) : List Char := spot.before ++ spot.line ++ spot.after

/-- How many characters of `text` come before a spot. -/
def position (spot : Spot) : Nat :=
  spot.before.length + (spot.indent.length + spot.passed.length)

/-- The number of the line of a spot. -/
def number (spot : Spot) : Nat := spot.before.count '\n' + 1

/-- The `line` of a spot without the blanks around it. -/
def shown (spot : Spot) : List Char :=
  spot.passed ++ spot.character :: spot.tail.rdropWhile isBlank

/-! ## Every character has a spot -/

theorem exists_of_getElem? {text : List Char} {position : Nat} {c : Char}
    (h : text[position]? = some c) (hc : isBlank c = false) :
    ∃ spot : Spot, spot.text = text ∧ spot.position = position ∧ spot.character = c := by
  obtain ⟨hlt, -⟩ := List.getElem?_eq_some_iff.1 h
  obtain ⟨line, hline⟩ := Line.exists_isAt hlt
  rw [← hline.character_eq] at h
  obtain ⟨passed, indent, d, tail, htext, hoffset, hindent, hhead⟩ :=
    Line.exists_passed_of_getElem? h hc
  -- The character of the spot is the one that stands behind what is passed.
  obtain ⟨-, ⟨before, after, rfl, hcut, rfl⟩, -, -⟩ := hline
  rw [htext, hoffset, ← List.length_append, List.getElem?_append_right (Nat.le_refl _),
    Nat.sub_self, List.getElem?_cons_zero] at h
  obtain rfl := Option.some.inj h
  rw [htext] at hcut
  refine ⟨⟨before, indent, passed, d, tail, after, hcut, hindent, hhead, hc⟩, ?_, ?_, rfl⟩
  · rw [text, Spot.line, htext]
  · rw [position, hoffset]

/-! ## The place of a spot -/

theorem position_lt_length (spot : Spot) :
    spot.indent.length + spot.passed.length < spot.line.length := by
  simp only [line, List.length_append, List.length_cons]
  omega

/-- The place that `Line.at?` finds for a spot is its line and what comes before it there. -/
theorem at?_eq {spot : Spot} {source : String} (h : spot.text = source.toList) :
    Line.at? source spot.position = some ⟨spot.number, String.ofList spot.line,
      spot.indent.length + spot.passed.length⟩ := by
  have hat := spot.isLine.at?_eq spot.position_lt_length
  rw [← String.ofList_toList (s := source), ← h]
  exact hat

/-- The `number` of a line counts the line feeds before the spot, none of which is in the line
itself. -/
theorem number_eq (spot : Spot) :
    spot.number = (spot.text.take spot.position).count '\n' + 1 := by
  have hcount := spot.isLine.count_take spot.position_lt_length
  rw [number, ← hcount]
  rfl

end Spot

end Reckoner
