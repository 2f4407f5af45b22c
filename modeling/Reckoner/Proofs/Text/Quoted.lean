import Mathlib.Data.List.Nodup
import Reckoner.Proofs.Text.Class
import Reckoner.Proofs.Text.Digits
import Reckoner.Text.Quoted

/-!
# Text — reading quoted text

Why text that `Quoted.between` writes can be told by how it is written. Each character is
written as itself, behind a backslash as its mark, or by its number, and the first one or
two characters that are written say which. So no character is written like the beginning of
another, none begins with the delimiter, and none with a line break in it.
-/

namespace Reckoner

namespace Quoted

/-- The characters that have a mark of their own, each with its mark. -/
def marks (delimiter : Char) : List (Char × Char) :=
  [('\x00', '0'), ('\t', 't'), ('\r', 'r'), ('\n', 'n'), ('\\', '\\'), (delimiter, delimiter)]

/-- How a character can be written between two delimiters: three cases where `escape` has seven,
told by what is written first. -/
inductive Writes (delimiter : Char) : Char → List Char → Prop where
  | plain {c : Char} (h : c ∉ (marks delimiter).map Prod.fst) : Writes delimiter c [c]
  | marked {c mark : Char} (h : (c, mark) ∈ marks delimiter) : Writes delimiter c ['\\', mark]
  | byNumber (c : Char) : Writes delimiter c (numbered c)

theorem writes_escape (delimiter c : Char) : Writes delimiter c (escape delimiter c) := by
  unfold escape
  split_ifs with hnull htab hreturn hfeed hitself hunprintable
  · exact .marked (by simp [marks, hnull])
  · exact .marked (by simp [marks, htab])
  · exact .marked (by simp [marks, hreturn])
  · exact .marked (by simp [marks, hfeed])
  · refine .marked ?_
    rcases hitself with rfl | rfl <;> simp [marks]
  · exact .byNumber c
  · exact .plain (by simp_all [marks])

/-! ## One character -/

theorem ne_of_not_mem_marks {delimiter c : Char} (h : c ∉ (marks delimiter).map Prod.fst) :
    c ≠ '\\' ∧ c ≠ delimiter ∧ c ≠ '\n' ∧ c ≠ '\r' := by
  refine ⟨?_, ?_, ?_, ?_⟩ <;> rintro rfl <;> simp [marks] at h

theorem numbered_append_inj {c other : Char} {rest tail : List Char}
    (h : numbered c ++ rest = numbered other ++ tail) : c = other ∧ rest = tail := by
  have hdigits : Nat.toDigits 16 c.toNat ++ '\x7d' :: rest =
      Nat.toDigits 16 other.toNat ++ '\x7d' :: tail := by
    simpa [numbered] using h
  have hclosing := not_mem_toDigits_sixteen (c := '\x7d') (by decide)
  obtain ⟨hnumber, hrest⟩ := append_cons_inj (hclosing _) (hclosing _) hdigits
  exact ⟨Char.toNat_inj.1 (toDigits_inj (by decide) (by decide) hnumber), hrest⟩

section Delimited

variable {delimiter c other : Char} {written written' rest tail text text' : List Char}
  (hdelimiter : delimiter = '\'' ∨ delimiter = '\"')

include hdelimiter

/-- A mark tells the character, which `delimiter` may be. -/
theorem mark_inj {mark : Char} (h : (c, mark) ∈ marks delimiter)
    (hother : (other, mark) ∈ marks delimiter) : c = other := by
  have hnodup : ((marks delimiter).map Prod.snd).Nodup := by
    rcases hdelimiter with rfl | rfl <;> decide
  exact congrArg Prod.fst (List.inj_on_of_nodup_map hnodup h hother rfl)

/-- No mark is `u`, the letter before a number, or a line break. -/
theorem mark_ne {mark : Char} (h : (c, mark) ∈ marks delimiter) :
    mark ≠ 'u' ∧ mark ≠ '\n' ∧ mark ≠ '\r' := by
  refine ⟨?_, ?_, ?_⟩ <;> rintro rfl <;> rcases hdelimiter with rfl | rfl <;> simp [marks] at h

/-- What `Writes` a character is not the beginning of what is written for another. -/
theorem Writes.append_inj (h : Writes delimiter c written)
    (hother : Writes delimiter other written') (heq : written ++ rest = written' ++ tail) :
    c = other ∧ rest = tail := by
  -- A plain character is no backslash, and a mark is not the letter before a number.
  cases h with
  | plain hc =>
    have hbackslash := (ne_of_not_mem_marks hc).1
    cases hother with
    | plain hother => simpa using heq
    | marked hother => exact absurd (List.cons.inj heq).1 hbackslash
    | byNumber => exact absurd (List.cons.inj heq).1 hbackslash
  | marked hc =>
    cases hother with
    | plain hother =>
      exact absurd (List.cons.inj heq).1.symm (ne_of_not_mem_marks hother).1
    | marked hother =>
      obtain ⟨hmark, hrest⟩ := List.cons.inj (List.cons.inj heq).2
      subst hmark
      exact ⟨mark_inj hdelimiter hc hother, hrest⟩
    | byNumber =>
      exact absurd (List.cons.inj (List.cons.inj heq).2).1 (mark_ne hdelimiter hc).1
  | byNumber =>
    cases hother with
    | plain hother =>
      exact absurd (List.cons.inj heq).1.symm (ne_of_not_mem_marks hother).1
    | marked hother =>
      exact absurd (List.cons.inj (List.cons.inj heq).2).1.symm (mark_ne hdelimiter hother).1
    | byNumber => exact numbered_append_inj heq

theorem Writes.append_ne (h : Writes delimiter c written) :
    written ++ rest ≠ delimiter :: tail := by
  intro heq
  have hbackslash : '\\' ≠ delimiter := by rcases hdelimiter with rfl | rfl <;> decide
  cases h with
  | plain hc => exact (ne_of_not_mem_marks hc).2.1 (List.cons.inj heq).1
  | marked => exact hbackslash (List.cons.inj heq).1
  | byNumber => exact hbackslash (List.cons.inj heq).1

theorem Writes.lineBreak_not_mem (h : Writes delimiter c written) :
    '\n' ∉ written ∧ '\r' ∉ written := by
  cases h with
  | plain hc =>
    obtain ⟨-, -, hfeed, hreturn⟩ := ne_of_not_mem_marks hc
    simp [hfeed.symm, hreturn.symm]
  | marked hc =>
    obtain ⟨-, hfeed, hreturn⟩ := mark_ne hdelimiter hc
    simp [hfeed.symm, hreturn.symm]
  | byNumber =>
    have hfeed := not_mem_toDigits_sixteen (c := '\n') (by decide) c.toNat
    have hreturn := not_mem_toDigits_sixteen (c := '\r') (by decide) c.toNat
    simp [Quoted.numbered, hfeed, hreturn]

/-! ## Text -/

/-- Text is told by what `escape` makes of it: the texts begin with the same character, or both
are over where the delimiter stands. -/
theorem flatMap_escape_inj
    (h : text.flatMap (escape delimiter) ++ [delimiter] =
      text'.flatMap (escape delimiter) ++ [delimiter]) : text = text' := by
  -- The induction is on one text, with a split on the other: the first characters are the same.
  induction text generalizing text' with
  | nil =>
    cases text' with
    | nil => rfl
    | cons d text' =>
      rw [List.flatMap_cons, List.append_assoc] at h
      exact absurd h.symm ((writes_escape delimiter d).append_ne hdelimiter)
  | cons c text ih =>
    cases text' with
    | nil =>
      rw [List.flatMap_cons, List.append_assoc] at h
      exact absurd h ((writes_escape delimiter c).append_ne hdelimiter)
    | cons d text' =>
      rw [List.flatMap_cons, List.flatMap_cons, List.append_assoc, List.append_assoc] at h
      obtain ⟨rfl, hrest⟩ :=
        (writes_escape delimiter c).append_inj hdelimiter (writes_escape delimiter d) h
      rw [ih hrest]

theorem between_inj (h : between delimiter text = between delimiter text') : text = text' :=
  flatMap_escape_inj hdelimiter (List.cons.inj h).2

theorem lineBreak_not_mem_between (text : List Char) :
    '\n' ∉ between delimiter text ∧ '\r' ∉ between delimiter text := by
  have hwritten := fun c => (writes_escape delimiter c).lineBreak_not_mem hdelimiter
  have hfeed : '\n' ≠ delimiter := by rcases hdelimiter with rfl | rfl <;> decide
  have hreturn : '\r' ≠ delimiter := by rcases hdelimiter with rfl | rfl <;> decide
  simp [between, hwritten, hfeed, hreturn]

end Delimited

end Quoted

/-! ## Characters and texts -/

theorem quoteChar_inj {c other : Char} (h : quoteChar c = quoteChar other) : c = other := by
  have hbetween := String.ofList_injective h
  simpa using Quoted.between_inj (.inl rfl) hbetween

theorem quoteString_inj {text other : String} (h : quoteString text = quoteString other) :
    text = other := by
  have hbetween := String.ofList_injective h
  exact String.toList_inj.1 (Quoted.between_inj (.inr rfl) hbetween)

theorem lineBreak_not_mem_quoteChar (c : Char) :
    '\n' ∉ (quoteChar c).toList ∧ '\r' ∉ (quoteChar c).toList := by
  rw [quoteChar, String.toList_ofList]
  exact Quoted.lineBreak_not_mem_between (.inl rfl) [c]

theorem lineBreak_not_mem_quoteString (text : String) :
    '\n' ∉ (quoteString text).toList ∧ '\r' ∉ (quoteString text).toList := by
  rw [quoteString, String.toList_ofList]
  exact Quoted.lineBreak_not_mem_between (.inr rfl) text.toList

end Reckoner
