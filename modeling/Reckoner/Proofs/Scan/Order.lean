import Reckoner.Proofs.Scan.Run

/-!
# Scan — order of the kinds

A scan tries its kinds in some order and takes what the first of them finds. Since no
character begins lexemes of two kinds, only one of them finds anything, so every order
gives the same scan. For the same reason what is found is the longest lexeme of any kind
with which the rest of the text begins: first match and longest match are one.
-/

namespace Reckoner

/-- Whether `text` begins with the lexeme `found` and with no longer one. -/
structure IsLongestLexeme (text found : List Char) : Prop where
  spelled : ∃ kind : LexemeKind, kind.Spells found
  begins : found <+: text
  longest : ∀ kind : LexemeKind, ∀ other, kind.Spells other → other <+: text →
    other.length ≤ found.length

/-! ## The longest lexeme of any kind -/

namespace LexemeKind

/-- A kind whose `longestPrefix` is not empty is the only one with a lexeme there. -/
theorem eq_of_longestPrefix_ne_nil {kind other : LexemeKind} {text found : List Char}
    (hne : kind.longestPrefix text ≠ []) (hspells : other.Spells found)
    (hbegin : found <+: text) : other = kind := by
  obtain ⟨c, tail, rfl, hc⟩ := hspells.head
  obtain ⟨rest, rfl⟩ := hbegin
  exact begins_inj hc (longestPrefix_cons_ne_nil_iff.1 hne)

theorem isLongestLexeme_longestPrefix {kind : LexemeKind} {text : List Char}
    (hne : kind.longestPrefix text ≠ []) : IsLongestLexeme text (kind.longestPrefix text) where
  spelled := ⟨kind, spells_longestPrefix hne⟩
  begins := kind.longestPrefix_isPrefix text
  longest := by
    intro other found hspells hbegin
    obtain rfl := eq_of_longestPrefix_ne_nil hne hspells hbegin
    exact length_le_longestPrefix hspells hbegin

end LexemeKind

/-! ## One step in any order -/

namespace Cursor

variable {kinds others : List LexemeKind}

theorem step?_congr (h : ∀ kind, kind ∈ kinds ↔ kind ∈ others) (cursor : Cursor) :
    cursor.step? kinds = cursor.step? others := by
  have hmatch : firstMatch? kinds cursor.rest = firstMatch? others cursor.rest := by
    -- Which kind is found does not depend on where it stands in the list.
    ext ⟨kind, found⟩
    simp only [firstMatch?_eq_some_iff, h]
  rw [step?, hmatch, step?]

/-- A step takes the longest lexeme of any kind, of the one kind that has one here. -/
theorem isLongestLexeme_of_step? {cursor next : Cursor} {lexeme : Lexeme}
    (h : cursor.step? kinds = some (lexeme, next)) :
    lexeme.kind.Spells lexeme.text.toList ∧ IsLongestLexeme cursor.rest lexeme.text.toList := by
  obtain ⟨kind, _, found, rest, hrest, hne, hfound, rfl, rfl⟩ := step?_eq_some_iff.1 h
  rw [← hrest] at hfound
  subst hfound
  simp only [Cursor.lexeme, String.toList_ofList]
  exact ⟨LexemeKind.spells_longestPrefix hne, LexemeKind.isLongestLexeme_longestPrefix hne⟩

/-- Where all kinds are tried and `step?` gives nothing, no lexeme stands. -/
theorem not_isPrefix_of_step?_none (hkinds : ∀ kind, kind ∈ kinds) {cursor : Cursor}
    (h : cursor.step? kinds = none) {kind : LexemeKind} {found : List Char}
    (hspells : kind.Spells found) : ¬ found <+: cursor.rest := by
  rintro ⟨rest, hrest⟩
  obtain ⟨c, tail, rfl, hc⟩ := hspells.head
  have hnot := step?_eq_none_iff.1 h kind (hkinds kind) c (by rw [← hrest]; rfl)
  rw [hc] at hnot
  cases hnot

/-! ## Runs in any order -/

theorem Passes.congr (h : ∀ kind, kind ∈ kinds ↔ kind ∈ others) {cursor stop : Cursor}
    {lexemes : List Lexeme} (hpasses : Passes kinds cursor lexemes stop) :
    Passes others cursor lexemes stop := by
  induction hpasses with
  | done => exact .done _
  | step hstep _ ih =>
    rw [step?_congr h] at hstep
    exact .step hstep ih

end Cursor

/-- The order of `kinds` changes neither what a scan passes nor where it stops. -/
theorem Scan.ofCursor_congr {kinds others : List LexemeKind}
    (h : ∀ kind, kind ∈ kinds ↔ kind ∈ others) (cursor : Cursor) :
    ofCursor kinds cursor = ofCursor others cursor := by
  have hstop := step?_stop others cursor
  rw [← Cursor.step?_congr h] at hstop
  exact ofCursor_eq_of_passes
    ((passes_ofCursor others cursor).congr fun kind => (h kind).symm) hstop

/-- In whatever order `kinds` are tried, the scan finds the same. Wherever it comes to it takes
the longest lexeme of any kind with which the rest of the source begins, and where it takes
nothing the rest begins with no lexeme. -/
theorem scan_eq_of_perm_and_isLongestLexeme {kinds : List LexemeKind}
    (h : kinds.Perm LexemeKind.all) (source : String) :
    (Scan.ofCursor kinds (Cursor.start source)).result = scan source ∧
      ∀ passed cursor, (Cursor.start source).Passes kinds passed cursor →
        source.toList = passed.flatMap (·.text.toList) ++ cursor.rest ∧
        (∀ lexeme next, cursor.step? kinds = some (lexeme, next) →
          lexeme.kind.Spells lexeme.text.toList ∧
            IsLongestLexeme cursor.rest lexeme.text.toList) ∧
        (cursor.step? kinds = none →
          ∀ kind : LexemeKind, ∀ found, kind.Spells found → ¬ found <+: cursor.rest) := by
  have hkinds : ∀ kind, kind ∈ kinds ↔ kind ∈ LexemeKind.all := fun _ => h.mem_iff
  constructor
  · rw [Scan.ofCursor_congr hkinds, scan, Scan.ofSource]
  · intro passed cursor hpasses
    refine ⟨hpasses.rest_eq, fun lexeme next => Cursor.isLongestLexeme_of_step?, ?_⟩
    intro hnone kind found
    exact Cursor.not_isPrefix_of_step?_none (fun kind => (hkinds kind).2 (by simp)) hnone

/-- With the kinds in reverse order the number is still taken as a whole, and before its
second point the scan is over. -/
theorem scan_eq_of_perm_reverse :
    LexemeKind.all.reverse.Perm LexemeKind.all ∧
      (Scan.ofCursor LexemeKind.all.reverse (Cursor.start "1.5.2")).result = scan "1.5.2" ∧
      (Cursor.start "1.5.2").step? LexemeKind.all.reverse =
        some (⟨.number, "1.5", 0, 3⟩, ⟨".2".toList, 3, 3⟩) ∧
      IsLongestLexeme "1.5.2".toList "1.5".toList ∧
      (Cursor.mk ".2".toList 3 3).step? LexemeKind.all.reverse = none ∧
      ∀ kind : LexemeKind, ∀ found, kind.Spells found → ¬ found <+: ".2".toList := by
  have hperm : LexemeKind.all.reverse.Perm LexemeKind.all := List.reverse_perm _
  have hstep : (Cursor.start "1.5.2").step? LexemeKind.all.reverse =
      some (⟨.number, "1.5", 0, 3⟩, ⟨".2".toList, 3, 3⟩) := by decide +kernel
  have hnone : (Cursor.mk ".2".toList 3 3).step? LexemeKind.all.reverse = none := by
    decide +kernel
  obtain ⟨hresult, hreached⟩ := scan_eq_of_perm_and_isLongestLexeme hperm "1.5.2"
  obtain ⟨-, htaken, -⟩ := hreached [] _ (.done _)
  obtain ⟨-, -, hstop⟩ := hreached _ _ (.step hstep (.done _))
  exact ⟨hperm, hresult, hstep, (htaken _ _ hstep).2, hnone, hstop hnone⟩

end Reckoner
