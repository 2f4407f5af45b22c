import Reckoner.Cursor
import Reckoner.Error

/-!
# Scan

The lexemes of an expression from its beginning on, up to its end or to a character that no
lexeme begins with. `scan` gives all of them, `tokenize` the tokens among them.
-/

namespace Reckoner

/-- The lexemes found from a place on, and the place `stop` where no further one stands. -/
structure Scan where
  lexemes : List Lexeme
  stop : Cursor
  deriving DecidableEq

namespace Scan

/-- Puts `lexemes` before those of `scan`. -/
def after (lexemes : List Lexeme) (scan : Scan) : Scan := ⟨lexemes ++ scan.lexemes, scan.stop⟩

/-- Scans from `cursor` on, with the lexemes found before in reverse order. -/
def collect (kinds : List LexemeKind) (cursor : Cursor) (found : List Lexeme) : Scan :=
  match _ : cursor.step? kinds with
  | none => ⟨found.reverse, cursor⟩
  | some (lexeme, next) => collect kinds next (lexeme :: found)
termination_by cursor.rest.length
decreasing_by exact Cursor.length_rest_of_step? ‹_›

/-- Scans from `cursor` on. -/
def ofCursor (kinds : List LexemeKind) (cursor : Cursor) : Scan := collect kinds cursor []

/-- Scans an expression from its beginning, with `LexemeKind.all` in their order. -/
def ofSource (source : String) : Scan := ofCursor LexemeKind.all (Cursor.start source)

/-- What `scan` found: all lexemes, or the character at which it stopped. -/
def result (scan : Scan) : Except Error (List Lexeme) :=
  match scan.stop.rest with
  | [] => .ok scan.lexemes
  | character :: _ => .error (.invalidCharacter scan.stop.index character)

/-- The tokens among what `scan` found. -/
def tokens (scan : Scan) : Except Error (List Token) :=
  scan.result.map (List.filterMap Lexeme.token?)

/-! ## One step -/

theorem collect_of_none {kinds : List LexemeKind} {cursor : Cursor} {found : List Lexeme}
    (h : cursor.step? kinds = none) : collect kinds cursor found = ⟨found.reverse, cursor⟩ := by
  rw [collect]
  split
  · rfl
  · next h' => exact absurd (h.symm.trans h') (by simp)

theorem collect_of_some {kinds : List LexemeKind} {cursor next : Cursor} {lexeme : Lexeme}
    {found : List Lexeme} (h : cursor.step? kinds = some (lexeme, next)) :
    collect kinds cursor found = collect kinds next (lexeme :: found) := by
  rw [collect]
  split
  · next h' => exact absurd (h.symm.trans h') (by simp)
  · next h' =>
    obtain ⟨rfl, rfl⟩ := Prod.mk.inj (Option.some.inj (h.symm.trans h'))
    rfl

theorem collect_eq_after (kinds : List LexemeKind) (cursor : Cursor) (found : List Lexeme) :
    collect kinds cursor found = after found.reverse (ofCursor kinds cursor) := by
  rw [ofCursor]
  induction hn : cursor.rest.length using Nat.strongRecOn generalizing cursor found with
  | ind n ih =>
    cases h : cursor.step? kinds with
    | none => simp [collect_of_none h, after]
    | some pair =>
      obtain ⟨lexeme, next⟩ := pair
      have hlt := hn ▸ Cursor.length_rest_of_step? h
      rw [collect_of_some h, collect_of_some h, ih _ hlt next (lexeme :: found) rfl,
        ih _ hlt next [lexeme] rfl]
      simp [after]

/-- Where no lexeme stands, the scan is over. -/
theorem ofCursor_of_none {kinds : List LexemeKind} {cursor : Cursor}
    (h : cursor.step? kinds = none) : ofCursor kinds cursor = ⟨[], cursor⟩ :=
  collect_of_none h

/-- Where a lexeme stands, it comes first and the scan goes on after it. -/
theorem ofCursor_of_some {kinds : List LexemeKind} {cursor next : Cursor} {lexeme : Lexeme}
    (h : cursor.step? kinds = some (lexeme, next)) :
    ofCursor kinds cursor = after [lexeme] (ofCursor kinds next) := by
  rw [ofCursor, collect_of_some h, collect_eq_after]
  rfl

end Scan

/-! ## Expressions -/

/-- All lexemes of an expression, or the first character that `Cursor.step?` cannot pass. -/
def scan (source : String) : Except Error (List Lexeme) := (Scan.ofSource source).result

/-- The tokens of an expression: the lexemes of `scan` but for the blanks. -/
def tokenize (source : String) : Except Error (List Token) := (Scan.ofSource source).tokens

end Reckoner
