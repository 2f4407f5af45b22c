import Reckoner.Lexeme

/-!
# Cursor

A place in an expression that is being scanned. `Cursor.step?` moves it by one lexeme: the
first of the given kinds that has a lexeme here decides which.
-/

namespace Reckoner

/-- A place in an expression: what follows it is `rest`, and what comes before it is counted in
bytes of the UTF-8 form by `offset` and in characters by `index`. -/
structure Cursor where
  rest : List Char
  offset : Nat
  index : Nat
  deriving DecidableEq

namespace Cursor

/-- The beginning of an expression. -/
def start (source : String) : Cursor := ⟨source.toList, 0, 0⟩

/-- The lexeme that `text` makes here. -/
def lexeme (cursor : Cursor) (kind : LexemeKind) (text : List Char) : Lexeme :=
  let text := String.ofList text
  ⟨kind, text, cursor.offset, cursor.offset + text.utf8ByteSize⟩

/-- The place after `text`, which stands here. -/
def skip (cursor : Cursor) (text : List Char) : Cursor :=
  ⟨cursor.rest.drop text.length, cursor.offset + (String.ofList text).utf8ByteSize,
    cursor.index + text.length⟩

/-- The first of `kinds` that has a lexeme at the beginning of `text`, and the characters of
that lexeme. The order of `kinds` decides, not the length. -/
def firstMatch? (kinds : List LexemeKind) (text : List Char) : Option (LexemeKind × List Char) :=
  kinds.findSome? fun kind =>
    let found := kind.longestPrefix text
    if found = [] then none else some (kind, found)

/-- The lexeme that stands here and the place after it; `none` where no lexeme of `kinds`
begins. -/
def step? (kinds : List LexemeKind) (cursor : Cursor) : Option (Lexeme × Cursor) :=
  (firstMatch? kinds cursor.rest).map fun (kind, text) =>
    (cursor.lexeme kind text, cursor.skip text)

/-! ## Progress -/

theorem firstMatch?_eq_some {kinds : List LexemeKind} {text found : List Char}
    {kind : LexemeKind} (h : firstMatch? kinds text = some (kind, found)) :
    kind ∈ kinds ∧ kind.longestPrefix text = found ∧ found ≠ [] := by
  obtain ⟨tried, hmem, htried⟩ := List.exists_of_findSome?_eq_some h
  simp only at htried
  split at htried
  · exact absurd htried (by simp)
  · next hne =>
    obtain ⟨rfl, rfl⟩ := Prod.mk.inj (Option.some.inj htried)
    exact ⟨hmem, rfl, hne⟩

/-- A step consumes at least one character. -/
theorem length_rest_of_step? {kinds : List LexemeKind} {cursor next : Cursor} {lexeme : Lexeme}
    (h : cursor.step? kinds = some (lexeme, next)) : next.rest.length < cursor.rest.length := by
  obtain ⟨⟨kind, found⟩, hmatch, heq⟩ := Option.map_eq_some_iff.1 h
  obtain ⟨-, rfl⟩ := Prod.mk.inj heq
  obtain ⟨-, rfl, hne⟩ := firstMatch?_eq_some hmatch
  have hle := (kind.longestPrefix_isPrefix cursor.rest).length_le
  have hpos := List.length_pos_iff.2 hne
  simp only [skip, List.length_drop]
  omega

end Cursor

end Reckoner
