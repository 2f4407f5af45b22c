import Reckoner.Text.Class
import Reckoner.Token

/-!
# Lexeme

The pieces that an expression falls into: numbers, operator signs, parentheses and runs of
blanks. `LexemeKind.longestPrefix` says how far a lexeme of a kind reaches from the
beginning of a text, as far as it can.
-/

namespace Reckoner

/-- What a lexeme is. -/
inductive LexemeKind where
  | number
  | operator
  | parenthesis
  | whitespace
  deriving DecidableEq

namespace LexemeKind

/-- All kinds, in the order in which `Cursor.step?` tries them. -/
def all : List LexemeKind := [.number, .operator, .parenthesis, .whitespace]

/-- The kind of token made of a lexeme. A `whitespace` lexeme makes none. -/
def tokenKind? : LexemeKind → Option TokenKind
  | .number => some .number
  | .operator => some .operator
  | .parenthesis => some .parenthesis
  | .whitespace => none

/-- The name a kind is shown with, which is that of its `tokenKind?` if it has one. -/
def name (kind : LexemeKind) : String :=
  match kind.tokenKind? with
  | some tokenKind => tokenKind.name
  | none => "WHITESPACE"

/-! ## How far a lexeme reaches -/

/-- Whether a character is one of the four operator signs. -/
def isOperatorSign (c : Char) : Bool := c = '+' || c = '-' || c = '*' || c = '/'

/-- Whether a character is a parenthesis. -/
def isParenthesis (c : Char) : Bool := c = '(' || c = ')'

/-- The first character of a text if it is in `inClass`. -/
def firstIf (inClass : Char → Bool) : List Char → List Char
  | [] => []
  | c :: _ => if inClass c then [c] else []

/-- A point and all digits after it, nothing if one of them is missing. -/
def leadingFraction : List Char → List Char
  | '.' :: rest =>
    match rest.takeWhile Char.isDigit with
    | [] => []
    | digits => '.' :: digits
  | _ => []

/-- All leading digits of `text`, and its `leadingFraction` after them. -/
def leadingNumber (text : List Char) : List Char :=
  match text.takeWhile Char.isDigit with
  | [] => []
  | digits => digits ++ leadingFraction (text.dropWhile Char.isDigit)

/-- The longest lexeme of a kind that a text begins with, `[]` if there is none. -/
def longestPrefix : LexemeKind → List Char → List Char
  | .number => leadingNumber
  | .operator => firstIf isOperatorSign
  | .parenthesis => firstIf isParenthesis
  | .whitespace => fun text => text.takeWhile isBlank

theorem firstIf_isPrefix (inClass : Char → Bool) (text : List Char) :
    firstIf inClass text <+: text := by
  cases text with
  | nil => exact List.prefix_rfl
  | cons c rest =>
    rw [firstIf]
    split
    · exact ⟨rest, rfl⟩
    · exact List.nil_prefix

theorem leadingFraction_isPrefix (text : List Char) : leadingFraction text <+: text := by
  unfold leadingFraction
  split
  · next rest =>
    split
    · exact List.nil_prefix
    · exact (List.prefix_cons_inj '.').2 (List.takeWhile_prefix _)
  · exact List.nil_prefix

theorem leadingNumber_isPrefix (text : List Char) : leadingNumber text <+: text := by
  unfold leadingNumber
  split
  · exact List.nil_prefix
  · obtain ⟨rest, hrest⟩ := leadingFraction_isPrefix (text.dropWhile Char.isDigit)
    refine ⟨rest, ?_⟩
    rw [List.append_assoc, hrest, List.takeWhile_append_dropWhile]

/-- A text begins with its longest lexeme of a kind. -/
theorem longestPrefix_isPrefix (kind : LexemeKind) (text : List Char) :
    kind.longestPrefix text <+: text := by
  cases kind with
  | number => exact leadingNumber_isPrefix text
  | operator => exact firstIf_isPrefix _ text
  | parenthesis => exact firstIf_isPrefix _ text
  | whitespace => exact List.takeWhile_prefix _

end LexemeKind

/-- A range of a text in bytes of its UTF-8 form, from `start` up to but not
including `stop`. -/
structure Span where
  start : Nat
  stop : Nat
  deriving DecidableEq

namespace Span

/-- How many bytes a span covers; `none` if it ends before it starts. -/
def length? (span : Span) : Option Nat :=
  if span.start ≤ span.stop then some (span.stop - span.start) else none

def isEmpty (span : Span) : Bool := span.start = span.stop

end Span

/-- A piece of an expression: its `kind`, its `text` and where it stands. -/
structure Lexeme where
  kind : LexemeKind
  text : String
  span : Span
  deriving DecidableEq

/-- The token made of a lexeme, `none` for blanks. -/
def Lexeme.token? (lexeme : Lexeme) : Option Token :=
  lexeme.kind.tokenKind?.map (⟨·, lexeme.text⟩)

end Reckoner
