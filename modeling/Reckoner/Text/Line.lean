/-!
# Text — lines

A line ends after a line feed and contains it, so the lines that `Line.split` gives join up
to the text. A position counts the characters of the whole text from zero.
-/

namespace Reckoner

/-- A place in a text by its line: the `number` of the line, counted from one, its characters,
and how many of them come before the place. -/
structure Line where
  number : Nat
  text : String
  offset : Nat
  deriving DecidableEq

namespace Line

/-! ## Splitting a text -/

/-- The lines of a text with `c` put before it. -/
def prepend (c : Char) (lines : List (List Char)) : List (List Char) :=
  match lines with
  | [] => [[c]]
  | first :: rest => if c = '\n' then [c] :: first :: rest else (c :: first) :: rest

/-- The lines of a text. No line follows a line feed at the end. -/
def split (text : List Char) : List (List Char) := text.foldr prepend []

@[simp] theorem split_nil : split [] = [] := rfl

@[simp] theorem split_cons (c : Char) (text : List Char) :
    split (c :: text) = prepend c (split text) := rfl

@[simp] theorem flatten_prepend (c : Char) (lines : List (List Char)) :
    (prepend c lines).flatten = c :: lines.flatten := by
  cases lines with
  | nil => rfl
  | cons first rest =>
    rw [prepend]
    split <;> rfl

@[simp] theorem flatten_split (text : List Char) : (split text).flatten = text := by
  induction text with
  | nil => rfl
  | cons c text ih => rw [split_cons, flatten_prepend, ih]

/-! ## Finding a place -/

/-- The place of a position among some lines, the first of which has the number that is given.
-/
def locate : List (List Char) → Nat → Nat → Option Line
  | [], _, _ => none
  | line :: rest, number, position =>
    if position < line.length then some ⟨number, String.ofList line, position⟩
    else locate rest (number + 1) (position - line.length)

/-- The place of `position` in `text`, if the text reaches so far. -/
def at? (text : String) (position : Nat) : Option Line :=
  locate (split text.toList) 1 position

theorem locate_eq_none_iff {lines : List (List Char)} {number position : Nat} :
    locate lines number position = none ↔ lines.flatten.length ≤ position := by
  induction lines generalizing number position with
  | nil => simp [locate]
  | cons line rest ih =>
    simp only [locate, List.flatten_cons, List.length_append]
    split
    · simp only [reduceCtorEq, false_iff]
      omega
    · rw [ih]
      omega

/-- A place is found for the positions of the characters and for no others. -/
theorem at?_eq_none_iff {text : String} {position : Nat} :
    at? text position = none ↔ text.toList.length ≤ position := by
  rw [at?, locate_eq_none_iff, flatten_split]

end Line

end Reckoner
