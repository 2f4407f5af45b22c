import Reckoner.Error
import Reckoner.Text.Class
import Reckoner.Text.Line

/-!
# Diagnostic

How an error is shown to the one who wrote the expression: a headline and, if the error is
about a character of the source, the line with that character, without the blanks around it,
over a marker under the character. `Diagnostic.render` is total: where no marker can stand
it gives a `LayoutFault`.
-/

namespace Reckoner

/-- Why `excerpt` cannot show a line with a marker. -/
inductive LayoutFault where
  /-- The place is one of the blanks that are not shown at the beginning of the line. -/
  | markerBeforeText
  /-- The marker is too far from the beginning of the line. -/
  | markerTooFar
  deriving DecidableEq

namespace Diagnostic

/-- The name of an error, and its `Error.tip?` in parentheses. -/
def headline (error : Error) : String :=
  "Error: " ++ error.name ++
    match error.tip? with
    | some tip => " (" ++ tip ++ ")"
    | none => ""

/-- What is left of `text` without the blanks at its beginning and at its end. -/
def trim (text : List Char) : List Char :=
  ((text.dropWhile isBlank).reverse.dropWhile isBlank).reverse

/-- The last column in which a marker can stand, counted from one. -/
def lastColumn : Nat := 65535

/-- The bar that stands left of the line and of the marker, with room for `line.number` and a
blank before it. -/
def gutter (line : Line) : String :=
  String.ofList (List.replicate ((toString line.number).length + 1) ' ') ++ "|"

/-- The marker after some `dashes`. -/
def marker (dashes : Nat) : String := String.ofList (List.replicate dashes '-') ++ "^"

/-- The line with its number, and the `marker` under the character at `line.offset`, each after
a line feed. -/
def excerpt (line : Line) : Except LayoutFault String :=
  let text := line.text.toList
  let indent := (text.takeWhile isBlank).length
  let column := line.offset - indent + 1
  if line.offset < indent then .error .markerBeforeText
  else if lastColumn < column then .error .markerTooFar
  else .ok <|
    "\n" ++ gutter line ++
    "\n" ++ toString line.number ++ " | " ++ String.ofList (trim text) ++
    "\n" ++ gutter line ++ " " ++ marker (line.offset - indent)

/-- An error in `source` as it is shown. Where `Line.at?` finds no line, it is the `headline`
alone. -/
def render (error : Error) (source : String) : Except LayoutFault String :=
  match error.position?.bind (Line.at? source) with
  | none => .ok (headline error)
  | some line => (excerpt line).map (headline error ++ ·)

end Diagnostic

end Reckoner
