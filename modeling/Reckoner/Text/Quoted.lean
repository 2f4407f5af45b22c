import Reckoner.Text.Class

/-!
# Text — quoted text

Text between delimiters, on one line whatever it holds: a backslash stands before
the delimiter, before itself and before the letters that name the common controls,
and an unprintable character is shown by its number.
-/

namespace Reckoner

namespace Quoted

/-- A character by its number, in lower-case hexadecimal digits without leading zeros. -/
def numbered (c : Char) : List Char :=
  ['\\', 'u', '\x7b'] ++ Nat.toDigits 16 c.toNat ++ ['\x7d']

/-- A character as it is written between two `delimiter`s. -/
def escape (delimiter c : Char) : List Char :=
  if c = '\x00' then ['\\', '0']
  else if c = '\t' then ['\\', 't']
  else if c = '\r' then ['\\', 'r']
  else if c = '\n' then ['\\', 'n']
  else if c = '\\' ∨ c = delimiter then ['\\', c]
  else if isUnprintable c then numbered c
  else [c]

/-- Some text between two `delimiter`s. -/
def between (delimiter : Char) (text : List Char) : List Char :=
  delimiter :: text.flatMap (escape delimiter) ++ [delimiter]

end Quoted

/-- A character between apostrophes, on one line whatever it is. -/
def quoteChar (c : Char) : String := String.ofList (Quoted.between '\'' [c])

/-- Text between quotation marks, on one line whatever it is. -/
def quoteString (text : String) : String := String.ofList (Quoted.between '\"' text.toList)

end Reckoner
