import Reckoner.Binary64.Basic

/-!
# Numeral — written numbers

The texts that are read as numbers: an optional sign before a decimal or one of the words
`inf`, `infinity` and `nan`. A decimal is read as a whole coefficient and a power of ten, so
its exact value is known before `roundDecimal` rounds it, once, to the nearest number of the
binary64 format.
-/

namespace Reckoner

/-- A written number: its sign and its exact value, `coefficient * 10 ^ exponent`
for a decimal. -/
inductive Numeral where
  | nan
  | infinity (negative : Bool)
  | decimal (negative : Bool) (coefficient : Nat) (exponent : Int)
  deriving DecidableEq

namespace Numeral

/-! ## Reading the text -/

/-- Splits `text` after its leading decimal digits. -/
def splitDigits (text : List Char) : List Char × List Char :=
  (text.takeWhile Char.isDigit, text.dropWhile Char.isDigit)

/-- Splits off one leading sign, `true` for a minus. -/
def splitSign : List Char → Bool × List Char
  | '-' :: rest => (true, rest)
  | '+' :: rest => (false, rest)
  | text => (false, text)

/-- Splits off a point and the digits after it, `[]` if there are none. -/
def splitFraction : List Char → List Char × List Char
  | '.' :: rest => splitDigits rest
  | text => ([], text)

/-- The whole number that decimal `digits` denote. -/
def ofDigits (digits : List Char) : Nat := Nat.ofDigitChars 10 digits 0

/-- Reads the end of a decimal: nothing, or one of the marks `e` and `E`, an optional sign and
at least one digit. -/
def exponent? : List Char → Option Int
  | [] => some 0
  | mark :: rest =>
    let (negative, digits) := splitSign rest
    if (mark = 'e' ∨ mark = 'E') ∧ digits ≠ [] ∧ digits.all Char.isDigit then
      some (if negative then -(ofDigits digits : Int) else ofDigits digits)
    else none

/-- Reads a decimal after its sign, which is `negative`. Digits may be missing before the point
or after it, not on both sides. -/
def decimal? (negative : Bool) (text : List Char) : Option Numeral :=
  let (whole, rest) := splitDigits text
  let (fraction, rest) := splitFraction rest
  if whole = [] ∧ fraction = [] then none
  else (exponent? rest).map fun exponent =>
    .decimal negative (ofDigits (whole ++ fraction)) (exponent - fraction.length)

/-- Reads a number after its sign, which is `negative`. The words are read in any case. -/
def unsigned? (negative : Bool) (text : List Char) : Option Numeral :=
  match String.ofList (text.map Char.toLower) with
  | "nan" => some .nan
  | "inf" | "infinity" => some (.infinity negative)
  | _ => decimal? negative text

/-- Reads a number; `none` if `text` is not one from its first character to its last. -/
def parse? (text : String) : Option Numeral :=
  let (negative, body) := splitSign text.toList
  unsigned? negative body

/-! ## The nearest number of the format -/

/-- The number nearest to a decimal. Coefficients of at least one times `10 ^ 310`
are beyond the greatest finite number, and what is below `10 ^ -324` is nearer to
zero than to the least positive number; neither needs its power of ten. -/
def roundDecimal (negative : Bool) (coefficient : Nat) (exponent : Int) : Binary64 :=
  if coefficient = 0 then .zero negative
  else if 310 ≤ exponent then .infinite negative
  else if exponent + coefficient.log2 + 1 ≤ -324 then .zero negative
  else .round negative (coefficient * Nat.pow 10 exponent.toNat * Binary64.unitsPerOne)
    (Nat.pow 10 (-exponent).toNat)

/-- The `Binary64` that a written number stands for. -/
def toBinary64 : Numeral → Binary64
  | .nan => .nan
  | .infinity negative => .infinite negative
  | .decimal negative coefficient exponent => roundDecimal negative coefficient exponent

end Numeral

end Reckoner
