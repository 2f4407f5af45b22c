import Reckoner.Decimal.Shortest

/-!
# Decimal — layout

How a number is laid out as text from its shortest digits. The two layouts of the program,
`Layout.plain` for results and `Layout.logged` for records, differ only in what follows a
whole number and in where an exponent takes the place of zeros.
-/

namespace Reckoner

/-- The choices in laying out a number. -/
structure Layout where
  /-- What follows the digits of a whole number. -/
  wholeEnding : String
  /-- The places of the point at which a decimal is written without an exponent. -/
  positional : Int → Bool

namespace Layout

/-- The layout of results: whole numbers end with their last digit, and there is never an
exponent. -/
def plain : Layout := ⟨"", fun _ => true⟩

/-- The layout of numbers in the log: whole numbers show a fraction, and magnitudes
below `10^-4` and from `10^16` on have an exponent. -/
def logged : Layout := ⟨".0", fun point => -4 < point ∧ point ≤ 16⟩

/-! ## Decimals -/

/-- A number without an exponent. At least one digit stands before the point, and `wholeEnding`
after a whole number. -/
def positionalText (layout : Layout) (decimal : Decimal) : String :=
  let whole := decimal.digits.take decimal.point.toNat
  let fraction := decimal.digits.drop decimal.point.toNat
  let wholeText :=
    if decimal.point ≤ 0 then ['0']
    else whole ++ List.replicate (decimal.point.toNat - whole.length) '0'
  let ending :=
    if fraction = [] then layout.wholeEnding
    else "." ++ String.ofList (List.replicate (-decimal.point).toNat '0' ++ fraction)
  String.ofList wholeText ++ ending

/-- A number with an exponent. One digit stands before the point, and there is no
point after a single digit. -/
def exponentText (decimal : Decimal) : String :=
  let fraction := decimal.digits.drop 1
  String.ofList (decimal.digits.take 1)
    ++ (if fraction = [] then "" else "." ++ String.ofList fraction)
    ++ "e" ++ toString (decimal.point - 1)

/-- The text of a positive decimal, with an exponent unless `layout.positional` allows its
point. -/
def decimalText (layout : Layout) (decimal : Decimal) : String :=
  if layout.positional decimal.point then layout.positionalText decimal
  else exponentText decimal

/-! ## Numbers -/

def signText (negative : Bool) : String := if negative then "-" else ""

/-- The text of a number. The digits of a finite magnitude are those of `Decimal.shortest`. -/
def text (layout : Layout) : Binary64 → String
  | .nan => "NaN"
  | .infinite negative => signText negative ++ "inf"
  | .finite negative rank =>
    signText negative ++
      if rank.val = 0 then "0" ++ layout.wholeEnding
      else layout.decimalText (Decimal.shortest rank)

/-! ## Where the layouts differ -/

example : plain.text (Numeral.roundDecimal false 1 17) = "100000000000000000" := by
  decide +kernel

example : logged.text (Numeral.roundDecimal false 1 17) = "1e17" := by
  decide +kernel

example : plain.text (Numeral.roundDecimal true 15 (-7)) = "-0.0000015" := by
  decide +kernel

example : logged.text (Numeral.roundDecimal true 15 (-7)) = "-1.5e-6" := by
  decide +kernel

example : plain.text (Numeral.roundDecimal true 0 0) = "-0" := by
  decide +kernel

example : logged.text (Numeral.roundDecimal true 0 0) = "-0.0" := by
  decide +kernel

end Layout

end Reckoner
