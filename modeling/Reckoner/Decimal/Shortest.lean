import Reckoner.Numeral

/-!
# Decimal — shortest digits

The digits a number is written with: of the decimals that are read back as the number, one
with the fewest significant digits, of those the nearest to its value, and of two equally
near the greater. Every finite value is itself a decimal, a whole number of units of
`10^-1074`. On each coarser decimal grid only the two neighbours of the value can be meant,
and `ReadsBack` asks the reader of numerals itself whether they are read back.
-/

namespace Reckoner

/-- A positive decimal `0.d₁d₂… * 10 ^ point` with neither leading nor trailing
zeros among its digits. -/
structure Decimal where
  digits : List Char
  point : Int
  deriving DecidableEq

namespace Decimal

/-- Drops the zeros at the end of `digits`. -/
def dropTrailingZeros (digits : List Char) : List Char :=
  (digits.reverse.dropWhile (· == '0')).reverse

/-- The decimal `coefficient * 10 ^ exponent`. -/
def ofCoefficient (coefficient : Nat) (exponent : Int) : Decimal :=
  let digits := Nat.toDigits 10 coefficient
  ⟨dropTrailingZeros digits, digits.length + exponent⟩

/-- The value of a rank in units of `10^-1074`. -/
def exactCoefficient (rank : Rank) : Nat := Binary64.units rank * Nat.pow 5 1074

/-- Whether the decimal `coefficient * 10 ^ exponent` is read as the magnitude of a
rank. -/
def ReadsBack (rank : Rank) (coefficient : Nat) (exponent : Int) : Prop :=
  Numeral.roundDecimal false coefficient exponent = .finite false rank

instance (rank : Rank) (coefficient : Nat) (exponent : Int) :
    Decidable (ReadsBack rank coefficient exponent) :=
  inferInstanceAs (Decidable (_ = _))

/-- The two multiples of `10 ^ dropped` around a value, the nearer one first and the
greater one first if neither is nearer, both divided by `10 ^ dropped`. -/
def neighbours (value dropped : Nat) : List Nat :=
  let grid := Nat.pow 10 dropped
  let below := value / grid
  if 2 * (value % grid) < grid then [below, below + 1] else [below + 1, below]

/-- The nearest decimal that is read back among those whose last `dropped` digits in
units of `10^-1074` are zeros. -/
def candidate? (rank : Rank) (dropped : Nat) : Option Decimal :=
  let exponent : Int := dropped - 1074
  ((neighbours (exactCoefficient rank) dropped).find? fun coefficient =>
    ReadsBack rank coefficient exponent).map (ofCoefficient · exponent)

/-- The shortest decimal that is read back as the magnitude of `rank`: the first `candidate?`
with as many zeros as possible at its end. -/
def shortest (rank : Rank) : Decimal :=
  let exact := exactCoefficient rank
  let length := (Nat.toDigits 10 exact).length
  ((List.range length).reverse.findSome? (candidate? rank)).getD (ofCoefficient exact (-1074))

end Decimal

end Reckoner
