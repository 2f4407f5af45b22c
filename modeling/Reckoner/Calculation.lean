import Reckoner.Numeral
import Reckoner.Operator
import Reckoner.Scan

/-!
# Calculation

What the tokens of an expression ask for: an operand, an operator and a second operand.
`Calculation.ofTokens` reads the texts of the first three tokens and no kinds; the operator
is checked before the operands are, and further tokens are only counted.
-/

namespace Reckoner

/-- An operator between two operands. The tokens after them are only counted, by `ignored`. -/
structure Calculation where
  lhs : Binary64
  operator : Operator
  rhs : Binary64
  ignored : Nat
  deriving DecidableEq

namespace Calculation

/-- The number that `text` stands for, `nan` if `Numeral.parse?` does not read it. -/
def operand (text : String) : Binary64 :=
  match Numeral.parse? text with
  | some numeral => numeral.toBinary64
  | none => .nan

/-- The calculation that the first three tokens ask for. `Operator.ofSign` comes first, so a
wrong operator is reported whatever the operands are. -/
def ofTokens : List Token → Except Error Calculation
  | lhs :: operator :: rhs :: others =>
    (Operator.ofSign operator.value).map fun operator =>
      ⟨operand lhs.value, operator, operand rhs.value, others.length⟩
  | _ => .error .insufficientTokens

/-- The result of a calculation. -/
def result (calculation : Calculation) : Except Error Binary64 :=
  calculation.operator.apply calculation.lhs calculation.rhs

end Calculation

/-- The result of the calculation that `tokens` ask for. -/
def evaluate (tokens : List Token) : Except Error Binary64 :=
  (Calculation.ofTokens tokens).bind Calculation.result

/-- The result for an expression: `tokenize`, then `evaluate`. -/
def calculate (source : String) : Except Error Binary64 := (tokenize source).bind evaluate

end Reckoner
