import Reckoner.Binary64.Arithmetic
import Reckoner.Error

/-!
# Operator

The four binary operators: the signs they are written with and what they compute.
-/

namespace Reckoner

/-- An operator between two operands. -/
inductive Operator where
  | add
  | subtract
  | multiply
  | divide
  deriving DecidableEq

namespace Operator

/-- The sign of an operator. -/
def sign : Operator → String
  | .add => "+"
  | .subtract => "-"
  | .multiply => "*"
  | .divide => "/"

/-- The operator whose `sign` the text is. -/
def ofSign : String → Except Error Operator
  | "+" => .ok .add
  | "-" => .ok .subtract
  | "*" => .ok .multiply
  | "/" => .ok .divide
  | text => .error (.unsupportedOperator text)

/-- The result of an operator on two operands. Nothing is divided by a zero of either sign, the
check being `Binary64.isZero`. -/
def apply (operator : Operator) (lhs rhs : Binary64) : Except Error Binary64 :=
  match operator with
  | .add => .ok (lhs + rhs)
  | .subtract => .ok (lhs - rhs)
  | .multiply => .ok (lhs * rhs)
  | .divide => if rhs.isZero then .error .divisionByZero else .ok (lhs / rhs)

@[simp] theorem ofSign_sign (operator : Operator) : ofSign operator.sign = .ok operator := by
  cases operator <;> rfl

end Operator

end Reckoner
