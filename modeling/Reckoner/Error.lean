import Reckoner.Text.Quoted

/-!
# Error

What can be wrong with an expression, and the words for it.
-/

namespace Reckoner

/-- What is wrong with an expression. -/
inductive Error where
  /-- No lexeme begins with the character at a position. -/
  | invalidCharacter (position : Nat) (character : Char)
  /-- There are fewer than three tokens. -/
  | insufficientTokens
  /-- The second token is not an operator. -/
  | unsupportedOperator (text : String)
  /-- The divisor is a zero. -/
  | divisionByZero
  deriving DecidableEq

namespace Error

/-- The name of an error. -/
def name : Error → String
  | .invalidCharacter _ _ => "InvalidCharacter"
  | .insufficientTokens => "InsufficientTokens"
  | .unsupportedOperator _ => "UnsupportedOperator"
  | .divisionByZero => "DivisionByZero"

/-- The message of an error. `quoteChar` and `quoteString` keep it on one line whatever was
read. -/
def message : Error → String
  | .invalidCharacter position character =>
    "invalid character at position " ++ toString position ++ ": " ++ quoteChar character
  | .insufficientTokens => "insufficient tokens for evaluation"
  | .unsupportedOperator text => "unsupported operator: " ++ quoteString text
  | .divisionByZero => "division by zero"

/-- What was expected instead, if there is more to say than `name` does. The character or the
text stands in it as it is. -/
def tip? : Error → Option String
  | .invalidCharacter _ character => some <|
    "Unexpected character `" ++ String.singleton character ++
      "`, expected a number, one of `+ - * /` or a parenthesis"
  | .insufficientTokens => some "Expected an operand, an operator and a second operand"
  | .unsupportedOperator text => some <|
    "Unsupported operator `" ++ text ++ "`, expected one of `+ - * /`"
  | .divisionByZero => none

/-- The position of the character that an error is about; only `invalidCharacter` has one. -/
def position? : Error → Option Nat
  | .invalidCharacter position _ => some position
  | _ => none

end Error

end Reckoner
