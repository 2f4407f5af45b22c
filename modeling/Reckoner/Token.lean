/-!
# Token

The fragments of an expression that are passed on for evaluation, and how a list
of them is shown.
-/

namespace Reckoner

/-- What a token is. -/
inductive TokenKind where
  | number
  | operator
  | parenthesis
  deriving DecidableEq

/-- The name a kind is shown with. -/
def TokenKind.name : TokenKind → String
  | .number => "NUMBER"
  | .operator => "OPERATOR"
  | .parenthesis => "PARENTHESIS"

/-- A fragment of an expression, with `value` its text as it was written. -/
structure Token where
  kind : TokenKind
  value : String
  deriving DecidableEq

namespace Token

/-- A token as it is shown. Its `value` stands between apostrophes without being quoted. -/
def display (token : Token) : String :=
  "Token(type: '" ++ token.kind.name ++ "', value: '" ++ token.value ++ "')"

/-- A list of tokens as it is shown: a heading, then each `display` on a line. -/
def listing (tokens : List Token) : String :=
  "Generated Tokens:" ++ String.join (tokens.map fun token => "\n" ++ token.display)

end Token

end Reckoner
