import Reckoner.Log

/-!
# Arguments

The arguments of the program. `Arguments.read?` takes them one after the other, so the first
that asks for the help or the version or that cannot be taken decides.
-/

namespace Reckoner

/-- What the program works on: `expression`, whose tokens are listed, `eval`, which is
evaluated, and `level`, which says how much of the log is shown. -/
structure Settings where
  expression : String := "3.5 + 5 * (10 - 4.2)"
  eval : String := "5 * 2"
  level : Level := .warn
  deriving DecidableEq

/-- What the arguments ask for. -/
inductive Request where
  | help
  | version
  | run (settings : Settings)
  deriving DecidableEq

/-- A setting that is named by an option. -/
inductive Setting where
  | eval
  | level
  deriving DecidableEq

/-- An argument by its spelling alone, before `readFrom` says what it is taken for. -/
inductive Argument where
  | positional (text : String)
  | option (setting : Setting) (value? : Option String)
  | help
  | version
  | endOfOptions
  | unknown
  deriving DecidableEq

namespace Argument

/-- Splits `text` at its first equals sign. The value is `none` if there is no such sign, and
empty if the sign ends `text`. -/
def splitValue (text : List Char) : String × Option String :=
  let name := String.ofList (text.takeWhile (· ≠ '='))
  match text.dropWhile (· ≠ '=') with
  | [] => (name, none)
  | _ :: value => (name, some (String.ofList value))

/-- An option by its long name, `text` being what follows the two hyphens. -/
def ofLongName (text : List Char) : Argument :=
  match splitValue text with
  | ("help", none) => .help
  | ("version", none) => .version
  | ("eval", value?) => .option .eval value?
  | ("log-level", value?) => .option .level value?
  | _ => .unknown

/-- An option by its letter. What follows the letter is its value, less one equals sign at the
beginning; `h` and `V` have no use for it. -/
def ofLetter : List Char → Argument
  | 'h' :: _ => .help
  | 'V' :: _ => .version
  | ['e'] => .option .eval none
  | 'e' :: '=' :: value => .option .eval (some (String.ofList value))
  | 'e' :: value => .option .eval (some (String.ofList value))
  | _ => .unknown

/-- An argument from its text. A hyphen alone is ordinary text. -/
def ofText (text : String) : Argument :=
  match text.toList with
  | ['-', '-'] => .endOfOptions
  | '-' :: '-' :: name => ofLongName name
  | ['-'] => .positional text
  | '-' :: letters => ofLetter letters
  | _ => .positional text

end Argument

/-- The settings that arguments have given so far, `none` for those that they have not. -/
structure Given where
  expression? : Option String := none
  eval? : Option String := none
  level? : Option Level := none
  deriving DecidableEq

namespace Given

/-- The settings of `given`, with the defaults of `Settings` for those that were not given. -/
def settings (given : Given) : Settings :=
  let defaults : Settings := {}
  ⟨given.expression?.getD defaults.expression, given.eval?.getD defaults.eval,
    given.level?.getD defaults.level⟩

/-- Takes the expression; `none` if there is one already. -/
def setExpression? (given : Given) (text : String) : Option Given :=
  if given.expression? = none then some { given with expression? := some text } else none

/-- Takes the value of an option; `none` if it has one already or if `value` is no `Level.name`.
-/
def set? (given : Given) (setting : Setting) (value : String) : Option Given :=
  match setting with
  | .eval => if given.eval? = none then some { given with eval? := some value } else none
  | .level =>
    if given.level? = none then
      (Level.ofName? value).map fun level => { given with level? := some level }
    else none

end Given

namespace Arguments

/-- The line of the help that says how arguments are written. -/
def usage : String := "Usage: lexcalc [OPTIONS] [EXPRESSION]\n"

/-- Takes the arguments after `--`, each as the expression. -/
def readPositionals (given : Given) : List String → Option Request
  | [] => some (.run given.settings)
  | text :: rest => (given.setExpression? text).bind (readPositionals · rest)

/-- Takes arguments after those that `given` holds. The value of an option may be the next
argument if `Argument.ofText` makes ordinary text of it. -/
def readFrom (given : Given) : List String → Option Request
  | [] => some (.run given.settings)
  | text :: rest =>
    match Argument.ofText text with
    | .positional text => (given.setExpression? text).bind (readFrom · rest)
    | .help => some .help
    | .version => some .version
    | .endOfOptions => readPositionals given rest
    | .unknown => none
    | .option setting (some value) => (given.set? setting value).bind (readFrom · rest)
    | .option setting none =>
      match rest with
      | [] => none
      | value :: rest =>
        match Argument.ofText value with
        | .positional value => (given.set? setting value).bind (readFrom · rest)
        | _ => none

/-- What some arguments ask for; `none` if they cannot be taken. -/
def read? (arguments : List String) : Option Request := readFrom {} arguments

end Arguments

end Reckoner
