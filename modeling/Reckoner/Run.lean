import Reckoner.Arguments
import Reckoner.Diagnostic

/-!
# Run

A run of the program, with the `Outcome` it leaves: it lists the tokens of one expression,
evaluates another and stops at the first error.
-/

namespace Reckoner

/-- What a run leaves: its exit code, what it writes and what it records. -/
structure Outcome where
  exitCode : Nat
  stdout : String
  stderr : String
  log : List Event
  deriving DecidableEq

namespace Run

/-- The exit code of a run with an error that `Diagnostic.render` cannot show. -/
def faultCode : Nat := 101

/-- The end of a run with `error` in `source`, after what was written and recorded before it. -/
def failure (stdout : String) (log : List Event) (error : Error) (source : String) : Outcome :=
  let log := log ++ [.failed error]
  match Diagnostic.render error source with
  | .ok text => ⟨1, stdout, text ++ "\n", log⟩
  | .error _ => ⟨faultCode, stdout, "", log⟩

/-- The second half of a run, which evaluates `source` after what was written and recorded
before it. -/
def evaluation (stdout : String) (log : List Event) (source : String) : Outcome :=
  let log := log ++ Log.ofSource source
  match tokenize source with
  | .error error => failure stdout log error source
  | .ok tokens =>
    match evaluate tokens with
    | .error error => failure stdout log error source
    | .ok result =>
      ⟨0, stdout ++ "Evaluating '" ++ source ++ "': " ++ Layout.plain.text result ++ "\n", "",
        log ++ Log.ofTokens tokens⟩

/-- A run on the `expression` to list and the one to `eval`, with all it records. -/
def ofExpressions (expression eval : String) : Outcome :=
  let stdout := "Input Expression: " ++ expression ++ "\n"
  let log := Log.ofSource expression
  match tokenize expression with
  | .error error => failure stdout log error expression
  | .ok tokens => evaluation (stdout ++ Token.listing tokens ++ "\n\n") log eval

end Run

/-- A run with some settings. Only the records that `settings.level` shows are kept. -/
def run (settings : Settings) : Outcome :=
  let outcome := Run.ofExpressions settings.expression settings.eval
  { outcome with log := Log.shown settings.level outcome.log }

/-- What answers a request. Only a `run` can fail. -/
def Request.outcome : Request → Outcome
  | .help => ⟨0, Arguments.usage, "", []⟩
  | .version => ⟨0, "lexcalc 0.1.0\n", "", []⟩
  | .run settings => Reckoner.run settings

end Reckoner
