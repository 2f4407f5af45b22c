import Reckoner.Run

/-!
# Main

The program: it reads its arguments and writes what the run leaves. All else is in
`Request.outcome`.
-/

open Reckoner

/-- Runs the program. The records of `Outcome.log` go to the standard error before the error
itself. -/
def main (arguments : List String) : IO UInt32 := do
  match Arguments.read? arguments with
  | none =>
    IO.eprint Arguments.usage
    return 2
  | some request =>
    let outcome := request.outcome
    IO.print outcome.stdout
    for event in outcome.log do
      IO.eprintln (event.label ++ " " ++ event.text)
    IO.eprint outcome.stderr
    return outcome.exitCode.toUInt32
