import Reckoner.Calculation
import Reckoner.Decimal.Layout

/-!
# Log

What is recorded while an expression is worked on, an `Event` at a time, and which records a
`Level` shows.
-/

namespace Reckoner

/-- How much of the log is shown. Each level shows what those before it show. -/
inductive Level where
  | off
  | error
  | warn
  | info
  | debug
  | trace
  deriving DecidableEq

namespace Level

/-- The name of a level in arguments. -/
def name : Level → String
  | .off => "off"
  | .error => "error"
  | .warn => "warn"
  | .info => "info"
  | .debug => "debug"
  | .trace => "trace"

/-- All levels, the least talkative first. -/
def all : List Level := [.off, .error, .warn, .info, .debug, .trace]

/-- The level with the given `name`. -/
def ofName? (name : String) : Option Level := all.find? fun level => level.name = name

/-- The place of a level in `all`. -/
def rank (level : Level) : Nat := all.idxOf level

end Level

/-- Something worth a record: a lexeme that was found, a source that has tokens, a calculation
with its result, or the error that ends a run. -/
inductive Event where
  | matched (lexeme : Lexeme)
  | tokenized (bytes tokens : Nat)
  | evaluated (calculation : Calculation) (result : Binary64)
  | failed (error : Error)
  deriving DecidableEq

namespace Event

/-- The lowest level that shows a record. No event is a `warn` or an `info`. -/
def level : Event → Level
  | .matched _ => .trace
  | .tokenized _ _ => .debug
  | .evaluated _ _ => .debug
  | .failed _ => .error

def label (event : Event) : String :=
  match event.level with
  | .off => "OFF"
  | .error => "ERROR"
  | .warn => "WARN"
  | .info => "INFO"
  | .debug => "DEBUG"
  | .trace => "TRACE"

/-- The words of a record: what happened, then each value behind its name. Numbers are written
by `Layout.logged`. -/
def text : Event → String
  | .matched lexeme =>
    "matched pattern kind=" ++ lexeme.kind.name ++ " text=" ++ quoteString lexeme.text ++
      " pos=" ++ toString lexeme.span.start
  | .tokenized bytes tokens =>
    "tokenized input len=" ++ toString bytes ++ " tokens=" ++ toString tokens
  | .evaluated calculation result =>
    "evaluated lhs=" ++ Layout.logged.text calculation.lhs ++
      " operator=" ++ calculation.operator.sign ++
      " rhs=" ++ Layout.logged.text calculation.rhs ++
      " result=" ++ Layout.logged.text result ++
      " ignored=" ++ toString calculation.ignored
  | .failed error => "failed error=" ++ error.message

end Event

namespace Log

/-- The records of `events` that a level shows. -/
def shown (level : Level) (events : List Event) : List Event :=
  events.filter fun event => event.level.rank ≤ level.rank

/-- What is recorded while `source` is split into tokens: each lexeme, also those before a
character that ends the scan, and at last the sizes if there is no such character. -/
def ofSource (source : String) : List Event :=
  let scan := Scan.ofSource source
  scan.lexemes.map .matched ++
    match scan.tokens with
    | .ok tokens => [.tokenized source.utf8ByteSize tokens.length]
    | .error _ => []

/-- What is recorded while `tokens` are evaluated, nothing if there is no result. -/
def ofTokens (tokens : List Token) : List Event :=
  match Calculation.ofTokens tokens with
  | .error _ => []
  | .ok calculation =>
    match calculation.result with
    | .error _ => []
    | .ok result => [.evaluated calculation result]

end Log

end Reckoner
