import Reckoner.Lexeme.Language
import Reckoner.Main
import Reckoner.Proofs.Lexeme.Boundary
import Reckoner.Proofs.Scan.Run
import Reckoner.Proofs.Scan.Place
import Reckoner.Proofs.Scan.Segmentation
import Reckoner.Proofs.Scan.Order
import Reckoner.Proofs.Scan.Stray
import Reckoner.Proofs.Scan.Cut
import Reckoner.Proofs.Token.Reading
import Reckoner.Proofs.Token.Spacing
import Reckoner.Proofs.Token.Elision
import Reckoner.Proofs.Token.Listing
import Reckoner.Proofs.Scan.Seam
import Reckoner.Proofs.Binary64.Nearest
import Reckoner.Proofs.Binary64.Sign
import Reckoner.Proofs.Numeral.Literal
import Reckoner.Proofs.Numeral.Magnitude
import Reckoner.Proofs.Numeral.Value
import Reckoner.Proofs.Numeral.Plain
import Reckoner.Proofs.Decimal.Shortest
import Reckoner.Proofs.Decimal.Layout
import Reckoner.Proofs.Calculation.Verdict
import Reckoner.Proofs.Calculation.Outcome
import Reckoner.Proofs.Calculation.Spelling
import Reckoner.Proofs.Calculation.Special
import Reckoner.Proofs.Text.Digits
import Reckoner.Proofs.Text.Quoted
import Reckoner.Proofs.Error.Message
import Reckoner.Proofs.Diagnostic.Spot
import Reckoner.Proofs.Diagnostic.Marker
import Reckoner.Proofs.Diagnostic.Fault
import Reckoner.Proofs.Diagnostic.Layout
import Reckoner.Proofs.Diagnostic.Indentation
import Reckoner.Proofs.Log.Stage
import Reckoner.Proofs.Run.Ending
import Reckoner.Proofs.Run.Record
import Reckoner.Proofs.Run.Answer
import Reckoner.Proofs.Arguments.Spelling
