import EnclosingScope.Files.Tree
import EnclosingScope.Main
import EnclosingScope.Proofs.Search.Separation
import EnclosingScope.Proofs.Session
import EnclosingScope.Proofs.Search.Narrowing
import EnclosingScope.Proofs.Tree.Copy
import EnclosingScope.Proofs.Config.Kinds
import EnclosingScope.Proofs.Config.Loaded
import EnclosingScope.Proofs.Files.Discovery
import EnclosingScope.Proofs.Command.Check
import EnclosingScope.Proofs.Decimal
import EnclosingScope.Proofs.Json.Reading
import EnclosingScope.Proofs.Json.Scalar
import EnclosingScope.Proofs.Json.Value
import EnclosingScope.Proofs.Json.Shape
import EnclosingScope.Proofs.Json.Yield
import EnclosingScope.Proofs.Json.Printer
import EnclosingScope.Proofs.Record
import EnclosingScope.Proofs.Command.Lines
import EnclosingScope.Proofs.Config.Issues
import EnclosingScope.Proofs.Search.FirstHit
import EnclosingScope.Proofs.Search.Arithmetic
import EnclosingScope.Proofs.Command.Find
import EnclosingScope.Proofs.Config.Membership
import EnclosingScope.Proofs.Command.SourceOrder
import EnclosingScope.Proofs.Config.Decoding
import EnclosingScope.Proofs.Text.Lines
import EnclosingScope.Proofs.Search.Merging
import EnclosingScope.Proofs.KindSet.Steps
import EnclosingScope.Proofs.Command.Places
import EnclosingScope.Proofs.Json.Grammar
import EnclosingScope.Proofs.Json.Outcome
import EnclosingScope.Proofs.Json.Lexeme
import EnclosingScope.Proofs.Json.Accepted
import EnclosingScope.Proofs.Json.Whole
import EnclosingScope.Proofs.Json.Fields
import EnclosingScope.Proofs.Json.Recorded
import EnclosingScope.Proofs.Json.Gathering
import EnclosingScope.Proofs.Record.Slots
import EnclosingScope.Proofs.Record.Arrangement
