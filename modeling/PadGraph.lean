import PadGraph.Main
import PadGraph.Proofs.Graph.RoundTrip
import PadGraph.Proofs.Token.Flags
import PadGraph.Proofs.Token.Lexeme
import PadGraph.Proofs.Token.Lexing
import PadGraph.Proofs.Graph.Assembly
import PadGraph.Proofs.Graph.Runs
import PadGraph.Proofs.Graph.Opaque
import PadGraph.Proofs.Graph.Joined
import PadGraph.Proofs.Graph.Trimmed
import PadGraph.Proofs.Graph.Json
import PadGraph.Proofs.Expression.Routes
import PadGraph.Proofs.Chain.Verdict
import PadGraph.Proofs.Filter.Meaning
import PadGraph.Proofs.Config.Bounds
import PadGraph.Proofs.Command.Agreement
import PadGraph.Proofs.Command.Piped
import PadGraph.Proofs.Graph.Blanks
import PadGraph.Proofs.Expression.Transfer
import PadGraph.Proofs.Report.ReadBack
import PadGraph.Proofs.Config.RoundTrip
import PadGraph.Proofs.Config.Lookup
import PadGraph.Proofs.Token.SplitLaws
