import Abacus.Archive.SevenZip
import Abacus.Binary64.Arithmetic
import Abacus.Binary64.Decimal
import Abacus.Chain
import Abacus.Dialogue
import Abacus.Expr
import Abacus.Main
import Abacus.Outcome
import Abacus.Path
import Abacus.Session
import Abacus.Text.Character
import Abacus.Text.Lines
import Abacus.Text.Utf8
import Abacus.Token.Lexer
import Abacus.Worksheet
import Abacus.Proofs.Archive.TextMember
import Abacus.Proofs.Binary64.Nearest
import Abacus.Proofs.Binary64.Positional
import Abacus.Proofs.Binary64.ReadBack
import Abacus.Proofs.Binary64.Reading
import Abacus.Proofs.Binary64.Shortest
import Abacus.Proofs.Binary64.Sign
import Abacus.Proofs.Binary64.Spacing
import Abacus.Proofs.Binary64.Text
import Abacus.Proofs.Chain.Alternation
import Abacus.Proofs.Chain.Collapse
import Abacus.Proofs.Chain.Parse
import Abacus.Proofs.Chain.Reduction
import Abacus.Proofs.Chain.Replacement
import Abacus.Proofs.Chain.Verdict
import Abacus.Proofs.Dialogue.Agreement
import Abacus.Proofs.Dialogue.Transcript
import Abacus.Proofs.Expr.Grouping
import Abacus.Proofs.Expr.RoundTrip
import Abacus.Proofs.Expr.Unambiguous
import Abacus.Proofs.Interpretation
import Abacus.Proofs.Outcome.Decoding
import Abacus.Proofs.Outcome.Message
import Abacus.Proofs.Outcome.Report
import Abacus.Proofs.Outcome.Sign
import Abacus.Proofs.Path.Extension
import Abacus.Proofs.Path.Results
import Abacus.Proofs.Path.Sharing
import Abacus.Proofs.Path.Suffixes
import Abacus.Proofs.Session.Frame
import Abacus.Proofs.Session.Turn
import Abacus.Proofs.Session.Verbosity
import Abacus.Proofs.Text.LineFeeds
import Abacus.Proofs.Text.Lines
import Abacus.Proofs.Text.Quoted
import Abacus.Proofs.Token.Lexing
import Abacus.Proofs.Token.Literals
import Abacus.Proofs.Token.Pieces
import Abacus.Proofs.Token.RoundTrip
import Abacus.Proofs.Token.Separation
import Abacus.Proofs.Token.Stray
import Abacus.Proofs.Worksheet.Complaints
import Abacus.Proofs.Worksheet.Container
import Abacus.Proofs.Worksheet.Joined
import Abacus.Proofs.Worksheet.Reader
import Abacus.Proofs.Worksheet.Repeated
import Abacus.Proofs.Worksheet.Run
