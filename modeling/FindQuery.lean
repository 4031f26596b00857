import FindQuery.Cursor
import FindQuery.Lexis.Lexer
import FindQuery.Main
import FindQuery.Value
import FindQuery.Proofs.Query.Respelling
import FindQuery.Proofs.Query.Internal
import FindQuery.Proofs.Query.Present
import FindQuery.Proofs.Time.Period
import FindQuery.Proofs.Grammar.Phrase
import FindQuery.Proofs.Lexis.Region
import FindQuery.Proofs.Lexis.Alignment
import FindQuery.Proofs.Lexis.Cut
import FindQuery.Proofs.Lexis.Partition
import FindQuery.Proofs.Query.Location
import FindQuery.Proofs.Lexis.Gap
import FindQuery.Proofs.Lexis.Seam
import FindQuery.Proofs.Query.Piping
import FindQuery.Proofs.Grammar.Bound
import FindQuery.Proofs.Grammar.Lookahead
import FindQuery.Proofs.Lexis.Verbatim
import FindQuery.Proofs.Query.Number
import FindQuery.Proofs.Number.IntLiteral
import FindQuery.Proofs.Grammar.Local
import FindQuery.Proofs.Query.Past
import FindQuery.Proofs.Lexis.Identifier
import FindQuery.Proofs.Grammar.Stamp
import FindQuery.Proofs.Lexis.Case
import FindQuery.Proofs.Lexis.Normalization
import FindQuery.Proofs.Query.Caret
import FindQuery.Proofs.Query.Document
import FindQuery.Proofs.Settings.Document
import FindQuery.Proofs.Lexis.Precedence
import FindQuery.Proofs.Lexis.Lexer
