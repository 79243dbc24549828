import RapidLang.Main
import RapidLang.Number.Decimal
import RapidLang.Text.LowerCase
import RapidLang.Proofs.Grammar.Expression
import RapidLang.Proofs.Grammar.Program
import RapidLang.Proofs.Parser.Outcome
import RapidLang.Proofs.Parser.Phrases.Expression
import RapidLang.Proofs.Parser.Phrases.Statement
import RapidLang.Proofs.Parser.Phrases.Program
import RapidLang.Proofs.Parser.Takes
import RapidLang.Proofs.Parser.Completeness.Expression
import RapidLang.Proofs.Parser.Completeness.Statement
import RapidLang.Proofs.Parser.Completeness.Program
import RapidLang.Proofs.Parser.Inside
import RapidLang.Proofs.Parser.Alike
import RapidLang.Proofs.Parser.Locality.Expression
import RapidLang.Proofs.Parser.Locality.Statement
import RapidLang.Proofs.Parser.Locality.Program
import RapidLang.Proofs.Parser.Acceptance
import RapidLang.Proofs.Parser.FirstError
import RapidLang.Proofs.Token.Lexing
import RapidLang.Proofs.Number.ReadBack
import RapidLang.Proofs.Layout.Printer
import RapidLang.Proofs.Analysis.Reports
import RapidLang.Proofs.Token.Coverage
import RapidLang.Proofs.Analysis.Spans
import RapidLang.Proofs.Syntax.Nesting
import RapidLang.Proofs.Editor.Nesting
import RapidLang.Proofs.Server.Documents
import RapidLang.Proofs.Token.Lines
import RapidLang.Proofs.Checker.Chain
import RapidLang.Proofs.Checker.Lookup
import RapidLang.Proofs.Index.Visibility
import RapidLang.Proofs.Editor.Completion
import RapidLang.Proofs.Parser.Scattering.Expression
import RapidLang.Proofs.Parser.Scattering.Statement
import RapidLang.Proofs.Parser.Scattering.Program
import RapidLang.Proofs.Index.Definition
import RapidLang.Proofs.Grammar.Juxtaposition
import RapidLang.Proofs.Parser.Ends
import RapidLang.Proofs.Token.Words
import RapidLang.Proofs.Layout.Expression
import RapidLang.Proofs.Layout.Statement
import RapidLang.Proofs.Layout.Program
import RapidLang.Proofs.Layout.Erasure
import RapidLang.Proofs.Layout.Format
import RapidLang.Proofs.Parser.Precedence
import RapidLang.Proofs.Layout.Reread
import RapidLang.Proofs.Layout.Parentheses
import RapidLang.Proofs.Layout.CleanLayout
import RapidLang.Proofs.Checker.Alike
import RapidLang.Proofs.Checker.Walk
import RapidLang.Proofs.Checker.Order
import RapidLang.Proofs.Checker.Problems
import RapidLang.Proofs.Checker.Names
import RapidLang.Proofs.Checker.Duplicates
import RapidLang.Proofs.Checker.Resolution
import RapidLang.Proofs.Checker.Conversion
import RapidLang.Proofs.Checker.TypeCase
import RapidLang.Proofs.Checker.Sites
import RapidLang.Proofs.Checker.Returns
import RapidLang.Proofs.Syntax.Arrangement
import RapidLang.Proofs.Parser.Arrangement.Expression
import RapidLang.Proofs.Parser.Descent
import RapidLang.Proofs.Parser.Arrangement.Statement
import RapidLang.Proofs.Parser.Arrangement.Program
import RapidLang.Proofs.Parser.Arrangement.Names
import RapidLang.Proofs.Checker.Records
import RapidLang.Proofs.Index.Regions
import RapidLang.Proofs.Index.Listing
import RapidLang.Proofs.Index.References
import RapidLang.Proofs.Index.Bodies
import RapidLang.Proofs.Index.Entries
import RapidLang.Proofs.Index.Blocks
import RapidLang.Proofs.Index.Declared
import RapidLang.Proofs.Editor.Declaration
import RapidLang.Proofs.Text.Offsets
import RapidLang.Proofs.Token.Spacing
import RapidLang.Proofs.Editor.SemanticToken
import RapidLang.Proofs.Parser.Places.Expression
import RapidLang.Proofs.Parser.Places.Program
import RapidLang.Proofs.Checker.Places
import RapidLang.Proofs.Analysis.Places
import RapidLang.Proofs.Parser.CallForms
import RapidLang.Proofs.Syntax.Shape
import RapidLang.Proofs.Layout.Shape
import RapidLang.Proofs.Parser.Progress
import RapidLang.Proofs.Parser.Loops
import RapidLang.Proofs.Parser.Bounds
import RapidLang.Proofs.Checker.History
