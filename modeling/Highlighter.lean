import Highlighter.Main
import Highlighter.Proofs.Pattern.Ways
import Highlighter.Proofs.Pattern.Extent
import Highlighter.Proofs.Pattern.Search
import Highlighter.Proofs.Markup.Spans
import Highlighter.Proofs.Markup.Write
import Highlighter.Proofs.Rule.Frame
import Highlighter.Proofs.Script.Layers
import Highlighter.Proofs.Script.Lexer
import Highlighter.Proofs.Pattern.Pieces
import Highlighter.Proofs.Construct.Escape
import Highlighter.Proofs.Script.Openers
import Highlighter.Proofs.Script.OnePass
import Highlighter.Proofs.Script.Closers
import Highlighter.Proofs.Script.OpenStates
import Highlighter.Proofs.Script.RegexBody
import Highlighter.Proofs.Registry.Operation
import Highlighter.Proofs.Registry.Cache
import Highlighter.Proofs.List
import Highlighter.Proofs.Text.Boundary
import Highlighter.Proofs.Construct.Found
import Highlighter.Proofs.Construct.Extent
import Highlighter.Proofs.Script.Repeat
import Highlighter.Proofs.Markup.Characters
import Highlighter.Proofs.Terminal.Display
import Highlighter.Proofs.Terminal.Line
import Highlighter.Proofs.Output
import Highlighter.Proofs.Text.Run
import Highlighter.Proofs.Pattern.Word
import Highlighter.Proofs.Pattern.Takes
import Highlighter.Proofs.Markup.Agreement
import Highlighter.Proofs.Script.Words
import Highlighter.Proofs.Registry.Edits
import Highlighter.Proofs.Registry.Replacement
import Highlighter.Proofs.Registry.Detection
import Highlighter.Proofs.Registry.Independence
import Highlighter.Proofs.Mode.Extensions
import Highlighter.Proofs.Registry.Consistency
import Highlighter.Proofs.Registry.Configured
import Highlighter.Proofs.CommandLine.Files
import Highlighter.Proofs.Script.Names
import Highlighter.Proofs.Script.Contexts
import Highlighter.Proofs.Rule.Takes
import Highlighter.Proofs.Script.Lines
import Highlighter.Proofs.Script.Variables
import Highlighter.Proofs.Script.Operands
import Highlighter.Proofs.Script.Headings
import Highlighter.Proofs.Script.Functions
import Highlighter.Proofs.Markup.Canonical
import Highlighter.Proofs.Pattern.Coverage
import Highlighter.Proofs.Script.Occurrences
import Highlighter.Proofs.Style.Words
import Highlighter.Proofs.Construct.Rounds
import Highlighter.Proofs.SortedMap
import Highlighter.Proofs.Registry.Repeat
import Highlighter.Proofs.Report
import Highlighter.Proofs.CommandLine.Arguments
import Highlighter.Proofs.Toml.Order
import Highlighter.Proofs.Settings.Table
import Highlighter.Proofs.Rule.Changes
import Highlighter.Proofs.Rule.Building
