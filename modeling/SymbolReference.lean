import SymbolReference.Cli.Arguments
import SymbolReference.Cli.Command
import SymbolReference.Cli.Display
import SymbolReference.Cli.Request
import SymbolReference.Cli.Run
import SymbolReference.Comment.Basic
import SymbolReference.Comment.Content
import SymbolReference.Comment.Parser
import SymbolReference.Config.Argument
import SymbolReference.Config.EnvFile
import SymbolReference.Config.File
import SymbolReference.Config.Lookup
import SymbolReference.Config.Settings
import SymbolReference.Decimal.Layout
import SymbolReference.Decimal.Reader
import SymbolReference.Decimal.Shortest
import SymbolReference.Document.Basic
import SymbolReference.Document.Build
import SymbolReference.Document.Error
import SymbolReference.Document.Model
import SymbolReference.Encoding.Alphabet
import SymbolReference.Encoding.Chinese
import SymbolReference.Encoding.CodePage
import SymbolReference.Encoding.DoubleByte
import SymbolReference.Encoding.Error
import SymbolReference.Encoding.Escape
import SymbolReference.Encoding.HongKong
import SymbolReference.Encoding.Japanese
import SymbolReference.Encoding.JapaneseExtension
import SymbolReference.Encoding.Korean
import SymbolReference.Encoding.Punycode
import SymbolReference.Encoding.Scan
import SymbolReference.Encoding.Scheme
import SymbolReference.Encoding.ShiftedBase
import SymbolReference.Encoding.Switching
import SymbolReference.Encoding.Table
import SymbolReference.Encoding.Taiwan
import SymbolReference.Encoding.Unicode
import SymbolReference.Expression.Basic
import SymbolReference.Expression.Escape
import SymbolReference.Expression.Fault
import SymbolReference.Expression.Formatted
import SymbolReference.Expression.Grammar
import SymbolReference.Expression.Literal
import SymbolReference.Expression.Parser
import SymbolReference.Expression.Reader
import SymbolReference.Expression.Token
import SymbolReference.Fault
import SymbolReference.Files
import SymbolReference.Flag.Basic
import SymbolReference.Flag.Merge
import SymbolReference.Flag.Reader
import SymbolReference.Flag.Usage
import SymbolReference.Inspection.Description
import SymbolReference.Inspection.Import
import SymbolReference.Inspection.Inspect
import SymbolReference.Inspection.Layout
import SymbolReference.Inspection.Linearization
import SymbolReference.Inspection.Location
import SymbolReference.Inspection.Look
import SymbolReference.Inspection.Making
import SymbolReference.Inspection.Native
import SymbolReference.Inspection.Object
import SymbolReference.Inspection.Root
import SymbolReference.Json.Basic
import SymbolReference.Json.Writer
import SymbolReference.Log.Level
import SymbolReference.Log.Line
import SymbolReference.Log.Stamp
import SymbolReference.Log.State
import SymbolReference.Main
import SymbolReference.Mapping
import SymbolReference.Page.Format
import SymbolReference.Page.Html
import SymbolReference.Page.Markdown
import SymbolReference.Page.Markup
import SymbolReference.Page.Render
import SymbolReference.Report.Basic
import SymbolReference.Report.Trace
import SymbolReference.Report.Workbench
import SymbolReference.Symbol.Basic
import SymbolReference.Symbol.Kind
import SymbolReference.Terminal.Cells
import SymbolReference.Terminal.Cluster
import SymbolReference.Terminal.Handler
import SymbolReference.Terminal.Highlight
import SymbolReference.Terminal.Markup
import SymbolReference.Terminal.Part
import SymbolReference.Terminal.Pictograph
import SymbolReference.Terminal.Print
import SymbolReference.Terminal.Style
import SymbolReference.Terminal.Table
import SymbolReference.Terminal.Wrap
import SymbolReference.Text.Blank
import SymbolReference.Text.Compatibility
import SymbolReference.Text.Dedent
import SymbolReference.Text.Digits
import SymbolReference.Text.Fill
import SymbolReference.Text.Identifier
import SymbolReference.Text.Lines
import SymbolReference.Text.Lower
import SymbolReference.Text.Order
import SymbolReference.Text.Pattern
import SymbolReference.Text.Printable
import SymbolReference.Text.Quoted
import SymbolReference.Text.Similarity
import SymbolReference.Text.Surrogate
import SymbolReference.Text.Upper
import SymbolReference.Text.Words
import SymbolReference.Value.Basic
import SymbolReference.Value.Calendar
import SymbolReference.Value.Equality
import SymbolReference.Value.Order
import SymbolReference.Value.Printer
import SymbolReference.Value.Sorting
import SymbolReference.Yaml.Cursor
import SymbolReference.Yaml.Error
import SymbolReference.Yaml.Load
import SymbolReference.Yaml.Merge
import SymbolReference.Yaml.Node
import SymbolReference.Yaml.Scalar
import SymbolReference.Yaml.Token
import SymbolReference.Proofs.Comment.Sections
import SymbolReference.Proofs.Comment.Canonical
import SymbolReference.Proofs.Document.NameOrder
import SymbolReference.Proofs.Document.Selection
import SymbolReference.Proofs.Document.Assembly
import SymbolReference.Proofs.Document.Defects
import SymbolReference.Proofs.Mapping
import SymbolReference.Proofs.Document.Subreport
import SymbolReference.Proofs.Inspection.Findings
import SymbolReference.Proofs.Inspection.Documents
import SymbolReference.Proofs.Inspection.ModuleOrder
import SymbolReference.Proofs.Page.Visibility
import SymbolReference.Proofs.Page.Marks
import SymbolReference.Proofs.Page.Outline
import SymbolReference.Proofs.Page.Segments
import SymbolReference.Proofs.Page.View
import SymbolReference.Proofs.Config.Precedence
import SymbolReference.Proofs.Cli.CommandLine
import SymbolReference.Proofs.Cli.Counting
import SymbolReference.Proofs.Comment.Framing
import SymbolReference.Proofs.Comment.Wording
import SymbolReference.Proofs.Comment.Surroundings
import SymbolReference.Proofs.Comment.Decoration
import SymbolReference.Proofs.Page.Titles
import SymbolReference.Proofs.Log.Scopes
import SymbolReference.Proofs.Page.Switches
import SymbolReference.Proofs.Config.Verdicts
import SymbolReference.Proofs.Config.Priority
import SymbolReference.Proofs.Config.Failures
import SymbolReference.Proofs.Document.Constants
import SymbolReference.Proofs.Files
import SymbolReference.Proofs.Report.Publication
import SymbolReference.Proofs.Log.Reconfiguration
import SymbolReference.Proofs.Inspection.Methods
import SymbolReference.Proofs.Inspection.Constants
import SymbolReference.Proofs.Comment.TagNames
import SymbolReference.Proofs.Page.Locations
import SymbolReference.Proofs.Page.Parameters
import SymbolReference.Proofs.Page.Quoting
import SymbolReference.Proofs.Page.PageLines
import SymbolReference.Proofs.Comment.Indentation
import SymbolReference.Proofs.Terminal.Markup
import SymbolReference.Proofs.Terminal.Cutting
import SymbolReference.Proofs.Inspection.Imports
import SymbolReference.Proofs.Terminal.Printing
import SymbolReference.Proofs.Cli.Importing
