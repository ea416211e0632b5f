import TypedTemplate.ClassIndex.Register
import TypedTemplate.Usage.Analysis
import TypedTemplate.Text.Normal.Basic
import TypedTemplate.Decimal.Shortest
import TypedTemplate.ClassSource.Scan
import TypedTemplate.ClassSource.Render
import TypedTemplate.Style.Repair
import TypedTemplate.ClassIndex.Collect
import TypedTemplate.FileTree.Wildcard
import TypedTemplate.ClassSource.Parse
import TypedTemplate.ClassSource.ExprGrammar
import TypedTemplate.ClassSource.Reader
import TypedTemplate.ClassSource.Interpolation
import TypedTemplate.Toml.Value
import TypedTemplate.Toml.Error
import TypedTemplate.Toml.Scalar
import TypedTemplate.Toml.Quote
import TypedTemplate.Toml.Document
import TypedTemplate.Toml.Parse
import TypedTemplate.Settings.Misuse
import TypedTemplate.Settings.Basic
import TypedTemplate.Settings.Places
import TypedTemplate.Settings.Load
import TypedTemplate.Settings.Starter
import TypedTemplate.Console.Width
import TypedTemplate.Console.StyleName
import TypedTemplate.Console.EmojiNames
import TypedTemplate.Console.Emoji
import TypedTemplate.Console.Markup
import TypedTemplate.Console.Wrap
import TypedTemplate.Console.Print
import TypedTemplate.Report
import TypedTemplate.Text.Similar
import TypedTemplate.Command.Arguments
import TypedTemplate.Command.Failure
import TypedTemplate.Command.Session
import TypedTemplate.Command.Locate
import TypedTemplate.Command.Check
import TypedTemplate.Command.Init
import TypedTemplate.Command.Watch
import TypedTemplate.Command.Help
import TypedTemplate.Command.Run
import TypedTemplate.Main
import TypedTemplate.Proofs.Text.Bracket
import TypedTemplate.Proofs.TypeExpr.Name
import TypedTemplate.Proofs.TypeExpr.Spelling
import TypedTemplate.Proofs.TypeExpr.Reading
import TypedTemplate.Proofs.TypeExpr.RoundTrip
import TypedTemplate.Proofs.Style.Union
import TypedTemplate.Proofs.Text.Lines
import TypedTemplate.Proofs.Command.Session
import TypedTemplate.Proofs.Style.Repair
import TypedTemplate.Proofs.Command.CleanExit
import TypedTemplate.Proofs.TypeExpr.Derivation
import TypedTemplate.Proofs.TypeExpr.Weight
import TypedTemplate.Proofs.TypeExpr.Shift
import TypedTemplate.Proofs.Style.Kept
import TypedTemplate.Proofs.Style.Place
import TypedTemplate.Proofs.Directive.Declaration
import TypedTemplate.Proofs.Directive.Sense
import TypedTemplate.Proofs.Style.Slot
import TypedTemplate.Proofs.Directive.Comment
import TypedTemplate.Proofs.Style.Row
import TypedTemplate.Proofs.Style.Sheet
import TypedTemplate.Proofs.Style.Preservation
import TypedTemplate.Proofs.Style.Convergence
import TypedTemplate.Proofs.ClassIndex.Lookup
import TypedTemplate.Proofs.TypeExpr.InnerBars
import TypedTemplate.Proofs.Usage.Raised
import TypedTemplate.Proofs.Usage.Declared
import TypedTemplate.Proofs.ClassIndex.Registered
import TypedTemplate.Proofs.Usage.ImportedAccess
import TypedTemplate.Proofs.Directive.Import
import TypedTemplate.Proofs.Directive.RoundTrip
import TypedTemplate.Proofs.TypeExpr.Callable
import TypedTemplate.Proofs.TypeExpr.Nodes
import TypedTemplate.Proofs.TypeExpr.Legible
import TypedTemplate.Proofs.Usage.FilterUse
import TypedTemplate.Text.Normal.Undotted
import TypedTemplate.Proofs.ClassIndex.Growth
import TypedTemplate.Proofs.ClassIndex.Order
import TypedTemplate.Proofs.Command.Isolation
import TypedTemplate.Proofs.Directive.Places
import TypedTemplate.Proofs.ClassIndex.Conflicts
import TypedTemplate.Proofs.ClassIndex.Retention
import TypedTemplate.Proofs.Command.LintSwitches
import TypedTemplate.Proofs.Usage.LoopScope
import TypedTemplate.Proofs.ClassIndex.Reexport
import TypedTemplate.Proofs.Directive.Outside
import TypedTemplate.Proofs.Style.Frame
import TypedTemplate.Proofs.Usage.TypeNames
import TypedTemplate.Proofs.Usage.AttributeChain
import TypedTemplate.Proofs.Usage.ScannedAccess
import TypedTemplate.Proofs.Usage.Sites
import TypedTemplate.Proofs.Usage.Undeclared
import TypedTemplate.Proofs.Usage.IgnoredLine
import TypedTemplate.Proofs.ClassIndex.StandingImports
import TypedTemplate.Proofs.ClassIndex.Disambiguation
import TypedTemplate.Proofs.Directive.Overlooked
import TypedTemplate.Proofs.FileTree.Contents
import TypedTemplate.Proofs.Command.Writes
import TypedTemplate.Proofs.Command.Observation
import TypedTemplate.Proofs.Command.Rerun
import TypedTemplate.Proofs.Directive.ResultType
import TypedTemplate.Proofs.Usage.MacroCall
import TypedTemplate.Proofs.Registry.Imports
import TypedTemplate.Proofs.Registry.History
import TypedTemplate.Proofs.Style.Members
import TypedTemplate.Proofs.Style.Duplicates
import TypedTemplate.Proofs.ClassIndex.Attributes
import TypedTemplate.Proofs.FileTree.Places
import TypedTemplate.Proofs.FileTree.Discovery
import TypedTemplate.Proofs.Text.Utf8
import TypedTemplate.Proofs.Toml.Document
import TypedTemplate.Proofs.Toml.Quote
import TypedTemplate.Proofs.FileTree.Making
import TypedTemplate.Proofs.Command.Starter
import TypedTemplate.Proofs.Command.Init
import TypedTemplate.Proofs.Report.Order
import TypedTemplate.Proofs.Style.ImportRuns
import TypedTemplate.Proofs.Text.Cuts
import TypedTemplate.Proofs.Console.Literal
import TypedTemplate.Proofs.Report.Verbatim
