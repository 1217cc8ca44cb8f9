import TaggedCatalog.Catalog
import TaggedCatalog.CommandLine.Arguments
import TaggedCatalog.CommandLine.Failure
import TaggedCatalog.CommandLine.Generate
import TaggedCatalog.CommandLine.HelpPage
import TaggedCatalog.CommandLine.Outcome
import TaggedCatalog.CommandLine.ReportFormat
import TaggedCatalog.CommandLine.Run
import TaggedCatalog.CommandLine.Version
import TaggedCatalog.Declaration
import TaggedCatalog.Description
import TaggedCatalog.Discovery.ClassWalk
import TaggedCatalog.Discovery.Exclusion
import TaggedCatalog.Discovery.FileScan
import TaggedCatalog.Discovery.ModuleInspection
import TaggedCatalog.Discovery.ModuleLibrary
import TaggedCatalog.Discovery.ModuleObject
import TaggedCatalog.Discovery.Outcome
import TaggedCatalog.Discovery.PatternCompiler
import TaggedCatalog.Discovery.SourcePlan
import TaggedCatalog.Entry
import TaggedCatalog.FileTree
import TaggedCatalog.Generation
import TaggedCatalog.GroupKey
import TaggedCatalog.Log.Level
import TaggedCatalog.Log.Paint
import TaggedCatalog.Log.Record
import TaggedCatalog.Log.Setup
import TaggedCatalog.Main
import TaggedCatalog.ModuleName
import TaggedCatalog.Number.Double
import TaggedCatalog.Number.Numeral
import TaggedCatalog.OptionList
import TaggedCatalog.PathName
import TaggedCatalog.Rendering.Format
import TaggedCatalog.Rendering.Html
import TaggedCatalog.Rendering.PlainText
import TaggedCatalog.Rendering.Printer
import TaggedCatalog.Rendering.Transcript
import TaggedCatalog.Settings.File
import TaggedCatalog.Settings.Layer
import TaggedCatalog.Settings.Table
import TaggedCatalog.Source.Encoding
import TaggedCatalog.Source.Grammar.Expression
import TaggedCatalog.Source.Grammar.Pattern
import TaggedCatalog.Source.Grammar.Phrase
import TaggedCatalog.Source.Grammar.Statement
import TaggedCatalog.Source.Lexer
import TaggedCatalog.Source.Literal
import TaggedCatalog.Source.Lookup
import TaggedCatalog.Source.Module
import TaggedCatalog.Source.Number
import TaggedCatalog.Source.Token
import TaggedCatalog.Source.Tree
import TaggedCatalog.Terminal.ColorMode
import TaggedCatalog.Terminal.Console
import TaggedCatalog.Terminal.Style
import TaggedCatalog.Terminal.Verbosity
import TaggedCatalog.Text.Blank
import TaggedCatalog.Text.CodePoint
import TaggedCatalog.Text.CodeRanges
import TaggedCatalog.Text.Digit
import TaggedCatalog.Text.DocString
import TaggedCatalog.Text.Identifier
import TaggedCatalog.Text.LetterCase
import TaggedCatalog.Text.Lines
import TaggedCatalog.Text.Normal.CodeTable
import TaggedCatalog.Text.Normal.CombiningClass
import TaggedCatalog.Text.Normal.Composition
import TaggedCatalog.Text.Normal.Decomposition
import TaggedCatalog.Text.Normal.Form
import TaggedCatalog.Text.Padding
import TaggedCatalog.Text.Printable
import TaggedCatalog.Text.Quoted
import TaggedCatalog.Text.Utf8
import TaggedCatalog.Toml.Document
import TaggedCatalog.Toml.Draft
import TaggedCatalog.Toml.Notation
import TaggedCatalog.Toml.Scalar
import TaggedCatalog.Toml.Value
import TaggedCatalog.Proofs.Catalog.EntryOrder
import TaggedCatalog.Proofs.Catalog.Views
import TaggedCatalog.Proofs.Catalog.DiscoveryOrder
import TaggedCatalog.Proofs.Settings.Layering
import TaggedCatalog.Proofs.Settings.Discovery
import TaggedCatalog.Proofs.Discovery.ClassForest
import TaggedCatalog.Proofs.Discovery.ScanInspection
import TaggedCatalog.Proofs.Rendering.Writing
import TaggedCatalog.Proofs.CommandLine.AllOrNothing
import TaggedCatalog.Proofs.CommandLine.Reporting
import TaggedCatalog.Proofs.CommandLine.ArgumentReading
import TaggedCatalog.Proofs.CommandLine.MessageOptions
import TaggedCatalog.Proofs.Rendering.PlainTextReading
import TaggedCatalog.Proofs.Rendering.HtmlReading
import TaggedCatalog.Proofs.Rendering.HtmlLinks
import TaggedCatalog.Proofs.GroupKey.KeyPattern
import TaggedCatalog.Proofs.GroupKey.Segments
import TaggedCatalog.Proofs.GroupKey.Starts
import TaggedCatalog.Proofs.Discovery.ClassNesting
import TaggedCatalog.Proofs.Discovery.Findings
import TaggedCatalog.Proofs.Discovery.MarkerReading
import TaggedCatalog.Proofs.Discovery.ClassReach
import TaggedCatalog.Proofs.Discovery.SequentialRun
import TaggedCatalog.Proofs.Discovery.DirectoryGroups
import TaggedCatalog.Proofs.FileTree.Delete
import TaggedCatalog.Proofs.Discovery.ExcludedFiles
import TaggedCatalog.Proofs.OptionList.Joining
import TaggedCatalog.Proofs.Settings.UnfitValues
import TaggedCatalog.Proofs.PathName.WrittenPaths
import TaggedCatalog.Proofs.Settings.OutputPlace
import TaggedCatalog.Proofs.FileTree.ImpossibleNames
import TaggedCatalog.Proofs.Settings.Loading
import TaggedCatalog.Proofs.Number.DigitNumerals
import TaggedCatalog.Proofs.Log.LevelReading
import TaggedCatalog.Proofs.CommandLine.LogVariable
import TaggedCatalog.Proofs.Log.EnvironmentLevel
import TaggedCatalog.Proofs.Log.RepeatedSetup
import TaggedCatalog.Proofs.Catalog.StableSort
import TaggedCatalog.Proofs.Discovery.ModuleFiles
