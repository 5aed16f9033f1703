import Enclosure.Analyzer
import Enclosure.Catalog
import Enclosure.Checker
import Enclosure.Codec
import Enclosure.Command.Arguments
import Enclosure.Command.Failure
import Enclosure.Command.Report
import Enclosure.Command.Request
import Enclosure.Excerpt
import Enclosure.Fault
import Enclosure.FileStore
import Enclosure.KindSet
import Enclosure.Language
import Enclosure.LineRange
import Enclosure.LineSpan
import Enclosure.Log
import Enclosure.Main
import Enclosure.Node
import Enclosure.PathText
import Enclosure.Policy
import Enclosure.Position
import Enclosure.Proofs.Checker.Agreement
import Enclosure.Proofs.Command.Check
import Enclosure.Proofs.Command.Stages
import Enclosure.Proofs.Selection.Extremes
import Enclosure.Proofs.Settings.Names
import Enclosure.Proofs.Settings.Reading
import Enclosure.Proofs.Settings.Repetition
import Enclosure.Proofs.Walker.Search
import Enclosure.Selection
import Enclosure.Settings
import Enclosure.Settings.Description
import Enclosure.Settings.Yaml
import Enclosure.Text.Column
import Enclosure.Text.Digits
import Enclosure.Text.Invisible
import Enclosure.Text.Letters
import Enclosure.Text.Quoted
import Enclosure.Text.Terminal
import Enclosure.TreeTable
import Enclosure.TreeTable.Lines
import Enclosure.Value
import Enclosure.Value.Json
import Enclosure.Value.Json.Reader
import Enclosure.Value.Yaml
import Enclosure.Walker
import Enclosure.Yaml.Characters
import Enclosure.Yaml.Cursor
import Enclosure.Yaml.Document
import Enclosure.Yaml.Node
import Enclosure.Yaml.Plain
import Enclosure.Yaml.Problem
import Enclosure.Yaml.Tag
import Enclosure.Yaml.Token
import Enclosure.Yaml.Token.Block
import Enclosure.Yaml.Token.Name
import Enclosure.Yaml.Token.Quoted
import Enclosure.Yaml.Token.Stream
import Enclosure.Yaml.Token.Unquoted
import Enclosure.Proofs.Language.Naming
import Enclosure.Proofs.Settings.Refusal
import Enclosure.Proofs.LineSpan.Containment
import Enclosure.Proofs.Selection.Ancestry
import Enclosure.Proofs.Selection.Lineage
import Enclosure.Proofs.Selection.Nesting
import Enclosure.Proofs.Walker.Asking
import Enclosure.Proofs.Walker.Journal
import Enclosure.Proofs.KindSet.Members
import Enclosure.Proofs.Selection.Widening
import Enclosure.Proofs.Settings.Kinds
import Enclosure.Proofs.Selection.Monotonicity
import Enclosure.Proofs.Checker.ReadingOrder
import Enclosure.Proofs.Codec.RoundTrip
import Enclosure.Proofs.Value.JsonText
import Enclosure.Proofs.Tree.Surgery
import Enclosure.Proofs.Analyzer.Irrelevance
import Enclosure.Proofs.Analyzer.Explanation
import Enclosure.Proofs.Settings.Frame
import Enclosure.Proofs.Command.Options
import Enclosure.Proofs.Command.Lookup
import Enclosure.Proofs.Command.Find
import Enclosure.Proofs.Tree.Overhang
import Enclosure.Proofs.PathText.LastComponent
import Enclosure.Proofs.Language.Paths
import Enclosure.Proofs.Text.Columns
import Enclosure.Proofs.Analyzer.ColumnCounts
import Enclosure.Proofs.Value.Strictness
import Enclosure.Proofs.Settings.Acceptance
import Enclosure.Proofs.LineSpan.TouchedLines
import Enclosure.Proofs.KindSet.Edits
import Enclosure.Proofs.Command.JsonAnswers
import Enclosure.Proofs.Language.Lookups
