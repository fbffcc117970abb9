import SqlLineage.Binary64
import SqlLineage.Collector
import SqlLineage.CommandLine.Arguments
import SqlLineage.CommandLine.Help
import SqlLineage.CommandLine.Invocation
import SqlLineage.CommandLine.Spec
import SqlLineage.Config
import SqlLineage.ConfigFile
import SqlLineage.Context
import SqlLineage.DirectoryValidation
import SqlLineage.Extraction
import SqlLineage.Facts
import SqlLineage.Files.Access
import SqlLineage.Files.Tree
import SqlLineage.Finding
import SqlLineage.Grammar
import SqlLineage.Grammar.Dialect
import SqlLineage.Grammar.Keyword
import SqlLineage.Grammar.Parser.Alter
import SqlLineage.Grammar.Parser.Basic
import SqlLineage.Grammar.Parser.Call
import SqlLineage.Grammar.Parser.Change
import SqlLineage.Grammar.Parser.Column
import SqlLineage.Grammar.Parser.Command
import SqlLineage.Grammar.Parser.Create
import SqlLineage.Grammar.Parser.Expression
import SqlLineage.Grammar.Parser.Literal
import SqlLineage.Grammar.Parser.Name
import SqlLineage.Grammar.Parser.Operand
import SqlLineage.Grammar.Parser.Rules
import SqlLineage.Grammar.Parser.Select
import SqlLineage.Grammar.Parser.Statement
import SqlLineage.Grammar.Parser.Table
import SqlLineage.Grammar.Parser.TypeName
import SqlLineage.Grammar.Reader
import SqlLineage.Grammar.Survey
import SqlLineage.Grammar.Syntax
import SqlLineage.Grammar.Token
import SqlLineage.Grammar.Tokenize
import SqlLineage.Grammar.Walk
import SqlLineage.Graph
import SqlLineage.JavaString
import SqlLineage.JavaString.ByteScan
import SqlLineage.Job
import SqlLineage.JobFormat
import SqlLineage.JobSelection
import SqlLineage.Lineage
import SqlLineage.LineageError
import SqlLineage.Log
import SqlLineage.Main
import SqlLineage.Normalize
import SqlLineage.Normalize.Enclosures
import SqlLineage.Normalize.GlobalMap
import SqlLineage.Normalize.Lines
import SqlLineage.Normalize.SelectInto
import SqlLineage.OrderedMap
import SqlLineage.Path
import SqlLineage.Program
import SqlLineage.Regex.Basic
import SqlLineage.Regex.Bracket
import SqlLineage.Regex.CharSet
import SqlLineage.Regex.Cursor
import SqlLineage.Regex.Escape
import SqlLineage.Regex.Fault
import SqlLineage.Regex.Parser
import SqlLineage.Report.Duration
import SqlLineage.Report.Json
import SqlLineage.Report.Style
import SqlLineage.Report.Text
import SqlLineage.Report.Timestamp
import SqlLineage.Repository
import SqlLineage.Scan.Lexer
import SqlLineage.Scan.Script
import SqlLineage.Scan.Tables
import SqlLineage.Scan.Token
import SqlLineage.Text.AlphabeticTable
import SqlLineage.Text.Bytes
import SqlLineage.Text.Case
import SqlLineage.Text.CaseTable
import SqlLineage.Text.CasedTable
import SqlLineage.Text.CategoryTable
import SqlLineage.Text.Class
import SqlLineage.Text.CodeRange
import SqlLineage.Text.HiddenTable
import SqlLineage.Text.LetterTable
import SqlLineage.Text.MachineWord
import SqlLineage.Text.MarkTable
import SqlLineage.Text.NumberTable
import SqlLineage.Text.Quoted
import SqlLineage.Text.ScriptTable
import SqlLineage.Text.Trim
import SqlLineage.UniqueList
import SqlLineage.Validation
import SqlLineage.Version
import SqlLineage.Yaml.Decode
import SqlLineage.Yaml.Error
import SqlLineage.Yaml.Event
import SqlLineage.Yaml.Scalar
import SqlLineage.Yaml.Scanner
import SqlLineage.Yaml.Tag
import SqlLineage.Yaml.Token
import SqlLineage.Yaml.Tokenize
import SqlLineage.Proofs.Grammar.Outline
import SqlLineage.Proofs.Grammar.Effect
import SqlLineage.Proofs.Grammar.Place
import SqlLineage.Proofs.Grammar.CteScope
import SqlLineage.Proofs.Grammar.Sequence
import SqlLineage.Proofs.JavaString
import SqlLineage.Proofs.Context.Replacement
import SqlLineage.Proofs.Context.Concatenation
import SqlLineage.Proofs.Context.Evaluation
import SqlLineage.Proofs.Collector.Isolation
import SqlLineage.Proofs.Collector.Failure
import SqlLineage.Proofs.Grammar.TableReference
import SqlLineage.Proofs.Lineage.Accumulation
import SqlLineage.Proofs.Lineage.Graph
import SqlLineage.Proofs.Collector.Run
import SqlLineage.Proofs.Report.Breakdown
import SqlLineage.Proofs.Grammar.WriteTarget
import SqlLineage.Proofs.Scan.FirstToken
import SqlLineage.Proofs.Text.Bytes
import SqlLineage.Proofs.Scan.Tokens
import SqlLineage.Proofs.Text.Trim
import SqlLineage.Proofs.Scan.ScriptParts
import SqlLineage.Proofs.Scan.Statements
import SqlLineage.Proofs.Scan.Parentheses
import SqlLineage.Proofs.Scan.ReadTables
import SqlLineage.Proofs.Scan.SeenTokens
import SqlLineage.Proofs.Scan.ListEnds
import SqlLineage.Proofs.Scan.HiddenTables
import SqlLineage.Proofs.Scan.FromClause
import SqlLineage.Proofs.Scan.NamelessTables
import SqlLineage.Proofs.Scan.SeparateStatements
import SqlLineage.Proofs.Scan.Layout
import SqlLineage.Proofs.Scan.Comments
import SqlLineage.Proofs.Lineage.Growth
import SqlLineage.Proofs.Collector.Repetition
import SqlLineage.Proofs.Collector.Provenance
import SqlLineage.Proofs.Collector.Visited
import SqlLineage.Proofs.Collector.Nameless
import SqlLineage.Proofs.Normalize.Edits
import SqlLineage.Proofs.Scan.BareNames
import SqlLineage.Proofs.Normalize.Copies
import SqlLineage.Proofs.Normalize.QuotedNames
import SqlLineage.Proofs.Collector.QuotedTables
import SqlLineage.Proofs.Selection.Versions
import SqlLineage.Proofs.Selection.Latest
import SqlLineage.Proofs.Normalize.BlankLines
import SqlLineage.Proofs.Scan.Literals
import SqlLineage.Proofs.Normalize.Unquoting
import SqlLineage.Proofs.Normalize.Literals
import SqlLineage.Proofs.JavaString.Segments
import SqlLineage.Proofs.JavaString.ByteScan
import SqlLineage.Proofs.JavaString.Operators
import SqlLineage.Proofs.Context.References
import SqlLineage.Proofs.Text.Case
import SqlLineage.Proofs.Normalize.VariableLists
import SqlLineage.Proofs.Normalize.SelectTargets
import SqlLineage.Proofs.Text.MachineWord
import SqlLineage.Proofs.Grammar.ErrorPosition
import SqlLineage.Proofs.Lineage.Drawing
import SqlLineage.Proofs.Collector.Preferences
import SqlLineage.Proofs.Collector.Components
import SqlLineage.Proofs.Validation
import SqlLineage.Proofs.Scan.Restart
import SqlLineage.Proofs.Grammar.TableFunction
