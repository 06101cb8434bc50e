import CallFlow.Cli.Arguments
import CallFlow.Cli.Command
import CallFlow.Graph.Basic
import CallFlow.Graph.Builder
import CallFlow.Graph.Flow
import CallFlow.Graph.Target
import CallFlow.JavaScript.Definition
import CallFlow.JavaScript.Expression
import CallFlow.JavaScript.Lexical
import CallFlow.JavaScript.Markup
import CallFlow.JavaScript.Parser
import CallFlow.JavaScript.Program
import CallFlow.JavaScript.Statement
import CallFlow.Json.Basic
import CallFlow.Json.Reader
import CallFlow.Json.Writer
import CallFlow.LogLevel
import CallFlow.Main
import CallFlow.Metrics.Cohesion
import CallFlow.Metrics.Config
import CallFlow.Metrics.Coupling
import CallFlow.Metrics.InformationFlow
import CallFlow.Metrics.Report
import CallFlow.Number.Binary64
import CallFlow.Number.Decimal
import CallFlow.Number.Natural
import CallFlow.Path
import CallFlow.Project.Analysis
import CallFlow.Project.Discovery
import CallFlow.Project.FileTree
import CallFlow.Project.ParseFile
import CallFlow.Report.Text
import CallFlow.Schema.Checked
import CallFlow.Schema.Metrics
import CallFlow.Schema.Project
import CallFlow.Schema.Reader
import CallFlow.Schema.Unit
import CallFlow.Settings.Assignments
import CallFlow.Settings.Basic
import CallFlow.Settings.Load
import CallFlow.Text.Case
import CallFlow.Text.Cased
import CallFlow.Text.Printable
import CallFlow.Text.Quoted
import CallFlow.Text.Search
import CallFlow.Text.Utf8
import CallFlow.Timestamp
import CallFlow.Tree.Node
import CallFlow.Tree.Outline
import CallFlow.Tree.Source
import CallFlow.Tree.Walk
import CallFlow.Unit.Callee
import CallFlow.Unit.Extract
import CallFlow.Unit.Modules
import CallFlow.Unit.Naming
import CallFlow.Unit.Parse
import CallFlow.Unit.Record
import CallFlow.Unit.Session
import CallFlow.Proofs.Walk
import CallFlow.Proofs.Extraction
import CallFlow.Proofs.Attribution
import CallFlow.Proofs.CallerTable
import CallFlow.Proofs.FanIn
import CallFlow.Proofs.SeparateFiles
import CallFlow.Proofs.FileOrder
import CallFlow.Proofs.Mentions
import CallFlow.Proofs.OneMoreFile
import CallFlow.Proofs.Splitting
import CallFlow.Proofs.PathText
import CallFlow.Proofs.FileTree
import CallFlow.Proofs.Discovery
import CallFlow.Proofs.Accounting
import CallFlow.Proofs.FewerCalls
import CallFlow.Proofs.DenyList
import CallFlow.Proofs.WriteOnce
import CallFlow.Proofs.Relocation
import CallFlow.Proofs.Totals
import CallFlow.Proofs.Lookup
import CallFlow.Proofs.FileRemoval
import CallFlow.Proofs.FileWriting
import CallFlow.Proofs.SkippedFile
import CallFlow.Proofs.Enclosing
import CallFlow.Proofs.NamingRules
import CallFlow.Proofs.Definitions
import CallFlow.Proofs.CallerNames
import CallFlow.Proofs.DirectCalls
import CallFlow.Proofs.SyntaxErrors
import CallFlow.Proofs.MadeUpNames
import CallFlow.Proofs.NestedNames
import CallFlow.Proofs.SourceOrder
import CallFlow.Proofs.Counting
import CallFlow.Proofs.Related
import CallFlow.Proofs.Rounding
import CallFlow.Proofs.Cohesion
import CallFlow.Proofs.ModuleCoupling
import CallFlow.Proofs.ModuleFanIn
import CallFlow.Proofs.NamelessCalls
import CallFlow.Proofs.ExternalTargets
import CallFlow.Proofs.LanguageCase
import CallFlow.Proofs.Ranking
import CallFlow.Proofs.Rerun
import CallFlow.Proofs.FlowRating
import CallFlow.Proofs.ReportTables
import CallFlow.Proofs.Turns
import CallFlow.Proofs.Addresses
import CallFlow.Proofs.Scopes
