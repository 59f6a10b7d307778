import ScriptGraph.Path
import ScriptGraph.Graph.Relation
import ScriptGraph.Graph.Basic
import ScriptGraph.Graph.Stats
import ScriptGraph.Graph.Show
import ScriptGraph.Script.Basic
import ScriptGraph.Script.Scan
import ScriptGraph.Number.Binary
import ScriptGraph.Number.Decimal
import ScriptGraph.Format.Json
import ScriptGraph.Export.Visible
import ScriptGraph.Export.Dot
import ScriptGraph.Export.Json
import ScriptGraph.Export.Basic
import ScriptGraph.Report.Listing
import ScriptGraph.Report.Summary
import ScriptGraph.Text.Utf8
import ScriptGraph.Source.Tree
import ScriptGraph.Source.Cursor
import ScriptGraph.Source.Trivia
import ScriptGraph.Source.Word
import ScriptGraph.Source.Literal
import ScriptGraph.Source.Punctuation
import ScriptGraph.Source.Binding
import ScriptGraph.Source.Grammar
import ScriptGraph.Source.Class
import ScriptGraph.Source.Markup
import ScriptGraph.Source.Expression
import ScriptGraph.Source.Linkage
import ScriptGraph.Source.Statement
import ScriptGraph.Source.Program
import ScriptGraph.Number.Literal
import ScriptGraph.Script.OfTree
import ScriptGraph.Text.RangeTable
import ScriptGraph.Text.Category
import ScriptGraph.Text.WritingSystem
import ScriptGraph.Text.Property
import ScriptGraph.Text.CaseFold
import ScriptGraph.Text.Quoted
import ScriptGraph.Pattern.CharSet
import ScriptGraph.Pattern.Basic
import ScriptGraph.Pattern.Reader
import ScriptGraph.Pattern.Atom
import ScriptGraph.Pattern.Bracket
import ScriptGraph.Pattern.Parser
import ScriptGraph.Toml.Table
import ScriptGraph.Toml.Reader
import ScriptGraph.Toml.Scalar
import ScriptGraph.Toml.Document
import ScriptGraph.Project.FileTree
import ScriptGraph.Project.Config
import ScriptGraph.Project.Exclude
import ScriptGraph.Project.IgnoreGlob
import ScriptGraph.Project.IgnoreRule
import ScriptGraph.Project.Discovery
import ScriptGraph.Project.Build
import ScriptGraph.Command.Basic
import ScriptGraph.Command.Arguments
import ScriptGraph.Command.Disk
import ScriptGraph.Main
import ScriptGraph.Proofs.Graph.Registry
import ScriptGraph.Proofs.Graph.History
import ScriptGraph.Proofs.Script.Visits
import ScriptGraph.Proofs.Script.Walk
import ScriptGraph.Proofs.Graph.Names
import ScriptGraph.Proofs.Script.Entry
import ScriptGraph.Proofs.Script.Outcome
import ScriptGraph.Proofs.Script.Exactness
import ScriptGraph.Proofs.Script.Interleaving
import ScriptGraph.Proofs.Script.Pruning
import ScriptGraph.Proofs.Reading.Forms
import ScriptGraph.Proofs.Reading.Bounds
import ScriptGraph.Proofs.Reading.Levels
import ScriptGraph.Proofs.Reading.Shape
import ScriptGraph.Proofs.Reading.Tally
import ScriptGraph.Proofs.Reading.Conservation
import ScriptGraph.Proofs.Reading.HashBang
import ScriptGraph.Proofs.Reading.Parameters
import ScriptGraph.Proofs.Export.DotReader
import ScriptGraph.Proofs.Project.Plan
import ScriptGraph.Proofs.Project.Roles
import ScriptGraph.Proofs.Project.Accounting
import ScriptGraph.Proofs.Project.Skipping
import ScriptGraph.Proofs.Graph.Views
import ScriptGraph.Proofs.Script.Parentheses
import ScriptGraph.Proofs.Graph.Totals
import ScriptGraph.Proofs.Export.JsonGraph
import ScriptGraph.Proofs.Project.Uninvoked
import ScriptGraph.Proofs.Script.Settings
import ScriptGraph.Proofs.Path.ModuleName
import ScriptGraph.Proofs.Path.Relative
import ScriptGraph.Proofs.Project.Requirements
import ScriptGraph.Proofs.Export.Isolated
import ScriptGraph.Proofs.Project.Statistics
import ScriptGraph.Proofs.Reading.Remarks
import ScriptGraph.Proofs.Reading.Regularity
import ScriptGraph.Proofs.Script.Counter
import ScriptGraph.Proofs.Project.Selection
