import DesignLint.Analysis
import DesignLint.Assoc
import DesignLint.CommandLine.Command
import DesignLint.CommandLine.Options
import DesignLint.CommandLine.Response
import DesignLint.CommandLine.Session
import DesignLint.Config.Environment
import DesignLint.Config.Error
import DesignLint.Config.RulesFile
import DesignLint.Config.Schema
import DesignLint.Console.Emoji
import DesignLint.Console.Emoji.AtoE
import DesignLint.Console.Emoji.FtoL
import DesignLint.Console.Emoji.MtoQ
import DesignLint.Console.Emoji.RtoZ
import DesignLint.Console.Icons
import DesignLint.Console.Layout
import DesignLint.Console.LogLevel
import DesignLint.Console.Markup
import DesignLint.Context
import DesignLint.Decimal.Binary64
import DesignLint.Decimal.Shortest
import DesignLint.Declaration.Basic
import DesignLint.Declaration.Capability
import DesignLint.Declaration.Inheritance
import DesignLint.Declaration.Profile
import DesignLint.Declaration.Usage
import DesignLint.Diagnostic.Basic
import DesignLint.Diagnostic.Findings
import DesignLint.Diagnostic.Severity
import DesignLint.Diagnostic.Template
import DesignLint.Glob
import DesignLint.Language
import DesignLint.Main
import DesignLint.Metric.Branch
import DesignLint.Metric.Callable
import DesignLint.Metric.Declarator
import DesignLint.NamePattern
import DesignLint.ParseTree
import DesignLint.Path.Layers
import DesignLint.Path.Lexical
import DesignLint.Path.Segments
import DesignLint.Pattern.Basic
import DesignLint.Pattern.CharClass
import DesignLint.Pattern.Reader
import DesignLint.Pattern.Search
import DesignLint.Pattern.Sweep
import DesignLint.Pattern.Token
import DesignLint.Pattern.Trail
import DesignLint.Pattern.Width
import DesignLint.Proofs.Analysis.Independence
import DesignLint.Proofs.Analysis.Safety
import DesignLint.Proofs.Assoc
import DesignLint.Proofs.Config.CamelCase
import DesignLint.Proofs.Config.Entries
import DesignLint.Proofs.Config.Faults
import DesignLint.Proofs.Config.OptionKeys
import DesignLint.Proofs.Declaration.Ancestors
import DesignLint.Proofs.Declaration.Flushing
import DesignLint.Proofs.Declaration.Hierarchy
import DesignLint.Proofs.Declaration.Usage
import DesignLint.Proofs.Diagnostic.Findings
import DesignLint.Proofs.Gathering.Consistency
import DesignLint.Proofs.Gathering.Lookup
import DesignLint.Proofs.Gathering.Numbering
import DesignLint.Proofs.Gathering.Registry
import DesignLint.Proofs.Gathering.Run
import DesignLint.Proofs.Gathering.Usage
import DesignLint.Proofs.Gathering.Whereabouts
import DesignLint.Proofs.Metric.Chains
import DesignLint.Proofs.Metric.Nesting
import DesignLint.Proofs.Naming.Notation
import DesignLint.Proofs.Naming.Search
import DesignLint.Proofs.Naming.Templates
import DesignLint.Proofs.Path.Directories
import DesignLint.Proofs.Path.Respelling
import DesignLint.Proofs.Rule.Aliases
import DesignLint.Proofs.Rule.Completion
import DesignLint.Proofs.Rule.ConcreteImports
import DesignLint.Proofs.Rule.Directories
import DesignLint.Proofs.Rule.Exemptions
import DesignLint.Proofs.Rule.FatInterfaces
import DesignLint.Proofs.Rule.ImportCircles
import DesignLint.Proofs.Rule.LayerTables
import DesignLint.Proofs.Rule.LongChains
import DesignLint.Proofs.Rule.Profiles
import DesignLint.Proofs.Rule.Redeclaration
import DesignLint.Proofs.Rule.Replies
import DesignLint.Proofs.Rule.Reports
import DesignLint.Proofs.Rule.Rewriting
import DesignLint.Proofs.Rule.SkippedLayers
import DesignLint.Proofs.Rule.Spellings
import DesignLint.Proofs.Rule.Substitution
import DesignLint.Proofs.Rule.Suggestions
import DesignLint.Proofs.Rule.Thresholds
import DesignLint.Proofs.Rule.UnusedMethods
import DesignLint.Proofs.SyntaxTree.Comments
import DesignLint.Proofs.SyntaxTree.Fields
import DesignLint.Proofs.SyntaxTree.Links
import DesignLint.Proofs.SyntaxTree.Outline
import DesignLint.Proofs.SyntaxTree.Readings
import DesignLint.Proofs.SyntaxTree.Uncommented
import DesignLint.Proofs.SyntaxTree.Wrappers
import DesignLint.Proofs.Text.Codes
import DesignLint.Proofs.Tree.Levels
import DesignLint.Proofs.Tree.Places
import DesignLint.Proofs.Tree.Walk
import DesignLint.Proofs.Tree.Ways
import DesignLint.Proofs.Workspace.Discovery
import DesignLint.Proofs.Workspace.Places
import DesignLint.Rule.Architecture
import DesignLint.Rule.Catalog
import DesignLint.Rule.Inversion
import DesignLint.Rule.Naming
import DesignLint.Rule.OpenClosed
import DesignLint.Rule.Repository
import DesignLint.Rule.Responsibility
import DesignLint.Rule.Segregation
import DesignLint.Rule.Substitution
import DesignLint.SiteIndex
import DesignLint.Snapshot
import DesignLint.SyntaxTree.Fold
import DesignLint.SyntaxTree.Kind
import DesignLint.SyntaxTree.Node
import DesignLint.Text.Blank
import DesignLint.Text.Columns
import DesignLint.Text.Digit
import DesignLint.Text.Letter
import DesignLint.Text.Lowercase
import DesignLint.Text.Marks
import DesignLint.Text.Printable
import DesignLint.Text.Quoted
import DesignLint.Text.Ranges
import DesignLint.Text.Search
import DesignLint.Text.Shift
import DesignLint.Text.Surrogate
import DesignLint.Text.Uppercase
import DesignLint.Text.Utf8
import DesignLint.Text.WholeNumber
import DesignLint.Text.Word
import DesignLint.Tree.Basic
import DesignLint.Tree.Rows
import DesignLint.Tree.Spot
import DesignLint.Tree.Walker
import DesignLint.Trial
import DesignLint.TypeTest
import DesignLint.Value.Basic
import DesignLint.Value.Printer
import DesignLint.Value.Reader
import DesignLint.Workspace
