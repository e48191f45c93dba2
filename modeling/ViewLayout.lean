import ViewLayout.Command.FileTree
import ViewLayout.Command.Options
import ViewLayout.Command.Path
import ViewLayout.Command.Run
import ViewLayout.Config
import ViewLayout.Constraint.Attribute
import ViewLayout.Constraint.Context
import ViewLayout.Constraint.Establish
import ViewLayout.Constraint.Model
import ViewLayout.Constraint.Relation
import ViewLayout.Constraint.Signed
import ViewLayout.Constraint.SizeClass
import ViewLayout.Diagnostic
import ViewLayout.Directive.Basic
import ViewLayout.Directive.Read
import ViewLayout.Directive.Reading
import ViewLayout.Directive.Shorthand
import ViewLayout.Directive.Verbose
import ViewLayout.Document.Basic
import ViewLayout.Document.Read
import ViewLayout.Document.Source
import ViewLayout.Emitter
import ViewLayout.Forest.Basic
import ViewLayout.Json.Reader
import ViewLayout.Json.Writer
import ViewLayout.Log
import ViewLayout.Main
import ViewLayout.Number.Binary64
import ViewLayout.Number.Numeral
import ViewLayout.Number.Shortest
import ViewLayout.Pass.Build
import ViewLayout.Pass.Compile
import ViewLayout.Pass.Report
import ViewLayout.Pass.Templates
import ViewLayout.Proofs.Directive.Spacing
import ViewLayout.Proofs.Directive.Tokens
import ViewLayout.Proofs.Directive.Scanning
import ViewLayout.Proofs.Directive.Hyphens
import ViewLayout.Proofs.Directive.Wording
import ViewLayout.Table
import ViewLayout.Text.Base64
import ViewLayout.Text.Blank
import ViewLayout.Text.Digit
import ViewLayout.Text.LetterCase
import ViewLayout.Text.Line
import ViewLayout.Text.Printable
import ViewLayout.Text.Quoted
import ViewLayout.Text.Surrogate
import ViewLayout.Value.Arrangement
import ViewLayout.Value.Basic
import ViewLayout.Value.Calendar
import ViewLayout.Value.Knot
import ViewLayout.Value.Shown
import ViewLayout.Yaml.Assembly
import ViewLayout.Yaml.Cursor
import ViewLayout.Yaml.Document
import ViewLayout.Yaml.Fault
import ViewLayout.Yaml.Merge
import ViewLayout.Yaml.Node
import ViewLayout.Yaml.Nodes
import ViewLayout.Yaml.Number
import ViewLayout.Yaml.Property
import ViewLayout.Yaml.Scalar.Block
import ViewLayout.Yaml.Scalar.Plain
import ViewLayout.Yaml.Scalar.Quoted
import ViewLayout.Yaml.Scalar.Value
import ViewLayout.Yaml.Tag
import ViewLayout.Yaml.Timestamp
import ViewLayout.Yaml.Token
import ViewLayout.Yaml.Tokens
import ViewLayout.Proofs.Directive.Notations
import ViewLayout.Proofs.Forest.Ancestry
import ViewLayout.Proofs.Forest.Moves
import ViewLayout.Proofs.Forest.History
import ViewLayout.Proofs.Pass.Building
import ViewLayout.Proofs.Constraint.Verdicts
import ViewLayout.Proofs.Constraint.Bare
import ViewLayout.Proofs.Pass.Agenda
import ViewLayout.Proofs.Constraint.Echo
import ViewLayout.Proofs.Pass.Deletion
import ViewLayout.Proofs.Pass.Isolation
import ViewLayout.Proofs.Pass.Joining
import ViewLayout.Proofs.Pass.Records
import ViewLayout.Proofs.Document.Preorder
import ViewLayout.Proofs.Pass.Mirroring
import ViewLayout.Proofs.Pass.Skipping
import ViewLayout.Proofs.Pass.Inlining
import ViewLayout.Proofs.Pass.Tolerance
import ViewLayout.Proofs.Directive.Attributes
import ViewLayout.Proofs.Pass.Comparison
import ViewLayout.Proofs.Constraint.Kinds
import ViewLayout.Proofs.Constraint.Kinship
import ViewLayout.Proofs.Pass.Naming
import ViewLayout.Proofs.Pass.Fresh
import ViewLayout.Proofs.Pass.Reapplying
import ViewLayout.Proofs.Constraint.Renumbering
import ViewLayout.Proofs.Document.Shuffling
import ViewLayout.Proofs.Forest.Reordering
import ViewLayout.Proofs.Pass.Matching
import ViewLayout.Proofs.Pass.Shuffling
import ViewLayout.Proofs.Number.Order
import ViewLayout.Proofs.Directive.Bounds
import ViewLayout.Proofs.Directive.Precedence
import ViewLayout.Proofs.Pass.Soundness
import ViewLayout.Proofs.Pass.Gating
import ViewLayout.Proofs.Pass.Regating
import ViewLayout.Proofs.Pass.Accounts
import ViewLayout.Proofs.Constraint.Invariants
import ViewLayout.Proofs.Pass.Delivery
import ViewLayout.Proofs.Pass.Placing
import ViewLayout.Proofs.Pass.Stages
import ViewLayout.Proofs.Pass.Connection
import ViewLayout.Proofs.Constraint.Pairs
import ViewLayout.Proofs.Constraint.Fallback
import ViewLayout.Proofs.Pass.Pairs
import ViewLayout.Proofs.Pass.Fallback
import ViewLayout.Proofs.Constraint.ConstantSizes
import ViewLayout.Proofs.Pass.ConstantSizes
import ViewLayout.Proofs.Document.Inclusion
import ViewLayout.Proofs.Document.Telling
import ViewLayout.Proofs.Document.Writing
import ViewLayout.Proofs.Document.Sifting
import ViewLayout.Proofs.Value.Writable
import ViewLayout.Proofs.Document.Sources
import ViewLayout.Proofs.Directive.Multipliers
import ViewLayout.Proofs.Directive.Subjects
import ViewLayout.Proofs.Forest.Trees
import ViewLayout.Proofs.Number.Rounding
import ViewLayout.Proofs.Directive.LeavingOut
import ViewLayout.Proofs.Constraint.Scripts
import ViewLayout.Proofs.Constraint.Sessions
import ViewLayout.Proofs.Constraint.Multipliers
import ViewLayout.Proofs.Constraint.Divisors
import ViewLayout.Proofs.Directive.Names
import ViewLayout.Proofs.Directive.LeftSides
import ViewLayout.Proofs.Document.Addresses
import ViewLayout.Proofs.Document.Walking
import ViewLayout.Proofs.Pass.Looping
