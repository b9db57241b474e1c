import GuidedDecoding.Artifact.Basic
import GuidedDecoding.Artifact.Consistency
import GuidedDecoding.Artifact.Stored
import GuidedDecoding.Artifact.Timestamp
import GuidedDecoding.Blake3
import GuidedDecoding.Cache.Basic
import GuidedDecoding.Cache.Recency
import GuidedDecoding.Cache.Traffic
import GuidedDecoding.Compilation.Basic
import GuidedDecoding.Compilation.Event
import GuidedDecoding.Config.Basic
import GuidedDecoding.Config.Codec
import GuidedDecoding.Config.Document
import GuidedDecoding.Config.Load
import GuidedDecoding.Constraint.Basic
import GuidedDecoding.Constraint.Codec
import GuidedDecoding.Constraint.Set
import GuidedDecoding.Decimal.Fixed
import GuidedDecoding.Decimal.Plain
import GuidedDecoding.Decimal.Read
import GuidedDecoding.Decimal.Shortest
import GuidedDecoding.Dispatch.Generation
import GuidedDecoding.Dispatch.Pool
import GuidedDecoding.Dispatch.Request
import GuidedDecoding.Dispatch.Retry
import GuidedDecoding.Dispatch.Timeline
import GuidedDecoding.Engine
import GuidedDecoding.Error.Basic
import GuidedDecoding.Error.Compile
import GuidedDecoding.Error.Config
import GuidedDecoding.Error.Dispatch
import GuidedDecoding.FieldPath
import GuidedDecoding.Fingerprint
import GuidedDecoding.Grammar.Ambiguity
import GuidedDecoding.Grammar.Basic
import GuidedDecoding.Grammar.Codec
import GuidedDecoding.Grammar.Compile
import GuidedDecoding.Grammar.Ebnf
import GuidedDecoding.Grammar.Language
import GuidedDecoding.Grammar.Lookahead
import GuidedDecoding.Grammar.Productions
import GuidedDecoding.Grammar.Productive
import GuidedDecoding.Graph.Basic
import GuidedDecoding.Graph.Conflict
import GuidedDecoding.Graph.Order
import GuidedDecoding.Graph.Resolution
import GuidedDecoding.Json.Basic
import GuidedDecoding.Json.Decode
import GuidedDecoding.Json.Number
import GuidedDecoding.Json.Reader
import GuidedDecoding.Keyed
import GuidedDecoding.NameSet
import GuidedDecoding.Pattern.Basic
import GuidedDecoding.Pattern.Compile
import GuidedDecoding.Proofs.Grammar.Lookahead
import GuidedDecoding.Proofs.Grammar.ParseTree
import GuidedDecoding.Proofs.Keyed
import GuidedDecoding.Proofs.Saturation
import GuidedDecoding.Proofs.Totals
import GuidedDecoding.Regex.Basic
import GuidedDecoding.Regex.CharSet
import GuidedDecoding.Regex.Compiled
import GuidedDecoding.Regex.Library
import GuidedDecoding.Regex.Matching
import GuidedDecoding.Regex.Meaning
import GuidedDecoding.Regex.Property
import GuidedDecoding.Regex.Reader.Class
import GuidedDecoding.Regex.Reader.Expression
import GuidedDecoding.Regex.Reader.Group
import GuidedDecoding.Regex.Reader.Lexical
import GuidedDecoding.Regex.Written
import GuidedDecoding.Saturation
import GuidedDecoding.Schema.Basic
import GuidedDecoding.Schema.Codec
import GuidedDecoding.Schema.Literal
import GuidedDecoding.Schema.Merge
import GuidedDecoding.Schema.Rendered
import GuidedDecoding.Text.Blank
import GuidedDecoding.Text.Category
import GuidedDecoding.Text.CodePoints
import GuidedDecoding.Text.Folding
import GuidedDecoding.Text.Property
import GuidedDecoding.Text.Quoted
import GuidedDecoding.Text.Script
import GuidedDecoding.TokenMask.Basic
import GuidedDecoding.TokenMask.Compile
import GuidedDecoding.TokenMask.Verdict
import GuidedDecoding.Toml.Basic
import GuidedDecoding.Toml.Entries
import GuidedDecoding.Toml.Reader.Document
import GuidedDecoding.Toml.Reader.Lexical
import GuidedDecoding.Toml.Reader.Number
import GuidedDecoding.Proofs.Grammar.Ambiguity
import GuidedDecoding.Proofs.Grammar.Unambiguous
import GuidedDecoding.Proofs.Graph.Members
import GuidedDecoding.Proofs.Graph.Placing
import GuidedDecoding.Proofs.Graph.Order
import GuidedDecoding.Proofs.Graph.Kernel
import GuidedDecoding.Proofs.Graph.Resolution
import GuidedDecoding.Proofs.Graph.ResolvedOrder
import GuidedDecoding.Proofs.Grammar.Nesting
import GuidedDecoding.Proofs.Grammar.Language
import GuidedDecoding.Proofs.TokenMask.Verdict
import GuidedDecoding.Proofs.Artifact.Consistency
import GuidedDecoding.Proofs.FieldPath
import GuidedDecoding.Proofs.Schema.Address
import GuidedDecoding.Proofs.Schema.Union
import GuidedDecoding.Proofs.Schema.Merge
import GuidedDecoding.Proofs.Schema.Uniting
import GuidedDecoding.Proofs.Schema.DottedNames
import GuidedDecoding.Proofs.Schema.Declared
import GuidedDecoding.Proofs.Schema.Order
import GuidedDecoding.Proofs.Schema.Declaring
import GuidedDecoding.Proofs.Schema.Meaning
import GuidedDecoding.Proofs.Constraint.Readable
import GuidedDecoding.Proofs.Decimal.Double
import GuidedDecoding.Proofs.Constraint.Records
import GuidedDecoding.Proofs.Regex.Matching
import GuidedDecoding.Proofs.Regex.Reader.Lexical
import GuidedDecoding.Proofs.Regex.Reader.Group
import GuidedDecoding.Proofs.Regex.Reader.Class
import GuidedDecoding.Proofs.Regex.Reader.Expression
import GuidedDecoding.Proofs.Regex.Reader.Counted
import GuidedDecoding.Proofs.Regex.Meaning
import GuidedDecoding.Proofs.Regex.Library
import GuidedDecoding.Proofs.Regex.Lawful
import GuidedDecoding.Proofs.Pattern.WholeValue
import GuidedDecoding.Proofs.Json.Text
import GuidedDecoding.Proofs.Json.Reading
import GuidedDecoding.Proofs.Decimal.Shortest
import GuidedDecoding.Proofs.Json.Number
import GuidedDecoding.Proofs.Fingerprint
import GuidedDecoding.Proofs.Constraint.Written
import GuidedDecoding.Proofs.Constraint.ReadBack
import GuidedDecoding.Proofs.Constraint.Order
import GuidedDecoding.Proofs.Artifact.Written
import GuidedDecoding.Proofs.Artifact.ReadBack
import GuidedDecoding.Proofs.Cache.Transparency
import GuidedDecoding.Proofs.Cache.Turns
import GuidedDecoding.Proofs.Cache.Counting
import GuidedDecoding.Proofs.Graph.Advice
import GuidedDecoding.Proofs.Compilation.Stages
import GuidedDecoding.Proofs.Constraint.Content
import GuidedDecoding.Proofs.Compilation.Advice
import GuidedDecoding.Proofs.Graph.Demoted
import GuidedDecoding.Proofs.Schema.Sources
import GuidedDecoding.Proofs.Error.Blame
import GuidedDecoding.Proofs.Schema.Blame
import GuidedDecoding.Proofs.Grammar.Sources
import GuidedDecoding.Proofs.Grammar.Blame
import GuidedDecoding.Proofs.Grammar.Expansion
import GuidedDecoding.Proofs.Compilation.Accounting
import GuidedDecoding.Proofs.Compilation.Blame
import GuidedDecoding.Proofs.Dispatch.Move
import GuidedDecoding.Proofs.Dispatch.Slots
import GuidedDecoding.Proofs.Dispatch.Course
import GuidedDecoding.Proofs.Dispatch.History
import GuidedDecoding.Proofs.Dispatch.Schedule
import GuidedDecoding.Proofs.Dispatch.Completion
import GuidedDecoding.Proofs.Dispatch.Outcome
import GuidedDecoding.Proofs.Dispatch.Deadline
import GuidedDecoding.Proofs.Dispatch.Backoff
import GuidedDecoding.Proofs.Dispatch.Budget
import GuidedDecoding.Proofs.Dispatch.Alone
import GuidedDecoding.Proofs.Engine
import GuidedDecoding.Proofs.Grammar.SententialForm
import GuidedDecoding.Proofs.Grammar.LookaheadMeaning
import GuidedDecoding.Proofs.Grammar.LeftRecursion
import GuidedDecoding.Proofs.Grammar.Productive
import GuidedDecoding.Proofs.Grammar.Accepted
import GuidedDecoding.Proofs.Grammar.Merging
import GuidedDecoding.Proofs.Grammar.Barren
import GuidedDecoding.Proofs.Grammar.Rounds
import GuidedDecoding.Proofs.Grammar.Rearranged
import GuidedDecoding.Proofs.Schema.Validation
import GuidedDecoding.Proofs.Schema.Admission
import GuidedDecoding.Proofs.Schema.Conformity
import GuidedDecoding.Proofs.Schema.NumberSyntax
import GuidedDecoding.Proofs.Grammar.Ebnf
import GuidedDecoding.Proofs.Dispatch.Journal
