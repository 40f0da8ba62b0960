import Dataflow.Act
import Dataflow.AttributeType
import Dataflow.Binary64.Basic
import Dataflow.Binary64.Reading
import Dataflow.Binary64.Shortest
import Dataflow.Catalog
import Dataflow.Config
import Dataflow.Connector.Basic
import Dataflow.Connector.Sharing
import Dataflow.Counting.Tally
import Dataflow.Counting.WordCloud
import Dataflow.Counting.WordCount
import Dataflow.Delta.Basic
import Dataflow.Delta.Tracker
import Dataflow.Error
import Dataflow.Executor.Basic
import Dataflow.Executor.Join
import Dataflow.Executor.Registry
import Dataflow.Executor.Scan
import Dataflow.Executor.Scripted
import Dataflow.Executor.Standard
import Dataflow.Feed.Basic
import Dataflow.Feed.Faulty
import Dataflow.Feed.Rows
import Dataflow.Field
import Dataflow.Field.Cast
import Dataflow.Flag
import Dataflow.Identity
import Dataflow.Json.Decoder
import Dataflow.Json.Numeral
import Dataflow.Json.Reader
import Dataflow.Json.Value
import Dataflow.Matching.Engine
import Dataflow.Matching.Finder
import Dataflow.Metrics
import Dataflow.Operator
import Dataflow.Pattern.Basic
import Dataflow.Pattern.Brackets
import Dataflow.Pattern.CharSet
import Dataflow.Pattern.Encoding
import Dataflow.Pattern.Escape
import Dataflow.Pattern.Program
import Dataflow.Pattern.Reader
import Dataflow.Pattern.Search
import Dataflow.Pattern.Size
import Dataflow.Pattern.Words
import Dataflow.Phase
import Dataflow.Phase.Transition
import Dataflow.Plan.Basic
import Dataflow.Plan.Outline
import Dataflow.Plan.Physical
import Dataflow.Plan.Shape
import Dataflow.Plan.Typing
import Dataflow.Schema
import Dataflow.Text.Alphanumeric
import Dataflow.Text.Blank
import Dataflow.Text.CaseFolding
import Dataflow.Text.Classes
import Dataflow.Text.CodePoints
import Dataflow.Text.Integer
import Dataflow.Text.Lowercase
import Dataflow.Text.Quoted
import Dataflow.Text.Scan
import Dataflow.Text.Token
import Dataflow.Tree.Basic
import Dataflow.Tree.Build
import Dataflow.Tree.Display
import Dataflow.Tree.Drive
import Dataflow.Tuple
import Dataflow.Wire.Field
import Dataflow.Wire.Operator
import Dataflow.Wire.Plan
import Dataflow.Proofs.Act
import Dataflow.Proofs.Connector
import Dataflow.Proofs.Flow.Endpoint
import Dataflow.Proofs.Flow.Node
import Dataflow.Proofs.Flow.Start
import Dataflow.Proofs.Meaning.Rows
import Dataflow.Proofs.Tree.Likeness
import Dataflow.Proofs.Connector.Broadcast
import Dataflow.Proofs.Executor.Crews
import Dataflow.Proofs.Executor.Join
import Dataflow.Proofs.Flow.Places
import Dataflow.Proofs.Meaning.Nodes
import Dataflow.Proofs.Meaning.Runs
import Dataflow.Proofs.Executor.Counting
import Dataflow.Proofs.Executor.Types
import Dataflow.Proofs.Meaning.Types
import Dataflow.Proofs.Counting.Tally
import Dataflow.Proofs.Counting.Batches
import Dataflow.Proofs.Delta.Replay
import Dataflow.Proofs.Delta.Debounce
import Dataflow.Proofs.Counting.Cloud
import Dataflow.Proofs.Counting.Ranking
import Dataflow.Proofs.Counting.AnyClock
import Dataflow.Proofs.Meaning.Pipeline
import Dataflow.Proofs.Twins.Act
import Dataflow.Proofs.Twins.Build
import Dataflow.Proofs.Twins.Drive
import Dataflow.Proofs.Twins.Runs
import Dataflow.Proofs.Tree.Grounded
import Dataflow.Proofs.Tree.Ends
import Dataflow.Proofs.Binary64
import Dataflow.Proofs.Binary64.Quotients
import Dataflow.Proofs.Json.Numeral
import Dataflow.Proofs.Json.Reader
import Dataflow.Proofs.Json.Decoder
import Dataflow.Proofs.Pattern.Places
import Dataflow.Proofs.Plan.Parts
import Dataflow.Proofs.Plan.Least
import Dataflow.Proofs.Plan.Culprits
import Dataflow.Proofs.Wire.Operator
import Dataflow.Proofs.Wire.Plan
import Dataflow.Proofs.Wire.Physical
import Dataflow.Proofs.Wire.Nesting
import Dataflow.Proofs.Tree.Endless
import Dataflow.Proofs.Tree.Driven
import Dataflow.Proofs.Connector.Upstream
import Dataflow.Proofs.Tree.Inferred
import Dataflow.Proofs.Connector.Buffer
import Dataflow.Proofs.Connector.Closing
import Dataflow.Proofs.Books.Basic
import Dataflow.Proofs.Books.Balance
import Dataflow.Proofs.Books.Ends
import Dataflow.Proofs.Books.Load
import Dataflow.Proofs.Tree.Census
import Dataflow.Proofs.Tree.Tied
import Dataflow.Proofs.Tree.Books
import Dataflow.Proofs.Tree.Rest
import Dataflow.Proofs.Tree.Counts
import Dataflow.Proofs.Tree.Termination
import Dataflow.Proofs.Tree.Discipline
import Dataflow.Proofs.Tree.Shares
import Dataflow.Proofs.Counting.Tasks
import Dataflow.Proofs.Counting.Conservation
import Dataflow.Proofs.Plan.Line
import Dataflow.Proofs.Meaning.InOrder
import Dataflow.Proofs.Meaning.Search
import Dataflow.Proofs.Tree.Readers
import Dataflow.Proofs.Matching.Spans
import Dataflow.Proofs.Matching.Shares
import Dataflow.Proofs.Plan.Outline
import Dataflow.Proofs.Tree.Outlines
import Dataflow.Proofs.Tree.Descent
import Dataflow.Proofs.Field.Cast
