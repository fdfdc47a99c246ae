import TextVectors.Binary32
import TextVectors.Client.Basic
import TextVectors.Client.NameTable
import TextVectors.Client.Operation
import TextVectors.Client.Perform
import TextVectors.Decimal.Shortest
import TextVectors.Decimal.Style
import TextVectors.Embedding.BatchSession
import TextVectors.Embedding.Config
import TextVectors.Embedding.Dense
import TextVectors.Embedding.Embedder
import TextVectors.Embedding.Error
import TextVectors.Embedding.Run
import TextVectors.Embedding.Sparse
import TextVectors.Engine
import TextVectors.FileTree
import TextVectors.Host
import TextVectors.Inference.ElementType
import TextVectors.Inference.Environment
import TextVectors.Inference.Error
import TextVectors.Inference.LoggingLevel
import TextVectors.Inference.Native
import TextVectors.Inference.Runtime
import TextVectors.Inference.Session
import TextVectors.Inference.SessionOptions
import TextVectors.Inference.StatusCode
import TextVectors.Inference.Tensor
import TextVectors.Json.Basic
import TextVectors.Json.Exact
import TextVectors.Json.Loose
import TextVectors.Json.Reader
import TextVectors.Json.Record
import TextVectors.Json.Scalar
import TextVectors.Json.Writer
import TextVectors.Log
import TextVectors.Pooling
import TextVectors.Proofs.Accepted
import TextVectors.Proofs.Binary32
import TextVectors.Proofs.Cache.Consistency
import TextVectors.Proofs.Cache.Custody
import TextVectors.Proofs.Cache.FailedAcquire
import TextVectors.Proofs.Cache.Ledger
import TextVectors.Proofs.Cache.Recency
import TextVectors.Proofs.Cache.Teardown
import TextVectors.Proofs.Client.Accounting
import TextVectors.Proofs.Client.EmbedderSteps
import TextVectors.Proofs.Client.Holdings
import TextVectors.Proofs.Client.Lifetime
import TextVectors.Proofs.Client.NameTable
import TextVectors.Proofs.Client.Operations
import TextVectors.Proofs.Client.Tasks
import TextVectors.Proofs.Client.Teardown
import TextVectors.Proofs.Decimal
import TextVectors.Proofs.Embedding.Alike
import TextVectors.Proofs.Embedding.AllOrNothing
import TextVectors.Proofs.Embedding.Answers
import TextVectors.Proofs.Embedding.Batches
import TextVectors.Proofs.Embedding.Batching
import TextVectors.Proofs.Embedding.Buffers
import TextVectors.Proofs.Embedding.Checks
import TextVectors.Proofs.Embedding.Closing
import TextVectors.Proofs.Embedding.Cover
import TextVectors.Proofs.Embedding.Creation
import TextVectors.Proofs.Embedding.Dense
import TextVectors.Proofs.Embedding.Failures
import TextVectors.Proofs.Embedding.Filling
import TextVectors.Proofs.Embedding.Foreseen
import TextVectors.Proofs.Embedding.Kind
import TextVectors.Proofs.Embedding.Labels
import TextVectors.Proofs.Embedding.ModelFile
import TextVectors.Proofs.Embedding.Obliging
import TextVectors.Proofs.Embedding.Orderly
import TextVectors.Proofs.Embedding.Overlay
import TextVectors.Proofs.Embedding.Plan
import TextVectors.Proofs.Embedding.Reached
import TextVectors.Proofs.Embedding.Refusals
import TextVectors.Proofs.Embedding.Regular
import TextVectors.Proofs.Embedding.Reuse
import TextVectors.Proofs.Embedding.RowWise
import TextVectors.Proofs.Embedding.Rows
import TextVectors.Proofs.Embedding.Running
import TextVectors.Proofs.Embedding.ShortTexts
import TextVectors.Proofs.Embedding.Sizes
import TextVectors.Proofs.Embedding.Sparse
import TextVectors.Proofs.Embedding.Stopping
import TextVectors.Proofs.Embedding.StoredRun
import TextVectors.Proofs.Embedding.Transparency
import TextVectors.Proofs.Entries
import TextVectors.Proofs.Execution
import TextVectors.Proofs.Joining
import TextVectors.Proofs.Json.Excerpt
import TextVectors.Proofs.Json.Numbers
import TextVectors.Proofs.Json.RoundTrip
import TextVectors.Proofs.Locality
import TextVectors.Proofs.MaskedRows
import TextVectors.Proofs.Native.Assembly
import TextVectors.Proofs.Native.BatchSession
import TextVectors.Proofs.Native.BoundValues
import TextVectors.Proofs.Native.CallPlan
import TextVectors.Proofs.Native.Cleanup
import TextVectors.Proofs.Native.Course
import TextVectors.Proofs.Native.Embed
import TextVectors.Proofs.Native.Embedder
import TextVectors.Proofs.Native.Environment
import TextVectors.Proofs.Native.History
import TextVectors.Proofs.Native.LibraryPath
import TextVectors.Proofs.Native.Lifecycle
import TextVectors.Proofs.Native.Ownership
import TextVectors.Proofs.Native.ReleaseOrder
import TextVectors.Proofs.Native.Request
import TextVectors.Proofs.Native.Session
import TextVectors.Proofs.Native.Stacking
import TextVectors.Proofs.Native.Tensor
import TextVectors.Proofs.Native.Trade
import TextVectors.Proofs.Norm
import TextVectors.Proofs.Rounding.Heights
import TextVectors.Proofs.Rounding.Operations
import TextVectors.Proofs.Rounding.Packing
import TextVectors.Proofs.Rounding.Steps
import TextVectors.Proofs.Shape.Count
import TextVectors.Proofs.Shape.Text
import TextVectors.Proofs.Sparse.Activation
import TextVectors.Proofs.Sparse.Bisection
import TextVectors.Proofs.Sparse.Maxima
import TextVectors.Proofs.Sparse.Merging
import TextVectors.Proofs.Sparse.Selection
import TextVectors.Proofs.Sparse.SingleRow
import TextVectors.Proofs.Sparse.Text
import TextVectors.Proofs.Sparse.TopK
import TextVectors.Proofs.Sparse.Valid
import TextVectors.Proofs.Sparse.WindowOrder
import TextVectors.Proofs.Sparse.Windows
import TextVectors.Proofs.Text.Cut
import TextVectors.Proofs.Text.Numeral
import TextVectors.Scripted.Host
import TextVectors.Scripted.PreProcessor
import TextVectors.Scripted.Resource
import TextVectors.Scripted.Runtime
import TextVectors.Scripted.Script
import TextVectors.Scripted.Tokenizer
import TextVectors.SessionCache
import TextVectors.Shape
import TextVectors.Sparse.Logits
import TextVectors.Sparse.Selection
import TextVectors.Sparse.Vector
import TextVectors.Text.Cut
import TextVectors.Text.LetterCase
import TextVectors.Text.Numeral
import TextVectors.Text.Quoted
import TextVectors.Text.Unprintable
import TextVectors.Text.Utf8
import TextVectors.Text.WhiteSpace
import TextVectors.Text.WordCharacter
import TextVectors.TokenBuffers
import TextVectors.Tokenizer.Basic
import TextVectors.Tokenizer.WordPiece
import TextVectors.Window
import TextVectors.Word
