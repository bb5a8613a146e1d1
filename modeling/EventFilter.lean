import EventFilter.Data.Basic
import EventFilter.Data.ByKind
import EventFilter.Data.Compare
import EventFilter.DataType.Basic
import EventFilter.DataType.Compatible
import EventFilter.DataType.Wire
import EventFilter.Decimal.Shortest
import EventFilter.Diagnostic
import EventFilter.Digest.Sha256
import EventFilter.Double
import EventFilter.Double.Arithmetic
import EventFilter.Eval.Basic
import EventFilter.Eval.Handler
import EventFilter.Eval.Series
import EventFilter.Eval.Test
import EventFilter.Eval.Truth
import EventFilter.Expr.Basic
import EventFilter.Expr.Builder
import EventFilter.Expr.MayHold
import EventFilter.Expr.Normalize
import EventFilter.Expr.Predicate
import EventFilter.Expr.Resolve
import EventFilter.Expr.SchemaMatch
import EventFilter.Expr.Validate
import EventFilter.Filter.Basic
import EventFilter.Filter.Config
import EventFilter.Log
import EventFilter.Offset
import EventFilter.Offset.Map
import EventFilter.Operator
import EventFilter.Order.Key
import EventFilter.Pattern.Basic
import EventFilter.Pattern.Bytes
import EventFilter.Pattern.Footprint
import EventFilter.Pattern.Matcher
import EventFilter.Pattern.Reader
import EventFilter.Pattern.Regex
import EventFilter.Proofs.Data.ByKind
import EventFilter.Proofs.Data.Numbers
import EventFilter.Proofs.Data.Operators
import EventFilter.Proofs.DataType.CanonicalText
import EventFilter.Proofs.DataType.Compatible
import EventFilter.Proofs.DataType.Congruence
import EventFilter.Proofs.DataType.Nesting
import EventFilter.Proofs.DataType.Values
import EventFilter.Proofs.DataType.Wire
import EventFilter.Proofs.Double
import EventFilter.Proofs.Double.Arithmetic
import EventFilter.Proofs.Eval.Alignment
import EventFilter.Proofs.Eval.Constant
import EventFilter.Proofs.Eval.DroppedColumns
import EventFilter.Proofs.Eval.Kleene
import EventFilter.Proofs.Eval.Locality
import EventFilter.Proofs.Eval.Meaning
import EventFilter.Proofs.Eval.Negation
import EventFilter.Proofs.Eval.NormalForm
import EventFilter.Proofs.Eval.NullElements
import EventFilter.Proofs.Eval.Rows
import EventFilter.Proofs.Eval.SchemaExclusion
import EventFilter.Proofs.Eval.SchemaMatch
import EventFilter.Proofs.Eval.StoredOrder
import EventFilter.Proofs.Expr.Alignment
import EventFilter.Proofs.Expr.Binding
import EventFilter.Proofs.Expr.ConcreteTypes
import EventFilter.Proofs.Expr.Duality
import EventFilter.Proofs.Expr.Fixpoint
import EventFilter.Proofs.Expr.NormalForm
import EventFilter.Proofs.Expr.Predicates
import EventFilter.Proofs.Expr.Resolution
import EventFilter.Proofs.Expr.Siblings
import EventFilter.Proofs.Expr.Structure
import EventFilter.Proofs.Expr.Validity
import EventFilter.Proofs.Filter.Calls
import EventFilter.Proofs.Filter.Creation
import EventFilter.Proofs.Filter.Evaluation
import EventFilter.Proofs.Filter.MetadataPruning
import EventFilter.Proofs.Filter.Negation
import EventFilter.Proofs.Filter.Pruning
import EventFilter.Proofs.Offset.Map
import EventFilter.Proofs.Order.Key
import EventFilter.Proofs.Order.Structural
import EventFilter.Proofs.Schema.Identity
import EventFilter.Proofs.Schema.Leaves
import EventFilter.Proofs.Schema.Names
import EventFilter.Proofs.Schema.Selectors
import EventFilter.Proofs.Synopsis.Answers
import EventFilter.Proofs.Synopsis.Coverage
import EventFilter.Proofs.Synopsis.Decoding
import EventFilter.Proofs.Synopsis.Encoding
import EventFilter.Proofs.Synopsis.Match
import EventFilter.Proofs.Synopsis.Partition
import EventFilter.Proofs.Synopsis.Reception
import EventFilter.Proofs.Synopsis.Recoding
import EventFilter.Proofs.Synopsis.Runs
import EventFilter.Proofs.Synopsis.Scan
import EventFilter.Proofs.Table.Acceptance
import EventFilter.Proofs.Table.Columns
import EventFilter.Proofs.Table.Concatenation
import EventFilter.Proofs.Table.Layout
import EventFilter.Proofs.Table.Masking
import EventFilter.Proofs.Table.Paths
import EventFilter.Proofs.Table.Window
import EventFilter.Proofs.Text.Split
import EventFilter.Proofs.Wire.Nesting
import EventFilter.Proofs.Wire.Recovery
import EventFilter.Proofs.Wire.RoundTrip
import EventFilter.Schema.Basic
import EventFilter.Schema.Description
import EventFilter.Selector
import EventFilter.Synopsis.Basic
import EventFilter.Synopsis.Factory
import EventFilter.Synopsis.Match
import EventFilter.Synopsis.Partition
import EventFilter.Synopsis.Record
import EventFilter.Table.Cell
import EventFilter.Table.Layout
import EventFilter.Table.Slice
import EventFilter.Text.CaseFold
import EventFilter.Text.CharClass
import EventFilter.Text.CodePoints
import EventFilter.Text.Escaped
import EventFilter.Text.Quoted
import EventFilter.Text.Split
import EventFilter.Wire.Basic
import EventFilter.Wire.Decode
import EventFilter.Wire.Reader
