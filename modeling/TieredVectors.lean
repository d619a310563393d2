import TieredVectors.Columns.Basic
import TieredVectors.Columns.Column
import TieredVectors.Columns.Marshal
import TieredVectors.Device.Basic
import TieredVectors.Device.Launch
import TieredVectors.Executor.Basic
import TieredVectors.Executor.CompiledUnit
import TieredVectors.Executor.Detector
import TieredVectors.Function.Basic
import TieredVectors.Function.Expr
import TieredVectors.Function.Registry
import TieredVectors.Graph.Basic
import TieredVectors.Graph.Error
import TieredVectors.Graph.Node
import TieredVectors.Graph.Shaping
import TieredVectors.Kernel.Basic
import TieredVectors.Kernel.Evaluation
import TieredVectors.Kernel.Typing
import TieredVectors.Number.Decimal
import TieredVectors.Number.Double
import TieredVectors.Number.Wide
import TieredVectors.Number.Word
import TieredVectors.Operator.Basic
import TieredVectors.Operator.Context
import TieredVectors.Operator.Error
import TieredVectors.Operator.Event
import TieredVectors.Operator.Interpreter
import TieredVectors.Operator.Pool
import TieredVectors.Operator.Tiering
import TieredVectors.Operator.Zipped
import TieredVectors.Options
import TieredVectors.Report
import TieredVectors.RowType.Basic
import TieredVectors.RowType.Error
import TieredVectors.RowType.Inference
import TieredVectors.Stage.Registry
import TieredVectors.Table
import TieredVectors.Text.BreakClass
import TieredVectors.Text.LineBreak
import TieredVectors.Text.Quoted
import TieredVectors.Text.Ranges
import TieredVectors.Text.Width
import TieredVectors.Value.Basic
import TieredVectors.Value.DataVector
import TieredVectors.Value.Scalar
import TieredVectors.Value.Sequence
import TieredVectors.Proofs.Graph.WellFormed
import TieredVectors.Proofs.Graph.Liveness
import TieredVectors.Proofs.Graph.Folding
import TieredVectors.Proofs.Graph.Lookups
import TieredVectors.Proofs.Graph.Renumbering
import TieredVectors.Proofs.Except
import TieredVectors.Proofs.Kernel.Filling
import TieredVectors.Proofs.Kernel.Nodes
import TieredVectors.Proofs.Kernel.Lowered
import TieredVectors.Proofs.Kernel.Shaping
import TieredVectors.Proofs.Kernel.Soundness
import TieredVectors.Proofs.Kernel.Exactness
import TieredVectors.Proofs.Kernel.Mixtures
import TieredVectors.Proofs.Kernel.Compilable
import TieredVectors.Proofs.Columns.Column
import TieredVectors.Proofs.Columns.Arrays
import TieredVectors.Proofs.Columns.Marshaling
import TieredVectors.Proofs.Columns.Results
import TieredVectors.Proofs.Device.Buffers
import TieredVectors.Proofs.Device.Launches
import TieredVectors.Proofs.Executor.Attempts
import TieredVectors.Proofs.Kernel.Units
import TieredVectors.Proofs.Operator.Ensures
import TieredVectors.Proofs.Operator.Interpreting
import TieredVectors.Proofs.Operator.Steps
import TieredVectors.Proofs.Operator.Consistency
import TieredVectors.Proofs.Operator.Calls
import TieredVectors.Proofs.Operator.Moves
import TieredVectors.Proofs.Operator.Reachability
import TieredVectors.Proofs.Operator.Mapping
import TieredVectors.Proofs.Operator.Faithfulness
import TieredVectors.Proofs.Operator.Transparency
import TieredVectors.Proofs.Operator.Computations
import TieredVectors.Proofs.Operator.Computing
import TieredVectors.Proofs.Stage.Parents
import TieredVectors.Proofs.Operator.Stages
import TieredVectors.Proofs.Executor.Histories
import TieredVectors.Proofs.Operator.Compilations
import TieredVectors.Proofs.Operator.Modes
import TieredVectors.Proofs.Operator.Targets
import TieredVectors.Proofs.Operator.Bare
import TieredVectors.Proofs.Stage.Leaves
import TieredVectors.Proofs.Stage.Clearing
import TieredVectors.Proofs.Stage.Latest
import TieredVectors.Proofs.Operator.Executing
import TieredVectors.Proofs.Operator.Registering
import TieredVectors.Proofs.Operator.Branches
import TieredVectors.Proofs.Operator.Chains
import TieredVectors.Proofs.Operator.Arguments
import TieredVectors.Proofs.Operator.Arity
import TieredVectors.Proofs.Tables
import TieredVectors.Proofs.Device.Accounting
import TieredVectors.Proofs.Device.Making
import TieredVectors.Proofs.Executor.Ownership
import TieredVectors.Proofs.Columns.Dense
import TieredVectors.Proofs.Columns.RoundTrips
import TieredVectors.Proofs.Device.Alike
import TieredVectors.Proofs.Executor.Alike
import TieredVectors.Proofs.Operator.Alike
import TieredVectors.Proofs.Operator.Sequences
import TieredVectors.Proofs.Operator.Hotness
import TieredVectors.Proofs.Operator.Refusals
import TieredVectors.Proofs.Operator.Lookahead
import TieredVectors.Proofs.Operator.Retyping
import TieredVectors.Proofs.Operator.ResultTypes
import TieredVectors.Proofs.Operator.Reduction
import TieredVectors.Proofs.Operator.Phases
import TieredVectors.Proofs.Operator.Passes
import TieredVectors.Proofs.Operator.Courses
import TieredVectors.Proofs.Operator.Budget
import TieredVectors.Proofs.Operator.Partials
import TieredVectors.Proofs.Columns.Layouts
import TieredVectors.Proofs.Device.Effects
import TieredVectors.Proofs.Device.Granting
import TieredVectors.Proofs.Executor.Shortages
import TieredVectors.Proofs.Executor.Running
import TieredVectors.Proofs.Kernel.Scopes
import TieredVectors.Proofs.Value.Sequence
import TieredVectors.Proofs.Operator.Materializing
