import TieredVectors.Kernel.Evaluation

/-!
# Kernels

A kernel is a graph whose nodes have been typed for one type of input rows and one type of output
rows. It runs row by row: `Kernel.run` gives the output row or the reason why the row was given up.
-/

namespace TieredVectors

/-- A typed graph. -/
structure Kernel where
  /-- The graph. -/
  graph : Graph
  /-- The type of the rows it reads. -/
  input : RowType
  /-- The type of the rows it writes. -/
  output : RowType
  /-- The kind of each node; none for a node without a value. -/
  kinds : Array (Option Kind)
deriving DecidableEq

namespace Kernel

/-- Type a graph for input rows, output rows and a captured scope. -/
def check (graph : Graph) (input output : RowType) (scope : Scope) :
    Except CompileError Kernel := do
  graph.validate
  let kinds ← Typing.inferFrom input scope #[] graph.nodes
  if graph.outputs.length ≠ output.width then
    throw (.outputArity output.width graph.outputs.length)
  Typing.checkOutputs (Typing.ofKinds kinds) graph.outputs output.kinds
  return { graph, input, output, kinds }

/-- The values of the outputs as the fields of an output row. -/
def collect (read : Evaluation.Reader) : List NodeId → List Kind → Except GiveUp (List Scalar)
  | out :: outs, kind :: kinds => do
    let s ← read out
    let rest ← collect read outs kinds
    return s.widen kind :: rest
  | _, _ => .ok []

/-- Compute the output row of an input row. -/
def run (k : Kernel) (row : List Scalar) (scope : Scope) : Except GiveUp (List Scalar) := do
  let values ← Evaluation.evalFrom row scope #[] (k.graph.nodes.zip k.kinds.toList)
  collect (Evaluation.ofValues values) k.graph.outputs k.output.kinds

end Kernel

/-- The number of a compiled kernel. -/
structure KernelId where
  index : Nat
deriving DecidableEq, Repr, Inhabited

def KernelId.text (id : KernelId) : String := "kernel#" ++ toString id.index

/-- What stands behind a kernel's handle: a kernel for this library's device, or one that another
device would have to run. -/
inductive KernelCode where
  | host (kernel : Kernel)
  | foreign

/-- A compiled kernel and its number. -/
structure KernelHandle where
  id : KernelId
  code : KernelCode

namespace KernelHandle

/-- The kernel, if it was made for this library's device. -/
def kernel? (h : KernelHandle) : Option Kernel :=
  match h.code with
  | .host k => some k
  | .foreign => none

/-- The description of a handle. -/
def text (h : KernelHandle) : String :=
  "KernelHandle \x7b id: KernelId(" ++ toString h.id.index ++ ") \x7d"

end KernelHandle

/-- Numbers kernels as it compiles them. -/
structure Compiler where
  /-- How many graphs have been compiled. -/
  compiled : Nat := 0
deriving DecidableEq, Repr, Inhabited

/-- Compile a graph. Failures are not counted. -/
def Compiler.compile (c : Compiler) (graph : Graph) (input output : RowType) (scope : Scope) :
    Except CompileError (KernelHandle × Compiler) := do
  let kernel ← Kernel.check graph input output scope
  return ({ id := ⟨c.compiled + 1⟩, code := .host kernel }, { compiled := c.compiled + 1 })

end TieredVectors
