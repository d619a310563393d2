import TieredVectors.Graph.Error

/-!
# Graphs

The computation of one element: nodes in definition order, the nodes whose values are the fields of
the output row, and the nodes that stay although nothing reads them. `Graph.validate` accepts a
graph if every node reads earlier nodes only and every output and anchor is a node.
-/

namespace TieredVectors

/-- The computation of one element. -/
structure Graph where
  /-- The nodes in definition order. -/
  nodes : List Node
  /-- The nodes that give the fields of the output row. -/
  outputs : List NodeId
  /-- The nodes kept whether or not they are read, in definition order. -/
  anchors : List NodeId
deriving DecidableEq

namespace Graph

/-- The number of nodes. -/
def size (g : Graph) : Nat := g.nodes.length

/-- Whether a node of the interpreter is left. -/
def hasInterpreterNodes (g : Graph) : Bool := g.nodes.any Node.isInterpreterOnly

/-- The nodes that are needed in their own right. -/
def roots (g : Graph) : List NodeId := g.outputs ++ g.anchors

/-- Every node reads earlier nodes only, and outputs and anchors are nodes. -/
structure WellFormed (g : Graph) : Prop where
  inputs : ∀ (id : NodeId) (node : Node), g.nodes[id]? = some node →
    ∀ input ∈ node.inputs, input < id
  roots : ∀ id ∈ g.roots, id < g.size

/-- The first reference to a node that does not come before its reader, in the nodes numbered from
`id` on. -/
def checkNodes : NodeId → List Node → Except CompileError Unit
  | _, [] => .ok ()
  | id, node :: rest =>
    match node.inputs.find? (id ≤ ·) with
    | some input => .error (.forwardReference id input)
    | none => checkNodes (id + 1) rest

/-- Accept a well-formed graph, and name the first bad reference of any other. -/
def validate (g : Graph) : Except CompileError Unit := do
  checkNodes 0 g.nodes
  match g.roots.find? (g.size ≤ ·) with
  | some bad => throw (.forwardReference g.size bad)
  | none => return

/-- The anchors among nodes numbered from `id` on. -/
def anchorsFrom : NodeId → List Node → List NodeId
  | _, [] => []
  | id, node :: rest =>
    if node.isAnchor then id :: anchorsFrom (id + 1) rest else anchorsFrom (id + 1) rest

/-- The graph of the given nodes and outputs, if it is well formed. -/
def build (nodes : List Node) (outputs : List NodeId) : Except CompileError Graph := do
  let g : Graph := { nodes, outputs, anchors := anchorsFrom 0 nodes }
  g.validate
  return g

/-- The lines of nodes numbered from `id` on. -/
def lines : NodeId → List Node → List String
  | _, [] => []
  | id, node :: rest => (id.text ++ " = " ++ node.text ++ "\n") :: lines (id + 1) rest

/-- The graph as text: a line per node, then the outputs. -/
def text (g : Graph) : String :=
  String.join (lines 0 g.nodes) ++ "return" ++ String.join (g.outputs.map fun o => " " ++ o.text)

end Graph

end TieredVectors
