import TieredVectors.Graph.Basic

/-!
# Shaping

Before a graph is compiled, what only the interpreter needs is taken out of it: frame states are no
longer kept alive, a type guard or a box is replaced by its operand, and nodes that nothing needs
any more are dropped.

Every pass is one sweep over the nodes in definition order. A `Sweep` holds the nodes kept so far
and, for each node seen, the node that now has its value; since nodes read earlier nodes only, the
names that a node needs are known when it is reached.
-/

namespace TieredVectors

/-- What a sweep does with a node. -/
inductive Disposition where
  /-- Copy it, with its inputs renamed. -/
  | keep
  /-- Use the value of an earlier node in its place. -/
  | redirect (operand : NodeId)
  /-- Leave it out; nothing needs it. -/
  | drop
deriving DecidableEq, Repr

/-- The state of a sweep over the nodes of a graph. -/
structure Sweep where
  /-- The nodes kept so far. -/
  nodes : Array Node := #[]
  /-- For each node seen, where its value is now. -/
  names : Array NodeId := #[]

namespace Sweep

/-- Where the value of a node is now. -/
def rename (s : Sweep) (id : NodeId) : NodeId := s.names.getD id 0

/-- Deal with the next node. -/
def step (s : Sweep) (node : Node) : Disposition → Sweep
  | .keep =>
    { nodes := s.nodes.push (node.mapInputs s.rename), names := s.names.push s.nodes.size }
  | .redirect operand => { s with names := s.names.push (s.rename operand) }
  | .drop => { s with names := s.names.push 0 }

/-- Sweep over nodes numbered from `id` on. -/
def run (dispose : NodeId → Node → Disposition) (s : Sweep) : NodeId → List Node → Sweep
  | _, [] => s
  | id, node :: rest => run dispose (s.step node (dispose id node)) (id + 1) rest

end Sweep

namespace Graph

/-- The graph after a sweep. -/
def sweep (g : Graph) (dispose : NodeId → Node → Disposition) : Graph :=
  let s := Sweep.run dispose {} 0 g.nodes
  { nodes := s.nodes.toList
    outputs := g.outputs.map s.rename
    anchors := g.anchors.map s.rename }

/-- Mark nodes as live. -/
def mark (live : Array Bool) (ids : List NodeId) : Array Bool :=
  ids.foldl (fun live id => live.setIfInBounds id true) live

/-- Mark what the live ones among nodes numbered from `id` on read, last node first. -/
def markInputs : NodeId → List Node → Array Bool → Array Bool
  | _, [], live => live
  | id, node :: rest, live =>
    let live := markInputs (id + 1) rest live
    if live.getD id false then mark live node.inputs else live

/-- For each node, whether an output or an anchor needs it. -/
def live (g : Graph) : Array Bool :=
  markInputs 0 g.nodes (mark (Array.replicate g.size false) g.roots)

/-- Drop the nodes that no output and no anchor needs. -/
def dropDead (g : Graph) : Graph :=
  let live := g.live
  g.sweep fun id _ => if live.getD id false then .keep else .drop

/-- No longer keep frame states, nor what only they needed. -/
def dropFrameStates (g : Graph) : Graph :=
  dropDead { g with anchors := g.anchors.filter fun a => !(g.nodes[a]?.any Node.isFrameState) }

/-- Replace every type guard by the value that it guards. -/
def dropTypeGuards (g : Graph) : Graph :=
  g.sweep fun _ node =>
    match node with
    | .typeGuard operand _ => .redirect operand
    | _ => .keep

/-- Replace every boxed or unboxed value by the value itself. -/
def dropBoxes (g : Graph) : Graph :=
  g.sweep fun _ node =>
    match node with
    | .box operand | .unbox operand => .redirect operand
    | _ => .keep

/-- Make a graph ready to be compiled. -/
def shape (g : Graph) : Graph :=
  g.dropFrameStates.dropTypeGuards.dropBoxes.dropDead

end Graph

/-- A node that reads the captured scope. -/
structure ScopeBinding where
  /-- The node that reads. -/
  node : NodeId
  /-- The slot that it reads. -/
  slot : Nat
deriving DecidableEq, Repr

namespace Graph

/-- The reads of the captured scope among nodes numbered from `id` on. -/
def bindingsFrom : NodeId → List Node → List ScopeBinding
  | _, [] => []
  | id, node :: rest =>
    match node.slot? with
    | some slot => ⟨id, slot⟩ :: bindingsFrom (id + 1) rest
    | none => bindingsFrom (id + 1) rest

/-- All reads of the captured scope, in definition order. -/
def scopeBindings (g : Graph) : List ScopeBinding := bindingsFrom 0 g.nodes

end Graph

end TieredVectors
