import TieredVectors.Graph.Shaping
import TieredVectors.RowType.Basic
import TieredVectors.Value.Basic

/-!
# Typing of nodes

The kind of every node of a graph, given the type of the input rows and the captured scope. A node
without a value has no kind. How a node looks up the kinds of the nodes that it reads is a
parameter, so that the rules do not depend on how the kinds are kept.
-/

namespace TieredVectors

/-- The values captured from around a function, by slot. -/
abbrev Scope := List Value

namespace Typing

/-- The kind of a node that is read, or why it cannot be read. -/
abbrev Reader := NodeId → Except CompileError Kind

/-- A node is not of the kind that its reader needs. -/
def mismatch (node : NodeId) (expected : String) (found : Kind) : CompileError :=
  .typeMismatch node expected found.name

/-- The kind of a node that has to be a number. -/
def numeric (read : Reader) (id : NodeId) : Except CompileError Kind := do
  match ← read id with
  | .boolean => throw (mismatch id "a numeric value" .boolean)
  | k => return k

/-- A node that has to be a truth value. -/
def boolean (read : Reader) (id : NodeId) : Except CompileError Unit := do
  match ← read id with
  | .boolean => return
  | k => throw (mismatch id "Boolean" k)

/-- The kind of a result of two numbers: a double if one of them is. -/
def promote : Kind → Kind → Kind
  | .double, _ | _, .double => .double
  | _, _ => .int

/-- The kind of the result of two numbers that are read. -/
def promoted (read : Reader) (a b : NodeId) : Except CompileError Kind := do
  let ka ← numeric read a
  let kb ← numeric read b
  return promote ka kb

/-- The kind of an operation on one scalar. -/
def unary (read : Reader) (op : UnaryOp) (a : NodeId) : Except CompileError Kind := do
  match op with
  | .neg | .abs => numeric read a
  | .sqrt =>
    let _ ← numeric read a
    return .double
  | .not =>
    boolean read a
    return .boolean
  | .toDouble =>
    let _ ← read a
    return .double
  | .toInt =>
    let _ ← read a
    return .int

/-- The kind of an operation on two scalars. -/
def binary (read : Reader) (op : BinaryOp) (a b : NodeId) : Except CompileError Kind := do
  match op with
  | .and | .or =>
    boolean read a
    boolean read b
    return .boolean
  | .div =>
    let _ ← promoted read a b
    return .double
  | _ => promoted read a b

/-- The kind of a comparison. Truth values can be compared for equality only. -/
def compare (read : Reader) (op : CompareOp) (a b : NodeId) : Except CompileError Kind := do
  let ka ← read a
  let kb ← read b
  let bools := ka == .boolean && kb == .boolean
  unless bools && (op == .eq || op == .ne) do
    let _ ← promoted read a b
  return .boolean

/-- The kind of a choice: the common kind of the two values, or that of a result of two numbers. -/
def select (read : Reader) (cond whenTrue whenFalse : NodeId) : Except CompileError Kind := do
  boolean read cond
  let kt ← read whenTrue
  let kf ← read whenFalse
  if kt = kf then return kt else promoted read whenTrue whenFalse

/-- The kind of a captured scalar. -/
def scope (s : Scope) (slot : Nat) : Except CompileError Kind :=
  match s[slot]? >>= Value.scalar? with
  | some v => .ok v.kind
  | none => .error (.scopeSlot slot)

/-- The kind of the elements of a captured list, which is the kind of the first one. -/
def scopeElements (s : Scope) (slot : Nat) : Except CompileError Kind :=
  match s[slot]? with
  | some (.list items) =>
    match items.head? >>= Value.scalar? with
    | some v => .ok v.kind
    | none => .error (.scopeSlot slot)
  | _ => .error (.scopeSlot slot)

/-- The kind of an element of a captured list. -/
def element (read : Reader) (s : Scope) (slot : Nat) (index : NodeId) :
    Except CompileError Kind := do
  match ← read index with
  | .int => scopeElements s slot
  | k => throw (mismatch index "Int" k)

end Typing

/-- The kind of node `id`, or none if it has no value. -/
def Node.inferKind (node : Node) (id : NodeId) (read : Typing.Reader) (input : RowType)
    (scope : Scope) : Except CompileError (Option Kind) :=
  match node with
  | .param field =>
    match input.kinds[field]? with
    | some k => .ok (some k)
    | none => .error (.paramOutOfRange field input.text)
  | .const s => .ok (some s.kind)
  | .scope slot => some <$> Typing.scope scope slot
  | .element slot index => some <$> Typing.element read scope slot index
  | .unary op a => some <$> Typing.unary read op a
  | .binary op a b => some <$> Typing.binary read op a b
  | .compare op a b => some <$> Typing.compare read op a b
  | .select c t f => some <$> Typing.select read c t f
  | .deoptIf c => (fun _ => none) <$> Typing.boolean read c
  | .box _ | .unbox _ | .frameState _ | .typeGuard _ _ => .error (.interpreterOnly id node.name)

namespace Typing

/-- Look a kind up among those found so far. -/
def ofKinds (kinds : Array (Option Kind)) : Reader := fun id =>
  match kinds.getD id none with
  | some k => .ok k
  | none => .error (.noValue id)

/-- The kinds of all nodes, given those of the nodes before. -/
def inferFrom (input : RowType) (scope : Scope) :
    Array (Option Kind) → List Node → Except CompileError (Array (Option Kind))
  | kinds, [] => .ok kinds
  | kinds, node :: rest => do
    let kind ← node.inferKind kinds.size (ofKinds kinds) input scope
    inferFrom input scope (kinds.push kind) rest

/-- Outputs that have, one by one, the kinds of the output row; a word may stand for a double. -/
def checkOutputs (read : Reader) : List NodeId → List Kind → Except CompileError Unit
  | out :: outs, want :: wants => do
    let kind ← read out
    if kind = want ∨ (kind = .int ∧ want = .double) then checkOutputs read outs wants
    else throw (mismatch out want.name kind)
  | _, _ => .ok ()

end Typing

end TieredVectors
