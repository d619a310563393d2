import TieredVectors.Value.Scalar

/-!
# Nodes

A graph describes the computation of one element as a numbered list of nodes. A node reads the row,
the captured scope and the values of earlier nodes. Some nodes mean something to the interpreter
only: they box and unbox values, check types on speculation, or keep the state needed to resume.
-/

namespace TieredVectors

/-- The position of a node in its graph. -/
abbrev NodeId := Nat

/-- How a node is referred to in texts. -/
def NodeId.text (id : NodeId) : String := "n" ++ toString (id : Nat)

/-- Operations on one scalar. -/
inductive UnaryOp where
  | neg
  | not
  | abs
  | sqrt
  | toDouble
  | toInt
deriving DecidableEq, Repr

/-- Operations on two scalars. -/
inductive BinaryOp where
  | add
  | sub
  | mul
  | div
  | rem
  | min
  | max
  | and
  | or
deriving DecidableEq, Repr

/-- Comparisons of two scalars. -/
inductive CompareOp where
  | eq
  | ne
  | lt
  | le
  | gt
  | ge
deriving DecidableEq, Repr

def UnaryOp.name : UnaryOp → String
  | .neg => "Neg"
  | .not => "Not"
  | .abs => "Abs"
  | .sqrt => "Sqrt"
  | .toDouble => "ToDouble"
  | .toInt => "ToInt"

def BinaryOp.name : BinaryOp → String
  | .add => "Add"
  | .sub => "Sub"
  | .mul => "Mul"
  | .div => "Div"
  | .rem => "Rem"
  | .min => "Min"
  | .max => "Max"
  | .and => "And"
  | .or => "Or"

def CompareOp.name : CompareOp → String
  | .eq => "Eq"
  | .ne => "Ne"
  | .lt => "Lt"
  | .le => "Le"
  | .gt => "Gt"
  | .ge => "Ge"

/-- One step of the computation of an element. -/
inductive Node where
  /-- A field of the input row. -/
  | param (field : Nat)
  /-- A constant. -/
  | const (value : Scalar)
  /-- A captured scalar. -/
  | scope (slot : Nat)
  /-- An element of a captured list. -/
  | element (slot : Nat) (index : NodeId)
  | unary (op : UnaryOp) (operand : NodeId)
  | binary (op : BinaryOp) (left right : NodeId)
  | compare (op : CompareOp) (left right : NodeId)
  /-- One of two values, chosen by a condition. -/
  | select (cond whenTrue whenFalse : NodeId)
  | box (operand : NodeId)
  | unbox (operand : NodeId)
  /-- What the interpreter needs to resume here. It has no value. -/
  | frameState (values : List NodeId)
  /-- A speculative type check; its value is the operand's. -/
  | typeGuard (operand : NodeId) (kind : Kind)
  /-- Gives the element up if the condition holds. It has no value. -/
  | deoptIf (cond : NodeId)
deriving DecidableEq

namespace Node

/-- The name of a node in texts. -/
def name : Node → String
  | .param _ => "param"
  | .const _ => "const"
  | .scope _ => "scope-read"
  | .element _ _ => "scope-element"
  | .unary _ _ => "unary"
  | .binary _ _ _ => "binary"
  | .compare _ _ _ => "compare"
  | .select _ _ _ => "select"
  | .box _ => "box"
  | .unbox _ => "unbox"
  | .frameState _ => "frame-state"
  | .typeGuard _ _ => "type-guard"
  | .deoptIf _ => "deopt-if"

/-- Whether a node means something to the interpreter only. -/
def isInterpreterOnly : Node → Bool
  | .box _ | .unbox _ | .frameState _ | .typeGuard _ _ => true
  | _ => false

/-- Whether a node stays even if nothing reads it. -/
def isAnchor : Node → Bool
  | .frameState _ | .deoptIf _ => true
  | _ => false

/-- Whether a node keeps the state of the interpreter. -/
def isFrameState : Node → Bool
  | .frameState _ => true
  | _ => false

/-- The nodes that a node reads, in order. -/
def inputs : Node → List NodeId
  | .param _ | .const _ | .scope _ => []
  | .element _ index => [index]
  | .unary _ a | .box a | .unbox a | .typeGuard a _ | .deoptIf a => [a]
  | .binary _ a b | .compare _ a b => [a, b]
  | .select c t f => [c, t, f]
  | .frameState values => values

/-- The node with every input renamed. -/
def mapInputs (rename : NodeId → NodeId) : Node → Node
  | .param i => .param i
  | .const s => .const s
  | .scope slot => .scope slot
  | .element slot index => .element slot (rename index)
  | .unary op a => .unary op (rename a)
  | .binary op a b => .binary op (rename a) (rename b)
  | .compare op a b => .compare op (rename a) (rename b)
  | .select c t f => .select (rename c) (rename t) (rename f)
  | .box a => .box (rename a)
  | .unbox a => .unbox (rename a)
  | .frameState values => .frameState (values.map rename)
  | .typeGuard a kind => .typeGuard (rename a) kind
  | .deoptIf c => .deoptIf (rename c)

@[simp] theorem inputs_mapInputs (rename : NodeId → NodeId) (n : Node) :
    (n.mapInputs rename).inputs = n.inputs.map rename := by
  cases n <;> rfl

/-- The slot of the captured scope that a node reads. -/
def slot? : Node → Option Nat
  | .scope slot | .element slot _ => some slot
  | _ => none

/-- What stands between a node's name and its inputs. -/
def detail : Node → String
  | .param i => " " ++ toString i
  | .const s => " " ++ s.text
  | .scope slot | .element slot _ => " slot " ++ toString slot
  | .unary op _ => " " ++ op.name
  | .binary op _ _ => " " ++ op.name
  | .compare op _ _ => " " ++ op.name
  | .typeGuard _ kind => " " ++ kind.name
  | _ => ""

/-- A node in a graph's text. -/
def text (n : Node) : String :=
  n.name ++ n.detail ++ String.join (n.inputs.map fun i => " " ++ i.text)

end Node

end TieredVectors
