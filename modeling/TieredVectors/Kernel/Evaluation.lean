import TieredVectors.Kernel.Typing

/-!
# Evaluation of nodes

The value of every node of a graph for one row. Arithmetic on words is exact: where the exact result
is no word, the row is given up, and so it is where a node asks for it. Everything else that can
stop an evaluation is ruled out by typing.
-/

namespace TieredVectors

/-- Why the evaluation of a row stopped. -/
inductive GiveUp where
  /-- The exact result of an operation on words is no word. -/
  | overflow
  /-- A remainder by zero, or one whose quotient is no word. -/
  | remainder
  /-- A double that is not finite or whose whole part is no word was to become one. -/
  | conversion
  /-- An index is negative or past the end of a captured list. -/
  | index
  /-- A node asked for it. -/
  | requested
  /-- Something that the typing of the graph rules out. -/
  | illTyped
deriving DecidableEq, Repr

namespace Evaluation

/-- The value of a node that is read, or why there is none. -/
abbrev Reader := NodeId → Except GiveUp Scalar

/-- A result that must exist. -/
def require {α : Type} (reason : GiveUp) : Option α → Except GiveUp α
  | some a => .ok a
  | none => .error reason

/-- A double as a word. -/
def toWord (x : Float) : Except GiveUp Int32 :=
  require .conversion (Double.truncate? x >>= Word.ofInt?)

/-- An operation on one scalar. -/
def unary : UnaryOp → Scalar → Except GiveUp Scalar
  | .neg, .int w => .int <$> require .overflow (Word.neg? w)
  | .neg, s => .ok (.double (-s.toDouble))
  | .abs, .int w => .int <$> require .overflow (Word.abs? w)
  | .abs, s => .ok (.double s.toDouble.abs)
  | .not, s => .ok (.bool !s.isTrue)
  | .sqrt, s => .ok (.double s.toDouble.sqrt)
  | .toDouble, s => .ok (.double s.toDouble)
  | .toInt, .int w => .ok (.int w)
  | .toInt, .bool b => .ok (.int (if b then 1 else 0))
  | .toInt, .double x => .int <$> toWord x

/-- An operation on two words. -/
def binaryWords : BinaryOp → Int32 → Int32 → Except GiveUp Int32
  | .add, x, y => require .overflow (Word.add? x y)
  | .sub, x, y => require .overflow (Word.sub? x y)
  | .mul, x, y => require .overflow (Word.mul? x y)
  | .rem, x, y => require .remainder (Word.rem? x y)
  | .min, x, y => .ok (Word.least x y)
  | .max, x, y => .ok (Word.greatest x y)
  | .div, _, _ | .and, _, _ | .or, _, _ => .error .illTyped

/-- An operation on two scalars taken as doubles or as truth values. -/
def binaryDoubles (op : BinaryOp) (a b : Scalar) : Scalar :=
  let x := a.toDouble
  let y := b.toDouble
  match op with
  | .add => .double (x + y)
  | .sub => .double (x - y)
  | .mul => .double (x * y)
  | .div => .double (x / y)
  | .rem => .double (Double.remainder x y)
  | .min => .double (Double.least x y)
  | .max => .double (Double.greatest x y)
  | .and => .bool (a.isTrue && b.isTrue)
  | .or => .bool (a.isTrue || b.isTrue)

/-- An operation on two scalars whose result has the given kind. -/
def binary (op : BinaryOp) (a b : Scalar) (kind : Kind) : Except GiveUp Scalar :=
  match a, b, kind with
  | .int x, .int y, .int => .int <$> binaryWords op x y
  | a, b, _ => .ok (binaryDoubles op a b)

/-- The order of two scalars: of words, of truth values, and of anything else as doubles. -/
def order? : Scalar → Scalar → Option Ordering
  | .int x, .int y => some (Ord.compare x.toInt y.toInt)
  | .bool x, .bool y => some (Ord.compare x.toNat y.toNat)
  | a, b => Double.compare? a.toDouble b.toDouble

/-- Whether a comparison holds. Of two scalars that have no order, only `ne` does. -/
def compare (op : CompareOp) (a b : Scalar) : Bool :=
  match order? a b with
  | none => op == .ne
  | some o =>
    match op with
    | .eq => o.isEq
    | .ne => o.isNe
    | .lt => o.isLT
    | .le => o.isLE
    | .gt => o.isGT
    | .ge => o.isGE

/-- A captured scalar. -/
def scope (s : Scope) (slot : Nat) : Except GiveUp Scalar :=
  require .illTyped (s[slot]? >>= Value.scalar?)

/-- An element of a captured list. -/
def element (s : Scope) (slot : Nat) (index : Scalar) : Except GiveUp Scalar :=
  match index, s[slot]? with
  | .int w, some (.list items) =>
    if w.toInt < 0 then .error .index
    else
      match items[w.toInt.toNat]? with
      | some v => require .illTyped v.scalar?
      | none => .error .index
  | _, _ => .error .illTyped

end Evaluation

open Evaluation in
/-- The value of a node of the given kind, or none if it has no value. -/
def Node.eval (node : Node) (kind : Option Kind) (read : Reader) (row : List Scalar)
    (scope : Scope) : Except GiveUp (Option Scalar) :=
  match node with
  | .param field => some <$> require .illTyped row[field]?
  | .const s => .ok (some s)
  | .scope slot => some <$> Evaluation.scope scope slot
  | .element slot index => do
    let i ← read index
    some <$> Evaluation.element scope slot i
  | .unary op a => do
    let x ← read a
    some <$> Evaluation.unary op x
  | .binary op a b => do
    let x ← read a
    let y ← read b
    let k ← require .illTyped kind
    some <$> Evaluation.binary op x y k
  | .compare op a b => do
    let x ← read a
    let y ← read b
    return some (.bool (Evaluation.compare op x y))
  | .select c t f => do
    let chosen ← read c
    let x ← read (if chosen.isTrue then t else f)
    let k ← require .illTyped kind
    return some (x.widen k)
  | .deoptIf c => do
    let asked ← read c
    if asked.isTrue then throw .requested else return none
  | .box _ | .unbox _ | .frameState _ | .typeGuard _ _ => .error .illTyped

namespace Evaluation

/-- Look a value up among those computed so far. -/
def ofValues (values : Array (Option Scalar)) : Reader := fun id =>
  require .illTyped (values.getD id none)

/-- The values of all nodes, given those of the nodes before. -/
def evalFrom (row : List Scalar) (scope : Scope) :
    Array (Option Scalar) → List (Node × Option Kind) → Except GiveUp (Array (Option Scalar))
  | values, [] => .ok values
  | values, (node, kind) :: rest => do
    let value ← node.eval kind (ofValues values) row scope
    evalFrom row scope (values.push value) rest

end Evaluation

end TieredVectors
