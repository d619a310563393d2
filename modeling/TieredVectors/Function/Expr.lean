import TieredVectors.Function.Basic

/-!
# Expressions

A small language for the bodies of functions. Operands are evaluated from left to right, and the
first error ends the evaluation.
-/

namespace TieredVectors

/-- Arithmetic of the interpreted language. -/
inductive ArithOp where
  | add
  | sub
  | mul
  | div
  | lt
deriving DecidableEq, Repr

/-- An expression over the arguments and the captured scope of a function. -/
inductive Expr where
  /-- An argument. -/
  | arg (index : Nat)
  /-- A captured value. -/
  | scope (slot : Nat)
  | const (value : Value)
  /-- The number of arguments. -/
  | nargs
  /-- An error. -/
  | fail (message : String)
  | list (items : List Expr)
  /-- One of two expressions, of which only the chosen one is evaluated. -/
  | cond (test whenTrue whenFalse : Expr)
  /-- The name of a value's type. -/
  | typeOf (operand : Expr)
  /-- An element of a list. -/
  | at (operand : Expr) (index : Nat)
  /-- Equality with doubles compared as numbers. -/
  | eq (left right : Expr)
  | arith (op : ArithOp) (left right : Expr)

namespace ArithOp

/-- The error of an operation on words whose exact result is no word. -/
def overflow : EvalError := ⟨"integer overflow"⟩

/-- An exact result that must be a word. -/
def word : Option Int32 → Except EvalError Value
  | some w => .ok (.int w)
  | none => .error overflow

/-- An operation on doubles. -/
def onDoubles (op : ArithOp) (x y : Float) : Value :=
  match op with
  | .add => .double (x + y)
  | .sub => .double (x - y)
  | .mul => .double (x * y)
  | .div => .double (x / y)
  | .lt => .bool (x < y)

/-- An operation on two values: exact on words where the result is one, and otherwise on doubles. -/
def apply (op : ArithOp) (a b : Value) : Except EvalError Value :=
  match op, a, b with
  | .add, .int x, .int y => word (Word.add? x y)
  | .sub, .int x, .int y => word (Word.sub? x y)
  | .mul, .int x, .int y => word (Word.mul? x y)
  | op, a, b =>
    match a.toDouble?, b.toDouble? with
    | some x, some y => .ok (op.onDoubles x y)
    | _, _ => .error ⟨"non-numeric argument"⟩

end ArithOp

namespace Expr

mutual

/-- The value of an expression. -/
def eval (args : List Value) (captured : Scope) : Expr → Except EvalError Value
  | .arg i =>
    match args[i]? with
    | some v => .ok v
    | none => .error ⟨"missing argument " ++ toString i⟩
  | .scope i =>
    match captured[i]? with
    | some v => .ok v
    | none => .error ⟨"missing scope slot " ++ toString i⟩
  | .const v => .ok v
  | .nargs => .ok (.int (Int32.ofNat args.length))
  | .fail message => .error ⟨message⟩
  | .list items => .list <$> evalAll args captured items
  | .cond test whenTrue whenFalse => do
    match ← eval args captured test with
    | .bool true => eval args captured whenTrue
    | .bool false => eval args captured whenFalse
    | _ => throw ⟨"condition is not logical"⟩
  | .typeOf e => do
    let v ← eval args captured e
    return .str v.typeName
  | .at e i => do
    match ← eval args captured e with
    | .list items =>
      match items[i]? with
      | some v => return v
      | none => throw ⟨"subscript out of bounds"⟩
    | _ => throw ⟨"subscript out of bounds"⟩
  | .eq a b => do
    let x ← eval args captured a
    let y ← eval args captured b
    return .bool (x.same y)
  | .arith op a b => do
    let x ← eval args captured a
    let y ← eval args captured b
    op.apply x y

/-- The values of expressions, from left to right. -/
def evalAll (args : List Value) (captured : Scope) : List Expr → Except EvalError (List Value)
  | [] => .ok []
  | e :: es => do
    let v ← eval args captured e
    let vs ← evalAll args captured es
    return v :: vs

end

/-- A body given by an expression. -/
def toBody (e : Expr) (parameters : List String) (scope : Scope) (specialized : Option Body) :
    Body :=
  { parameters, scope, call := fun args => e.eval args scope, specialized }

end Expr

end TieredVectors
