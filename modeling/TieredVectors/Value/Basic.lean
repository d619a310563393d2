import TieredVectors.Value.Scalar
import TieredVectors.Text.Quoted

/-!
# Values

The boxed values of the interpreted language. Two notions of equality are kept apart: `=` tells
doubles apart by their bits, while `Value.same` compares them as numbers, so that a non-number
differs from itself and the two zeros do not differ.
-/

namespace TieredVectors

/-- A value of the interpreted language. -/
inductive Value where
  | null
  | int (value : Int32)
  | double (value : Float)
  | bool (value : Bool)
  | str (value : String)
  | list (items : List Value)
deriving Inhabited

namespace Value

/-- The name of a value's type in messages. -/
def typeName : Value → String
  | .null => "null"
  | .int _ => "integer"
  | .double _ => "double"
  | .bool _ => "logical"
  | .str _ => "character"
  | .list _ => "list"

/-- The value without its box, if it is a scalar. -/
def scalar? : Value → Option Scalar
  | .int w => some (.int w)
  | .double x => some (.double x)
  | .bool b => some (.bool b)
  | _ => none

/-- A scalar in a box. -/
def ofScalar : Scalar → Value
  | .int w => .int w
  | .double x => .double x
  | .bool b => .bool b

@[simp] theorem scalar?_ofScalar (s : Scalar) : (ofScalar s).scalar? = some s := by
  cases s <;> rfl

/-- The number a value stands for, if it is a scalar. -/
def toDouble? (v : Value) : Option Float := v.scalar?.map Scalar.toDouble

mutual

/-- Equality with doubles compared as numbers. -/
def same : Value → Value → Bool
  | .null, .null => true
  | .int x, .int y => x == y
  | .double x, .double y => x.beq y
  | .bool x, .bool y => x == y
  | .str x, .str y => x == y
  | .list xs, .list ys => sameItems xs ys
  | _, _ => false

/-- Equality of two lists, item by item, in the sense of `same`. -/
def sameItems : List Value → List Value → Bool
  | [], [] => true
  | x :: xs, y :: ys => same x y && sameItems xs ys
  | _, _ => false

end

mutual

/-- The description of a value. -/
def text : Value → String
  | .null => "Null"
  | .int w => (Scalar.int w).text
  | .double x => (Scalar.double x).text
  | .bool b => (Scalar.bool b).text
  | .str s => "Str(" ++ Text.quoted s ++ ")"
  | .list items => "List([" ++ ", ".intercalate (texts items) ++ "])"

/-- The descriptions of the items of a list. -/
def texts : List Value → List String
  | [] => []
  | v :: vs => text v :: texts vs

end

end Value

end TieredVectors
