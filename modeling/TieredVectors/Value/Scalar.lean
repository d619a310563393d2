import TieredVectors.Number.Word
import TieredVectors.Number.Double
import TieredVectors.Number.Decimal

/-!
# Scalars

The three kinds of data that a device computes on, and their unboxed values.
-/

namespace TieredVectors

/-- What a scalar is: an integer word, a double or a truth value. -/
inductive Kind where
  | int
  | double
  | boolean
deriving DecidableEq, Repr, Inhabited

/-- The name of a kind in types and messages. -/
def Kind.name : Kind → String
  | .int => "Int"
  | .double => "Double"
  | .boolean => "Boolean"

/-- An unboxed scalar. -/
inductive Scalar where
  | int (value : Int32)
  | double (value : Float)
  | bool (value : Bool)
deriving DecidableEq, Inhabited

/-- Doubles are written with the fewest digits that read back, positionally from `1e-4` up to
`1e16` and always with a fractional digit there, and otherwise with an exponent. -/
def Scalar.doubleLayout : Layout where
  leastPositional := -4
  greatestPositional := 15
  exponentMark := "e"
  wholeEnding := ".0"
  infinity := "inf"
  notANumber := "NaN"

namespace Scalar

/-- The kind of a scalar. -/
def kind : Scalar → Kind
  | .int _ => .int
  | .double _ => .double
  | .bool _ => .boolean

/-- The number a scalar stands for; truth is one and falsehood zero. -/
def toDouble : Scalar → Float
  | .int w => Double.ofWord w
  | .double x => x
  | .bool b => if b then 1 else 0

/-- Whether a scalar counts as true: every number but zero does, and so does a non-number. -/
def isTrue : Scalar → Bool
  | .int w => w != 0
  | .double x => !x.beq 0
  | .bool b => b

/-- An integer made a double where a double is wanted; every other scalar as it is. -/
def widen (s : Scalar) (kind : Kind) : Scalar :=
  match s, kind with
  | .int w, .double => .double (Double.ofWord w)
  | s, _ => s

/-- The description of a scalar in graphs and device messages. -/
def text : Scalar → String
  | .int w => "Int(" ++ toString w.toInt ++ ")"
  | .double x => "Double(" ++ doubleLayout.write x ++ ")"
  | .bool b => "Bool(" ++ (if b then "true" else "false") ++ ")"

end Scalar

end TieredVectors
