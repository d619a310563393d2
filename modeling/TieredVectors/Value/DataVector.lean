import TieredVectors.Value.Basic
import TieredVectors.Value.Sequence

/-!
# Vectors

The vectors that the operators take and give: words, doubles, truth values, or values of any type,
and words kept as a sequence. `DataVector.get?` is the view through which the forms are compared:
a sequence and the dense vector of its elements have the same elements everywhere.
-/

namespace TieredVectors

/-- A vector of the interpreted language. -/
inductive DataVector where
  | int (values : List Int32)
  | double (values : List Float)
  | logical (values : List Bool)
  | list (values : List Value)
  | sequence (values : Sequence)
deriving Inhabited

namespace DataVector

/-- The words from `first` to `last`, kept as a sequence. -/
def range (first last : Int32) : DataVector := .sequence (.inclusive first last)

/-- The number of elements. -/
def length : DataVector → Nat
  | .int xs => xs.length
  | .double xs => xs.length
  | .logical xs => xs.length
  | .list xs => xs.length
  | .sequence s => s.length

/-- Whether there is no element. -/
def isEmpty (v : DataVector) : Bool := v.length == 0

/-- The element at `index`, if the vector reaches so far. -/
def get? (v : DataVector) (index : Nat) : Option Value :=
  match v with
  | .int xs => xs[index]?.map .int
  | .double xs => xs[index]?.map .double
  | .logical xs => xs[index]?.map .bool
  | .list xs => xs[index]?
  | .sequence s => (s.get? index).map .int

/-- The first `n` elements, or all if there are fewer. -/
def first (v : DataVector) (n : Nat) : List Value := (List.range (min n v.length)).filterMap v.get?

/-- All elements. -/
def toList (v : DataVector) : List Value := v.first v.length

/-- The name of a vector's type in messages. -/
def typeName : DataVector → String
  | .int _ | .sequence _ => "integer vector"
  | .double _ => "double vector"
  | .logical _ => "logical vector"
  | .list _ => "list"

/-- Whether a copy of the vector can share its elements with it; a sequence has none to share. -/
def hasStorage : DataVector → Bool
  | .sequence _ => false
  | _ => true

/-- Equality of vectors of one form with doubles compared as numbers. A sequence is never the same
as a dense vector. -/
def same : DataVector → DataVector → Bool
  | .int xs, .int ys => xs == ys
  | .double xs, .double ys => xs.isEqv ys Float.beq
  | .logical xs, .logical ys => xs == ys
  | .list xs, .list ys => Value.sameItems xs ys
  | .sequence s, .sequence t => s == t
  | _, _ => false

end DataVector

end TieredVectors
