import TieredVectors.RowType.Inference

/-!
# Columns

The data of one field over all rows: words, doubles or truth values, or words kept as a sequence.
`Column.get?` is the view through which the forms are compared.
-/

namespace TieredVectors

/-- One field of all rows. -/
inductive Column where
  | int (values : List Int32)
  | double (values : List Float)
  | boolean (values : List Bool)
  | sequence (values : Sequence)
deriving DecidableEq

namespace Column

instance : Inhabited Column := ⟨.int []⟩

/-- The kind of the elements. -/
def kind : Column → Kind
  | .int _ | .sequence _ => .int
  | .double _ => .double
  | .boolean _ => .boolean

/-- The number of elements. -/
def length : Column → Nat
  | .int xs => xs.length
  | .double xs => xs.length
  | .boolean xs => xs.length
  | .sequence s => s.length

/-- Whether there is no element. -/
def isEmpty (c : Column) : Bool := c.length == 0

/-- The element at `index`, if the column reaches so far. -/
def get? (c : Column) (index : Nat) : Option Scalar :=
  match c with
  | .int xs => xs[index]?.map .int
  | .double xs => xs[index]?.map .double
  | .boolean xs => xs[index]?.map .bool
  | .sequence s => (s.get? index).map .int

/-- The first `n` elements, or all if there are fewer. -/
def take (c : Column) (n : Nat) : Column :=
  match c with
  | .int xs => .int (xs.take n)
  | .double xs => .double (xs.take n)
  | .boolean xs => .boolean (xs.take n)
  | .sequence s => .sequence (s.take n)

/-- A column of `n` zeros or falsehoods. -/
def blank (kind : Kind) (n : Nat) : Column :=
  match kind with
  | .int => .int (List.replicate n 0)
  | .double => .double (List.replicate n 0)
  | .boolean => .boolean (List.replicate n false)

/-- Replace the element at `index`, if there is one and the scalar is of the column's kind. The
elements of a sequence cannot be replaced. -/
def set? (c : Column) (index : Nat) (s : Scalar) : Option Column :=
  if index < c.length then
    match c, s with
    | .int xs, .int w => some (.int (xs.set index w))
    | .double xs, .double x => some (.double (xs.set index x))
    | .boolean xs, .bool b => some (.boolean (xs.set index b))
    | _, _ => none
  else none

/-- The column as a vector. -/
def toVector : Column → DataVector
  | .int xs => .int xs
  | .double xs => .double xs
  | .boolean xs => .logical xs
  | .sequence s => .sequence s

/-- The word of a scalar. -/
def word? : Scalar → Option Int32
  | .int w => some w
  | _ => none

/-- The double of a scalar that is a number; integers are widened. -/
def double? : Scalar → Option Float
  | .double x => some x
  | .int w => some (Double.ofWord w)
  | .bool _ => none

/-- The truth value of a scalar. -/
def bool? : Scalar → Option Bool
  | .bool b => some b
  | _ => none

/-- Unbox scalars one by one from position `index` on; the first that is not of the wanted kind is
reported with its position. -/
def unboxFrom {α : Type} (unbox : Scalar → Option α) (expected : String) :
    Nat → List Scalar → Except TypeError (List α)
  | _, [] => .ok []
  | index, s :: rest =>
    match unbox s with
    | some a => (unboxFrom unbox expected (index + 1) rest).map (a :: ·)
    | none => .error (.elementType index expected (Value.ofScalar s).typeName)

/-- A column of the given kind; integers are widened into a column of doubles. -/
def ofScalars (kind : Kind) (scalars : List Scalar) : Except TypeError Column :=
  match kind with
  | .int => (unboxFrom word? kind.name 0 scalars).map .int
  | .double => (unboxFrom double? kind.name 0 scalars).map .double
  | .boolean => (unboxFrom bool? kind.name 0 scalars).map .boolean

/-- The elements of a vector as a column of the given kind; integers are widened into a column of
doubles, and a sequence stays one where words are wanted. -/
def ofVector (kind : Kind) (v : DataVector) : Except TypeError Column :=
  match v, kind with
  | .int xs, .int => .ok (.int xs)
  | .double xs, .double => .ok (.double xs)
  | .logical xs, .boolean => .ok (.boolean xs)
  | .sequence s, .int => .ok (.sequence s)
  | .int xs, .double => .ok (.double (xs.map Double.ofWord))
  | .sequence s, .double => .ok (.double (s.toList.map Double.ofWord))
  | v, kind => .error (.unsupportedData kind.name v.typeName)

end Column

end TieredVectors
