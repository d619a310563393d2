import TieredVectors.Columns.Column

/-!
# Columnar arrays

The rows of a computation, kept as one column per field. An array is well formed if its columns have
the kinds of its type and all have the array's length; `ColumnArray.make` checks exactly that.
-/

namespace TieredVectors

/-- Rows of one type as columns. -/
structure ColumnArray where
  /-- The type of the rows. -/
  type : RowType
  /-- One column per field. -/
  columns : List Column
  /-- The number of rows. -/
  length : Nat
deriving DecidableEq

namespace ColumnArray

/-- The columns of an array have the kinds of its type, and each has one element per row. -/
structure WellFormed (a : ColumnArray) : Prop where
  kinds : a.columns.map Column.kind = a.type.kinds
  lengths : ∀ c ∈ a.columns, c.length = a.length

/-- The first column whose kind is not the one wanted for it. -/
def checkKinds : List Column → List Kind → Except TypeError Unit
  | c :: cs, k :: ks =>
    if c.kind = k then checkKinds cs ks else .error (.unsupportedData k.name c.kind.name)
  | _, _ => .ok ()

/-- The first column from `position` on whose length is not `length`. -/
def checkLengths (length : Nat) : Nat → List Column → Except TypeError Unit
  | _, [] => .ok ()
  | position, c :: cs =>
    if c.length = length then checkLengths length (position + 1) cs
    else .error (.lengthMismatch position length c.length)

/-- An array of the given columns, whose kinds and lengths must fit the type. -/
def make (type : RowType) (columns : List Column) : Except TypeError ColumnArray :=
  if columns.length ≠ type.width then
    .error (.unsupportedData type.text (toString columns.length ++ " column(s)"))
  else do
    checkKinds columns type.kinds
    let length := (columns.head?.map Column.length).getD 0
    checkLengths length 1 columns.tail
    return { type, columns, length }

/-- Whether there is no row. -/
def isEmpty (a : ColumnArray) : Bool := a.length == 0

/-- The only column of an array of scalars. -/
def scalarColumn (a : ColumnArray) : Except TypeError Column :=
  match a.type, a.columns with
  | .scalar _, c :: _ => .ok c
  | type, _ => .error (.unsupportedData "a scalar buffer" type.text)

/-- The fields of the row at `index`. -/
def row? (a : ColumnArray) (index : Nat) : Option (List Scalar) :=
  a.columns.mapM (·.get? index)

/-- A row of the given type as a value: tuples become lists. -/
def boxRow? (type : RowType) (row : List Scalar) : Option Value :=
  match type with
  | .tuple _ _ => some (.list (row.map Value.ofScalar))
  | .scalar _ => row.head?.map Value.ofScalar

/-- The row at `index` as a value. -/
def value? (a : ColumnArray) (index : Nat) : Option Value :=
  a.row? index >>= boxRow? a.type

/-- The rows as a vector: the column of an array of scalars, the list of rows of an array of
tuples. -/
def toVector (a : ColumnArray) : DataVector :=
  match a.type, a.columns with
  | .scalar _, c :: _ => c.toVector
  | _, _ => .list ((List.range a.length).filterMap a.value?)

end ColumnArray

end TieredVectors
