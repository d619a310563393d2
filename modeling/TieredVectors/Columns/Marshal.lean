import TieredVectors.Columns.Basic
import TieredVectors.Options

/-!
# Marshaling

Vectors and boxed values to columnar arrays, and back to vectors. An array may be read back only
under its own type, into storage of its own or not.
-/

namespace TieredVectors

namespace ColumnArray

/-- The columns of vectors that all must have the given length. Vectors are taken in order, and the
length of each is checked before its kind. -/
def columnsOf (length : Nat) : Nat → List DataVector → List Kind → Except TypeError (List Column)
  | position, v :: vs, k :: ks =>
    if v.length ≠ length then .error (.lengthMismatch position length v.length)
    else do
      let c ← Column.ofVector k v
      let cs ← columnsOf length (position + 1) vs ks
      return c :: cs
  | _, _, _ => .ok []

/-- A vector and its companions as an array of rows of the given type. -/
def ofVectors (type : RowType) (primary : DataVector) (companions : List DataVector) :
    Except TypeError ColumnArray := do
  let arity := 1 + companions.length
  if maxArity < arity then
    throw (.unsupportedArity arity)
  if type.width ≠ arity then
    throw (.unsupportedData type.text (toString arity ++ " vector(s)"))
  let columns ← columnsOf primary.length 0 (primary :: companions) type.kinds
  return { type, columns, length := primary.length }

/-- The scalars of a list of values that are all scalars. -/
def scalars? (items : List Value) : Option (List Scalar) := items.mapM Value.scalar?

/-- The fields of a boxed row. -/
def unboxRow (type : RowType) (index : Nat) (v : Value) : Except TypeError (List Scalar) :=
  let fields (items : List Value) : Except TypeError (List Scalar) :=
    match scalars? items with
    | some row => .ok row
    | none => .error (.elementType index "scalar" v.typeName)
  match type, v with
  | .scalar _, v => fields [v]
  | .tuple kinds _, .list items =>
    if items.length = kinds.length then fields items
    else .error (.elementType index "tuple" v.typeName)
  | .tuple _ _, v => .error (.elementType index "tuple" v.typeName)

/-- The fields of boxed rows, counted from `index` on. -/
def unboxRows (type : RowType) : Nat → List Value → Except TypeError (List (List Scalar))
  | _, [] => .ok []
  | index, v :: vs => do
    let row ← unboxRow type index v
    let rows ← unboxRows type (index + 1) vs
    return row :: rows

/-- The columns of rows that have one field for each of the given kinds. -/
def transpose : List Kind → List (List Scalar) → Except TypeError (List Column)
  | [], _ => .ok []
  | k :: ks, rows => do
    let c ← Column.ofScalars k (rows.filterMap List.head?)
    let cs ← transpose ks (rows.map List.tail)
    return c :: cs

/-- Boxed rows as an array. Every row is unboxed before the first column is made. -/
def ofValues (type : RowType) (values : List Value) : Except TypeError ColumnArray := do
  let rows ← unboxRows type 0 values
  let columns ← transpose type.kinds rows
  return { type, columns, length := values.length }

/-- The rows of an array as a vector, if they are of the given type. -/
def toVectorOf (type : RowType) (a : ColumnArray) : Except TypeError DataVector :=
  if a.type = type then .ok a.toVector
  else .error (.unsupportedData type.text a.type.text)

/-- A vector that has been read back. -/
structure Materialized where
  vector : DataVector
  /-- Whether it keeps its elements where the array does. -/
  shared : Bool

/-- Read the rows of an array back as a vector. Rows of tuples are boxed anew, and a sequence has no
elements that could be shared. -/
def materialize (type : RowType) (a : ColumnArray) (materialization : Materialization) :
    Except TypeError Materialized := do
  let vector ← a.toVectorOf type
  let shared := materialization == .view && !type.isTuple && vector.hasStorage
  return { vector, shared }

end ColumnArray

namespace DataVector

/-- Boxed rows of the given type as a vector. -/
def ofValues (type : RowType) (values : List Value) : Except TypeError DataVector :=
  (ColumnArray.ofValues type values).map ColumnArray.toVector

/-- A vector and its companions as columns, under the type that their elements have. -/
def marshal (primary : DataVector) (companions : List DataVector) :
    Except TypeError ColumnArray := do
  let type ← primary.inferRows companions
  ColumnArray.ofVectors type primary companions

end DataVector

end TieredVectors
