import TieredVectors.RowType.Basic
import TieredVectors.Value.DataVector

/-!
# Inferring row types

The row type of a value, of a function's result, of a vector's elements, and of the rows made by
zipping a vector with its companions.
-/

namespace TieredVectors

namespace Value

/-- The kind of a value that is a scalar. -/
def inferKind (v : Value) : Except TypeError Kind :=
  match v.scalar? with
  | some s => .ok s.kind
  | none => .error (.notOffloadable v.typeName)

/-- The row type of a value that is a scalar. -/
def inferType (v : Value) : Except TypeError RowType := v.inferKind.map .scalar

/-- The row type of a function's result: a scalar, or a list of two to four scalars. -/
def inferOutput (v : Value) : Except TypeError RowType :=
  match v with
  | .list items =>
    if maxArity < items.length then .error (.unsupportedArity items.length)
    else if items.length < 2 then .error (.notOffloadable v.typeName)
    else items.mapM inferKind >>= RowType.ofFields
  | v => v.inferType

end Value

namespace DataVector

/-- The kind of a vector's elements, if they are scalars of one kind. -/
def inferKind : DataVector → Except TypeError Kind
  | .int _ | .sequence _ => .ok .int
  | .double _ => .ok .double
  | .logical _ => .ok .boolean
  | .list _ => .error (.notOffloadable "list")

/-- The row type of a vector's elements. -/
def inferType (v : DataVector) : Except TypeError RowType := v.inferKind.map .scalar

/-- The type of the rows of a vector and its companions. -/
def inferRows (primary : DataVector) (companions : List DataVector) : Except TypeError RowType :=
  if maxArity < 1 + companions.length then .error (.unsupportedArity (1 + companions.length))
  else if companions.isEmpty then primary.inferType
  else (primary :: companions).mapM inferKind >>= RowType.ofFields

end DataVector

end TieredVectors
