import TieredVectors.RowType.Error
import TieredVectors.Value.Scalar

/-!
# Row types

A row is what one element of a computation reads or writes: a single scalar, or a tuple of two to
four of them. A `RowType` gives the kinds of its fields.
-/

namespace TieredVectors

/-- The greatest number of fields of a row. -/
def maxArity : Nat := 4

/-- Whether `n` fields make a tuple. -/
def IsTupleArity (n : Nat) : Prop := 2 ≤ n ∧ n ≤ maxArity

instance (n : Nat) : Decidable (IsTupleArity n) := inferInstanceAs (Decidable (_ ∧ _))

/-- The type of a row. -/
inductive RowType where
  | scalar (kind : Kind)
  | tuple (fields : List Kind) (arity : IsTupleArity fields.length)
deriving DecidableEq

namespace RowType

instance : Inhabited RowType := ⟨.scalar .int⟩

/-- The tuple type with the given fields, if they are two to four. -/
def ofFields (fields : List Kind) : Except TypeError RowType :=
  if maxArity < fields.length then .error (.unsupportedArity fields.length)
  else if h : IsTupleArity fields.length then .ok (.tuple fields h)
  else .error (.unsupportedData "a tuple of 2 to 4 fields" (toString fields.length ++ " field(s)"))

/-- The kinds of the fields, in order. -/
def kinds : RowType → List Kind
  | .scalar k => [k]
  | .tuple fields _ => fields

/-- The number of fields. -/
def width (t : RowType) : Nat := t.kinds.length

/-- Whether rows of this type are tuples. -/
def isTuple : RowType → Bool
  | .scalar _ => false
  | .tuple _ _ => true

/-- The kind of the only field of a scalar type. -/
def scalarKind? : RowType → Option Kind
  | .scalar k => some k
  | .tuple _ _ => none

/-- The name of a row type. -/
def text : RowType → String
  | .scalar k => k.name
  | .tuple fields _ =>
    "Tuple" ++ toString fields.length ++ "<" ++ ", ".intercalate (fields.map Kind.name) ++ ">"

theorem one_le_width (t : RowType) : 1 ≤ t.width := by
  cases t with
  | scalar k => simp [width, kinds]
  | tuple fields h =>
    have := h.1
    simp only [width, kinds]
    omega

theorem width_le (t : RowType) : t.width ≤ maxArity := by
  cases t with
  | scalar k => simp [width, kinds, maxArity]
  | tuple fields h => exact h.2

end RowType

end TieredVectors
