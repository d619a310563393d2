import TieredVectors.RowType.Basic
import TieredVectors.RowType.Error
import TieredVectors.Value.DataVector

/-!
# Zipped vectors

A vector and its companions, read element by element: the arguments of one call are the elements at
one index.
-/

namespace TieredVectors

/-- A vector with companions of the same length. -/
structure Zipped where
  primary : DataVector
  companions : List DataVector
  /-- Together they fit into a row. -/
  arity_le : 1 + companions.length ≤ maxArity
  /-- All companions are as long as the vector. -/
  length_eq : ∀ c ∈ companions, c.length = primary.length

namespace Zipped

/-- The first of some vectors that has not the given length, counted from `position` on. -/
def mismatch? (length : Nat) : Nat → List DataVector → Option TypeError
  | _, [] => none
  | position, c :: cs =>
    if c.length = length then mismatch? length (position + 1) cs
    else some (.lengthMismatch position length c.length)

theorem length_eq_of_mismatch?_eq_none {length position : Nat} {cs : List DataVector}
    (h : mismatch? length position cs = none) : ∀ c ∈ cs, c.length = length := by
  induction cs generalizing position with
  | nil => intro c hc; cases hc
  | cons c cs ih =>
    unfold mismatch? at h
    split at h
    next hc =>
      intro d hd
      rcases List.mem_cons.1 hd with rfl | hd
      · exact hc
      · exact ih h d hd
    next => cases h

/-- Zip a vector with companions. -/
def make (primary : DataVector) (companions : List DataVector) : Except TypeError Zipped :=
  if arity_le : 1 + companions.length ≤ maxArity then
    match h : mismatch? primary.length 1 companions with
    | some e => .error e
    | none =>
      .ok { primary, companions, arity_le, length_eq := length_eq_of_mismatch?_eq_none h }
  else .error (.unsupportedArity (1 + companions.length))

/-- The number of elements. -/
def length (z : Zipped) : Nat := z.primary.length

/-- The arguments for the element at an index. -/
def arguments (z : Zipped) (index : Nat) : List Value :=
  (z.primary :: z.companions).filterMap fun v => v.get? index

end Zipped

end TieredVectors
