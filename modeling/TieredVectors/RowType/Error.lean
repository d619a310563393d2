import TieredVectors.Report

/-!
# Type errors

Why data cannot be given a row type or brought into columns.
-/

namespace TieredVectors

/-- A failure to type or to arrange data. -/
inductive TypeError where
  /-- A value of type `found` has no row type. -/
  | notOffloadable (found : String)
  /-- There are too many vectors or fields for a row. -/
  | unsupportedArity (arity : Nat)
  /-- The vector at `position` has not the length of the first one. -/
  | lengthMismatch (position expected found : Nat)
  /-- Data of one type stand where another type is needed. -/
  | unsupportedData (expected found : String)
  /-- The element at `index` has another type than its column. -/
  | elementType (index : Nat) (expected found : String)
deriving DecidableEq, Repr

namespace TypeError

/-- Whether a call can still be completed without leaving the interpreter: only data that have no
row type at all are left there without complaint. -/
def isRecoverable : TypeError → Bool
  | .notOffloadable _ => true
  | _ => false

/-- What is told about a type error. -/
def report : TypeError → Report
  | .notOffloadable found =>
    { message := "cannot infer an offloadable type for " ++ found ++ " value"
      code := "E4001"
      help := some "only Int, Double and Boolean scalars can be offloaded" }
  | .unsupportedArity arity =>
    { message := "tuple arity " ++ toString arity ++ " is not supported"
      code := "E4002"
      help := some "tuples may combine at most 4 vectors" }
  | .lengthMismatch position expected found =>
    { message := "companion vector " ++ toString position ++ " has " ++ toString found ++
        " elements, expected " ++ toString expected
      code := "E4003" }
  | .unsupportedData expected found =>
    { message := "data type not supported: expected " ++ expected ++ ", found " ++ found
      code := "E4004" }
  | .elementType index expected found =>
    { message := "element " ++ toString index ++ " is " ++ found ++ ", expected " ++ expected
      code := "E4005" }

end TypeError

end TieredVectors
