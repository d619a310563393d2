import TieredVectors.Report
import TieredVectors.Graph.Node

/-!
# Compile errors

Why a graph cannot become a kernel.
-/

namespace TieredVectors

/-- A failure to compile a graph. -/
inductive CompileError where
  /-- The node means something to the interpreter only. -/
  | interpreterOnly (node : NodeId) (name : String)
  /-- The node is not of the kind that its reader needs. -/
  | typeMismatch (node : NodeId) (expected found : String)
  /-- The row has no such field. -/
  | paramOutOfRange (field : Nat) (input : String)
  /-- The slot of the captured scope is missing, or holds nothing that can be read there. -/
  | scopeSlot (slot : Nat)
  /-- The graph has not as many outputs as its rows have fields. -/
  | outputArity (expected found : Nat)
  /-- The node is read but has no value. -/
  | noValue (node : NodeId)
  /-- The node refers to one that does not come before it. -/
  | forwardReference (node input : NodeId)
deriving DecidableEq, Repr

/-- What is told about a compile error. -/
def CompileError.report : CompileError → Report
  | .interpreterOnly node name =>
    { message := "node " ++ node.text ++ " (" ++ name ++ ") cannot run on the device"
      code := "E5001"
      help := some "interpreter-only nodes must be removed by the shaping passes" }
  | .typeMismatch node expected found =>
    { message := "node " ++ node.text ++ ": expected " ++ expected ++ ", found " ++ found
      code := "E5002" }
  | .paramOutOfRange field input =>
    { message := "parameter " ++ toString field ++ " is out of range for input " ++ input
      code := "E5003" }
  | .scopeSlot slot =>
    { message := "scope slot " ++ toString slot ++ " is missing or not offloadable"
      code := "E5004" }
  | .outputArity expected found =>
    { message := "graph produces " ++ toString found ++ " output(s), kernel needs " ++
        toString expected
      code := "E5005" }
  | .noValue node =>
    { message := "node " ++ node.text ++ " produces no value"
      code := "E5006" }
  | .forwardReference node input =>
    { message := "node " ++ node.text ++ " refers to " ++ input.text ++
        ", which is not defined before it"
      code := "E5007" }

end TieredVectors
