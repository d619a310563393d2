import TieredVectors.Executor.Basic
import TieredVectors.Function.Basic
import TieredVectors.Options
import TieredVectors.Stage.Registry

/-!
# Errors of operators

Everything that can make an operator fail.
-/

namespace TieredVectors

/-- A failure of an operator. -/
inductive OperatorError where
  /-- The function raised an error. -/
  | eval (error : EvalError)
  | type (error : TypeError)
  | tier (error : TierError)
  | config (error : ConfigError)
  /-- There is no such stage, or it has been executed. -/
  | unknownStage (stage : StageHandle)
  /-- The function does not take as many arguments as it would be given. -/
  | argumentCount (expected found : Nat)
  /-- The workers could not be started. -/
  | workerPool (threads : Nat) (reason : String)
deriving DecidableEq, Repr

namespace OperatorError

/-- Whether a data or device error could have been left to the interpreter; other errors are neither
recoverable nor not. -/
def isRecoverable? : OperatorError → Option Bool
  | .type e => some e.isRecoverable
  | .tier e => some e.isRecoverable
  | _ => none

/-- What is told about the failure. -/
def report : OperatorError → Report
  | .eval e => e.report
  | .type e => e.report
  | .tier e => e.report
  | .config e => e.report
  | .unknownStage stage =>
    { message := "no pending composition with handle " ++ toString stage.index
      code := "E6002"
      help := some "compositions are single-use; a chain is cleared once executed" }
  | .argumentCount expected found =>
    { message := "function takes " ++ toString expected ++
        " argument(s) but the operator supplies " ++ toString found
      code := "E6003" }
  | .workerPool threads reason =>
    { message := "failed to start a worker pool of " ++ toString threads ++ " thread(s): " ++ reason
      code := "E6004" }

end OperatorError

end TieredVectors
