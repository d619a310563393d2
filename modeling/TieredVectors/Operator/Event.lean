import TieredVectors.Executor.Basic
import TieredVectors.Function.Basic
import TieredVectors.Graph.Basic

/-!
# Events

What an operator does while it runs, in order: the calls of functions and the turns that it takes.
-/

namespace TieredVectors

/-- Where a call stands on its way to the device. -/
inductive Phase where
  | interpreted
  | tracePending
  | compiled
  | executing
  | complete
  | deoptimized
deriving DecidableEq, Repr

def Phase.name : Phase → String
  | .interpreted => "interpreted"
  | .tracePending => "trace-pending"
  | .compiled => "compiled"
  | .executing => "executing"
  | .complete => "complete"
  | .deoptimized => "deoptimized"

/-- Something that happens while an operator runs. -/
inductive Event where
  /-- A function's entry is called. -/
  | called (entry : EntryId) (args : List Value)
  | entered (phase : Phase)
  /-- The elements have no row type. -/
  | inputNotOffloadable (error : TypeError)
  /-- The first result has no row type. -/
  | outputNotOffloadable (error : TypeError)
  /-- A unit compiled earlier fits the call. -/
  | unitReused
  /-- A unit compiled earlier is for other types. -/
  | unitMismatch (unitInput callInput : RowType)
  /-- The function has been abandoned too often to be tried again. -/
  | deoptLimitReached (deopts : Nat)
  /-- A graph is about to be compiled. -/
  | graphShaped (graph : Graph)
  | compilationFailed (error : TierError)
  | compilationReported (error : TierError)
  /-- The kernel gave up on an element. -/
  | flagRaised (element : Int)
  /-- Running on the device was abandoned. -/
  | executionAbandoned (deopts : Nat) (reason : String)
  /-- Integer results became doubles. -/
  | resultsWidened
  /-- Results of several types became a list. -/
  | resultsMixed (type : RowType)
  | partialsCombined (chunks : Nat)
  | poolStarted (threads : Nat)
  | chainCleared (removed : Nat)

namespace Event

/-- The function that is called, if the event is a call. -/
def callee? : Event → Option FunctionId
  | .called entry _ => some entry.function
  | _ => none

/-- What a journal says of an event: a message and named details. Calls are not told. -/
def note? : Event → Option (String × List (String × String))
  | .called _ _ => none
  | .entered phase => some ("trigger state", [("state", phase.name)])
  | .inputNotOffloadable e => some ("input is not offloadable", [("error", e.report.message)])
  | .outputNotOffloadable e =>
    some ("result type is not offloadable", [("error", e.report.message)])
  | .unitReused => some ("compilation unit cache hit", [])
  | .unitMismatch unitInput callInput =>
    some ("cached unit does not match this call",
      [("unit_input", unitInput.text), ("call_input", callInput.text)])
  | .deoptLimitReached deopts =>
    some ("deopt limit reached, staying interpreted", [("deopts", toString deopts)])
  | .graphShaped graph => some ("shaped graph", [("graph", graph.text)])
  | .compilationFailed e =>
    some ("kernel compilation failed, continuing interpreted", [("error", e.report.message)])
  | .compilationReported e => some ("compile diagnostic", [("report", e.report.text)])
  | .flagRaised element => some ("kernel raised deopt flag", [("element", toString element)])
  | .executionAbandoned deopts reason =>
    some ("device execution abandoned, rerunning interpreted",
      [("deopts", toString deopts), ("reason", reason)])
  | .resultsWidened => some ("widened integer results to double", [])
  | .resultsMixed type =>
    some ("results do not share one type, returning a list", [("ty", type.text)])
  | .partialsCombined chunks =>
    some ("combining partial results", [("chunks", toString chunks)])
  | .poolStarted threads => some ("started worker pool", [("threads", toString threads)])
  | .chainCleared removed => some ("cleared composition chain", [("removed", toString removed)])

/-- How often a function is called among events. -/
def callCount (f : FunctionId) (events : List Event) : Nat :=
  events.countP fun e => e.callee? == some f

end Event

end TieredVectors
