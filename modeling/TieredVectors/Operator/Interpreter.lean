import TieredVectors.Columns.Marshal
import TieredVectors.Operator.Context
import TieredVectors.Operator.Zipped

/-!
# Interpreting

Calling a function element by element. The interpreter can do every call that the device can; the
only failures are errors of the function itself.

The results become a vector of the type expected of them if they all have it. Integers and doubles
together become doubles; anything else becomes a list.
-/

namespace TieredVectors

namespace Entry

/-- Call a function. -/
def call (entry : Entry) (args : List Value) : Action Value := do
  Action.tell [.called entry.id args]
  Action.ofExcept .eval (entry.body.call args)

/-- Call a function for the elements from index `first` on, as many as asked for, in order. -/
def callFrom (entry : Entry) (z : Zipped) (first : Nat) : Nat → Action (List Value)
  | 0 => return []
  | count + 1 => do
    let v ← entry.call (z.arguments first)
    let vs ← entry.callFrom z (first + 1) count
    return v :: vs

/-- Call a function for each element, in order. -/
def callAll (entry : Entry) (z : Zipped) : Action (List Value) := entry.callFrom z 0 z.length

/-- Fold the elements from index `first` on, as many as asked for, from the left. The accumulator is
the first argument. -/
def foldFrom (entry : Entry) (z : Zipped) (acc : Value) (first : Nat) : Nat → Action Value
  | 0 => return acc
  | count + 1 => do
    let acc ← entry.call (acc :: z.arguments first)
    entry.foldFrom z acc (first + 1) count

/-- Fold all elements from the left. -/
def fold (entry : Entry) (z : Zipped) (acc : Value) : Action Value :=
  entry.foldFrom z acc 0 z.length

/-- Fold values from the left. -/
def foldValues (entry : Entry) (acc : Value) : List Value → Action Value
  | [] => return acc
  | v :: vs => do
    let acc ← entry.call [acc, v]
    entry.foldValues acc vs

end Entry

/-! ## Results -/

namespace DataVector

/-- A vector of results, and what there is to tell about it. -/
def ofResults (values : List Value) : Option RowType → DataVector × List Event
  | none => (if values.isEmpty then .double [] else .list values, [])
  | some type =>
    match ofValues type values with
    | .ok v => (v, [])
    | .error _ =>
      if type = .scalar .int then
        match ofValues (.scalar .double) values with
        | .ok v => (v, [.resultsWidened])
        | .error _ => (.list values, [.resultsMixed type])
      else (.list values, [.resultsMixed type])

end DataVector

namespace Action

/-- Give results as a vector. -/
def results (values : List Value) (type : Option RowType) : Action DataVector := do
  let (v, events) := DataVector.ofResults values type
  tell events
  return v

/-- Give results as a vector that is typed by the first of them. -/
def resultsByFirst (values : List Value) : Action DataVector :=
  results values (values.head?.bind fun v => v.inferOutput.toOption)

end Action

end TieredVectors
