import TieredVectors.Operator.Pool
import TieredVectors.Operator.Tiering

/-!
# Operators

Apply a function to every element of a vector, or fold a vector with one. `map`, `apply` and
`terminalReduce` compute at once; `pendingMap` and `reduce` register a stage, which `execute`
computes together with all stages that it reads from. A vector may have companions, whose elements
are passed along.
-/

namespace TieredVectors

/-- What an operator reads: a vector, or the result of a stage. -/
inductive Operand where
  | vector (v : DataVector)
  | pending (stage : StageHandle)

namespace Operator

/-- A function must take as many arguments as it will be given. -/
def checkArity (f : Function) (supplied : Nat) : Action Unit :=
  if f.arity = supplied then pure ()
  else Action.fail (.argumentCount f.arity supplied)

/-- A vector with its companions. -/
def zip (primary : DataVector) (companions : List DataVector) : Action Zipped :=
  Action.ofExcept .type (Zipped.make primary companions)

/-- Call a function for each element, on a pool or through the tiers. -/
def mapVector (f : Function) (x : DataVector) (companions : List DataVector)
    (columns : Option ColumnArray) : Action DataVector := do
  let z ← zip x companions
  let c ← Action.get
  match c.options.execution with
  | .pool threads =>
    let entry ← Action.lookup f
    let _ ← Action.pool threads
    let values ← Pool.callAll entry z
    Action.resultsByFirst values
  | .offload =>
    let outcome ← Tiering.run f z columns
    outcome.toVector

/-- Fold the elements with a function; the result is a vector of one element. -/
def reduceVector (f : Function) (x : DataVector) (companions : List DataVector) (neutral : Value)
    (type : Option RowType) : Action DataVector := do
  let z ← zip x companions
  let entry ← Action.lookup f
  let c ← Action.get
  let value ←
    match c.options.execution with
    | .pool threads =>
      if 1 < threads then do
        let size ← Action.pool threads
        Pool.fold size entry z neutral
      else entry.fold z neutral
    | .offload => entry.fold z neutral
  Action.results [value] (type <|> value.inferOutput.toOption)

/-- Compute a stage from its elements. -/
def computeStage (stage : Stage) (x : DataVector) : Action DataVector :=
  match stage.task with
  | .map => mapVector stage.function x stage.input.companions stage.input.columns?
  | .reduce neutral =>
    reduceVector stage.function x stage.input.companions neutral stage.output

/-- The result of a stage, which is computed, and kept, if it is not known yet; stages that it reads
from come first. A stage reads only from stages registered before it. -/
def materialize (handle : StageHandle) : Action DataVector := do
  let c ← Action.get
  match c.stages.get? handle with
  | none => Action.fail (.unknownStage handle)
  | some stage =>
    match stage.result with
    | some result => return result
    | none =>
      let x ←
        match stage.input with
        | .source primary _ _ => pure primary
        | .parent parent _ =>
          if _h : parent.index < handle.index then materialize parent
          else Action.fail (.unknownStage parent)
      let result ← computeStage stage x
      Action.modify fun c => { c with stages := c.stages.memoize handle result }
      return result
termination_by handle.index

/-- The elements of a stage that is not registered yet. -/
def stageElements (stage : Stage) : Action DataVector :=
  match stage.input with
  | .source primary _ _ => return primary
  | .parent parent _ => materialize parent

/-- The first element that a stage will read, if that is known. -/
def firstElement (input : StageInput) : Action (Option Value) := do
  match input with
  | .source primary _ _ => return primary.get? 0
  | .parent parent _ =>
    let c ← Action.get
    match c.stages.get? parent with
    | some stage => return stage.sample
    | none => Action.fail (.unknownStage parent)

/-- The result of a stage for the first element that it will read, if that is known. -/
def sample (task : StageTask) (f : Function) (input : StageInput) : Action (Option Value) := do
  match ← firstElement input with
  | none => return none
  | some first =>
    let accumulator :=
      match task with
      | .map => []
      | .reduce neutral => [neutral]
    let companions := input.companions.filterMap fun c => c.get? 0
    let entry ← Action.lookup f
    some <$> entry.call (accumulator ++ first :: companions)

/-- Register a stage. If stages are computed eagerly it is computed before it is registered. -/
def register (task : StageTask) (f : Function) (input : StageInput) : Action StageHandle := do
  let sample ← sample task f input
  let stage := Stage.ofSample task f input sample
  let c ← Action.get
  let stage ←
    match c.options.stages with
    | .deferred => pure stage
    | .eager => do
      let x ← stageElements stage
      let result ← computeStage stage x
      pure { stage with result := some result }
  Action.update fun c =>
    let (handle, stages) := c.stages.add stage
    (handle, { c with stages })

/-- Clear the chain that ends with a stage. -/
def clearChain (handle : StageHandle) : Action Unit := do
  let removed ← Action.update fun c =>
    let (removed, stages) := c.stages.clearChain handle
    (removed, { c with stages })
  Action.tell [.chainCleared removed]

/-- Compute the chain that ends with a stage, and clear it whether or not that succeeds. -/
def execute (handle : StageHandle) : Action DataVector :=
  (materialize handle).thenAlways (clearChain handle)

/-- Call a function for each element of a vector, now, or for each element of a stage's result, when
that is executed. -/
def map (x : Operand) (f : Function) (companions : List DataVector) : Action Operand := do
  checkArity f (1 + companions.length)
  match x with
  | .vector v => .vector <$> mapVector f v companions none
  | .pending parent => .pending <$> register .map f (.parent parent companions)

/-- Call a function for each element of a vector with the given number of workers. -/
def apply (x : DataVector) (f : Function) (workers : Nat) (companions : List DataVector) :
    Action DataVector := do
  checkArity f (1 + companions.length)
  let z ← zip x companions
  let entry ← Action.lookup f
  let values ←
    if workers ≤ 1 then entry.callAll z
    else do
      let _ ← Action.pool workers
      Pool.callAll entry z
  Action.resultsByFirst values

/-- Fold a vector, or the result of a chain, which is executed, with a function. -/
def terminalReduce (x : Operand) (f : Function) (neutral : Value) (companions : List DataVector) :
    Action DataVector := do
  checkArity f (2 + companions.length)
  let x ←
    match x with
    | .vector v => pure v
    | .pending handle => execute handle
  reduceVector f x companions neutral none

/-- The elements of zipped vectors as columns, if they have a row type. -/
def snapshot (z : Zipped) : Action (Option ColumnArray) :=
  match z.primary.inferRows z.companions with
  | .ok type =>
    some <$> Action.ofExcept .type (ColumnArray.ofVectors type z.primary z.companions)
  | .error e => if e.isRecoverable then return none else Action.fail (.type e)

/-- Register a stage that calls a function for each element of a vector. -/
def pendingMap (x : DataVector) (f : Function) (companions : List DataVector) :
    Action StageHandle := do
  checkArity f (1 + companions.length)
  let z ← zip x companions
  let columns ← snapshot z
  register .map f (.source x companions columns)

/-- Register a stage that folds a vector, or the result of another stage, with a function. -/
def reduce (x : Operand) (f : Function) (neutral : Value) (companions : List DataVector) :
    Action StageHandle := do
  checkArity f (2 + companions.length)
  let input ←
    match x with
    | .vector v => do
      let _ ← zip v companions
      pure (.source v companions none)
    | .pending parent => pure (.parent parent companions)
  register (.reduce neutral) f input

end Operator

end TieredVectors
