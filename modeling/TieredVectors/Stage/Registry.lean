import TieredVectors.Columns.Marshal
import TieredVectors.Function.Basic
import TieredVectors.Table

/-!
# Pending stages

A lazy operator registers a stage instead of running. A stage reads vectors or the result of an
earlier stage, its parent, so that stages form chains that may share their beginnings. A chain is
cleared once it has been executed; a stage from which another one still reads stays.
-/

namespace TieredVectors

/-- The number of a stage. -/
structure StageHandle where
  index : Nat
deriving DecidableEq, Repr, Inhabited

def StageHandle.text (h : StageHandle) : String := "composition#" ++ toString h.index

/-- What a stage does with its input. -/
inductive StageTask where
  | map
  | reduce (neutral : Value)

/-- Where the elements of a stage come from. -/
inductive StageInput where
  /-- Vectors given on registration, with their columns if their elements have a row type. -/
  | source (primary : DataVector) (companions : List DataVector) (columns : Option ColumnArray)
  /-- The result of another stage. -/
  | parent (stage : StageHandle) (companions : List DataVector)

namespace StageInput

/-- The stage that is read from, if any. -/
def parent? : StageInput → Option StageHandle
  | .source _ _ _ => none
  | .parent stage _ => some stage

/-- The vectors that accompany the elements. -/
def companions : StageInput → List DataVector
  | .source _ companions _ => companions
  | .parent _ companions => companions

/-- The columns made on registration. -/
def columns? : StageInput → Option ColumnArray
  | .source _ _ columns => columns
  | .parent _ _ => none

end StageInput

/-- A registered stage. -/
structure Stage where
  task : StageTask
  function : Function
  input : StageInput
  /-- The result for the first element of the input, if it has one. -/
  sample : Option Value := none
  /-- The type of that result. -/
  output : Option RowType := none
  /-- The result for all elements, once it is known. -/
  result : Option DataVector := none

/-- A stage whose result is not known; the type of its elements is that of the sample. -/
def Stage.ofSample (task : StageTask) (function : Function) (input : StageInput)
    (sample : Option Value) : Stage :=
  { task, function, input, sample, output := sample.bind fun v => v.inferOutput.toOption }

/-- The registered stages. -/
structure StageRegistry where
  pending : Table StageHandle Stage := ∅
  /-- For each function, the stage registered for it last. -/
  byFunction : Table FunctionId StageHandle := ∅
  /-- The stage registered last, while it is there. -/
  current : Option StageHandle := none
  /-- The number of the latest stage. -/
  last : Nat := 0
deriving Inhabited

namespace StageRegistry

/-- The stage of a handle, while it is registered. -/
def get? (r : StageRegistry) (handle : StageHandle) : Option Stage := r.pending.get? handle

/-- The number of registered stages. -/
def size (r : StageRegistry) : Nat := r.pending.size

/-- Register a stage and make it the current one. -/
def add (r : StageRegistry) (stage : Stage) : StageHandle × StageRegistry :=
  let handle : StageHandle := ⟨r.last + 1⟩
  (handle,
    { pending := r.pending.insert handle stage
      byFunction := r.byFunction.insert stage.function.id handle
      current := some handle
      last := handle.index })

/-- The stage registered last for a function. -/
def latestFor? (r : StageRegistry) (f : FunctionId) : Option (StageHandle × Stage) := do
  let handle ← r.byFunction.get? f
  let stage ← r.get? handle
  return (handle, stage)

/-- Keep the result of a stage. -/
def memoize (r : StageRegistry) (handle : StageHandle) (result : DataVector) : StageRegistry :=
  { r with pending := r.pending.modify handle fun s => { s with result := some result } }

/-- Drop every stage. Numbers go on from where they were. -/
def clear (r : StageRegistry) : StageRegistry := { last := r.last }

/-- Drop one stage, and what refers to it. -/
def remove (r : StageRegistry) (handle : StageHandle) : StageRegistry :=
  { r with
    pending := r.pending.erase handle
    byFunction := r.byFunction.filterValues (· != handle)
    current := if r.current = some handle then none else r.current }

/-- Whether a registered stage reads from the given one. -/
def hasChild (r : StageRegistry) (parent : StageHandle) : Bool :=
  r.pending.values.any fun s => s.input.parent? == some parent

/-- Drop a stage and its ancestors up to the first from which another stage still reads. The result
counts the stages dropped. -/
def clearChain (r : StageRegistry) (handle : StageHandle) : Nat × StageRegistry :=
  match _h : r.get? handle with
  | none => (0, r)
  | some stage =>
    let rest := r.remove handle
    match stage.input.parent? with
    | none => (1, rest)
    | some parent =>
      if rest.hasChild parent then (1, rest)
      else
        let (removed, r) := rest.clearChain parent
        (removed + 1, r)
termination_by r.size
decreasing_by exact Table.size_erase_lt _h

end StageRegistry

end TieredVectors
