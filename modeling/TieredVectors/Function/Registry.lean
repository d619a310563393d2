import TieredVectors.Function.Basic
import TieredVectors.RowType.Inference
import TieredVectors.Table

/-!
# What is known of functions

The registry keeps one record per function: the entry that is called for it, the first result seen,
how often running it on the device was abandoned, and what has been tried. A specialization starts
the record over with a new entry.
-/

namespace TieredVectors

/-- What is known of a function. -/
structure FunctionRecord where
  /-- What is called for the function. -/
  entry : Entry
  /-- The first result seen. -/
  sample : Option Value := none
  /-- The type of the first result seen. -/
  output : Option RowType := none
  /-- How often running it on the device was abandoned. -/
  deopts : Nat := 0
  /-- Whether it has been proposed for the device. -/
  candidate : Bool := false
  /-- Whether a specialization has been tried. -/
  specializationTried : Bool := false

/-- Whether the function runs a specialized body. -/
def FunctionRecord.isSpecialized (r : FunctionRecord) : Bool := !r.entry.isOwn

/-- The records of functions. -/
structure FunctionRegistry where
  records : Table FunctionId FunctionRecord := ∅
deriving Inhabited

namespace FunctionRegistry

/-- The record of a function, if it has been seen. -/
def get? (r : FunctionRegistry) (f : FunctionId) : Option FunctionRecord := r.records.get? f

/-- The number of functions seen. -/
def size (r : FunctionRegistry) : Nat := r.records.size

/-- Change the record of a function that has been seen. -/
def modify (r : FunctionRegistry) (f : FunctionId) (change : FunctionRecord → FunctionRecord) :
    FunctionRegistry :=
  { r with records := r.records.modify f change }

/-- The entry of a function, which is its own when it is seen for the first time. -/
def lookup (r : FunctionRegistry) (f : Function) : Entry × FunctionRegistry :=
  match r.get? f.id with
  | some record => (record.entry, r)
  | none => (f.ownEntry, { r with records := r.records.insert f.id { entry := f.ownEntry } })

/-- Give a function a new entry and start its record over. -/
def update (r : FunctionRegistry) (f : Function) (body : Body) : Entry × FunctionRegistry :=
  let revision := ((r.get? f.id).map (·.entry.id.revision)).getD 0
  let entry : Entry := { id := { function := f.id, revision := revision + 1 }, body }
  (entry, { r with records := r.records.insert f.id { entry, specializationTried := true } })

/-- Note a result and its type, unless one has been noted already. -/
def recordSample (r : FunctionRegistry) (f : FunctionId) (sample : Value)
    (output : Option RowType) : FunctionRegistry :=
  r.modify f fun record =>
    if record.sample.isNone then { record with sample := some sample, output } else record

/-- Count one more abandoned run; the result is the new count. -/
def recordDeopt (r : FunctionRegistry) (f : FunctionId) : Nat × FunctionRegistry :=
  match r.get? f with
  | some record =>
    (record.deopts + 1, r.modify f fun record => { record with deopts := record.deopts + 1 })
  | none => (0, r)

/-- Propose a function for the device; true only the first time. -/
def markCandidate (r : FunctionRegistry) (f : FunctionId) : Bool × FunctionRegistry :=
  match r.get? f with
  | some record =>
    if record.candidate then (false, r)
    else (true, r.modify f fun record => { record with candidate := true })
  | none => (false, r)

/-- Whether a specialization of the function may still be tried. -/
def awaitsSpecialization (r : FunctionRegistry) (f : FunctionId) : Bool :=
  (r.get? f).any fun record => !record.specializationTried

/-- Note that a specialization of the function has been tried. -/
def markSpecializationTried (r : FunctionRegistry) (f : FunctionId) : FunctionRegistry :=
  r.modify f fun record => { record with specializationTried := true }

end FunctionRegistry

end TieredVectors
