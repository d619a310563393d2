import TieredVectors.Columns.Basic
import TieredVectors.Device.Launch
import TieredVectors.Executor.CompiledUnit

/-!
# Executors

An executor runs one compiled unit: it copies an array to the device, launches the kernel and copies
the result back. It keeps its buffers from one launch to the next and makes new ones only when the
number of rows changes. Each step gives the executor and the device after it, whether it succeeds or
fails.

One attempt to compute a call on the device copies the rows in, launches, copies the results out,
and only then looks at the flag. Results under a raised flag are dropped.
-/

namespace TieredVectors

/-- A failure on the way to the device, on it, or on the way back. -/
inductive TierError where
  | compile (error : CompileError)
  | device (error : DeviceError)
  | type (error : TypeError)
deriving DecidableEq, Repr

namespace TierError

/-- Whether the call can still be completed by the interpreter. -/
def isRecoverable : TierError → Bool
  | .compile _ | .device _ => true
  | .type e => e.isRecoverable

/-- What is told about the failure. -/
def report : TierError → Report
  | .compile e => e.report
  | .device e => e.report
  | .type e => e.report

end TierError

/-- A compiled unit and its buffers. -/
structure Executor where
  unit : CompiledUnit
  /-- What the kernel is given of the captured scope. -/
  scope : Scope
  inputs : List Buffer := []
  outputs : List Buffer := []
  /-- The buffer of the flag; there is one once all buffers have been made. -/
  deopt : Option Buffer := none
  /-- The number of rows that the buffers are made for. -/
  allocatedLength : Nat := 0
  /-- The number of rows copied in last. -/
  length : Nat := 0

/-- The executors by trace. -/
abbrev ExecutorCache := Table TraceId Executor

namespace Executor

/-- A new executor, which has no buffers. -/
def ofUnit (unit : CompiledUnit) : Executor := { unit, scope := unit.boundScope }

/-- All buffers that the executor holds. -/
def buffers (e : Executor) : List Buffer := e.inputs ++ e.outputs ++ e.deopt.toList

/-- Give all buffers back. -/
def release (e : Executor) (d : Device) : Executor × Device :=
  ({ e with inputs := [], outputs := [], deopt := none, allocatedLength := 0 },
    d.releaseAll e.buffers)

/-- Have buffers for `length` rows. If one of them does not fit, those made before it stay with the
executor until it makes buffers again or goes away. -/
def prepare (e : Executor) (d : Device) (length : Nat) :
    Except DeviceError Unit × Executor × Device :=
  if e.deopt.isSome && e.allocatedLength == length then (.ok (), e, d)
  else
    let (e, d) := e.release d
    match d.allocateAll length e.unit.input.kinds with
    | (.error err, inputs, d) => (.error err, { e with inputs }, d)
    | (.ok (), inputs, d) =>
      match d.allocateAll length e.unit.output.kinds with
      | (.error err, outputs, d) => (.error err, { e with inputs, outputs }, d)
      | (.ok (), outputs, d) =>
        match d.allocate .int 1 with
        | .error err => (.error err, { e with inputs, outputs }, d)
        | .ok (b, d) =>
          (.ok (), { e with inputs, outputs, deopt := some b, allocatedLength := length }, d)

/-- The buffer of the flag, once there is one. -/
def flagBuffer (e : Executor) : Except TierError Buffer :=
  match e.deopt with
  | some b => .ok b
  | none => .error (.device (.launch "no input has been copied to the device"))

/-- Copy rows to the device and clear the flag. -/
def copyIn (e : Executor) (d : Device) (input : ColumnArray) :
    Except TierError Unit × Executor × Device :=
  if e.unit.input ≠ input.type then
    (.error (.type (.unsupportedData e.unit.input.text input.type.text)), e, d)
  else
    match e.prepare d input.length with
    | (.error err, e, d) => (.error (.device err), e, d)
    | (.ok (), e, d) =>
      match d.writeAll (e.inputs.zip input.columns) with
      | (.error err, d) => (.error (.device err), e, d)
      | (.ok (), d) =>
        match e.flagBuffer with
        | .error err => (.error err, e, d)
        | .ok flag =>
          match d.write flag (.int [0]) with
          | .error err => (.error (.device err), e, d)
          | .ok d => (.ok (), { e with length := input.length }, d)

/-- Launch the kernel over the rows copied in last, and give the flag. -/
def run (e : Executor) (d : Device) : Except TierError Int32 × Device :=
  match e.flagBuffer with
  | .error err => (.error err, d)
  | .ok deopt =>
    let launch : Launch :=
      { kernel := e.unit.kernel
        inputs := e.inputs
        outputs := e.outputs
        deopt
        scope := e.scope
        length := e.length }
    match d.launch launch with
    | (.error err, d) => (.error (.device err), d)
    | (.ok flag, d) => (.ok flag, d)

/-- What buffers hold, up to `length` elements each. -/
def readAll (d : Device) (length : Nat) : List Buffer → Except DeviceError (List Column)
  | [] => .ok []
  | b :: bs => do
    let c ← d.read b
    let cs ← readAll d length bs
    return c.take length :: cs

/-- Copy the output rows back. -/
def copyOut (e : Executor) (d : Device) : Except TierError ColumnArray :=
  match readAll d e.length e.outputs with
  | .error err => .error (.device err)
  | .ok columns =>
    match ColumnArray.make e.unit.output columns with
    | .error err => .error (.type err)
    | .ok a => .ok a

/-- Whether the flag says that the outputs are not the kernel's results for all rows. -/
def flagRaised (e : Executor) (d : Device) : Except TierError Bool := do
  let b ← e.flagBuffer
  match d.read b with
  | .error err => throw (.device err)
  | .ok c => return c.get? 0 != some (.int 0)

/-- The description of an executor. -/
def text (e : Executor) : String :=
  "Executor \x7b kernel: KernelId(" ++ toString e.unit.kernel.id.index ++ "), allocated_len: " ++
    toString e.allocatedLength ++ ", len: " ++ toString e.length ++ " \x7d"

end Executor

/-! ## Attempts -/

/-- How an attempt went, and what it left behind. -/
structure Attempt where
  /-- The results; none if the kernel raised the flag. -/
  result : Except TierError (Option ColumnArray)
  /-- The flag that the launch gave, if there was a launch. -/
  flag : Option Int32
  executor : Executor
  device : Device

namespace Executor

/-- The results on the device, unless the flag is raised. -/
def collect (e : Executor) (d : Device) : Except TierError (Option ColumnArray) := do
  let result ← e.copyOut d
  let raised ← e.flagRaised d
  return if raised then none else some result

/-- Compute the rows of an array on the device. -/
def attempt (e : Executor) (d : Device) (input : ColumnArray) : Attempt :=
  match e.copyIn d input with
  | (.error err, e, d) => { result := .error err, flag := none, executor := e, device := d }
  | (.ok (), e, d) =>
    match e.run d with
    | (.error err, d) => { result := .error err, flag := none, executor := e, device := d }
    | (.ok flag, d) => { result := e.collect d, flag := some flag, executor := e, device := d }

end Executor

end TieredVectors
