import TieredVectors.Device.Basic
import TieredVectors.Kernel.Basic

/-!
# Launches

A launch runs a kernel over the rows of its input buffers. All rows are computed before anything is
written, so that inputs and outputs may share buffers. The first row that is given up ends the
computation; the rows before it are still written, and the flag buffer then holds its position
counted from one. A flag of zero means that the outputs are the kernel's results for all rows.
-/

namespace TieredVectors

/-- What a launch needs. -/
structure Launch where
  kernel : KernelHandle
  /-- One buffer per field of the input row. -/
  inputs : List Buffer
  /-- One buffer per field of the output row. -/
  outputs : List Buffer
  /-- A buffer of one word for the flag. -/
  deopt : Buffer
  scope : Scope
  /-- The number of rows. -/
  length : Nat

namespace Launch

/-- One scalar on its way into a buffer; there is none if the row had too few fields. -/
structure Store where
  buffer : Buffer
  row : Nat
  value : Option Scalar

/-- The output rows from position `i` on, as many as asked for, up to the first one that is given
up, and the position of that one. -/
def compute (kernel : Kernel) (scope : Scope) (columns : List Column) (length i : Nat) :
    Nat → Except DeviceError (List (List Scalar) × Option Nat)
  | 0 => .ok ([], none)
  | rest + 1 =>
    match columns.mapM (·.get? i) with
    | none => .error (.launch ("input buffers are shorter than " ++ toString length))
    | some row =>
      match kernel.run row scope with
      | .error _ => .ok ([], some i)
      | .ok out => do
        let (outs, stop) ← compute kernel scope columns length (i + 1) rest
        return (out :: outs, stop)

/-- The stores of output rows numbered from `i` on, row by row. -/
def stores (outputs : List Buffer) : Nat → List (List Scalar) → List Store
  | _, [] => []
  | i, row :: rest =>
    (outputs.zipIdx.map fun (b, field) => ⟨b, i, row[field]?⟩) ++ stores outputs (i + 1) rest

/-- The flag of a launch: one more than the position of the row that was given up, as far as a word
reaches, or one if the device forces it. -/
def flag (force : Bool) : Option Nat → Int32
  | some i => (Word.ofInt? (i + 1)).getD Int32.maxValue
  | none => if force then 1 else 0

end Launch

namespace Device

/-- The text of a field of an output row, if there is one. -/
def fieldText : Option Scalar → String
  | some s => "Some(" ++ s.text ++ ")"
  | none => "None"

/-- Put one scalar into a buffer. -/
def store (d : Device) (length : Nat) (s : Launch.Store) : Except DeviceError Device := do
  let held ← d.read s.buffer
  match s.value >>= held.set? s.row with
  | some c => return { d with buffers := d.buffers.modify s.buffer.id fun _ => c }
  | none =>
    throw (.bufferLayout s.buffer.id.index (s.buffer.kind.name ++ " x " ++ toString length)
      (fieldText s.value ++ " at " ++ toString s.row))

/-- Put scalars into buffers, in order, up to the first that fails. -/
def storeAll (d : Device) (length : Nat) : List Launch.Store → Except DeviceError Unit × Device
  | [] => (.ok (), d)
  | s :: rest =>
    match d.store length s with
    | .error e => (.error e, d)
    | .ok d => storeAll d length rest

/-- Put a flag into its buffer. -/
def raise (d : Device) (b : Buffer) (flag : Int32) : Except DeviceError Device := do
  let held ← d.read b
  match held.set? 0 (.int flag) with
  | some c => return { d with buffers := d.buffers.modify b.id fun _ => c }
  | none => throw (.bufferLayout b.id.index "Int x 1" held.layoutText)

/-- Launch a kernel and give the flag. -/
def launch (d : Device) (l : Launch) : Except DeviceError Int32 × Device :=
  match l.kernel.kernel? with
  | none =>
    (.error (.launch (l.kernel.id.text ++ " was not built for the host device")), d)
  | some kernel =>
    let d := { d with launches := d.launches + 1 }
    let computed := do
      let columns ← l.inputs.mapM d.read
      Launch.compute kernel l.scope columns l.length 0 l.length
    match computed with
    | .error e => (.error e, d)
    | .ok (rows, stop) =>
      match d.storeAll l.length (Launch.stores l.outputs 0 rows) with
      | (.error e, d) => (.error e, d)
      | (.ok (), d) =>
        let flag := Launch.flag d.forceDeopt stop
        match d.raise l.deopt flag with
        | .error e => (.error e, d)
        | .ok d => (.ok flag, d)

end Device

end TieredVectors
