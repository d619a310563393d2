import TieredVectors.Columns.Column
import TieredVectors.Table

/-!
# Devices

A device holds buffers, each a column of fixed kind and length, within an optional memory capacity.
Buffers are numbered in the order of allocation and numbers are never used again. A handle carries
the kind and the length with which it was made; requests go by the number alone.

Allocation and writing either give the device after the request or leave it as it was.
-/

namespace TieredVectors

/-- A failure of a device. -/
inductive DeviceError where
  /-- More memory was requested than is free. -/
  | outOfMemory (requested available : Nat)
  /-- There is no such buffer. -/
  | unknownBuffer (id : Nat)
  /-- A buffer and the data for it are not alike. -/
  | bufferLayout (id : Nat) (expected found : String)
  /-- A kernel could not be launched. -/
  | launch (reason : String)
deriving DecidableEq, Repr

/-- What is told about a device error. -/
def DeviceError.report : DeviceError → Report
  | .outOfMemory requested available =>
    { message := "device out of memory: requested " ++ toString requested ++ " bytes, " ++
        toString available ++ " available"
      code := "E5101" }
  | .unknownBuffer id =>
    { message := "unknown device buffer " ++ toString id
      code := "E5102" }
  | .bufferLayout id expected found =>
    { message := "buffer " ++ toString id ++ " holds " ++ found ++ ", expected " ++ expected
      code := "E5103" }
  | .launch reason =>
    { message := "kernel launch failed: " ++ reason
      code := "E5104" }

/-- Bytes of one element of the given kind. -/
def Kind.byteSize : Kind → Nat
  | .int => 4
  | .double => 8
  | .boolean => 1

namespace Column

/-- Bytes that a column takes up in a buffer, which holds one element per row. -/
def byteSize (c : Column) : Nat := c.kind.byteSize * c.length

/-- Bytes moved when a column is written: of a sequence, only start, stride and length. -/
def transferSize : Column → Nat
  | .sequence _ => 16
  | c => c.byteSize

/-- The kind and the length of a column, in messages. -/
def layoutText (c : Column) : String := c.kind.name ++ " x " ++ toString c.length

end Column

/-- The number of a buffer. -/
structure BufferId where
  index : Nat
deriving DecidableEq, Repr, Inhabited

/-- A handle to a buffer. -/
structure Buffer where
  id : BufferId
  kind : Kind
  length : Nat
deriving DecidableEq, Repr, Inhabited

/-- What is known of a device, for diagnostics. -/
structure DeviceInfo where
  name : String
  vendor : String
  kind : String
  driver : String
deriving DecidableEq, Repr

def DeviceInfo.text (i : DeviceInfo) : String :=
  i.name ++ " (" ++ i.vendor ++ ", " ++ i.kind ++ ", driver " ++ i.driver ++ ")"

/-- A device and what it has done so far. -/
structure Device where
  /-- The live buffers. -/
  buffers : Table BufferId Column := ∅
  /-- The number of the latest buffer. -/
  lastId : Nat := 0
  /-- Bytes taken up by the live buffers. -/
  used : Nat := 0
  /-- The bytes that all live buffers together may take up. -/
  capacity : Option Nat := none
  /-- Whether every launch raises its flag. -/
  forceDeopt : Bool := false
  /-- Launches so far. -/
  launches : Nat := 0
  /-- Allocations so far. -/
  allocations : Nat := 0
  /-- Bytes written so far. -/
  bytesWritten : Nat := 0
deriving Inhabited

namespace Device

/-- This library's device runs kernels on the host. -/
def info : DeviceInfo where
  name := "host"
  vendor := "offload"
  kind := "CPU"
  driver := "0.1.0"

/-- Whether `bytes` more fit. -/
def Fits (d : Device) (bytes : Nat) : Prop := ∀ c ∈ d.capacity, d.used + bytes ≤ c

instance (d : Device) (bytes : Nat) : Decidable (d.Fits bytes) :=
  match h : d.capacity with
  | none => isTrue (by simp [Fits, h])
  | some c => decidable_of_iff (d.used + bytes ≤ c) (by simp [Fits, h])

/-- A new buffer of `length` zeros. -/
def allocate (d : Device) (kind : Kind) (length : Nat) : Except DeviceError (Buffer × Device) :=
  let bytes := kind.byteSize * length
  if d.Fits bytes then
    let id : BufferId := ⟨d.lastId + 1⟩
    .ok (⟨id, kind, length⟩,
      { d with
        buffers := d.buffers.insert id (Column.blank kind length)
        lastId := id.index
        used := d.used + bytes
        allocations := d.allocations + 1 })
  else .error (.outOfMemory bytes (d.capacity.getD 0 - d.used))

/-- What a buffer holds. -/
def read (d : Device) (b : Buffer) : Except DeviceError Column :=
  match d.buffers.get? b.id with
  | some c => .ok c
  | none => .error (.unknownBuffer b.id.index)

/-- Put a column into a buffer of its kind and length. -/
def write (d : Device) (b : Buffer) (data : Column) : Except DeviceError Device := do
  let held ← d.read b
  if held.kind = data.kind ∧ held.length = data.length then
    return { d with
      buffers := d.buffers.modify b.id fun _ => data
      bytesWritten := d.bytesWritten + data.transferSize }
  else
    throw (.bufferLayout b.id.index held.layoutText data.layoutText)

/-- Give a buffer back. A buffer that is not live is no concern. -/
def release (d : Device) (b : Buffer) : Device :=
  match d.buffers.get? b.id with
  | some c => { d with buffers := d.buffers.erase b.id, used := d.used - c.byteSize }
  | none => d

/-- Give buffers back, in order. -/
def releaseAll (d : Device) (bs : List Buffer) : Device := bs.foldl release d

/-- New buffers of the given kinds, in order, up to the first that does not fit. -/
def allocateAll (d : Device) (length : Nat) :
    List Kind → Except DeviceError Unit × List Buffer × Device
  | [] => (.ok (), [], d)
  | k :: ks =>
    match d.allocate k length with
    | .error e => (.error e, [], d)
    | .ok (b, d) =>
      let (r, bs, d) := allocateAll d length ks
      (r, b :: bs, d)

/-- Put columns into buffers, in order, up to the first that fails. -/
def writeAll (d : Device) : List (Buffer × Column) → Except DeviceError Unit × Device
  | [] => (.ok (), d)
  | (b, c) :: rest =>
    match d.write b c with
    | .error e => (.error e, d)
    | .ok d => writeAll d rest

/-- The number of live buffers. -/
def liveBuffers (d : Device) : Nat := d.buffers.size

end Device

end TieredVectors
