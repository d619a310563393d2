import TieredVectors.Executor.CompiledUnit
import TieredVectors.Function.Basic

/-!
# Hot functions

A detector says when a function is worth compiling, by handing out its graph. The scripted one holds
graphs in readiness: a graph shows once its function has been marked as a candidate and the graph
has been asked for often enough since.
-/

namespace TieredVectors

/-- A graph held in readiness. -/
structure Script where
  graph : Graph
  /-- How often the graph is asked for until it shows. -/
  hotAfter : Nat
  /-- How often it has been asked for. -/
  probes : Nat := 0
  /-- Whether its function has been marked. -/
  candidate : Bool := false

/-- Graphs by trace, and the traces of functions. -/
structure ScriptedDetector where
  traces : Table EntryId TraceId := ∅
  scripts : Table TraceId Script := ∅
  /-- The number of the latest trace. -/
  lastTrace : Nat := 0
  /-- How often a function has been marked. -/
  marks : Nat := 0
deriving Inhabited

namespace ScriptedDetector

/-- The trace of an entry, which is a new one if it has none. -/
def traceOf (d : ScriptedDetector) (entry : EntryId) : TraceId × ScriptedDetector :=
  match d.traces.get? entry with
  | some trace => (trace, d)
  | none =>
    let trace : TraceId := ⟨d.lastTrace + 1⟩
    (trace, { d with traces := d.traces.insert entry trace, lastTrace := trace.index })

/-- Hold a graph in readiness for an entry, in place of any earlier one. -/
def register (d : ScriptedDetector) (entry : EntryId) (graph : Graph) (hotAfter : Nat) :
    TraceId × ScriptedDetector :=
  let (trace, d) := d.traceOf entry
  (trace, { d with scripts := d.scripts.insert trace { graph, hotAfter } })

/-- Mark an entry as a candidate. -/
def mark (d : ScriptedDetector) (entry : EntryId) : ScriptedDetector :=
  let (trace, d) := d.traceOf entry
  { d with
    scripts := d.scripts.modify trace fun s => { s with candidate := true }
    marks := d.marks + 1 }

/-- Ask for the graph of a trace. -/
def probe (d : ScriptedDetector) (trace : TraceId) : Option Graph × ScriptedDetector :=
  match d.scripts.get? trace with
  | none => (none, d)
  | some s =>
    if s.candidate then
      let probes := s.probes + 1
      (if s.hotAfter ≤ probes then some s.graph else none,
        { d with scripts := d.scripts.modify trace fun s => { s with probes } })
    else (none, d)

/-- How often the graph of a trace has been asked for. -/
def probeCount (d : ScriptedDetector) (trace : TraceId) : Nat :=
  ((d.scripts.get? trace).map Script.probes).getD 0

end ScriptedDetector

/-- What says when a function is worth compiling. -/
inductive Detector where
  /-- No function ever is. -/
  | never
  | scripted (detector : ScriptedDetector)
deriving Inhabited

namespace Detector

/-- Mark an entry as a candidate. -/
def mark (d : Detector) (entry : EntryId) : Detector :=
  match d with
  | .never => .never
  | .scripted s => .scripted (s.mark entry)

/-- The trace of an entry. Where no function is ever worth compiling it is the function's number. -/
def traceOf (d : Detector) (entry : EntryId) : TraceId × Detector :=
  match d with
  | .never => (⟨entry.function.index⟩, .never)
  | .scripted s =>
    let (trace, s) := s.traceOf entry
    (trace, .scripted s)

/-- Ask for the graph of a trace. -/
def probe (d : Detector) (trace : TraceId) : Option Graph × Detector :=
  match d with
  | .never => (none, .never)
  | .scripted s =>
    let (graph, s) := s.probe trace
    (graph, .scripted s)

end Detector

end TieredVectors
