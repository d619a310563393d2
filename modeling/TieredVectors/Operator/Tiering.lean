import TieredVectors.Columns.Marshal
import TieredVectors.Executor.Basic
import TieredVectors.Operator.Interpreter

/-!
# Tiering

How a call over the elements of a vector moves from the interpreter to the device. The first element
is always interpreted and shows the type of the results. If a unit has been compiled for the
function, all elements are then computed on the device. Otherwise the remaining elements are
interpreted, and after each of them the detector is asked for a graph; once it has one, the graph is
shaped and compiled, and all elements are computed on the device. Where the device gives up, all
elements are interpreted again. The results thus come from one place only.
-/

namespace TieredVectors

namespace Tiering

/-- The results of a call, from the one place that computed them. -/
inductive Outcome where
  | device (array : ColumnArray)
  | interpreted (values : List Value) (type : Option RowType)

/-- A call that may go to the device. -/
structure Site where
  function : FunctionId
  entry : Entry
  trace : TraceId
  /-- The elements as columns. -/
  input : ColumnArray
  elements : Zipped
  /-- The type of the first result. -/
  output : RowType

/-- The elements as columns, if they have a row type. -/
def columns (z : Zipped) : Action (Option ColumnArray) :=
  match z.primary.inferRows z.companions with
  | .ok type =>
    some <$> Action.ofExcept .type (ColumnArray.ofVectors type z.primary z.companions)
  | .error e =>
    if e.isRecoverable then do
      Action.tell [.inputNotOffloadable e]
      return none
    else Action.fail (.type e)

/-- The entry of a function. If the options ask for it, the first call of a function works its
captured values in. -/
def resolve (f : Function) : Action Entry := do
  let entry ← Action.lookup f
  let c ← Action.get
  if c.options.specializeScope && c.functions.awaitsSpecialization f.id then
    Action.modify fun c => { c with functions := c.functions.markSpecializationTried f.id }
    match entry.body.specialized with
    | some body =>
      Action.update fun c =>
        let (entry, functions) := c.functions.update f body
        (entry, { c with functions })
    | none => return entry
  else return entry

/-- Whether a function may go to the device. -/
def deviceEnabled (f : FunctionId) : Action Bool := do
  let c ← Action.get
  if c.options.execution ≠ .offload then
    return false
  let deopts := ((c.functions.get? f).map (·.deopts)).getD 0
  if c.options.deoptLimit ≤ deopts then
    Action.tell [.deoptLimitReached deopts]
    return false
  return true

/-- Propose a function for the device, once, and give the trace of its entry. -/
def propose (f : FunctionId) (entry : EntryId) : Action TraceId :=
  Action.update fun c =>
    let (first, functions) := c.functions.markCandidate f
    let detector := if first then c.detector.mark entry else c.detector
    let (trace, detector) := detector.traceOf entry
    (trace, { c with functions, detector })

/-- Ask for the graph of a trace. -/
def probe (trace : TraceId) : Action (Option Graph) :=
  Action.update fun c =>
    let (graph, detector) := c.detector.probe trace
    (graph, { c with detector })

/-- Shape and compile a graph, and keep the unit. -/
def compile (s : Site) (graph : Graph) : Action (Except CompileError CompiledUnit) := do
  let shaped := graph.shape
  let c ← Action.get
  if c.options.dumpKernels then
    Action.tell [.graphShaped shaped]
  let scope := s.entry.body.scope
  match c.compiler.compile shaped s.input.type s.output scope with
  | .error e => return .error e
  | .ok (kernel, compiler) =>
    let unit : CompiledUnit :=
      { kernel, input := s.input.type, output := s.output, scope, bindings := shaped.scopeBindings }
    Action.update fun c =>
      let (unit, units) := c.units.install s.trace unit
      (.ok unit, { c with compiler, units })

/-- Attempt the elements on the device, with the executor that is kept for the trace. -/
def launch (s : Site) (unit : CompiledUnit) : Action (Except TierError (Option ColumnArray)) := do
  let c ← Action.get
  let executor := (c.executors.get? s.trace).getD (.ofUnit unit)
  let attempt := executor.attempt c.device s.input
  Action.modify fun c =>
    { c with
      executors := c.executors.insert s.trace attempt.executor
      device := attempt.device }
  match attempt.flag with
  | some flag =>
    if flag ≠ 0 then
      Action.tell [.flagRaised (flag.toInt - 1)]
  | none => pure ()
  return attempt.result

/-- Give the device up for this call and interpret all elements. -/
def deoptimize (s : Site) (unit : CompiledUnit) (reason : String) : Action Outcome := do
  Action.tell [.entered .deoptimized]
  let deopts ← Action.update fun c =>
    let (deopts, functions) := c.functions.recordDeopt s.function
    (deopts, { c with functions })
  Action.tell [.executionAbandoned deopts reason]
  let values ← s.entry.callAll s.elements
  return .interpreted values (some unit.output)

/-- Compute all elements on the device. -/
def execute (s : Site) (unit : CompiledUnit) : Action Outcome := do
  Action.tell [.entered .executing]
  match ← launch s unit with
  | .ok (some array) =>
    Action.tell [.entered .complete]
    return .device array
  | .ok none => deoptimize s unit "deopt flag set"
  | .error e =>
    if e.isRecoverable then deoptimize s unit e.report.message
    else Action.fail (.tier e)

/-- Tell that a graph could not be compiled. -/
def tellFailure (e : CompileError) : Action Unit := do
  Action.tell [.compilationFailed (.compile e)]
  let c ← Action.get
  if c.options.dumpKernels then
    Action.tell [.compilationReported (.compile e)]

/-- Interpret the elements from index `first` on, as many as asked for, until a graph shows that can
be compiled. The result is the unit, or else the results of all these elements. After a graph that
cannot be compiled the detector is not asked again. -/
def trace (s : Site) (first : Nat) : Nat → Action (CompiledUnit ⊕ List Value)
  | 0 => return .inr []
  | count + 1 => do
    let v ← s.entry.call (s.elements.arguments first)
    match ← probe s.trace with
    | none =>
      match ← trace s (first + 1) count with
      | .inl unit => return .inl unit
      | .inr vs => return .inr (v :: vs)
    | some graph =>
      Action.tell [.entered .tracePending]
      match ← compile s graph with
      | .ok unit =>
        Action.tell [.entered .compiled]
        return .inl unit
      | .error e =>
        tellFailure e
        let vs ← s.entry.callFrom s.elements (first + 1) count
        return .inr (v :: vs)

/-- Interpret the elements after the first one. -/
def interpretRest (entry : Entry) (z : Zipped) (first : Value) (rest : Nat)
    (type : Option RowType) : Action Outcome := do
  let values ← entry.callFrom z 1 rest
  return .interpreted (first :: values) type

/-- Continue a call that may go to the device after its first element. -/
def proceed (s : Site) (first : Value) (rest : Nat) : Action Outcome := do
  let c ← Action.get
  match c.units.get? s.trace with
  | some unit =>
    if unit.input = s.input.type ∧ unit.output = s.output then
      Action.tell [.unitReused]
      execute s unit
    else
      Action.tell [.unitMismatch unit.input s.input.type]
      interpretRest s.entry s.elements first rest (some s.output)
  | none =>
    match ← trace s 1 rest with
    | .inl unit => execute s unit
    | .inr values => return .interpreted (first :: values) (some s.output)

/-- The type of a result, if it has one. -/
def outputType (v : Value) : Action (Option RowType) :=
  match v.inferOutput with
  | .ok type => return some type
  | .error e => do
    Action.tell [.outputNotOffloadable e]
    return none

/-- Call a function for each element. The columns of the elements may have been made before. -/
def run (f : Function) (z : Zipped) (input : Option ColumnArray) : Action Outcome := do
  let input ←
    match input with
    | some array => pure (some array)
    | none => columns z
  let entry ← resolve f
  match z.length with
  | 0 => return .interpreted [] none
  | rest + 1 =>
    Action.tell [.entered .interpreted]
    let first ← entry.call (z.arguments 0)
    let output ← outputType first
    Action.modify fun c => { c with functions := c.functions.recordSample f.id first output }
    match input, output with
    | some input, some output =>
      if ← deviceEnabled f.id then
        let trace ← propose f.id entry.id
        proceed { function := f.id, entry, trace, input, elements := z, output } first rest
      else interpretRest entry z first rest (some output)
    | _, output => interpretRest entry z first rest output

end Tiering

/-- The results of a call as a vector. -/
def Tiering.Outcome.toVector : Tiering.Outcome → Action DataVector
  | .device array => return array.toVector
  | .interpreted values type => Action.results values type

end TieredVectors
