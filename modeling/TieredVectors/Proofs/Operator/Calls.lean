import TieredVectors.Proofs.Columns.Marshaling
import TieredVectors.Proofs.Operator.Consistency
import TieredVectors.Proofs.Operator.Interpreting

/-!
# Calls through the tiers

Each part of a call changes the context by steps only, and its result comes from one place:

* `Tiering.Settles` — a call ends with the function's first error, with the interpreted results of
  all elements, or with an array that the kernel cached for the trace has computed row by row;
* `Tiering.execute_ensures`, `Tiering.trace_ensures` and `Tiering.proceed_ensures` — the parts of a
  call that may go to the device;
* `Tiering.run_ensures` — a whole call.
-/

namespace TieredVectors

namespace Tiering

open Context (Steps)

variable {known : Function → Prop} {c c' : Context} {s : Site} {unit : CompiledUnit}

/-! ## Before the first element -/

/-- The columns of the elements, if they have a row type; this never fails. -/
theorem columns_ensures (z : Zipped) (c : Context) :
    (columns z).Ensures c fun r c' es =>
      c' = c ∧ r = .ok (z.primary.marshal z.companions).toOption ∧ Event.calls es = [] := by
  rcases z.marshal_cases with ⟨type, a, htype, ha, hmarshal⟩ | ⟨e, htype, he, hmarshal⟩
  · rw [hmarshal]
    simp only [columns, htype, ha]
    rw [Action.ensures_map, Action.ensures_ofExcept]
    exact ⟨rfl, rfl, rfl⟩
  · rw [hmarshal]
    simp only [columns, htype, if_pos he, Action.ensures_bind]
    exact ⟨rfl, rfl, rfl⟩

/-- Every function has an entry, which is registered from then on. -/
theorem resolve_ensures {f : Function} (hf : known f) (c : Context) :
    (resolve f).Ensures c fun r c' _ => Steps known c c' ∧
      ∃ entry, r = .ok entry ∧ c'.functions.find? f.id = some entry := by
  have hlookup : Steps known c { c with functions := (c.functions.lookup f).2 } :=
    .single (.lookup hf)
  have hentry : (c.functions.lookup f).2.find? f.id = some (c.functions.lookup f).1 := by
    simp [FunctionRegistry.find?_lookup]
  unfold resolve Action.lookup
  simp only [Action.ensures_bind, Action.ensures_update, Action.Post.after_ok, Action.ensures_get]
  split
  · -- a function is specialized once, when it is called for the first time with the option on
    have htried := hlookup.tail (.tried f.id)
    simp only [Action.ensures_bind, Action.ensures_modify, Action.Post.after_ok]
    split
    next body hbody =>
      rw [Action.ensures_update]
      refine ⟨htried.tail (.specialize hf ?_ hbody), _, rfl, ?_⟩
      · simpa using hentry
      · simp [FunctionRegistry.find?_update]
    next =>
      rw [Action.ensures_pure]
      exact ⟨htried, _, rfl, by simpa using hentry⟩
  · exact ⟨hlookup, _, rfl, hentry⟩

theorem outputType_ensures (v : Value) (c : Context) :
    (outputType v).Ensures c fun r c' es =>
      c' = c ∧ r = .ok v.inferOutput.toOption ∧ Event.calls es = [] ∧ Event.launches es = 0 := by
  unfold outputType
  cases v.inferOutput <;> exact ⟨rfl, rfl, rfl, rfl⟩

theorem deviceEnabled_ensures (f : FunctionId) (c : Context) :
    (deviceEnabled f).Ensures c fun r c' es =>
      c' = c ∧ (∃ enabled, r = .ok enabled) ∧ Event.calls es = [] := by
  unfold deviceEnabled
  simp only [Action.ensures_bind, Action.ensures_get, Action.Post.after_ok]
  split
  · exact ⟨rfl, ⟨_, rfl⟩, rfl⟩
  · split <;> exact ⟨rfl, ⟨_, rfl⟩, rfl⟩

variable (known)

/-- A proposed entry has a trace. -/
theorem propose_ensures {f : FunctionId} {entry : Entry}
    (hentry : c.functions.find? f = some entry) :
    (propose f entry.id).Ensures c fun r c' _ => Steps known c c' ∧
      ∃ trace, r = .ok trace ∧ c'.detector.Names entry.id trace ∧
        c'.functions.find? f = some entry := by
  have hentry' : (c.functions.markCandidate f).2.find? f = some entry := by simpa using hentry
  have hcandidate : Steps known c { c with functions := (c.functions.markCandidate f).2 } :=
    .single (.candidate f)
  refine ⟨?_, _, rfl, Detector.names_traceOf _ _, hentry'⟩
  simp only [propose, Action.update, Action.run]
  split
  · exact (hcandidate.tail (.mark hentry')).tail (.name hentry')
  · exact hcandidate.tail (.name hentry')

/-! ## On the device -/

/-- The array holds the kernel's results for the rows of the input, row by row. -/
structure Computed (unit : CompiledUnit) (kernel : Kernel) (input array : ColumnArray) : Prop where
  wellFormed : array.WellFormed
  type : array.type = unit.output
  length : array.length = input.length
  dense : 0 < input.length → ∀ c ∈ array.columns, c.Dense
  rows : ∀ i < input.length, ∃ row out, input.row? i = some row ∧
    kernel.run row unit.scope = .ok out ∧ array.row? i = some out

/-- The unit is the one that is cached for the call, and was compiled for the call's types. -/
structure Site.Runs (s : Site) (c : Context) (unit : CompiledUnit) : Prop where
  cached : c.units.get? s.trace = some unit
  input : unit.input = s.input.type
  output : unit.output = s.output

/-- The array comes from the unit cached for the call, and the flag of that launch is not raised. -/
inductive FromDevice (c : Context) (s : Site) (array : ColumnArray) : Prop where
  | intro {unit : CompiledUnit} {kernel : Kernel} {executor : Executor} (hruns : s.Runs c unit)
      (hkernel : unit.Compiled kernel) (hexecutor : c.executors.get? s.trace = some executor)
      (hflag : executor.flagRaised c.device = .ok false)
      (hrows : Computed unit kernel s.input array)

/-- How a call that may go to the device ends: with the function's first error, with the results of
all elements, or with an array from the device. -/
inductive Settles (c : Context) (s : Site) : Except OperatorError Outcome → Prop where
  | failed {e : EvalError} (h : s.entry.body.callAll s.elements = .error e) :
      Settles c s (.error (.eval e))
  | interpreted {values : List Value} (h : s.entry.body.callAll s.elements = .ok values) :
      Settles c s (.ok (.interpreted values (some s.output)))
  | device {array : ColumnArray} (h : FromDevice c s array) : Settles c s (.ok (.device array))

/-- A launch fails with device errors only; an array that it gives is the kernel's. -/
theorem launch_ensures (h : c.Consistent) (hruns : s.Runs c unit) (hinput : s.input.WellFormed) :
    (launch s unit).Ensures c fun r c' _ => Steps known c c' ∧ c'.units = c.units ∧
      ∃ result, r = .ok result ∧ (∀ e, result = .error e → ∃ de, e = .device de) ∧
        ∀ array, result = .ok (some array) → FromDevice c' s array := by
  obtain ⟨hunit, hscope, hready, -⟩ := h.executorOf hruns.cached
  obtain ⟨kernel, hkernel⟩ := h.units _ _ hruns.cached
  have hresult : (launch s unit).Ensures c fun r c' _ =>
      c' = { c with
        executors := c.executors.insert s.trace
          ((c.executorOf s.trace unit).attempt c.device s.input).executor
        device := ((c.executorOf s.trace unit).attempt c.device s.input).device } ∧
      r = .ok ((c.executorOf s.trace unit).attempt c.device s.input).result := by
    unfold launch
    simp only [Action.ensures_bind, Action.ensures_get, Action.Post.after_ok, Action.ensures_modify]
    split
    · split <;> exact ⟨rfl, rfl⟩
    · exact ⟨rfl, rfl⟩
  refine hresult.mono ?_
  rintro r c' es ⟨rfl, rfl⟩
  refine ⟨.single (.launch s.input hruns.cached), rfl, _, rfl, fun e he => ?_, fun a ha => ?_⟩
  · refine Executor.attempt_error hready ?_ he
    rw [hunit, hruns.input]
  · have hkernel' : (c.executorOf s.trace unit).unit.kernel.kernel? = some kernel := by
      rw [hunit, hkernel.1]
    have hwidth : s.input.columns.length = (c.executorOf s.trace unit).unit.input.width := by
      rw [hunit, hruns.input, RowType.width, ← hinput.kinds, List.length_map]
    obtain ⟨-, hwf, htype, hlength, hdense, hflag, hrows⟩ :=
      Executor.attempt_some hready hkernel' hwidth ha
    rw [hunit] at htype
    refine ⟨⟨hruns.cached, hruns.input, hruns.output⟩, hkernel, by simp, hflag, hwf, htype, hlength,
      hdense, fun i hi => ?_⟩
    obtain ⟨row, out, hrow, hout, hcells⟩ := hrows i hi
    -- the kernel runs with the bound slots only, which are all that it reads
    rw [hscope, hkernel.run_boundScope] at hout
    refine ⟨row, out, hrow, hout, ColumnArray.row?_eq_some_of_cells ?_ hcells⟩
    rw [hkernel.length_of_run hout, RowType.width, ← htype, ← hwf.kinds, List.length_map]

/-- Giving the device up leaves all to the interpreter. -/
theorem deoptimize_ensures (hruns : s.Runs c unit) (reason : String) :
    (deoptimize s unit reason).Ensures c fun r c' _ => Steps known c c' ∧ Settles c' s r := by
  unfold deoptimize
  simp only [Action.ensures_bind, Action.ensures_tell, Action.Post.after_ok, Action.ensures_update]
  refine (s.entry.callAll_ensures s.elements _).mono ?_
  rintro r c' es ⟨rfl, rfl, -⟩
  cases hcalls : s.entry.body.callAll s.elements with
  | error e => exact ⟨.single (.deopt s.function), .failed hcalls⟩
  | ok values =>
    refine ⟨.single (.deopt s.function), ?_⟩
    rw [hruns.output]
    exact .interpreted hcalls

/-- A call that goes to the device ends with an array from there, or is left to the interpreter. -/
theorem execute_ensures (h : c.Consistent) (hruns : s.Runs c unit) (hinput : s.input.WellFormed) :
    (execute s unit).Ensures c fun r c' _ => Steps known c c' ∧ Settles c' s r := by
  unfold execute
  simp only [Action.ensures_bind, Action.ensures_tell, Action.Post.after_ok]
  refine (launch_ensures known h hruns hinput).mono ?_
  rintro r c' es ⟨hsteps, hunits, result, rfl, herror, harray⟩
  have hruns' : s.Runs c' unit := ⟨hunits ▸ hruns.cached, hruns.input, hruns.output⟩
  -- a raised flag and an error of the device have the same outcome
  have hgive (reason : String) : (deoptimize s unit reason).Ensures c' fun r c'' _ =>
      Steps known c c'' ∧ Settles c'' s r :=
    (deoptimize_ensures known hruns' reason).mono fun _ _ _ h => ⟨hsteps.trans h.1, h.2⟩
  cases result with
  | error e =>
    obtain ⟨de, rfl⟩ := herror e rfl
    exact hgive _
  | ok array? =>
    cases array? with
    | none => exact hgive _
    | some array => exact ⟨hsteps, .device (harray array rfl)⟩

/-! ## Towards the device -/

/-- The call is one of a known function: its entry is registered and has been given the trace, and
its rows have one field for each argument. -/
structure Site.Located (known : Function → Prop) (s : Site) (c : Context) : Prop where
  function : ∃ f, known f ∧ f.id = s.function ∧ s.input.type.width = f.arity
  entry : c.functions.find? s.function = some s.entry
  names : c.detector.Names s.entry.id s.trace
  input : s.input.WellFormed

/-- The unit of a kernel that has been compiled for the call. -/
def Site.unitOf (s : Site) (graph : Graph) (kernel : KernelHandle) : CompiledUnit where
  kernel := kernel
  input := s.input.type
  output := s.output
  scope := s.entry.body.scope
  bindings := graph.shape.scopeBindings

/-- How interpreting ends that looks out for a graph: with an error, with a unit, or with all
results. -/
inductive Traced (c : Context) (s : Site) (first count : Nat) :
    Except OperatorError (CompiledUnit ⊕ List Value) → Prop where
  | failed {e : EvalError} (h : s.entry.body.callFrom s.elements first count = .error e) :
      Traced c s first count (.error (.eval e))
  | compiled {unit : CompiledUnit} (h : s.Runs c unit) : Traced c s first count (.ok (.inl unit))
  | interpreted {values : List Value}
      (h : s.entry.body.callFrom s.elements first count = .ok values) :
      Traced c s first count (.ok (.inr values))

variable {known}

/-- A graph is refused, or is compiled and the unit kept. -/
theorem compile_cases (s : Site) (graph : Graph) (c : Context) :
    (compile s graph).Ensures c fun r c' _ =>
      (∃ e, r = .ok (.error e) ∧ c' = c) ∨ ∃ kernel compiler,
        c.compiler.compile graph.shape s.input.type s.output s.entry.body.scope =
          .ok (kernel, compiler) ∧
        r = .ok (.ok (c.units.install s.trace (s.unitOf graph kernel)).1) ∧
        c' = { c with compiler, units := (c.units.install s.trace (s.unitOf graph kernel)).2 } := by
  unfold compile
  simp only [Action.ensures_bind, Action.ensures_get, Action.Post.after_ok]
  cases hc : c.compiler.compile graph.shape s.input.type s.output s.entry.body.scope with
  | error e => split <;> exact Or.inl ⟨e, rfl, rfl⟩
  | ok result => split <;> exact Or.inr ⟨result.1, result.2, rfl, rfl, rfl⟩

/-- Where there is no unit yet, the new one is kept. -/
theorem install_of_none (hnone : c.units.get? s.trace = none) (unit : CompiledUnit) :
    c.units.install s.trace unit = (unit, c.units.insert s.trace unit) := by
  simp [UnitCache.install, hnone]

/-- A graph that the detector holds for the call becomes the unit of the call, or is refused. -/
theorem compile_ensures (hs : s.Located known c) {graph : Graph}
    (hholds : c.detector.Holds s.trace graph) (hnone : c.units.get? s.trace = none) :
    (compile s graph).Ensures c fun r c' _ => Steps known c c' ∧
      ((∃ e, r = .ok (.error e)) ∨ ∃ unit, r = .ok (.ok unit) ∧ s.Runs c' unit) := by
  obtain ⟨f, hf, hid, hwidth⟩ := hs.function
  have hentry : c.functions.find? f.id = some s.entry := hid ▸ hs.entry
  refine (compile_cases s graph c).mono ?_
  rintro r c' es (⟨e, rfl, rfl⟩ | ⟨kernel, compiler, hc, rfl, rfl⟩)
  · exact ⟨.refl, Or.inl ⟨e, rfl⟩⟩
  · refine ⟨.single (.install hf hentry hs.names hholds hwidth hnone hc), Or.inr ⟨_, rfl, ?_⟩⟩
    rw [install_of_none hnone]
    exact ⟨by simp, rfl, rfl⟩

theorem tellFailure_ensures (e : CompileError) (c : Context) :
    (tellFailure e).Ensures c fun r c' _ => c' = c ∧ r = .ok () := by
  unfold tellFailure
  simp only [Action.ensures_bind, Action.ensures_tell, Action.Post.after_ok, Action.ensures_get]
  split <;> exact ⟨rfl, rfl⟩

/-- Interpreting that looks out for a graph. -/
theorem trace_ensures (hs : s.Located known c) (hnone : c.units.get? s.trace = none)
    (first count : Nat) :
    (trace s first count).Ensures c fun r c' _ =>
      Steps known c c' ∧ Traced c' s first count r := by
  induction count generalizing first c with
  | zero => exact ⟨.refl, .interpreted rfl⟩
  | succ count ih =>
    rw [trace, Action.ensures_bind]
    refine (s.entry.call_ensures _ c).mono ?_
    rintro r c₀ es ⟨rfl, rfl, -⟩
    cases hv : s.entry.body.call (s.elements.arguments first) with
    | error e => exact ⟨.refl, .failed (Body.callFrom_of_error hv count)⟩
    | ok v =>
      -- the results of the remaining elements, with that of this one in front
      have hcons {vs : List Value}
          (h : s.entry.body.callFrom s.elements (first + 1) count = .ok vs) :
          s.entry.body.callFrom s.elements first (count + 1) = .ok (v :: vs) := by
        rw [Body.callFrom_of_first hv, map_eq_ok]
        exact ⟨vs, h, rfl⟩
      have hfail {e : EvalError}
          (h : s.entry.body.callFrom s.elements (first + 1) count = .error e) :
          s.entry.body.callFrom s.elements first (count + 1) = .error e := by
        rw [Body.callFrom_of_first hv, map_eq_error]
        exact h
      have hprobe : Steps known c₀ { c₀ with detector := (c₀.detector.probe s.trace).2 } :=
        .single (.probe s.trace)
      have hs' : s.Located known { c₀ with detector := (c₀.detector.probe s.trace).2 } :=
        ⟨hs.function, hs.entry, hs.names.probe _, hs.input⟩
      simp only [mapError_ok, Action.Post.after_ok, Action.ensures_bind, probe,
        Action.ensures_update]
      cases hgraph : (c₀.detector.probe s.trace).1 with
      | none =>
        simp only [Action.ensures_bind]
        refine (ih hs' hnone (first + 1)).mono ?_
        rintro r c₁ es' ⟨hsteps, htraced⟩
        cases htraced with
        | failed h => exact ⟨hprobe.trans hsteps, .failed (hfail h)⟩
        | compiled h => exact ⟨hprobe.trans hsteps, .compiled h⟩
        | interpreted h => exact ⟨hprobe.trans hsteps, .interpreted (hcons h)⟩
      | some graph =>
        simp only [Action.ensures_bind, Action.ensures_tell, Action.Post.after_ok]
        refine (compile_ensures hs' (Detector.holds_probe hgraph) hnone).mono ?_
        rintro r c₁ es' ⟨hsteps, ⟨e, rfl⟩ | ⟨unit, rfl, hruns⟩⟩
        · -- the detector is not asked again
          simp only [Action.Post.after_ok, Action.ensures_bind]
          refine (tellFailure_ensures e c₁).mono ?_
          rintro r c₂ es'' ⟨rfl, rfl⟩
          rw [Action.Post.after_ok, Action.ensures_bind]
          refine (s.entry.callFrom_ensures s.elements (first + 1) count c₂).mono ?_
          rintro r c₃ es₃ ⟨rfl, rfl, -⟩
          cases hvs : s.entry.body.callFrom s.elements (first + 1) count with
          | error e => exact ⟨hprobe.trans hsteps, .failed (hfail hvs)⟩
          | ok vs => exact ⟨hprobe.trans hsteps, .interpreted (hcons hvs)⟩
        · exact ⟨hprobe.trans hsteps, .compiled hruns⟩

/-- Interpreting what is left after the first element gives the results of all. -/
theorem interpretRest_ensures {entry : Entry} {z : Zipped} {first : Value} {rest : Nat}
    (hlength : z.length = rest + 1) (hfirst : entry.body.call (z.arguments 0) = .ok first)
    (type : Option RowType) (c : Context) :
    (interpretRest entry z first rest type).Ensures c fun r c' _ => c' = c ∧
      ((∃ e, entry.body.callAll z = .error e ∧ r = .error (.eval e)) ∨
        ∃ values, entry.body.callAll z = .ok (first :: values) ∧
          r = .ok (.interpreted (first :: values) type)) := by
  unfold interpretRest
  rw [Action.ensures_bind, Body.callAll_of_first hlength hfirst]
  refine (entry.callFrom_ensures z 1 rest c).mono ?_
  rintro r c' es ⟨rfl, rfl, -⟩
  cases entry.body.callFrom z 1 rest with
  | error e => exact ⟨rfl, Or.inl ⟨e, rfl, rfl⟩⟩
  | ok values => exact ⟨rfl, Or.inr ⟨values, rfl, rfl⟩⟩

/-- A call that may go to the device, after its first element. -/
theorem proceed_ensures (h : c.Consistent) (hs : s.Located known c) {first : Value} {rest : Nat}
    (hlength : s.elements.length = rest + 1)
    (hfirst : s.entry.body.call (s.elements.arguments 0) = .ok first) :
    (proceed s first rest).Ensures c fun r c' _ => Steps known c c' ∧ Settles c' s r := by
  unfold proceed
  simp only [Action.ensures_bind, Action.ensures_get, Action.Post.after_ok]
  cases hunit : c.units.get? s.trace with
  | some unit =>
    dsimp only
    split
    next htypes =>
      simp only [Action.ensures_bind, Action.ensures_tell, Action.Post.after_ok]
      exact execute_ensures known h ⟨hunit, htypes.1, htypes.2⟩ hs.input
    next =>
      -- the unit was compiled for other types
      simp only [Action.ensures_bind, Action.ensures_tell, Action.Post.after_ok]
      refine (interpretRest_ensures hlength hfirst _ c).mono ?_
      rintro r c' es ⟨rfl, ⟨e, he, rfl⟩ | ⟨values, hvalues, rfl⟩⟩
      · exact ⟨.refl, .failed he⟩
      · exact ⟨.refl, .interpreted hvalues⟩
  | none =>
    simp only [Action.ensures_bind]
    refine (trace_ensures hs hunit 1 rest).mono ?_
    rintro r c' es ⟨hsteps, htraced⟩
    have hall := Body.callAll_of_first hlength hfirst
    cases htraced with
    | failed he => exact ⟨hsteps, .failed (by rw [hall, he]; rfl)⟩
    | compiled hruns =>
      -- the results interpreted so far are given up, and all elements go to the device
      rw [Action.Post.after_ok]
      exact (execute_ensures known (h.steps hsteps) hruns hs.input).mono
        fun _ _ _ h' => ⟨hsteps.trans h'.1, h'.2⟩
    | interpreted hvalues => exact ⟨hsteps, .interpreted (by rw [hall, hvalues]; rfl)⟩

/-! ## Whole calls -/

/-- What follows the first element of a call that has columns and a type for its results. -/
def deploy (f : FunctionId) (entry : Entry) (z : Zipped) (input : ColumnArray) (output : RowType)
    (first : Value) (rest : Nat) : Action Outcome := do
  if ← deviceEnabled f then
    let trace ← propose f entry.id
    proceed { function := f, entry, trace, input, elements := z, output } first rest
  else interpretRest entry z first rest (some output)

/-- What follows once the columns and the entry are there. -/
def callEntry (f : FunctionId) (entry : Entry) (z : Zipped) (input : Option ColumnArray) :
    Action Outcome := do
  match z.length with
  | 0 => return .interpreted [] none
  | rest + 1 =>
    Action.tell [.entered .interpreted]
    let first ← entry.call (z.arguments 0)
    let output ← outputType first
    Action.modify fun c => { c with functions := c.functions.recordSample f first output }
    match input, output with
    | some input, some output => deploy f entry z input output first rest
    | _, output => interpretRest entry z first rest output

theorem run_none (f : Function) (z : Zipped) :
    run f z none = (do
      let input ← columns z
      let entry ← resolve f
      callEntry f.id entry z input) :=
  rfl

theorem run_some (f : Function) (z : Zipped) (array : ColumnArray) :
    run f z (some array) = (do
      let entry ← resolve f
      callEntry f.id entry z (some array)) :=
  pure_bind (some array) fun input => resolve f >>= fun entry => callEntry f.id entry z input

/-- How a call ends: with the function's first error, with the results of all elements, or with an
array that the device has computed from the columns. -/
inductive Ends (c : Context) (entry : Entry) (z : Zipped) (input : Option ColumnArray) :
    Except OperatorError Outcome → Prop where
  | failed {e : EvalError} (h : entry.body.callAll z = .error e) :
      Ends c entry z input (.error (.eval e))
  | interpreted {values : List Value} (h : entry.body.callAll z = .ok values) :
      Ends c entry z input
        (.ok (.interpreted values (values.head?.bind fun v => v.inferOutput.toOption)))
  | device {s : Site} {first : Value} {array : ColumnArray} (hentry : s.entry = entry)
      (helements : s.elements = z) (hinput : input = some s.input)
      (hnames : c.detector.Names entry.id s.trace) (hpos : 0 < z.length)
      (hfirst : entry.body.call (z.arguments 0) = .ok first)
      (houtput : first.inferOutput = .ok s.output) (h : FromDevice c s array) :
      Ends c entry z input (.ok (.device array))

/-- Results are typed by the first of them. -/
theorem Ends.of_first {entry : Entry} {z : Zipped} {input : Option ColumnArray} {first : Value}
    {values : List Value} (hlength : 0 < z.length)
    (hfirst : entry.body.call (z.arguments 0) = .ok first)
    (h : entry.body.callAll z = .ok values) :
    Ends c entry z input (.ok (.interpreted values first.inferOutput.toOption)) := by
  have hends : Ends c entry z input _ := .interpreted h
  rwa [Body.head?_of_callAll h hlength hfirst] at hends

/-- A call that may go to the device ends as every call does. -/
theorem Settles.ends {entry : Entry} {z : Zipped} {input : Option ColumnArray} {first : Value}
    {r : Except OperatorError Outcome} (h : Settles c s r) (hentry : s.entry = entry)
    (helements : s.elements = z) (hinput : input = some s.input)
    (hnames : c.detector.Names entry.id s.trace) (hlength : 0 < z.length)
    (hfirst : entry.body.call (z.arguments 0) = .ok first)
    (houtput : first.inferOutput = .ok s.output) : Ends c entry z input r := by
  subst hentry helements
  cases h with
  | failed h => exact .failed h
  | interpreted h =>
    have hends : Ends c s.entry s.elements input _ := Ends.of_first hlength hfirst h
    rwa [houtput] at hends
  | device h => exact .device rfl rfl hinput hnames hlength hfirst houtput h

/-- The context once the first result of a function has been noted. -/
def sampled (c : Context) (f : FunctionId) (first : Value) : Context :=
  { c with functions := c.functions.recordSample f first first.inferOutput.toOption }

/-- What is told up to the first result of a call: that call, and no execution on the device. -/
structure Opens (entry : Entry) (z : Zipped) (told : List Event) : Prop where
  calls : Event.calls told = entry.calling [z.arguments 0]
  launches : Event.launches told = 0

/-- The ways that a call can take: there are no elements; the first one has an error; or, the first
result noted, the others are interpreted, or the call may go to the device. -/
theorem ensures_callEntry {f : FunctionId} {entry : Entry} {z : Zipped} {input : Option ColumnArray}
    (post : Action.Post Outcome) (hempty : z.length = 0 → post (.ok (.interpreted [] none)) c [])
    (hfailed : ∀ rest e told, z.length = rest + 1 → entry.body.call (z.arguments 0) = .error e →
      Opens entry z told → post (.error (.eval e)) c told)
    (hrest : ∀ rest first told, z.length = rest + 1 →
      entry.body.call (z.arguments 0) = .ok first → Opens entry z told →
      (interpretRest entry z first rest first.inferOutput.toOption).Ensures (sampled c f first)
        fun r c' es => post r c' (told ++ es))
    (hdeploy : ∀ rest first told array output, z.length = rest + 1 →
      entry.body.call (z.arguments 0) = .ok first → Opens entry z told → input = some array →
      first.inferOutput = .ok output →
      (deploy f entry z array output first rest).Ensures (sampled c f first)
        fun r c' es => post r c' (told ++ es)) :
    (callEntry f entry z input).Ensures c post := by
  unfold callEntry
  split
  next hlength => exact hempty hlength
  next rest hlength =>
    simp only [Action.ensures_bind, Action.ensures_tell, Action.Post.after_ok]
    refine (entry.call_ensures _ c).mono ?_
    rintro r c₀ es ⟨rfl, rfl, rfl⟩
    cases hfirst : entry.body.call (z.arguments 0) with
    | error e => exact hfailed rest e _ hlength hfirst ⟨rfl, rfl⟩
    | ok first =>
      simp only [mapError_ok, Action.Post.after_ok, Action.ensures_bind]
      refine (outputType_ensures first c₀).mono ?_
      rintro r c₁ es' ⟨rfl, rfl, hcalls, hlaunches⟩
      simp only [Action.Post.after_ok, Action.ensures_bind, Action.ensures_modify]
      have hopens : Opens entry z
          (.entered .interpreted :: .called entry.id (z.arguments 0) :: es') := by
        refine ⟨?_, ?_⟩
        · change _ :: Event.calls es' = _
          rw [hcalls]
          rfl
        · exact hlaunches
      split
      next _ array output houtput =>
        exact hdeploy rest first _ array output hlength hfirst hopens rfl
          (toOption_eq_some_iff.1 houtput)
      next => exact hrest rest first _ hlength hfirst hopens

/-- These ways, with the calls made on them. -/
theorem callEntry_cases {f : FunctionId} {entry : Entry} {z : Zipped} {input : Option ColumnArray}
    (post : Except OperatorError Outcome → Context → List (FunctionId × List Value) → Prop)
    (hempty : z.length = 0 → post (.ok (.interpreted [] none)) c [])
    (hfailed : ∀ rest e, z.length = rest + 1 → entry.body.call (z.arguments 0) = .error e →
      post (.error (.eval e)) c (entry.calling [z.arguments 0]))
    (hrest : ∀ rest first, z.length = rest + 1 → entry.body.call (z.arguments 0) = .ok first →
      (interpretRest entry z first rest first.inferOutput.toOption).Ensures (sampled c f first)
        fun r c' es => post r c' (entry.calling [z.arguments 0] ++ Event.calls es))
    (hdevice : ∀ rest first input' output, z.length = rest + 1 →
      entry.body.call (z.arguments 0) = .ok first → input = some input' →
      first.inferOutput = .ok output →
      (propose f entry.id >>= fun trace =>
        proceed { function := f, entry, trace, input := input', elements := z, output }
          first rest).Ensures (sampled c f first) fun r c' es =>
            post r c' (entry.calling [z.arguments 0] ++ Event.calls es)) :
    (callEntry f entry z input).Ensures c fun r c' es => post r c' (Event.calls es) := by
  refine ensures_callEntry _ hempty ?_ ?_ ?_
  · intro rest e told hlength hfirst hopens
    rw [hopens.calls]
    exact hfailed rest e hlength hfirst
  · intro rest first told hlength hfirst hopens
    simp only [Event.calls_append, hopens.calls]
    exact hrest rest first hlength hfirst
  · intro rest first told array output hlength hfirst hopens harray houtput
    simp only [Event.calls_append, hopens.calls]
    rw [deploy, Action.ensures_bind]
    refine (deviceEnabled_ensures f _).mono ?_
    rintro r c₂ es ⟨rfl, ⟨enabled, rfl⟩, hnone⟩
    simp only [Action.Post.after_ok, Event.calls_append, hnone, List.nil_append]
    cases enabled with
    | false =>
      have hrest' := hrest rest first hlength hfirst
      rw [houtput] at hrest'
      exact hrest'
    | true => exact hdevice rest first array output hlength hfirst harray houtput

/-- A call of a registered entry. -/
theorem callEntry_ensures {f : Function} (hf : known f) (h : c.Consistent) {entry : Entry}
    (hentry : c.functions.find? f.id = some entry) {z : Zipped}
    (harity : f.arity = 1 + z.companions.length) {input : Option ColumnArray}
    (hinput : ∀ a, input = some a → a.WellFormed ∧ a.type.width = 1 + z.companions.length) :
    (callEntry f.id entry z input).Ensures c fun r c' _ =>
      Steps known c c' ∧ Ends c' entry z input r := by
  have hsampled (first : Value) : Steps known c (sampled c f.id first) := .single (.sample ..)
  refine callEntry_cases (fun r c' _ => Steps known c c' ∧ Ends c' entry z input r) ?_ ?_ ?_ ?_
  · intro hlength
    have hall : entry.body.callAll z = .ok [] := by
      rw [Body.callAll, hlength, Body.callFrom_zero]
    exact ⟨.refl, .interpreted hall⟩
  · intro rest e hlength hfirst
    refine ⟨.refl, .failed ?_⟩
    rw [Body.callAll, hlength]
    exact Body.callFrom_of_error hfirst rest
  · intro rest first hlength hfirst
    refine (interpretRest_ensures hlength hfirst _ _).mono ?_
    rintro r c' es ⟨rfl, ⟨e, he, rfl⟩ | ⟨values, hvalues, rfl⟩⟩
    · exact ⟨hsampled first, .failed he⟩
    · exact ⟨hsampled first, .of_first (by omega) hfirst hvalues⟩
  · rintro rest first input' output hlength hfirst rfl houtput
    rw [Action.ensures_bind]
    have hentry' : (sampled c f.id first).functions.find? f.id = some entry := by
      simpa [sampled] using hentry
    refine (propose_ensures known hentry').mono ?_
    rintro r c₁ es ⟨hpropose, trace, rfl, hnames, hentry''⟩
    have hsteps := (hsampled first).trans hpropose
    obtain ⟨hwf, hwidth⟩ := hinput input' rfl
    have hs : Site.Located known
        { function := f.id, entry, trace, input := input', elements := z, output } c₁ :=
      ⟨⟨f, hf, rfl, hwidth.trans harity.symm⟩, hentry'', hnames, hwf⟩
    rw [Action.Post.after_ok]
    refine (proceed_ensures (h.steps hsteps) hs hlength hfirst).mono ?_
    rintro r c₂ es' ⟨hproceed, hsettles⟩
    -- the entry owns the trace until the end of the call
    have hnames' := hproceed.preserves (fun h hs => Context.Step.names hs h) hnames
    exact ⟨hsteps.trans hproceed,
      hsettles.ends rfl rfl rfl hnames' (by omega) hfirst houtput⟩

/-- A call of the entry that is found for the function. -/
theorem resolve_callEntry_ensures {f : Function} (hf : known f) (h : c.Consistent) {z : Zipped}
    (harity : f.arity = 1 + z.companions.length) {input : Option ColumnArray}
    (hinput : ∀ a, input = some a → a.WellFormed ∧ a.type.width = 1 + z.companions.length) :
    (resolve f >>= fun entry => callEntry f.id entry z input).Ensures c fun r c' _ =>
      Steps known c c' ∧ ∃ entry, ((resolve f).run c).result = .ok entry ∧
        Ends c' entry z input r := by
  rw [Action.ensures_bind]
  have hresolve := (resolve_ensures hf c).and
    (show (resolve f).Ensures c fun r _ _ => r = ((resolve f).run c).result from rfl)
  refine hresolve.mono ?_
  rintro r c₁ es ⟨⟨hsteps, entry, rfl, hentry⟩, hr⟩
  rw [Action.Post.after_ok]
  refine (callEntry_ensures hf (h.steps hsteps) hentry harity hinput).mono ?_
  rintro r c₂ es' ⟨hsteps', hends⟩
  exact ⟨hsteps.trans hsteps', entry, hr.symm, hends⟩

/-- Every call through the tiers ends with the first error of the entry that is called for the
function, with the results of all elements, or with an array from the device. -/
theorem run_ensures {f : Function} (hf : known f) (h : c.Consistent) {z : Zipped}
    (harity : f.arity = 1 + z.companions.length) {input : Option ColumnArray}
    (hinput : ∀ a, input = some a → a.WellFormed ∧ a.type.width = 1 + z.companions.length) :
    (run f z input).Ensures c fun r c' _ => Steps known c c' ∧
      ∃ entry, ((resolve f).run c).result = .ok entry ∧
        Ends c' entry z (input <|> (z.primary.marshal z.companions).toOption) r := by
  cases input with
  | some array =>
    rw [run_some]
    exact resolve_callEntry_ensures hf h harity hinput
  | none =>
    rw [run_none, Action.ensures_bind]
    refine (columns_ensures z c).mono ?_
    rintro r c₁ es ⟨rfl, rfl, -⟩
    exact resolve_callEntry_ensures hf h harity fun a => Zipped.layout_of_marshal

end Tiering

end TieredVectors
