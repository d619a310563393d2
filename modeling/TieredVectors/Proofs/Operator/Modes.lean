import TieredVectors.Proofs.Operator.Compilations
import TieredVectors.Proofs.Operator.Pooling
import TieredVectors.Proofs.Operator.Targets
import TieredVectors.Proofs.Operator.Transparency

/-!
# Ways to map a vector

A vector is mapped by calls in order, by calls on a pool, or through the tiers. Where there is no
graph for the function, and none of its captured values are worked in, all of them do the same
(`Operator.modes_agree`):

* `Context.Unlowered` — the detector holds no graph for a trace and no unit is cached for it;
* `Tiering.run_ensures_of_unlowered` — a call through the tiers then interprets every element;
* `Operator.apply_ensures`, `Operator.map_ensures_of_unlowered` — in every mode the calls come to
  what calls in any order may come to (`Pool.Gathers`), and are typed by the first result.
-/

namespace TieredVectors

/-! ## Nothing to compile -/

namespace Detector

variable (d : Detector) (entry : EntryId) {trace : TraceId} {graph : Graph}

/-- Giving an entry a trace brings no graph. -/
theorem holds_traceOf_iff : (d.traceOf entry).2.Holds trace graph ↔ d.Holds trace graph := by
  cases d with
  | never => exact Iff.rfl
  | scripted s =>
    simp only [traceOf, ScriptedDetector.traceOf]
    split <;> exact Iff.rfl

/-- Marking an entry brings no graph. -/
theorem holds_mark_iff : (d.mark entry).Holds trace graph ↔ d.Holds trace graph := by
  cases d with
  | never => exact Iff.rfl
  | scripted s =>
    rw [← holds_traceOf_iff (.scripted s) entry]
    simp only [mark, ScriptedDetector.mark, traceOf, Holds, Table.get?_modify]
    split
    · cases (s.traceOf entry).2.scripts.get? trace <;> exact Iff.rfl
    · exact Iff.rfl

/-- An entry has the same trace whether or not it is marked first. -/
theorem traceOf_mark : ((d.mark entry).traceOf entry).1 = (d.traceOf entry).1 := by
  cases d with
  | never => rfl
  | scripted s =>
    cases h : s.traces.get? entry <;>
      simp [mark, traceOf, ScriptedDetector.mark, ScriptedDetector.traceOf, h]

/-- A detector without a graph for the trace stays as it is when asked for one. -/
theorem probe_of_not_holds {d : Detector} (h : ∀ graph, ¬ d.Holds trace graph) :
    d.probe trace = (none, d) := by
  cases d with
  | never => rfl
  | scripted s =>
    have hnone : s.scripts.get? trace = none := by
      cases hscript : s.scripts.get? trace with
      | none => rfl
      | some script => exact absurd (by rw [Holds, hscript]; rfl) (h script.graph)
    simp [probe, ScriptedDetector.probe, hnone]

end Detector

namespace Context

variable {p : Program} {c : Context} {f : Function} {trace : TraceId}

/-- The body that is run when a function is called. -/
def bodyOf (c : Context) (f : Function) : Body := (c.functions.lookup f).1.body

/-- The trace that a function has, or would be given, when it is called. -/
def traceOf (c : Context) (f : Function) : TraceId :=
  (c.detector.traceOf (c.functions.lookup f).1.id).1

/-- There is neither a graph for the trace nor a unit. -/
structure Unlowered (c : Context) (trace : TraceId) : Prop where
  graph : ∀ graph, ¬ c.detector.Holds trace graph
  unit : c.units.get? trace = none

/-- Only the graphs of the detector and the cached units matter. -/
theorem Unlowered.of_holds {c' : Context} (h : c.Unlowered trace)
    (hholds : ∀ graph, c'.detector.Holds trace graph → c.detector.Holds trace graph)
    (hunits : c'.units = c.units) : c'.Unlowered trace :=
  ⟨fun graph hgraph => h.graph graph (hholds graph hgraph), hunits ▸ h.unit⟩

theorem Unlowered.congr {c' : Context} (h : c.Unlowered trace)
    (hdetector : c'.detector = c.detector) (hunits : c'.units = c.units) : c'.Unlowered trace :=
  h.of_holds (fun _ hgraph => hdetector ▸ hgraph) hunits

/-- Where nothing is registered for a function's entry there is nothing for its trace. -/
theorem Traced.unlowered {registered : EntryId → Graph → Prop} (h : c.Traced p registered)
    (hnone : ∀ graph, ¬ registered (c.functions.lookup f).1.id graph) :
    c.Unlowered (c.traceOf f) := by
  have howned := h.detector.traceOf (c.functions.lookup f).1.id
  have hnames := c.detector.names_traceOf (c.functions.lookup f).1.id
  refine ⟨fun graph hholds => ?_, ?_⟩
  · exact hnone graph (howned.of_holds hnames ((c.detector.holds_traceOf_iff _).2 hholds))
  · cases hunit : c.units.get? (c.traceOf f) with
    | none => rfl
    | some unit =>
      obtain ⟨e, he, -, hregistered, -⟩ := h.units _ unit hunit
      -- the unit was made for the entry that owns the trace, which is this one
      obtain rfl := howned.eq_of_names (he.traceOf _) hnames
      exact absurd hregistered (hnone _)

/-- After a history in which no graph was registered for a function's entry. -/
theorem Fresh.unlowered_after (h : c.Fresh) {requests : List Request}
    (hasks : ∀ request ∈ requests, p.Asks request)
    (hnone : ∀ graph hotAfter, .registerGraph ((c.after requests).functions.lookup f).1.id graph
      hotAfter ∉ requests) : (c.after requests).Unlowered ((c.after requests).traceOf f) :=
  (h.traced_after hasks).unlowered fun graph ⟨hotAfter, hmem⟩ => hnone graph hotAfter hmem

end Context

/-! ## Calls through the tiers -/

/-- The outcome of a call if all elements are interpreted. -/
def Body.outcome (body : Body) (z : Zipped) : Except EvalError Tiering.Outcome :=
  (fun values => .interpreted values (values.head?.bind fun v => v.inferOutput.toOption)) <$>
    body.callAll z

theorem Body.outcome_of_first {body : Body} {z : Zipped} {first : Value} {rest : Nat}
    (hlength : z.length = rest + 1) (hfirst : body.call (z.arguments 0) = .ok first) :
    body.outcome z =
      (fun values => .interpreted (first :: values) first.inferOutput.toOption) <$>
        body.callFrom z 1 rest := by
  rw [Body.outcome, Body.callAll_of_first hlength hfirst]
  cases body.callFrom z 1 rest <;> rfl

/-- The calls for all elements, once it is known how the first one goes. -/
theorem Body.callsFrom_of_first {body : Body} {z : Zipped} {first : Value} {rest : Nat}
    (hlength : z.length = rest + 1) (hfirst : body.call (z.arguments 0) = .ok first) :
    body.callsFrom z 0 z.length = z.arguments 0 :: body.callsFrom z 1 rest := by
  simp only [hlength, callsFrom, hfirst]

namespace Tiering

variable {c : Context} {s : Site} {entry : Entry} {z : Zipped} {first : Value} {rest : Nat}

theorem interpretRest_ensures_outcome (hlength : z.length = rest + 1)
    (hfirst : entry.body.call (z.arguments 0) = .ok first) (c : Context) :
    (interpretRest entry z first rest first.inferOutput.toOption).Ensures c fun r c' es => c' = c ∧
      r = (entry.body.outcome z).mapError .eval ∧
      Event.calls es = entry.calling (entry.body.callsFrom z 1 rest) := by
  unfold interpretRest
  rw [Action.ensures_bind, Body.outcome_of_first hlength hfirst]
  refine (entry.callFrom_ensures z 1 rest c).mono ?_
  rintro r c' es ⟨rfl, rfl, hcalls⟩
  cases entry.body.callFrom z 1 rest with
  | error e => exact ⟨rfl, rfl, hcalls⟩
  | ok values =>
    rw [mapError_ok, Action.Post.after_ok, Action.ensures_pure, List.append_nil]
    exact ⟨rfl, rfl, hcalls⟩

/-- Without a graph no element is the last to be interpreted. -/
theorem trace_ensures_of_unlowered (h : c.Unlowered s.trace) (first count : Nat) :
    (trace s first count).Ensures c fun r c' es => c' = c ∧
      r = .inr <$> (s.entry.body.callFrom s.elements first count).mapError .eval ∧
      Event.calls es = s.entry.calling (s.entry.body.callsFrom s.elements first count) := by
  induction count generalizing first with
  | zero => exact ⟨rfl, rfl, rfl⟩
  | succ count ih =>
    rw [trace, Body.callFrom_succ, Body.callsFrom, Action.ensures_bind]
    refine (s.entry.call_ensures (s.elements.arguments first) c).mono ?_
    rintro r c' es ⟨rfl, rfl, rfl⟩
    cases s.entry.body.call (s.elements.arguments first) with
    | error e => exact ⟨rfl, rfl, rfl⟩
    | ok v =>
      rw [mapError_ok, Action.Post.after_ok, Action.ensures_bind, probe, Action.ensures_update,
        Detector.probe_of_not_holds h.graph, Action.Post.after_ok]
      dsimp only
      rw [Action.ensures_bind]
      refine (ih (first + 1)).mono ?_
      rintro r c'' es' ⟨rfl, rfl, hcalls⟩
      have hfirst (es : List Event) (hes : Event.calls es = Event.calls es') :
          Event.calls ([.called s.entry.id (s.elements.arguments first)] ++ ([] ++ es)) =
            s.entry.calling (s.elements.arguments first ::
              s.entry.body.callsFrom s.elements (first + 1) count) := by
        simp [hes, hcalls, Entry.calling]
      cases s.entry.body.callFrom s.elements (first + 1) count with
      | error e => exact ⟨rfl, rfl, hfirst _ rfl⟩
      | ok vs => exact ⟨rfl, rfl, hfirst _ (by simp [Action.run, pure, Action.succeed])⟩

theorem proceed_ensures_of_unlowered (h : c.Unlowered s.trace)
    (hlength : s.elements.length = rest + 1)
    (hfirst : s.entry.body.call (s.elements.arguments 0) = .ok first)
    (houtput : first.inferOutput.toOption = some s.output) :
    (proceed s first rest).Ensures c fun r c' es => c' = c ∧
      r = (s.entry.body.outcome s.elements).mapError .eval ∧
      Event.calls es = s.entry.calling (s.entry.body.callsFrom s.elements 1 rest) := by
  unfold proceed
  simp only [Action.ensures_bind, Action.ensures_get, Action.Post.after_ok, h.unit]
  rw [Body.outcome_of_first hlength hfirst, houtput]
  refine (trace_ensures_of_unlowered h 1 rest).mono ?_
  rintro r c' es ⟨rfl, rfl, hcalls⟩
  cases s.entry.body.callFrom s.elements 1 rest with
  | error e => exact ⟨rfl, rfl, hcalls⟩
  | ok values =>
    refine ⟨rfl, rfl, ?_⟩
    simpa [Action.run, pure, Action.succeed] using hcalls

/-- Proposing a function brings neither a graph nor a unit, and changes no target. -/
theorem propose_ensures_of_unlowered (p : Program) (f : FunctionId) (entry : EntryId)
    (c : Context) :
    (propose f entry).Ensures c fun r c' es => r = .ok (c.detector.traceOf entry).1 ∧
      c'.functions.target p = c.functions.target p ∧
      (∀ trace, c.Unlowered trace → c'.Unlowered trace) ∧ es = [] := by
  rw [propose, Action.ensures_update]
  dsimp only
  refine ⟨congrArg Except.ok ?_, c.functions.target_markCandidate f, fun trace h => ?_, rfl⟩
  · -- the function is marked on its first proposal only
    split
    · exact c.detector.traceOf_mark entry
    · rfl
  · refine h.of_holds (fun graph hholds => ?_) rfl
    rw [Detector.holds_traceOf_iff] at hholds
    split at hholds
    · exact (c.detector.holds_mark_iff entry).1 hholds
    · exact hholds

/-- Without a graph for the entry's trace a call interprets all elements. It brings neither a graph
nor a unit, and changes no target. -/
theorem callEntry_ensures_of_unlowered (p : Program) (f : FunctionId) (input : Option ColumnArray)
    (h : c.Unlowered (c.detector.traceOf entry.id).1) :
    (callEntry f entry z input).Ensures c fun r c' es =>
      r = (entry.body.outcome z).mapError .eval ∧
      c'.functions.target p = c.functions.target p ∧
      (∀ trace, c.Unlowered trace → c'.Unlowered trace) ∧
      Event.calls es = entry.calling (entry.body.callsFrom z 0 z.length) := by
  have hsampled (first : Value) :
      (sampled c f first).functions.target p = c.functions.target p ∧
      ∀ trace, c.Unlowered trace → (sampled c f first).Unlowered trace :=
    ⟨c.functions.target_recordSample f first _, fun trace h => h.congr rfl rfl⟩
  refine callEntry_cases (fun r c' calls => r = (entry.body.outcome z).mapError .eval ∧
    c'.functions.target p = c.functions.target p ∧
    (∀ trace, c.Unlowered trace → c'.Unlowered trace) ∧
    calls = entry.calling (entry.body.callsFrom z 0 z.length)) ?_ ?_ ?_ ?_
  · intro hlength
    rw [Body.outcome, Body.callAll, hlength, Body.callFrom_zero]
    exact ⟨rfl, rfl, fun _ h => h, rfl⟩
  · intro rest e hlength hfirst
    rw [Body.outcome, Body.callAll, hlength, Body.callFrom_of_error hfirst rest]
    exact ⟨rfl, rfl, fun _ h => h, by simp only [Body.callsFrom, hfirst]⟩
  · intro rest first hlength hfirst
    refine (interpretRest_ensures_outcome hlength hfirst _).mono ?_
    rintro r c' es ⟨rfl, hr, hcalls⟩
    refine ⟨hr, (hsampled first).1, (hsampled first).2, ?_⟩
    rw [hcalls, Body.callsFrom_of_first hlength hfirst]
    rfl
  · intro rest first input' output hlength hfirst _ houtput
    rw [Action.ensures_bind]
    refine (propose_ensures_of_unlowered p f entry.id (sampled c f first)).mono ?_
    rintro r c' es ⟨rfl, htarget, hunlowered, rfl⟩
    have hunlowered' := fun trace h => hunlowered trace ((hsampled first).2 trace h)
    rw [Action.Post.after_ok]
    refine (proceed_ensures_of_unlowered (hunlowered' _ h) hlength hfirst
      (toOption_eq_some_iff.2 houtput)).mono ?_
    rintro r c'' es' ⟨rfl, hr, hcalls⟩
    refine ⟨hr, htarget.trans (hsampled first).1, hunlowered', ?_⟩
    rw [List.nil_append, hcalls, Body.callsFrom_of_first hlength hfirst]
    rfl

/-- Without a graph, and with nothing worked in, a call interprets all elements. -/
theorem run_ensures_of_unlowered {f : Function} (hscope : c.options.specializeScope = false)
    (h : c.Unlowered (c.traceOf f)) :
    (run f z none).Ensures c fun r _ _ => r = ((c.bodyOf f).outcome z).mapError .eval := by
  rw [run_none, Action.ensures_bind]
  refine (columns_ensures z c).mono ?_
  rintro r c' es ⟨rfl, rfl, -⟩
  rw [Action.Post.after_ok, Action.ensures_bind, resolve]
  simp only [Action.lookup, Action.ensures_bind, Action.ensures_update, Action.Post.after_ok,
    Action.ensures_get, hscope, Bool.false_and, Bool.false_eq_true, if_false, Action.ensures_pure]
  have hlookup : ({ c' with functions := (c'.functions.lookup f).2 } : Context).Unlowered
      (c'.traceOf f) := h.congr rfl rfl
  exact (callEntry_ensures_of_unlowered ⟨fun _ => f.body⟩ f.id _ hlookup).mono fun _ _ _ h => h.1

end Tiering

/-! ## Every mode -/

/-- The context with another mode and another schedule. -/
def Context.inMode (c : Context) (mode : ExecutionMode) (schedule : Schedule) : Context :=
  { c with options := { c.options with execution := mode }, schedule }

/-- Results as a vector that is typed by the first of them. -/
def DataVector.byFirst (values : List Value) : DataVector :=
  (ofResults values (values.head?.bind fun v => v.inferOutput.toOption)).1

theorem Body.map_of_callAll {body : Body} {x : DataVector} {companions : List DataVector}
    {z : Zipped} {values : List Value} (hz : Zipped.make x companions = .ok z)
    (h : body.callAll z = .ok values) : body.map x companions = .ok (.byFirst values) := by
  rw [Body.map_of_make_ok hz, h]
  rfl

/-- Results that are given as a vector, if there are any. -/
theorem Action.ensures_bind_resultsByFirst {a : Action (List Value)} {c : Context}
    {post : Except OperatorError DataVector → Context → Prop} :
    (a >>= resultsByFirst).Ensures c (fun r c' _ => post r c') ↔
      a.Ensures c fun r c' _ => post (.byFirst <$> r) c' := by
  rw [ensures_bind]
  unfold Ensures
  cases (a.run c).result <;> exact Iff.rfl

/-- What has to do with the device. -/
def Context.deviceSide (c : Context) : UnitCache × ExecutorCache × Device × Detector :=
  (c.units, c.executors, c.device, c.detector)

/-- Every pool starts that is asked for. -/
def Schedule.StartsPools (s : Schedule) : Prop := ∀ size, s.failure? size = none

theorem Action.pool_ensures (threads : Nat) (c : Context) :
    (pool threads).Ensures c fun r c' _ => c'.deviceSide = c.deviceSide ∧
      (c.schedule.StartsPools → ∃ size, r = .ok size) := by
  unfold pool
  simp only [ensures_bind, ensures_get, Post.after_ok]
  split
  · exact ⟨rfl, fun _ => ⟨_, rfl⟩⟩
  · split
    next reason hreason =>
      refine ⟨rfl, fun hstarts => ?_⟩
      rw [hstarts] at hreason
      cases hreason
    next => exact ⟨rfl, fun _ => ⟨_, rfl⟩⟩

/-- The result is the error that the body has for an element. -/
def Body.FailsAt {α : Type} (body : Body) (z : Zipped) (i : Nat) (r : Except OperatorError α) :
    Prop :=
  ∃ e, body.call (z.arguments i) = .error e ∧ r = .error (.eval e)

/-- If the body has an error for an element, calls in any order fail with one that it has. -/
theorem Pool.Gathers.exists_failsAt {α : Type} {body : Body} {z : Zipped}
    {gathered : Except EvalError (List Value)}
    (h : Gathers z.length (fun i => body.call (z.arguments i)) gathered) {i : Nat} {e : EvalError}
    (hi : i < z.length) (he : body.call (z.arguments i) = .error e) (g : List Value → α) :
    ∃ j < z.length, body.FailsAt z j (g <$> gathered.mapError .eval) := by
  obtain ⟨j, e', hj, he', rfl⟩ := h.exists_error hi he
  exact ⟨j, hj, e', he', rfl⟩

namespace Operator

open TieredVectors.Action

variable {c : Context} {f : Function} {x : DataVector} {companions : List DataVector} {z : Zipped}

/-- Calls on a pool have nothing to do with the device. If the pool starts, they come to what calls
in any order may come to. -/
theorem pooled_ensures (threads : Nat) (entry : Entry) (z : Zipped) (c : Context) :
    (do
      let _ ← pool threads
      let values ← Pool.callAll entry z
      resultsByFirst values).Ensures c fun r c' _ => c'.deviceSide = c.deviceSide ∧
        (c.schedule.StartsPools → ∃ gathered,
          Pool.Gathers z.length (fun i => entry.body.call (z.arguments i)) gathered ∧
          r = DataVector.byFirst <$> gathered.mapError OperatorError.eval) := by
  rw [ensures_bind]
  refine (pool_ensures threads c).mono ?_
  rintro r c₁ es ⟨hside, hstarted⟩
  cases r with
  | error e =>
    refine ⟨hside, fun hstarts => ?_⟩
    obtain ⟨size, hsize⟩ := hstarted hstarts
    cases hsize
  | ok size =>
    rw [Post.after_ok, ensures_bind_resultsByFirst]
    refine (Pool.callAll_ensures entry z c₁).mono ?_
    rintro r c₂ es' ⟨rfl, gathered, hgathers, rfl⟩
    exact ⟨hside, fun _ => ⟨gathered, hgathers, rfl⟩⟩

theorem apply_of_arity (h : f.arity ≠ 1 + companions.length) (workers : Nat) (c : Context) :
    ((apply x f workers companions).run c).result =
      .error (.argumentCount f.arity (1 + companions.length)) := by
  change (apply x f workers companions).Ensures c fun r _ _ => r = _
  rw [apply, ensures_bind, checkArity, if_neg h]
  rfl

/-- Applying a function comes to what calls in any order may come to; without a pool the calls are
in order. -/
theorem apply_ensures (harity : f.arity = 1 + companions.length)
    (hz : Zipped.make x companions = .ok z) {workers : Nat}
    (hstarts : workers ≤ 1 ∨ c.schedule.StartsPools) :
    (apply x f workers companions).Ensures c fun r _ _ => ∃ gathered,
      Pool.Gathers z.length (fun i => (c.bodyOf f).call (z.arguments i)) gathered ∧
      (workers ≤ 1 → gathered = (c.bodyOf f).callAll z) ∧
      r = .byFirst <$> gathered.mapError .eval := by
  rw [apply, ensures_bind, checkArity, if_pos harity, ensures_pure, Post.after_ok, ensures_bind,
    zip, hz, ensures_ofExcept, mapError_ok, Post.after_ok, ensures_bind, lookup, ensures_update,
    Post.after_ok]
  dsimp only
  split
  next hfew =>
    rw [ensures_bind_resultsByFirst]
    refine ((c.functions.lookup f).1.callAll_ensures z _).mono ?_
    rintro r c' es ⟨-, rfl, -⟩
    exact ⟨_, (c.bodyOf f).gathers_callAll z, fun _ => rfl, rfl⟩
  next hmany =>
    refine (pooled_ensures workers (c.functions.lookup f).1 z _).mono ?_
    rintro r c' es ⟨-, hpooled⟩
    obtain ⟨gathered, hgathers, rfl⟩ := hpooled (hstarts.resolve_left hmany)
    exact ⟨gathered, hgathers, fun hfew => absurd hfew hmany, rfl⟩

/-- Mapping on a pool has nothing to do with the device. If the pool starts, it comes to what calls
in any order may come to. -/
theorem map_pool_ensures {threads : Nat} (hpool : c.options.execution = .pool threads)
    (harity : f.arity = 1 + companions.length) (hz : Zipped.make x companions = .ok z) :
    (map (.vector x) f companions).Ensures c fun r c' _ => c'.deviceSide = c.deviceSide ∧
      (c.schedule.StartsPools → ∃ gathered,
        Pool.Gathers z.length (fun i => (c.bodyOf f).call (z.arguments i)) gathered ∧
        r = (fun values => .vector (.byFirst values)) <$> gathered.mapError .eval) := by
  rw [map, ensures_bind, checkArity, if_pos harity, ensures_pure, Post.after_ok, ensures_map,
    mapVector, ensures_bind, zip, hz, ensures_ofExcept, mapError_ok, Post.after_ok,
    ensures_bind, ensures_get, Post.after_ok, hpool]
  dsimp only
  rw [ensures_bind, lookup, ensures_update, Post.after_ok]
  refine (pooled_ensures threads (c.functions.lookup f).1 z _).mono ?_
  rintro r c' es ⟨hside, hpooled⟩
  refine ⟨hside, fun hstarts => ?_⟩
  obtain ⟨gathered, hgathers, rfl⟩ := hpooled hstarts
  refine ⟨gathered, hgathers, ?_⟩
  cases gathered <;> rfl

/-- Mapping in a mode comes to what calls in any order may come to; through the tiers the calls are
in order. -/
theorem map_ensures_of_unlowered (hscope : c.options.specializeScope = false)
    (h : c.Unlowered (c.traceOf f)) (harity : f.arity = 1 + companions.length)
    (hz : Zipped.make x companions = .ok z)
    (hstarts : c.options.execution = .offload ∨ c.schedule.StartsPools) :
    (map (.vector x) f companions).Ensures c fun r _ _ => ∃ gathered,
      Pool.Gathers z.length (fun i => (c.bodyOf f).call (z.arguments i)) gathered ∧
      (c.options.execution = .offload → gathered = (c.bodyOf f).callAll z) ∧
      r = (fun values => .vector (.byFirst values)) <$> gathered.mapError .eval := by
  cases hmode : c.options.execution with
  | offload =>
    rw [ensures_map_offload hmode harity hz]
    refine (Tiering.run_ensures_of_unlowered hscope h).mono ?_
    rintro r c' es rfl
    refine ⟨_, (c.bodyOf f).gathers_callAll z, fun _ => rfl, ?_⟩
    rw [Body.outcome]
    cases (c.bodyOf f).callAll z <;> rfl
  | pool threads =>
    refine (map_pool_ensures hmode harity hz).mono ?_
    rintro r c' es ⟨-, hpooled⟩
    rw [hmode] at hstarts
    obtain ⟨gathered, hgathers, hr⟩ := hpooled (hstarts.resolve_left nofun)
    exact ⟨gathered, hgathers, nofun, hr⟩

theorem map_pool_deviceSide {threads : Nat} (hpool : c.options.execution = .pool threads)
    (hz : Zipped.make x companions = .ok z) :
    ((map (.vector x) f companions).run c).context.deviceSide = c.deviceSide := by
  by_cases harity : f.arity = 1 + companions.length
  · exact (map_pool_ensures hpool harity hz).1
  · change (map (.vector x) f companions).Ensures c fun _ c' _ => c'.deviceSide = c.deviceSide
    rw [map, ensures_bind, checkArity, if_neg harity]
    rfl

/-- If no call fails, applying the function gives the results of calls in order. -/
theorem apply_of_callAll {values : List Value} (harity : f.arity = 1 + companions.length)
    (hz : Zipped.make x companions = .ok z) (h : (c.bodyOf f).callAll z = .ok values)
    {workers : Nat} (hstarts : workers ≤ 1 ∨ c.schedule.StartsPools) :
    ((apply x f workers companions).run c).result = .ok (.byFirst values) := by
  obtain ⟨gathered, hgathers, -, hr⟩ := apply_ensures harity hz hstarts
  rw [hr, hgathers.eq_ok (Body.callAll_eq_ok_iff.1 h)]
  rfl

/-- If no call fails, mapping in any mode gives the results of calls in order. -/
theorem map_of_callAll {values : List Value} (hscope : c.options.specializeScope = false)
    (hunlowered : c.Unlowered (c.traceOf f)) (harity : f.arity = 1 + companions.length)
    (hz : Zipped.make x companions = .ok z) (h : (c.bodyOf f).callAll z = .ok values)
    (hstarts : c.options.execution = .offload ∨ c.schedule.StartsPools) :
    ((map (.vector x) f companions).run c).result = .ok (.vector (.byFirst values)) := by
  obtain ⟨gathered, hgathers, -, hr⟩ :=
    map_ensures_of_unlowered hscope hunlowered harity hz hstarts
  rw [hr, hgathers.eq_ok (Body.callAll_eq_ok_iff.1 h)]
  rfl

/-- Ways to map a vector agree. Take a context that works no captured values in and has neither a
graph nor a unit for the function, and a vector with companions that can be zipped.

* A function that takes another number of arguments is refused in every mode.
* If the function has a result for every element then `apply` with any number of workers, and `map`
  in any mode, give the one vector that the interpreter alone gives, in whatever order tasks finish.
* If the function has an error for some element then all of them fail: `apply` with at most one
  worker and `map` through the tiers with the error of the first such element, and on a pool with
  the error of some such element.
* Where a pool is used, this is if pools start.
* On a pool `map` leaves the cached units, the executors, the device and the detector as they
  are. -/
theorem modes_agree (hscope : c.options.specializeScope = false)
    (hunlowered : c.Unlowered (c.traceOf f)) (hz : Zipped.make x companions = .ok z) :
    (f.arity ≠ 1 + companions.length → ∀ mode schedule workers,
      ((apply x f workers companions).run (c.inMode mode schedule)).result =
        .error (.argumentCount f.arity (1 + companions.length)) ∧
      ((map (.vector x) f companions).run (c.inMode mode schedule)).result =
        .error (.argumentCount f.arity (1 + companions.length))) ∧
    (f.arity = 1 + companions.length →
      (∀ i < z.length, ∃ v, (c.bodyOf f).call (z.arguments i) = .ok v) →
      ∃ v, (c.bodyOf f).map x companions = .ok v ∧ ∀ mode schedule workers,
        (workers ≤ 1 ∨ schedule.StartsPools →
          ((apply x f workers companions).run (c.inMode mode schedule)).result = .ok v) ∧
        (mode = .offload ∨ schedule.StartsPools →
          ((map (.vector x) f companions).run (c.inMode mode schedule)).result =
            .ok (.vector v))) ∧
    (f.arity = 1 + companions.length →
      (∃ i < z.length, ∃ e, (c.bodyOf f).call (z.arguments i) = .error e) →
      (∃ i < z.length, (∀ j < i, ∃ v, (c.bodyOf f).call (z.arguments j) = .ok v) ∧
        (∀ mode schedule, ∀ workers ≤ 1, (c.bodyOf f).FailsAt z i
          ((apply x f workers companions).run (c.inMode mode schedule)).result) ∧
        ∀ schedule, (c.bodyOf f).FailsAt z i
          ((map (.vector x) f companions).run (c.inMode .offload schedule)).result) ∧
      ∀ schedule : Schedule, schedule.StartsPools →
        (∀ mode workers, ∃ i < z.length, (c.bodyOf f).FailsAt z i
          ((apply x f workers companions).run (c.inMode mode schedule)).result) ∧
        ∀ threads, ∃ i < z.length, (c.bodyOf f).FailsAt z i
          ((map (.vector x) f companions).run (c.inMode (.pool threads) schedule)).result) ∧
    ∀ threads schedule,
      ((map (.vector x) f companions).run (c.inMode (.pool threads) schedule)).context.deviceSide =
        c.deviceSide := by
  -- neither the mode nor the schedule has a say in what there is for the trace
  have hunlowered' mode schedule : (c.inMode mode schedule).Unlowered (c.traceOf f) :=
    hunlowered.congr rfl rfl
  refine ⟨fun harity mode schedule workers => ?_, fun harity hok => ?_, fun harity herror => ?_,
    fun threads schedule => map_pool_deviceSide rfl hz⟩
  · exact ⟨apply_of_arity harity workers _, map_of_arity harity _⟩
  · obtain ⟨values, hvalues⟩ := Body.exists_callAll hok
    refine ⟨_, Body.map_of_callAll hz hvalues, fun mode schedule workers =>
      ⟨fun hstarts => ?_, fun hstarts => ?_⟩⟩
    · exact apply_of_callAll (c := c.inMode mode schedule) harity hz hvalues hstarts
    · exact map_of_callAll hscope (hunlowered' mode schedule) harity hz hvalues hstarts
  · have happly (mode : ExecutionMode) (schedule : Schedule) {workers : Nat}
        (hstarts : workers ≤ 1 ∨ schedule.StartsPools) :=
      apply_ensures (c := c.inMode mode schedule) harity hz hstarts
    have hmap (mode : ExecutionMode) (schedule : Schedule)
        (hstarts : mode = .offload ∨ schedule.StartsPools) :=
      map_ensures_of_unlowered (c := c.inMode mode schedule) hscope (hunlowered' mode schedule)
        harity hz hstarts
    obtain ⟨i, hi, e, he⟩ := herror
    refine ⟨?_, fun schedule hstarts => ⟨fun mode workers => ?_, fun threads => ?_⟩⟩
    · -- calls in order stop at the first error, which need not be the one we have been given
      obtain ⟨j, e', hj, he', hbefore, hfirst⟩ := Body.exists_first_error hi he
      refine ⟨j, hj, hbefore, fun mode schedule workers hfew => ⟨e', he', ?_⟩,
        fun schedule => ⟨e', he', ?_⟩⟩
      · obtain ⟨gathered, -, hinOrder, hr⟩ := happly mode schedule (.inl hfew)
        rw [hr, (hinOrder hfew).trans hfirst]
        rfl
      · obtain ⟨gathered, -, hinOrder, hr⟩ := hmap .offload schedule (.inl rfl)
        rw [hr, (hinOrder rfl).trans hfirst]
        rfl
    · obtain ⟨gathered, hgathers, -, hr⟩ := happly mode schedule (.inr hstarts)
      rw [hr]
      exact hgathers.exists_failsAt hi he _
    · obtain ⟨gathered, hgathers, -, hr⟩ := hmap (.pool threads) schedule (.inr hstarts)
      rw [hr]
      exact hgathers.exists_failsAt hi he _

/-- A context in which a graph has been compiled for a function with the same body. -/
def compiledContext : Context := Context.initial.after Context.compilingHistory

/-- A function that adds one, for which there is no graph. -/
def otherIncrement : Function := incrementProgram.function ⟨1⟩

/-- The function has results for the first vector; in the second there are two elements for which it
has different errors. -/
theorem modes_agree_increment :
    compiledContext.options.specializeScope = false ∧
      compiledContext.Unlowered (compiledContext.traceOf otherIncrement) ∧
      Schedule.inOrder.StartsPools ∧
      (∃ z, Zipped.make (.int [1, 2, 3]) [] = .ok z ∧
        ∀ mode (schedule : Schedule) workers, schedule.StartsPools →
          ((apply (.int [1, 2, 3]) otherIncrement workers []).run
            (compiledContext.inMode mode schedule)).result = .ok (.int [2, 3, 4]) ∧
          ((map (.vector (.int [1, 2, 3])) otherIncrement []).run
            (compiledContext.inMode mode schedule)).result = .ok (.vector (.int [2, 3, 4]))) ∧
      ∃ z, Zipped.make (.list [.int 1, .null, .str "a"]) [] = .ok z ∧
        (∃ i < z.length, ∀ schedule, otherIncrement.body.FailsAt z i
          ((map (.vector (.list [.int 1, .null, .str "a"])) otherIncrement []).run
            (compiledContext.inMode .offload schedule)).result) ∧
        ∀ threads (schedule : Schedule), schedule.StartsPools →
          ∃ i < z.length, otherIncrement.body.FailsAt z i
            ((map (.vector (.list [.int 1, .null, .str "a"])) otherIncrement []).run
              (compiledContext.inMode (.pool threads) schedule)).result := by
  have hasks : ∀ request ∈ Context.compilingHistory, incrementProgram.Asks request := by
    simp [Context.compilingHistory, Program.Asks, Operation.function?, Program.Knows,
      incrementProgram]
  have hunlowered : compiledContext.Unlowered (compiledContext.traceOf otherIncrement) :=
    Context.initial_fresh.unlowered_after hasks fun graph hotAfter => by
      have hentry : (compiledContext.functions.lookup otherIncrement).1.id =
          otherIncrement.ownEntry.id := rfl
      change Request.registerGraph (compiledContext.functions.lookup otherIncrement).1.id graph
        hotAfter ∉ _
      rw [hentry]
      simp [Context.compilingHistory, otherIncrement, incrementProgram, Program.function,
        Function.ownEntry, increment]
  have hints : Zipped.make (.int [1, 2, 3]) [] =
      .ok ⟨.int [1, 2, 3], [], by decide, by simp⟩ := rfl
  have hlist : Zipped.make (.list [.int 1, .null, .str "a"]) [] =
      .ok ⟨.list [.int 1, .null, .str "a"], [], by decide, by simp⟩ := rfl
  obtain ⟨-, hresults, -, -⟩ := modes_agree (f := otherIncrement) rfl hunlowered hints
  obtain ⟨-, -, herrors, -⟩ := modes_agree (f := otherIncrement) rfl hunlowered hlist
  obtain ⟨v, hv, hall⟩ := hresults rfl fun i hi => by
    rcases i with _ | _ | _ | i
    · exact ⟨_, rfl⟩
    · exact ⟨_, rfl⟩
    · exact ⟨_, rfl⟩
    · exact absurd hi (by simp [Zipped.length, DataVector.length])
  obtain rfl : v = .int [2, 3, 4] := (Except.ok.inj hv).symm
  obtain ⟨⟨i, hi, -, -, hfirst⟩, hsome⟩ := herrors rfl ⟨1, by decide, _, rfl⟩
  refine ⟨rfl, hunlowered, fun _ => rfl, ⟨_, hints, fun mode schedule workers hstarts => ?_⟩, _,
    hlist, ⟨i, hi, hfirst⟩, fun threads schedule hstarts => (hsome schedule hstarts).2 threads⟩
  exact ⟨(hall mode schedule workers).1 (.inr hstarts),
    (hall mode schedule workers).2 (.inr hstarts)⟩

end Operator

end TieredVectors
