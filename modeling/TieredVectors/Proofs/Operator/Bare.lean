import TieredVectors.Proofs.Operator.Modes

/-!
# Computing without graphs

Where there are neither graphs nor units, computing a stage is interpreting it. What it gives, which
calls it makes and what it leaves behind then depends on the targets of the functions alone:

* `Operator.mapVector_of_bare`, `Operator.reduceVector_of_bare` — mapping and folding a vector;
* `Context.Agrees` — functions compute what given targets compute, now and after specializations;
* `Operator.computeStage_of_agrees` — computing a stage, where they do.
-/

namespace TieredVectors

/-- Vectors are mapped through the tiers, and there is neither a graph nor a unit for any trace. -/
structure Context.Bare (c : Context) : Prop where
  offload : c.options.execution = .offload
  unlowered : ∀ trace, c.Unlowered trace

/-- Only the mode, the graphs of the detector and the cached units matter. -/
theorem Context.Bare.congr {c c' : Context} (h : c.Bare)
    (hmode : c'.options.execution = c.options.execution) (hdetector : c'.detector = c.detector)
    (hunits : c'.units = c.units) : c'.Bare :=
  ⟨hmode.trans h.offload, fun trace => (h.unlowered trace).congr hdetector hunits⟩

theorem Context.initial_bare : initial.Bare :=
  ⟨rfl, fun _ => ⟨fun graph => by simp [initial, Detector.Holds], rfl⟩⟩

/-- A fresh context in which functions are specialized. -/
def Context.specializing : Context := { initial with options := { specializeScope := true } }

theorem Context.specializing_bare : specializing.Bare := initial_bare.congr rfl rfl rfl

namespace Body

variable {body body' : Body} {x : DataVector} {companions : List DataVector} {z : Zipped}

/-- The arguments of the calls that mapping a vector makes. -/
def mapCalls (body : Body) (x : DataVector) (companions : List DataVector) : List (List Value) :=
  match Zipped.make x companions with
  | .ok z => body.callsFrom z 0 z.length
  | .error _ => []

/-- Fold a vector with the interpreter alone. The result is typed as asked for, or by itself. -/
def reduce (body : Body) (x : DataVector) (companions : List DataVector) (neutral : Value)
    (type : Option RowType) : Except OperatorError DataVector := do
  let z ← (Zipped.make x companions).mapError .type
  let value ← (body.foldFrom z neutral 0 z.length).mapError .eval
  return (DataVector.ofResults [value] (type <|> value.inferOutput.toOption)).1

/-- The arguments of the calls that folding a vector makes. -/
def reduceCalls (body : Body) (x : DataVector) (companions : List DataVector) (neutral : Value) :
    List (List Value) :=
  match Zipped.make x companions with
  | .ok z => body.foldCalls z neutral 0 z.length
  | .error _ => []

section Congr

variable (h : body.call = body'.call)
include h

theorem callsFrom_congr (first count : Nat) :
    body.callsFrom z first count = body'.callsFrom z first count := by
  induction count generalizing first with
  | zero => rfl
  | succ count ih => simp only [callsFrom, h, ih]

theorem foldFrom_congr (acc : Value) (first count : Nat) :
    body.foldFrom z acc first count = body'.foldFrom z acc first count := by
  induction count generalizing acc first with
  | zero => rfl
  | succ count ih => simp only [foldFrom, h, ih]

theorem foldCalls_congr (acc : Value) (first count : Nat) :
    body.foldCalls z acc first count = body'.foldCalls z acc first count := by
  induction count generalizing acc first with
  | zero => rfl
  | succ count ih => simp only [foldCalls, h, ih]

theorem map_congr : body.map x companions = body'.map x companions := by
  simp only [map, callAll, callFrom, h]

theorem mapCalls_congr : body.mapCalls x companions = body'.mapCalls x companions := by
  simp only [mapCalls, callsFrom_congr h]

theorem reduce_congr (neutral : Value) (type : Option RowType) :
    body.reduce x companions neutral type = body'.reduce x companions neutral type := by
  simp only [reduce, foldFrom_congr h]

theorem reduceCalls_congr (neutral : Value) :
    body.reduceCalls x companions neutral = body'.reduceCalls x companions neutral := by
  simp only [reduceCalls, foldCalls_congr h]

end Congr

end Body

/-- Nothing that is told about results is a call. -/
theorem DataVector.calls_ofResults (values : List Value) (type : Option RowType) :
    Event.calls (ofResults values type).2 = [] := by
  unfold ofResults
  split
  · rfl
  · split
    · rfl
    · split
      · split <;> rfl
      · rfl

theorem Action.results_ensures (values : List Value) (type : Option RowType) (c : Context) :
    (results values type).Ensures c fun r c' es =>
      r = .ok (DataVector.ofResults values type).1 ∧ c' = c ∧ Event.calls es = [] := by
  unfold results
  simp only [ensures_bind, ensures_tell, Post.after_ok, ensures_pure, List.append_nil, true_and]
  exact DataVector.calls_ofResults values type

namespace Tiering

variable {p : Program} {c : Context} {f : Function} {z : Zipped}

/-- A call through the tiers interprets all elements with the target of the function. -/
theorem run_of_bare (h : c.Bare) (hf : p.Knows f) (input : Option ColumnArray) :
    (run f z input).Ensures c fun r c' es =>
      r = ((c.resolved p f.id f.id).entry.body.outcome z).mapError .eval ∧ c'.Bare ∧
      c'.functions.target p = c.resolved p f.id ∧
      Event.calls es = (c.resolved p f.id f.id).entry.calling
        ((c.resolved p f.id f.id).entry.body.callsFrom z 0 z.length) := by
  have hcall (input : Option ColumnArray) :
      (resolve f >>= fun entry => callEntry f.id entry z input).Ensures c fun r c' es =>
        r = ((c.resolved p f.id f.id).entry.body.outcome z).mapError .eval ∧
        (∀ trace, c'.Unlowered trace) ∧ c'.functions.target p = c.resolved p f.id ∧
        Event.calls es = (c.resolved p f.id f.id).entry.calling
          ((c.resolved p f.id f.id).entry.body.callsFrom z 0 z.length) := by
    rw [Action.ensures_bind]
    refine (resolve_targets hf c).mono ?_
    rintro r c' es ⟨rfl, htarget, hdetector, hunits, rfl⟩
    rw [Action.Post.after_ok]
    have hunlowered (trace : TraceId) : c'.Unlowered trace :=
      (h.unlowered trace).congr hdetector hunits
    refine (callEntry_ensures_of_unlowered p f.id input (hunlowered _)).mono ?_
    rintro r c'' es ⟨rfl, htarget', hunlowered', hcalls⟩
    exact ⟨rfl, fun trace => hunlowered' trace (hunlowered trace), htarget'.trans htarget, hcalls⟩
  -- the columns are found before the function is, and that tells of no call
  have hrun : (run f z input).Ensures c fun r c' es =>
      r = ((c.resolved p f.id f.id).entry.body.outcome z).mapError .eval ∧
      (∀ trace, c'.Unlowered trace) ∧ c'.functions.target p = c.resolved p f.id ∧
      Event.calls es = (c.resolved p f.id f.id).entry.calling
        ((c.resolved p f.id f.id).entry.body.callsFrom z 0 z.length) := by
    cases input with
    | some array =>
      rw [run_some]
      exact hcall _
    | none =>
      rw [run_none, Action.ensures_bind]
      refine (columns_ensures z c).mono ?_
      rintro r c' es ⟨rfl, rfl, hnone⟩
      rw [Action.Post.after_ok]
      refine (hcall _).mono fun r c'' es' h => ?_
      rwa [Event.calls_append, hnone, List.nil_append]
  refine (hrun.and (computes_run f z input c)).mono ?_
  rintro r c' es ⟨⟨hr, hunlowered, htarget, hcalls⟩, hbystanders, -⟩
  have hoptions : c'.options = c.options := congrArg (·.2.1) hbystanders
  exact ⟨hr, ⟨hoptions ▸ h.offload, hunlowered⟩, htarget, hcalls⟩

end Tiering

namespace Operator

open TieredVectors.Action

variable {p : Program} {c : Context} {f : Function} {x : DataVector} {companions : List DataVector}

/-- Mapping a vector calls the target of the function, and leaves that behind if it gets so far as
to call anything. -/
theorem mapVector_of_bare (h : c.Bare) (hf : p.Knows f) (columns : Option ColumnArray) :
    (mapVector f x companions columns).Ensures c fun r c' es =>
      r = (c.resolved p f.id f.id).entry.body.map x companions ∧ c'.Bare ∧
      (c'.functions.target p = c.resolved p f.id ∨
        c'.functions.target p = c.functions.target p ∧ ∃ e, r = .error e) ∧
      Event.calls es = (c.resolved p f.id f.id).entry.calling
        ((c.resolved p f.id f.id).entry.body.mapCalls x companions) := by
  unfold mapVector zip
  rw [ensures_bind, ensures_ofExcept]
  cases hz : Zipped.make x companions with
  | error e =>
    -- the function has not even been looked up
    refine ⟨?_, h, .inr ⟨rfl, _, rfl⟩, ?_⟩
    · rw [Body.map, hz]
      rfl
    · rw [Body.mapCalls, hz]
      rfl
  | ok z =>
    rw [mapError_ok, Post.after_ok, ensures_bind, ensures_get, Post.after_ok, h.offload]
    dsimp only
    rw [ensures_bind]
    refine (Tiering.run_of_bare h hf columns).mono ?_
    rintro r c' es ⟨rfl, hbare, htarget, hcalls⟩
    rw [Body.map_of_make_ok hz, Body.mapCalls, hz, Body.outcome]
    cases (c.resolved p f.id f.id).entry.body.callAll z with
    | error e => exact ⟨rfl, hbare, .inl htarget, by simpa using hcalls⟩
    | ok values =>
      simp only [Functor.map, Except.map, mapError_ok, Post.after_ok]
      refine (results_ensures values _ c').mono ?_
      rintro r c'' es' ⟨rfl, rfl, hnone⟩
      exact ⟨rfl, hbare, .inl htarget, by simp [hcalls, hnone]⟩

/-- Folding a vector in order calls the target of the function, and changes nothing but that the
function has been seen. -/
theorem reduceVector_of_offload (h : c.options.execution = .offload) (hf : p.Knows f)
    (neutral : Value) (type : Option RowType) :
    (reduceVector f x companions neutral type).Ensures c fun r c' es =>
      r = (c.functions.target p f.id).entry.body.reduce x companions neutral type ∧
      (∃ functions, c' = { c with functions } ∧ functions.target p = c.functions.target p) ∧
      Event.calls es = (c.functions.target p f.id).entry.calling
        ((c.functions.target p f.id).entry.body.reduceCalls x companions neutral) := by
  unfold reduceVector zip
  rw [ensures_bind, ensures_ofExcept]
  cases hz : Zipped.make x companions with
  | error e =>
    refine ⟨?_, ⟨c.functions, rfl, rfl⟩, ?_⟩
    · rw [Body.reduce, hz]
      rfl
    · rw [Body.reduceCalls, hz]
      rfl
  | ok z =>
    rw [mapError_ok, Post.after_ok, ensures_bind, lookup, ensures_update, Post.after_ok,
      ensures_bind, ensures_get, Post.after_ok]
    simp only [h, FunctionRegistry.lookup_fst hf]
    rw [ensures_bind]
    refine ((c.functions.target p f.id).entry.foldFrom_ensures z neutral 0 z.length _).mono ?_
    rintro r c' es ⟨rfl, rfl, hcalls⟩
    have hreduce : (c.functions.target p f.id).entry.body.reduce x companions neutral type =
        (do
          let value ← ((c.functions.target p f.id).entry.body.foldFrom z neutral 0
            z.length).mapError .eval
          return (DataVector.ofResults [value] (type <|> value.inferOutput.toOption)).1) := by
      rw [Body.reduce, hz]
      rfl
    have hseen : ∃ functions, ({ c with functions := (c.functions.lookup f).2 } : Context) =
        { c with functions } ∧ functions.target p = c.functions.target p :=
      ⟨_, rfl, FunctionRegistry.target_lookup hf⟩
    rw [Body.reduceCalls, hz, hreduce]
    cases (c.functions.target p f.id).entry.body.foldFrom z neutral 0 z.length with
    | error e => exact ⟨rfl, hseen, by simpa using hcalls⟩
    | ok value =>
      rw [mapError_ok, Post.after_ok]
      refine (results_ensures [value] _ _).mono ?_
      rintro r c'' es' ⟨rfl, rfl, hnone⟩
      exact ⟨rfl, hseen, by simp [hcalls, hnone]⟩

/-- Where there are no graphs it stays so. -/
theorem reduceVector_of_bare (h : c.Bare) (hf : p.Knows f) (neutral : Value)
    (type : Option RowType) :
    (reduceVector f x companions neutral type).Ensures c fun r c' es =>
      r = (c.functions.target p f.id).entry.body.reduce x companions neutral type ∧ c'.Bare ∧
      c'.functions.target p = c.functions.target p ∧
      Event.calls es = (c.functions.target p f.id).entry.calling
        ((c.functions.target p f.id).entry.body.reduceCalls x companions neutral) := by
  refine (reduceVector_of_offload h.offload hf neutral type).mono ?_
  rintro r c' es ⟨hr, ⟨functions, rfl, htarget⟩, hcalls⟩
  exact ⟨hr, h.congr rfl rfl rfl, htarget, hcalls⟩

end Operator

/-! ## Stages -/

namespace Stage

variable {stage : Stage} {t : Target}

/-- Compute a stage with the interpreter alone, given what is called for its function. -/
def compute (stage : Stage) (t : Target) (x : DataVector) : Except OperatorError DataVector :=
  match stage.task with
  | .map => t.entry.body.map x stage.input.companions
  | .reduce neutral => t.entry.body.reduce x stage.input.companions neutral stage.output

/-- The calls that computing the stage makes. -/
def calls (stage : Stage) (t : Target) (x : DataVector) : List (FunctionId × List Value) :=
  t.entry.calling <|
    match stage.task with
    | .map => t.entry.body.mapCalls x stage.input.companions
    | .reduce neutral => t.entry.body.reduceCalls x stage.input.companions neutral

end Stage

/-- What is called for a function by a stage with the given task. Only mapping goes through the
tiers, where the function may be specialized first. -/
def Context.called (p : Program) (c : Context) : StageTask → FunctionId → Target
  | .map, f => c.resolved p f f
  | .reduce _, f => c.functions.target p f

/-- Vectors are interpreted, and stages with the given tasks and functions call the given targets.
If functions are specialized, that cannot be told where a function is mapped and folded with. -/
structure Context.Agrees (p : Program) (uses : StageTask → FunctionId → Prop)
    (targets : StageTask → FunctionId → Target) (c : Context) : Prop where
  bare : c.Bare
  same : ∀ task f, uses task f → (c.called p task f).Same (targets task f)
  steady : c.options.specializeScope = true → ∀ f neutral, uses .map f → uses (.reduce neutral) f →
    (c.functions.target p f).Steady f

namespace Context.Agrees

variable {p : Program} {uses : StageTask → FunctionId → Prop}
  {targets : StageTask → FunctionId → Target} {c c' : Context}

/-- A context agrees with what is called in it, if no specialization can be told. -/
theorem self (h : c.Bare)
    (hsteady : c.options.specializeScope = true → ∀ f neutral, uses .map f →
      uses (.reduce neutral) f → (c.functions.target p f).Steady f) :
    c.Agrees p uses (c.called p) :=
  ⟨h, fun _ _ _ => .refl _, hsteady⟩

/-- Only the options and the targets of functions matter. -/
theorem of_target (h : c.Agrees p uses targets) (hbare : c'.Bare)
    (hoptions : c'.options = c.options)
    (htarget : c'.functions.target p = c.functions.target p) : c'.Agrees p uses targets := by
  refine ⟨hbare, fun task f huses => ?_, by rw [hoptions, htarget]; exact h.steady⟩
  have hcalled : c'.called p task f = c.called p task f := by
    cases task <;> simp only [called, resolved, hoptions, htarget]
  rw [hcalled]
  exact h.same task f huses

/-- A function that is mapped with may be specialized. Mapping has called the specialization all
along, and folding cannot tell. -/
theorem of_resolved (h : c.Agrees p uses targets) (hbare : c'.Bare)
    (hoptions : c'.options = c.options) {f : FunctionId} (hmaps : uses .map f)
    (htarget : c'.functions.target p = c.resolved p f) : c'.Agrees p uses targets := by
  refine ⟨hbare, fun task g huses => ?_, fun hscope g neutral hmaps' hfolds => ?_⟩
  · cases task with
    | map =>
      have hcalled : c'.called p .map g = c.called p .map g := by
        simp only [called, resolved, hoptions, htarget]
        by_cases hscope : c.options.specializeScope = true
        · by_cases hg : g = f
          · subst hg
            simp only [hscope, true_and, if_true, Target.specialize_specialize]
          · simp only [hscope, true_and, if_true, if_neg hg]
        · simp only [hscope, false_and, if_false, Bool.false_eq_true]
      rw [hcalled]
      exact h.same .map g huses
    | reduce neutral =>
      rw [called, htarget, resolved]
      split
      next hg =>
        obtain ⟨hscope, rfl⟩ := hg
        exact (h.steady hscope g neutral hmaps huses).trans (h.same (.reduce neutral) g huses)
      next => exact h.same (.reduce neutral) g huses
  · rw [hoptions] at hscope
    rw [htarget, resolved]
    split
    next hg =>
      obtain ⟨-, rfl⟩ := hg
      exact Target.steady_specialize
    next => exact h.steady hscope g neutral hmaps' hfolds

end Context.Agrees

namespace Operator

variable {p : Program} {uses : StageTask → FunctionId → Prop}
  {targets : StageTask → FunctionId → Target} {c : Context} {stage : Stage}

/-- Computing a stage interprets it with the target of its function, and changes nothing that can be
told. -/
theorem computeStage_of_agrees (h : c.Agrees p uses targets)
    (huses : uses stage.task stage.function.id) (hf : p.Knows stage.function) (x : DataVector) :
    (computeStage stage x).Ensures c fun r c' es =>
      r = stage.compute (targets stage.task stage.function.id) x ∧ c'.Agrees p uses targets ∧
      c'.bystanders = c.bystanders ∧
      Event.calls es = stage.calls (targets stage.task stage.function.id) x := by
  have hcompute : (computeStage stage x).Ensures c fun r c' es =>
      r = stage.compute (targets stage.task stage.function.id) x ∧
      (c'.options = c.options → c'.Agrees p uses targets) ∧
      Event.calls es = stage.calls (targets stage.task stage.function.id) x := by
    unfold computeStage Stage.compute Stage.calls
    cases htask : stage.task with
    | map =>
      have hmaps : uses .map stage.function.id := htask ▸ huses
      have hsame : (c.resolved p stage.function.id stage.function.id).Same
          (targets .map stage.function.id) := h.same .map _ hmaps
      refine (mapVector_of_bare h.bare hf _).mono ?_
      rintro r c' es ⟨rfl, hbare, htarget, hcalls⟩
      refine ⟨Body.map_congr hsame.call, fun hoptions => ?_, ?_⟩
      · -- the function may or may not have been specialized
        rcases htarget with htarget | ⟨htarget, -⟩
        · exact h.of_resolved hbare hoptions hmaps htarget
        · exact h.of_target hbare hoptions htarget
      · rw [hcalls, Entry.calling, Entry.calling, hsame.function, Body.mapCalls_congr hsame.call]
    | reduce neutral =>
      have hsame : (c.functions.target p stage.function.id).Same
          (targets (.reduce neutral) stage.function.id) :=
        h.same (.reduce neutral) _ (htask ▸ huses)
      refine (reduceVector_of_bare h.bare hf _ _).mono ?_
      rintro r c' es ⟨rfl, hbare, htarget, hcalls⟩
      refine ⟨Body.reduce_congr hsame.call _ _,
        fun hoptions => h.of_target hbare hoptions htarget, ?_⟩
      rw [hcalls, Entry.calling, Entry.calling, hsame.function, Body.reduceCalls_congr hsame.call]
  refine (hcompute.and (computes_computeStage x stage c)).mono ?_
  rintro r c' es ⟨⟨hr, hagrees, hcalls⟩, hbystanders, -⟩
  exact ⟨hr, hagrees (congrArg (·.2.1) hbystanders), hbystanders, hcalls⟩

end Operator

end TieredVectors
