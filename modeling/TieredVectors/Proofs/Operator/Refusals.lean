import TieredVectors.Proofs.Operator.Arity

/-!
# Too many companions

A vector and its companions are zipped into rows, and a row has no more fields than a tuple. An
operator on a vector zips at once, so that it refuses too many companions before anything else
happens. An operator on a stage cannot zip before the stage has been computed, and what it does
until then is not undone: a deferred stage is registered all the same, though it can never be
computed, and a chain that is to be folded is executed and cleared.

* `Operator.computeStage_of_overfull` — a stage with too many companions cannot be computed;
* `Operation.unfinished` — so no operator call gives such a stage a result;
* `Context.refused_unless_pending` — what each operator makes of too many companions.
-/

namespace TieredVectors

variable {α β : Type} {p : Program} {c : Context}

/-- More vectors than a row has fields are refused, and nothing else has happened. -/
def Run.refused (c : Context) (vectors : Nat) : Run α where
  result := .error (.type (.unsupportedArity vectors))
  context := c
  events := []

/-- There are more companions than can be zipped with a vector. -/
def StageInput.Overfull (input : StageInput) : Prop := maxArity < 1 + input.companions.length

namespace StageRegistry

variable {r : StageRegistry} {handle : StageHandle}

/-- No stage with too many companions has a result. -/
def Unfinished (r : StageRegistry) : Prop :=
  ∀ handle stage, r.get? handle = some stage → stage.input.Overfull → stage.result = none

theorem Unfinished.memoize (h : r.Unfinished) {input : StageInput}
    (hinput : r.input? handle = some input) (hfits : ¬ input.Overfull) (result : DataVector) :
    (r.memoize handle result).Unfinished := by
  intro handle' stage hstage hfull
  have hinput' : r.input? handle' = some stage.input := by
    rw [← input?_eq_of_outline_eq (r.outline_memoize handle result), input?, hstage]
    rfl
  have hne : handle' ≠ handle := by
    rintro rfl
    rw [hinput] at hinput'
    exact hfits (Option.some.inj hinput' ▸ hfull)
  simp only [get?, StageRegistry.memoize, Table.get?_modify, if_neg hne] at hstage
  exact h handle' stage hstage hfull

theorem Unfinished.add (h : r.Unfinished) {stage : Stage}
    (hstage : stage.input.Overfull → stage.result = none) : (r.add stage).2.Unfinished := by
  intro handle' stage' hstage' hfull
  rw [get?_add] at hstage'
  split at hstage'
  · obtain rfl := Option.some.inj hstage'
    exact hstage hfull
  · exact h handle' stage' hstage' hfull

theorem Unfinished.clearChain (h : r.Unfinished) (handle : StageHandle) :
    (r.clearChain handle).2.Unfinished := fun handle' stage hstage =>
  h handle' stage (get?_clearChain hstage)

end StageRegistry

/-! ## Actions that give no such stage a result -/

namespace Action

variable {a : Action α}

/-- Whether it succeeds or fails, the action gives no stage with too many companions a result. -/
def KeepsUnfinished (a : Action α) : Prop :=
  ∀ c, c.stages.Unfinished → a.Ensures c fun _ c' _ => c'.stages.Unfinished

theorem KeepsUnfinished.bind {f : α → Action β} (ha : a.KeepsUnfinished)
    (hf : ∀ x, (f x).KeepsUnfinished) : (a >>= f).KeepsUnfinished := by
  intro c hc
  rw [ensures_bind]
  refine (ha c hc).mono fun r c' _ hc' => ?_
  cases r with
  | error e => exact hc'
  | ok x => exact hf x c' hc'

theorem KeepsUnfinished.map (ha : a.KeepsUnfinished) (f : α → β) : (f <$> a).KeepsUnfinished := by
  rw [map_eq_pure_bind]
  exact ha.bind fun x c hc => hc

/-- An action that leaves the stages alone. -/
theorem Contained.keepsUnfinished {errors : OperatorError → Prop}
    (h : a.Contained Context.bystanders errors) : a.KeepsUnfinished := by
  intro c hc
  refine (h c).mono fun r c' _ hc' => ?_
  have hstages : c'.stages = c.stages := congrArg Prod.fst hc'.1
  rwa [hstages]

theorem run_bind_fail (a : Action α) (e : OperatorError) (c : Context) :
    (a >>= fun _ => (fail e : Action β)).run c =
      { result := (a.run c).result >>= fun _ => .error e
        context := (a.run c).context
        events := (a.run c).events } := by
  change a.andThen _ c = _
  unfold andThen run
  rcases a c with ⟨_ | x, d, es⟩ <;> rfl

end Action

namespace Operator

open TieredVectors.Action

variable {f : Function} {companions : List DataVector} {stage : Stage} {handle : StageHandle}

section

variable (hmany : maxArity < 1 + companions.length)
include hmany

theorem zip_of_many (x : DataVector) :
    zip x companions = fail (.type (.unsupportedArity (1 + companions.length))) := by
  rw [zip, Zipped.make_of_arity hmany]
  rfl

theorem mapVector_of_many (f : Function) (x : DataVector) (columns : Option ColumnArray) :
    mapVector f x companions columns =
      fail (.type (.unsupportedArity (1 + companions.length))) := by
  rw [mapVector, zip_of_many hmany]
  rfl

theorem reduceVector_of_many (f : Function) (x : DataVector) (neutral : Value)
    (type : Option RowType) :
    reduceVector f x companions neutral type =
      fail (.type (.unsupportedArity (1 + companions.length))) := by
  rw [reduceVector, zip_of_many hmany]
  rfl

end

/-- Whatever its elements are, a stage with too many companions cannot be computed. -/
theorem computeStage_of_overfull (h : stage.input.Overfull) (x : DataVector) :
    computeStage stage x =
      fail (.type (.unsupportedArity (1 + stage.input.companions.length))) := by
  unfold computeStage
  split
  · exact mapVector_of_many h _ _ _
  · exact reduceVector_of_many h _ _ _ _

theorem materialize_keepsUnfinished (handle : StageHandle) :
    (materialize handle).KeepsUnfinished := by
  intro c hc
  induction hn : handle.index using Nat.strongRecOn generalizing handle with
  | ind n ih =>
    rw [materialize, ensures_bind, ensures_get, Post.after_ok]
    cases hstage : c.stages.get? handle with
    | none => exact hc
    | some stage =>
      dsimp only
      split
      next => exact hc
      next =>
        have hfinish (x : DataVector) {c' : Context} (hc' : c'.stages.Unfinished)
            (houtline : c'.stages.outline = c.stages.outline) : (do
              let result ← computeStage stage x
              modify fun c => { c with stages := c.stages.memoize handle result }
              return result).Ensures c' fun _ c'' _ => c''.stages.Unfinished := by
          -- only a stage without too many companions gets as far as a result
          by_cases hfull : stage.input.Overfull
          · rw [computeStage_of_overfull hfull]
            exact hc'
          · rw [ensures_bind]
            refine (computes_computeStage x stage c').mono fun r d _ hd => ?_
            have hstages : d.stages = c'.stages := congrArg Prod.fst hd.1
            rw [← hstages] at hc' houtline
            cases r with
            | error e => exact hc'
            | ok result =>
              -- the result is kept for the stage that it was computed for
              have hinput : d.stages.input? handle = some stage.input := by
                rw [StageRegistry.input?_eq_of_outline_eq houtline, StageRegistry.input?, hstage]
                rfl
              exact hc'.memoize hinput hfull result
        split
        next =>
          rw [pure_bind]
          exact hfinish _ hc rfl
        next parent companions hinput =>
          split
          next hlt =>
            rw [ensures_bind]
            refine ((ih parent.index (hn ▸ hlt) parent rfl).and
              (materialize_ensures parent c)).mono fun r d _ hd => ?_
            cases r with
            | error e => exact hd.1
            | ok x => exact hfinish x hd.1 hd.2.1
          next => exact hc

theorem stageElements_keepsUnfinished (stage : Stage) :
    (stageElements stage).KeepsUnfinished := by
  unfold stageElements
  split
  · exact fun _ hc => hc
  · exact materialize_keepsUnfinished _

theorem contained_sample (task : StageTask) (f : Function) (input : StageInput) :
    (sample task f input).Contained Context.bystanders fun _ => True := by
  have hfirst : (firstElement input).Contained Context.bystanders fun _ => True := by
    unfold firstElement
    split
    · exact contained_pure _
    · refine contained_get.bind fun c => ?_
      split
      · exact contained_pure _
      · exact contained_fail trivial
  refine hfirst.bind fun first? => ?_
  split
  · exact contained_pure _
  · exact .bind (contained_update fun _ => rfl) fun entry =>
      (entry.contained_call (fun _ => trivial) _).map some

theorem register_keepsUnfinished (task : StageTask) (f : Function) (input : StageInput) :
    (register task f input).KeepsUnfinished := by
  have hadd {stage : Stage} (hstage : stage.input.Overfull → stage.result = none) :
      (update fun c => ((c.stages.add stage).1, { c with stages := (c.stages.add stage).2 })
        : Action StageHandle).KeepsUnfinished := fun c hc => hc.add hstage
  refine (contained_sample task f input).keepsUnfinished.bind fun v => ?_
  refine KeepsUnfinished.bind (fun _ hc => hc) fun c => ?_
  dsimp only
  split
  · exact hadd fun _ => rfl
  · -- an eager stage is registered only once it has been computed
    simp only [pure_bind]
    refine (stageElements_keepsUnfinished _).bind fun x => ?_
    by_cases hfull : input.Overfull
    · rw [computeStage_of_overfull hfull]
      exact fun _ hc => hc
    · refine (computes_computeStage x _).keepsUnfinished.bind fun result => ?_
      exact hadd fun hover => absurd hover hfull

theorem execute_keepsUnfinished (handle : StageHandle) : (execute handle).KeepsUnfinished := by
  intro c hc
  rw [execute, ensures_thenAlways]
  refine (materialize_keepsUnfinished handle c hc).mono fun r c' es hc' => ?_
  exact hc'.clearChain handle

theorem keepsUnfinished_of_checkArity {supplied : Nat} {a : Action α} (h : a.KeepsUnfinished) :
    (checkArity f supplied >>= fun _ => a).KeepsUnfinished := by
  unfold checkArity
  split
  · exact KeepsUnfinished.bind (fun _ hc => hc) fun _ => h
  · exact fun _ hc => hc

/-! ## Operators with too many companions -/

/-- Operators on a vector refuse too many companions, and that is all they do. -/
theorem refused_of_vector {g : Function} (hmany : maxArity < 1 + companions.length)
    (hf : f.arity = 1 + companions.length) (hg : g.arity = 2 + companions.length) (x : DataVector)
    (workers : Nat) (neutral : Value) (c : Context) :
    (map (.vector x) f companions).run c = .refused c (1 + companions.length) ∧
    (apply x f workers companions).run c = .refused c (1 + companions.length) ∧
    (pendingMap x f companions).run c = .refused c (1 + companions.length) ∧
    (reduce (.vector x) g neutral companions).run c = .refused c (1 + companions.length) ∧
    (terminalReduce (.vector x) g neutral companions).run c =
      .refused c (1 + companions.length) := by
  refine ⟨?_, ?_, ?_, ?_, ?_⟩
  · rw [map, checkArity, if_pos hf, mapVector_of_many hmany]
    rfl
  · rw [apply, checkArity, if_pos hf, zip_of_many hmany]
    rfl
  · rw [pendingMap, checkArity, if_pos hf, zip_of_many hmany]
    rfl
  · rw [reduce, checkArity, if_pos hg]
    dsimp only
    rw [zip_of_many hmany]
    rfl
  · rw [terminalReduce, checkArity, if_pos hg]
    dsimp only
    rw [pure_bind, pure_bind, reduceVector_of_many hmany]
    rfl

/-- How an operator ends that is to register a stage with too many companions, reading from a
registered one. -/
structure Sampled (p : Program) (c : Context) (handle : StageHandle) (parent : Stage)
    (task : StageTask) (f : Function) (companions : List DataVector) (given : StageHandle → α)
    (r : Except OperatorError α) (c' : Context) (es : List Event) : Prop where
  /-- The first calls are those for a sample: one, if the parent has a sample, or none. -/
  calls : ∃ later, Event.calls es = (parent.sample.toList.map fun first =>
      (f.id, task.accumulator ++ first :: companions.filterMap fun v => v.get? 0)) ++ later ∧
    (c.options.stages = .deferred → later = [])
  /-- A deferred stage is registered, unless its sample is an error. -/
  deferred : c.options.stages = .deferred →
    (∀ v, c.sampleFor p task f.id (.parent handle companions) = .ok v →
      r = .ok (given ⟨c.stages.last + 1⟩) ∧
      c'.stages = (c.stages.add (.ofSample task f (.parent handle companions) v)).2) ∧
    ∀ e, c.sampleFor p task f.id (.parent handle companions) = .error e →
      r = .error e ∧ c'.stages = c.stages
  /-- An eager stage is refused, but only after the stages that it reads from have been
  computed. -/
  eager : c.options.stages = .eager → c'.stages.outline = c.stages.outline ∧
    r = (do
      let _ ← c.sampleFor p task f.id (.parent handle companions)
      let _ ← ((materialize handle).run
        ((sample task f (.parent handle companions)).run c).context).result
      .error (.type (.unsupportedArity (1 + companions.length))))

section

variable {parent : Stage} {task : StageTask} {v : Option Value} {c' : Context} {es : List Event}
  (hcalls : Event.calls es = parent.sample.toList.map fun first =>
    (f.id, task.accumulator ++ first :: companions.filterMap fun v => v.get? 0))
include hcalls

theorem sampled_of_error {e : OperatorError}
    (hsample : c.sampleFor p task f.id (.parent handle companions) = .error e)
    (hstages : c'.stages = c.stages) :
    Sampled p c handle parent task f companions id (.error e) c' es := by
  refine ⟨⟨[], ?_, fun _ => rfl⟩, fun _ => ⟨fun v hv => ?_, fun e' he => ?_⟩,
    fun _ => ⟨by rw [hstages], ?_⟩⟩
  · rw [hcalls, List.append_nil]
  · cases hsample.symm.trans hv
  · obtain rfl := Except.error.inj (hsample.symm.trans he)
    exact ⟨rfl, hstages⟩
  · rw [hsample]
    rfl

theorem sampled_of_deferred (hmode : c.options.stages = .deferred)
    (hsample : c.sampleFor p task f.id (.parent handle companions) = .ok v)
    (hstages : c'.stages = (c.stages.add (.ofSample task f (.parent handle companions) v)).2) :
    Sampled p c handle parent task f companions id (.ok ⟨c.stages.last + 1⟩) c' es := by
  refine ⟨⟨[], ?_, fun _ => rfl⟩, fun _ => ⟨fun v' hv => ?_, fun e he => ?_⟩, fun heager => ?_⟩
  · rw [hcalls, List.append_nil]
  · obtain rfl := Except.ok.inj (hsample.symm.trans hv)
    exact ⟨rfl, hstages⟩
  · cases hsample.symm.trans he
  · cases hmode.symm.trans heager

/-- The stages before an eager one are computed, and only then is it found to be too wide. -/
theorem sampled_of_eager {r : Except OperatorError DataVector} (hmode : c.options.stages = .eager)
    (hsample : c.sampleFor p task f.id (.parent handle companions) = .ok v)
    (houtline : c'.stages.outline = c.stages.outline)
    (hr : ((materialize handle).run
      ((sample task f (.parent handle companions)).run c).context).result = r)
    (es' : List Event) :
    Sampled p c handle parent task f companions id
      (r >>= fun _ => .error (.type (.unsupportedArity (1 + companions.length)))) c'
      (es ++ es') := by
  refine ⟨⟨Event.calls es', ?_, fun hdeferred => ?_⟩, fun hdeferred => ?_, fun _ => ⟨houtline, ?_⟩⟩
  · rw [Event.calls_append, hcalls]
  · cases hmode.symm.trans hdeferred
  · cases hmode.symm.trans hdeferred
  · rw [hsample, hr]
    rfl

end

theorem register_sampled {parent : Stage} (hmany : maxArity < 1 + companions.length)
    (hf : p.Knows f) (hid : (c.functions.target p f.id).entry.id.function = f.id)
    (hparent : c.stages.get? handle = some parent) (task : StageTask) :
    (register task f (.parent handle companions)).Ensures c
      (Sampled p c handle parent task f companions id) := by
  have hfirst : (StageInput.parent handle companions).first? c.stages = .ok parent.sample := by
    simp only [StageInput.first?, hparent]
  have hsampleFor : c.sampleFor p task f.id (.parent handle companions) =
      (c.functions.target p f.id).sample task companions parent.sample := by
    rw [Context.sampleFor, hfirst]
    rfl
  have hrun : (sample task f (.parent handle companions)).Ensures c fun _ c' _ =>
      c' = ((sample task f (.parent handle companions)).run c).context := rfl
  unfold register
  rw [ensures_bind]
  refine ((sample_of_first hf task hfirst).and hrun).mono ?_
  rintro r c' es ⟨⟨hr, ⟨functions, hseen, -⟩, hcalls⟩, hc'⟩
  have hstages : c'.stages = c.stages := by rw [hseen]
  have hoptions : c'.options = c.options := by rw [hseen]
  have hsample : c.sampleFor p task f.id (.parent handle companions) = r :=
    hsampleFor.trans hr.symm
  rw [hid] at hcalls
  cases r with
  | error e => exact sampled_of_error hcalls hsample hstages
  | ok v =>
    rw [Post.after_ok, ensures_bind, ensures_get, Post.after_ok, hoptions]
    cases hmode : c.options.stages with
    | deferred =>
      simp only [ensures_bind, ensures_pure, Post.after_ok, ensures_update, hstages,
        List.append_nil]
      exact sampled_of_deferred hcalls hmode hsample rfl
    | eager =>
      have helements : stageElements (.ofSample task f (.parent handle companions) v) =
          materialize handle := rfl
      have hfull : (Stage.ofSample task f (.parent handle companions) v).input.Overfull := hmany
      have hrun' : (materialize handle).Ensures c' fun r' _ _ =>
          ((materialize handle).run c').result = r' := rfl
      simp only [helements, computeStage_of_overfull hfull, ensures_bind]
      refine ((materialize_ensures handle c').and hrun').mono ?_
      rintro r' d es' ⟨⟨houtline, -⟩, hr'⟩
      rw [hstages] at houtline
      rw [hc'] at hr'
      have hends := sampled_of_eager hcalls hmode hsample houtline hr' es'
      cases r' with
      | error e => exact hends
      | ok x =>
        rw [Post.after_ok, ensures_bind, ensures_fail, Post.after_error, List.append_nil]
        exact hends

/-- What an operator makes of the handle that it is given. -/
theorem Sampled.map {parent : Stage} {task : StageTask} {r : Except OperatorError StageHandle}
    {c' : Context} {es : List Event} (h : Sampled p c handle parent task f companions id r c' es)
    (given : StageHandle → α) :
    Sampled p c handle parent task f companions given (given <$> r) c' es := by
  refine ⟨h.calls, fun hdeferred => ⟨fun v hv => ?_, fun e he => ?_⟩, fun heager => ?_⟩
  · obtain ⟨rfl, hstages⟩ := (h.deferred hdeferred).1 v hv
    exact ⟨rfl, hstages⟩
  · obtain ⟨rfl, hstages⟩ := (h.deferred hdeferred).2 e he
    exact ⟨rfl, hstages⟩
  · obtain ⟨houtline, rfl⟩ := h.eager heager
    refine ⟨houtline, ?_⟩
    cases c.sampleFor p task f.id (.parent handle companions) with
    | error e => rfl
    | ok v =>
      dsimp only [bind, Except.bind]
      split <;> rfl

/-- A chain that is to be folded with too many companions is executed first. -/
theorem terminalReduce_of_many (hmany : maxArity < 1 + companions.length)
    (hf : f.arity = 2 + companions.length) (handle : StageHandle) (neutral : Value) (c : Context) :
    (terminalReduce (.pending handle) f neutral companions).run c =
      { (execute handle).run c with
        result := ((execute handle).run c).result >>= fun _ =>
          .error (.type (.unsupportedArity (1 + companions.length))) } := by
  rw [terminalReduce, checkArity, if_pos hf]
  simp only [pure_bind, reduceVector_of_many hmany]
  exact run_bind_fail _ _ c

/-- A stage with too many companions cannot be executed. -/
theorem execute_of_overfull (hstage : c.stages.get? handle = some stage)
    (hfull : stage.input.Overfull) (hresult : stage.result = none) :
    ∃ e, ((execute handle).run c).result = .error e := by
  change (materialize handle).Ensures c fun r _ _ => ∃ e, r = .error e
  rw [materialize, ensures_bind, ensures_get, Post.after_ok, hstage]
  dsimp only
  rw [hresult]
  dsimp only
  simp only [computeStage_of_overfull hfull]
  split
  next => exact ⟨_, rfl⟩
  next parent companions _ =>
    split
    next =>
      rw [ensures_bind]
      refine (materialize_ensures parent c).mono fun r d es _ => ?_
      cases r with
      | error e => exact ⟨e, rfl⟩
      | ok x => exact ⟨_, rfl⟩
    next => exact ⟨_, rfl⟩

end Operator

open Operator TieredVectors.Action in
/-- No operator gives a stage with too many companions a result. -/
theorem Operation.unfinished (op : Operation) (hc : c.stages.Unfinished) :
    (op.perform c).stages.Unfinished := by
  cases op with
  | map x f companions =>
    refine keepsUnfinished_of_checkArity ?_ c hc
    cases x with
    | vector v => exact (computes_mapVector f v companions none).keepsUnfinished.map _
    | pending parent => exact (register_keepsUnfinished .map f _).map _
  | apply x f workers companions =>
    exact (contained_apply f x companions workers).keepsUnfinished c hc
  | terminalReduce x f neutral companions =>
    refine keepsUnfinished_of_checkArity ?_ c hc
    have hreduce (x : DataVector) : (reduceVector f x companions neutral none).KeepsUnfinished :=
      (computes_reduceVector f x companions neutral none).keepsUnfinished
    cases x with
    | vector v => exact hreduce v
    | pending handle => exact (execute_keepsUnfinished handle).bind hreduce
  | pendingMap x f companions =>
    refine keepsUnfinished_of_checkArity ?_ c hc
    refine (computes_zip x companions).keepsUnfinished.bind fun z => ?_
    exact (computes_snapshot z).keepsUnfinished.bind fun columns => register_keepsUnfinished _ _ _
  | reduce x f neutral companions =>
    refine keepsUnfinished_of_checkArity ?_ c hc
    cases x with
    | vector v =>
      exact (computes_zip v companions).keepsUnfinished.bind fun _ => register_keepsUnfinished _ _ _
    | pending parent => exact register_keepsUnfinished _ _ _
  | execute handle => exact execute_keepsUnfinished handle c hc

namespace Context

theorem Fresh.unfinished_after (h : c.Fresh) (requests : List Request) :
    (c.after requests).stages.Unfinished := by
  induction requests using List.reverseRecOn with
  | nil =>
    intro handle stage hstage
    rw [after_nil, h.stages] at hstage
    cases hstage
  | append_singleton requests request ih =>
    rw [after_concat]
    cases request with
    | operate op => exact op.unfinished ih
    | _ => exact ih

open Operator in
/-- Take more companions than can be zipped with a vector, and functions that take as many arguments
as they would be passed, in any reachable context.

* Given a vector, every operator refuses: the result is the error for so many vectors, no function
  is called, and the context stays as it is.
* Given a registered stage, `map` and `reduce` call the function for the sample of that stage. In
  the deferred mode they then register the new stage. In the eager mode they go on to compute the
  stages before it, and refuse then. `terminalReduce` executes the chain, so that it is cleared,
  and refuses then.
* A stage that has been registered with too many companions never has a result, and executing it
  fails. -/
theorem refused_unless_pending (h : c.Fresh) {requests : List Request}
    (huses : ∀ request ∈ requests, request.Uses p.Knows) {companions : List DataVector}
    (hmany : maxArity < 1 + companions.length) {f g : FunctionId}
    (hf : (p.function f).arity = 1 + companions.length)
    (hg : (p.function g).arity = 2 + companions.length) (x : DataVector) (handle : StageHandle)
    (workers : Nat) (neutral : Value) :
    let d := c.after requests
    ((map (.vector x) (p.function f) companions).run d = .refused d (1 + companions.length) ∧
      (apply x (p.function f) workers companions).run d = .refused d (1 + companions.length) ∧
      (pendingMap x (p.function f) companions).run d = .refused d (1 + companions.length) ∧
      (reduce (.vector x) (p.function g) neutral companions).run d =
        .refused d (1 + companions.length) ∧
      (terminalReduce (.vector x) (p.function g) neutral companions).run d =
        .refused d (1 + companions.length)) ∧
    ∀ stage, d.stages.get? handle = some stage →
      (map (.pending handle) (p.function f) companions).Ensures d
        (Sampled p d handle stage .map (p.function f) companions Operand.pending) ∧
      (reduce (.pending handle) (p.function g) neutral companions).Ensures d
        (Sampled p d handle stage (.reduce neutral) (p.function g) companions id) ∧
      (terminalReduce (.pending handle) (p.function g) neutral companions).run d =
        { (execute handle).run d with
          result := ((execute handle).run d).result >>= fun _ =>
            .error (.type (.unsupportedArity (1 + companions.length))) } ∧
      ((execute handle).run d).context.stages.get? handle = none ∧
      (stage.input.Overfull →
        stage.result = none ∧ ∃ e, ((execute handle).run d).result = .error e) := by
  intro d
  have hknows (f : FunctionId) : p.Knows (p.function f) := rfl
  have hheeds : d.Heeds p (StageRegistry.For (Work.Sized p)) := h.heeds_after huses
  refine ⟨refused_of_vector hmany hf hg x workers neutral d, fun stage hstage =>
    ⟨?_, ?_, terminalReduce_of_many hmany hg handle neutral d, ?_, fun hfull => ?_⟩⟩
  · rw [map, checkArity, if_pos hf, pure_bind, Action.ensures_map]
    refine (register_sampled hmany (hknows f) (hheeds.entries f).1 hstage .map).mono ?_
    exact fun r d' es hends => hends.map Operand.pending
  · rw [reduce, checkArity, if_pos hg]
    simp only [pure_bind]
    exact register_sampled hmany (hknows g) (hheeds.entries g).1 hstage (.reduce neutral)
  · exact StageRegistry.input?_eq_none_iff.1 (StageRegistry.input?_clearChain_self _ handle)
  · have hresult := h.unfinished_after requests handle stage hstage hfull
    exact ⟨hresult, execute_of_overfull hstage hfull hresult⟩

/-- The first of five arguments. -/
def leftmost : Function where
  id := ⟨1⟩
  body := (Expr.arg 0).toBody ["a", "b", "c", "d", "e"] [] none

/-- The program of `increment`, `leftmost`, and a function of six arguments. -/
def wideProgram : Program where
  body f :=
    if f = ⟨0⟩ then Operator.increment.body
    else if f = ⟨1⟩ then leftmost.body
    else (Expr.arg 0).toBody ["acc", "a", "b", "c", "d", "e"] [] none

/-- A stage that increments two words. -/
def wordStage : List Request := [.operate (.pendingMap (.int [1, 2]) Operator.increment [])]

theorem wordStage_uses : ∀ request ∈ wordStage, request.Uses wideProgram.Knows := by
  simp [wordStage, Request.Uses, Operation.function?, Program.Knows, wideProgram,
    Operator.increment]

theorem refused_unless_pending_four :
    initial.Fresh ∧ (∀ request ∈ wordStage, request.Uses wideProgram.Knows) ∧
      maxArity < 1 + (List.replicate 4 (DataVector.int [3, 4])).length ∧
      (Operator.map (.vector (.int [1, 2])) leftmost (List.replicate 4 (.int [3, 4]))).run
        (initial.after wordStage) = .refused (initial.after wordStage) 5 ∧
      ∃ e, ((Operator.terminalReduce (.pending ⟨1⟩) (wideProgram.function ⟨2⟩) (.int 0)
        (List.replicate 4 (.int [3, 4]))).run (initial.after wordStage)).result = .error e := by
  have hmany : maxArity < 1 + (List.replicate 4 (DataVector.int [3, 4])).length := by decide
  obtain ⟨⟨hmap, -⟩, hpending⟩ := refused_unless_pending initial_fresh wordStage_uses hmany
    (f := ⟨1⟩) (g := ⟨2⟩) rfl rfl (.int [1, 2]) ⟨1⟩ 0 (.int 0)
  obtain ⟨-, -, hreduce, -⟩ := hpending _ rfl
  refine ⟨initial_fresh, wordStage_uses, hmany, hmap, ?_⟩
  rw [hreduce]
  cases ((Operator.execute ⟨1⟩).run (initial.after wordStage)).result with
  | error e => exact ⟨e, rfl⟩
  | ok v => exact ⟨_, rfl⟩

/-- A stage is given four companions: `leftmost` is called, and the stage is registered. -/
theorem wide_stage_is_registered :
    initial.Fresh ∧ (∀ request ∈ wordStage, request.Uses wideProgram.Knows) ∧
      leftmost.arity = 1 + (List.replicate 4 (DataVector.int [3, 4])).length ∧
      ((Operator.map (.pending ⟨1⟩) leftmost (List.replicate 4 (.int [3, 4]))).run
        (initial.after wordStage)).result = .ok (.pending ⟨2⟩) ∧
      Event.calls ((Operation.map (.pending ⟨1⟩) leftmost (List.replicate 4 (.int [3, 4]))).events
        (initial.after wordStage)) = [(⟨1⟩, [.int 2, .int 3, .int 3, .int 3, .int 3])] :=
  ⟨initial_fresh, wordStage_uses, rfl, rfl, rfl⟩

end Context

end TieredVectors
