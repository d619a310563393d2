import TieredVectors.Proofs.Operator.Arguments

/-!
# Calls and arities

Functions are called for works: a task, a function and vectors, given by an operator or by a stage
that is registered. Every operator checks that the function takes as many arguments as the task will
pass (`Work.Sized`), and what it calls functions with is passed for a work (`Work.Makes`), with one
exception: the sample of a stage that reads from another one is taken before anything is known of
lengths, and leaves out the arguments of companions that are empty (`Operation.Samples`).

* `Operation.obeys` — what one operator call does;
* `Context.calls_fit_or_sample` — what calls look like in every reachable context.
-/

namespace TieredVectors

/-- What functions are called for: a task, with a vector unless that is yet to be computed, and its
companions. -/
structure Work where
  task : StageTask
  function : Function
  primary? : Option DataVector
  companions : List DataVector

namespace Work

/-- The function is one of the program's, and takes as many arguments as the task passes. -/
structure Sized (p : Program) (w : Work) : Prop where
  known : p.Knows w.function
  arity : w.function.arity = w.task.accumulator.length + 1 + w.companions.length

/-- The zipped vectors are those of the work. -/
structure Zips (w : Work) (z : Zipped) : Prop where
  primary : ∀ x, w.primary? = some x → z.primary = x
  companions : z.companions = w.companions

/-- The call passes to an entry of the function what may be passed for the work. -/
def Makes (p : Program) (w : Work) (call : FunctionId × List Value) : Prop :=
  call.1 = w.function.id ∧ ∃ z entry, w.Zips z ∧ p.Grants w.function.id entry ∧
    z.Passes entry.body w.task call.2

/-- As many arguments are passed as the function takes. -/
theorem Makes.length_eq {p : Program} {w : Work} {call : FunctionId × List Value}
    (h : w.Makes p call) (hsized : w.Sized p) : call.2.length = (p.body call.1).arity := by
  obtain ⟨hid, z, entry, hzips, -, hpasses⟩ := h
  rw [hpasses.length_eq, hzips.companions, ← hsized.arity, hid, ← hsized.known]
  rfl

end Work

/-- The vector that is given, unless it is yet to be computed. -/
def StageInput.primary? : StageInput → Option DataVector
  | .source primary _ _ => some primary
  | .parent _ _ => none

/-- What a stage calls its function for. -/
def StageInput.work (input : StageInput) (task : StageTask) (function : Function) : Work where
  task := task
  function := function
  primary? := input.primary?
  companions := input.companions

def Stage.work (stage : Stage) : Work := stage.input.work stage.task stage.function

namespace StageRegistry

variable {works : Work → Prop} {r : StageRegistry}

/-- All stages are for the given works. -/
def For (works : Work → Prop) (r : StageRegistry) : Prop :=
  ∀ handle stage, r.get? handle = some stage → works stage.work

theorem For.add (h : r.For works) {stage : Stage} (hstage : works stage.work) :
    (r.add stage).2.For works := by
  intro handle stage' h'
  rw [get?_add] at h'
  split at h'
  · obtain rfl := Option.some.inj h'
    exact hstage
  · exact h handle stage' h'

theorem For.memoize (h : r.For works) (handle : StageHandle) (result : DataVector) :
    (r.memoize handle result).For works := by
  intro handle' stage' h'
  simp only [StageRegistry.memoize, get?, Table.get?_modify] at h'
  split at h'
  · obtain ⟨stage, hstage, rfl⟩ := Option.map_eq_some_iff.1 h'
    exact h handle' stage hstage
  · exact h handle' stage' h'

theorem For.clearChain (h : r.For works) (handle : StageHandle) :
    (r.clearChain handle).2.For works := fun handle' stage' h' =>
  h handle' stage' (get?_clearChain h')

end StageRegistry

/-- The call is made for one of the works. -/
def Program.MadeFor (p : Program) (works : Work → Prop) (call : FunctionId × List Value) : Prop :=
  ∃ w, works w ∧ w.Makes p call

variable {p : Program} {works : Work → Prop} {c : Context} {w : Work} {x : DataVector} {z : Zipped}
  {α β : Type} {f : Function}

theorem Work.serves (hw : works w) (hz : w.Zips z) {entry : Entry}
    (hentry : p.Grants w.function.id entry) : entry.Serves (p.MadeFor works) z w.task :=
  fun _ h => ⟨w, hw, hentry.1, z, entry, hz, hentry, h⟩

/-! ## Computing stages -/

namespace Operator

open TieredVectors.Action

/-- The action makes calls for the works only, and leaves no stages but for them. -/
abbrev WorksOn (p : Program) (works : Work → Prop) (a : Action α) (R : α → Prop) : Prop :=
  a.Obeys p (StageRegistry.For works) (p.MadeFor works) R

theorem zip_worksOn (x : DataVector) (companions : List DataVector) :
    WorksOn p works (zip x companions) fun z => z.primary = x ∧ z.companions = companions := by
  refine fun c hc => ?_
  rw [zip, ensures_ofExcept]
  refine ⟨hc, fun z hz => ?_, List.forall_mem_nil _⟩
  cases hmake : Zipped.make x companions with
  | error e =>
    rw [hmake] at hz
    cases hz
  | ok z' =>
    rw [hmake] at hz
    obtain rfl := Except.ok.inj hz
    exact Zipped.of_make hmake

section

variable (hw : works w) (hf : p.Knows w.function) (hx : ∀ y, w.primary? = some y → x = y)
include hw hf hx

theorem mapVector_worksOn (htask : w.task = .map) (columns : Option ColumnArray) :
    WorksOn p works (mapVector w.function x w.companions columns) fun _ => True := by
  refine (zip_worksOn x w.companions).bind fun z hz => silent_get.obeys.bind fun c _ => ?_
  have hserves (entry : Entry) (hentry : p.Grants w.function.id entry) :
      entry.Serves (p.MadeFor works) z .map :=
    htask ▸ Work.serves hw ⟨fun y hy => hz.1.trans (hx y hy), hz.2⟩ hentry
  split
  · refine (lookup_obeys hf).bind fun entry hentry => (silent_pool _).obeys.bind fun _ _ => ?_
    exact (Pool.callAll_obeys (hserves entry hentry)).bind fun values _ =>
      (silent_results values _).obeys
  · refine (Tiering.run_obeys hf hserves columns).bind fun outcome _ => ?_
    cases outcome with
    | device array => exact obeys_pure trivial
    | interpreted values type => exact (silent_results values type).obeys

theorem reduceVector_worksOn {neutral : Value} (htask : w.task = .reduce neutral)
    (type : Option RowType) :
    WorksOn p works (reduceVector w.function x w.companions neutral type) fun _ => True := by
  refine (zip_worksOn x w.companions).bind fun z hz => (lookup_obeys hf).bind fun entry hentry =>
    silent_get.obeys.bind fun c _ => ?_
  have hserves : entry.Serves (p.MadeFor works) z (.reduce neutral) :=
    htask ▸ Work.serves hw ⟨fun y hy => hz.1.trans (hx y hy), hz.2⟩ hentry
  have hfold : WorksOn p works (entry.fold z neutral) (z.Accumulates entry.body neutral) :=
    Entry.foldFrom_obeys hserves .neutral (by omega)
  split
  · split
    · exact (silent_pool _).obeys.bind fun size _ => (Pool.fold_obeys hserves size).bind
        fun value _ => (silent_results _ _).obeys
    · exact hfold.bind fun value _ => (silent_results _ _).obeys
  · exact hfold.bind fun value _ => (silent_results _ _).obeys

end

theorem computeStage_worksOn {stage : Stage} (hw : works stage.work)
    (hf : p.Knows stage.function) (hx : ∀ y, stage.input.primary? = some y → x = y) :
    WorksOn p works (computeStage stage x) fun _ => True := by
  unfold computeStage
  split
  next htask => exact mapVector_worksOn hw hf hx htask _
  next neutral htask => exact reduceVector_worksOn hw hf hx htask _

variable (hworks : ∀ w, works w → w.Sized p)
include hworks

theorem materialize_worksOn (handle : StageHandle) :
    WorksOn p works (materialize handle) fun _ => True := by
  -- a stage reads from an earlier one, or is refused
  induction hn : handle.index using Nat.strongRecOn generalizing handle with
  | ind n ih =>
    rw [materialize]
    refine obeys_get.bind fun c hfor => ?_
    split
    next => exact (silent_fail _).obeys
    next stage hstage =>
      split
      next => exact obeys_pure trivial
      next =>
        -- the work of a stage that is registered is one of the works
        have hw := hfor handle stage hstage
        have hmemoize (result : DataVector) : WorksOn p works (modify fun c =>
            { c with stages := c.stages.memoize handle result }) fun _ => True :=
          fun c hc => ⟨⟨hc.entries, hc.stages.memoize handle result⟩, fun _ _ => trivial,
            List.forall_mem_nil _⟩
        have hfinish (x : DataVector) (hx : ∀ y, stage.input.primary? = some y → x = y) :
            WorksOn p works (do
              let result ← computeStage stage x
              modify fun c => { c with stages := c.stages.memoize handle result }
              return result) fun _ => True :=
          (computeStage_worksOn hw (hworks _ hw).known hx).bind fun result _ =>
            (hmemoize result).bind fun _ _ => obeys_pure trivial
        split
        next primary companions columns hinput =>
          rw [pure_bind]
          refine hfinish primary fun y hy => ?_
          rw [hinput] at hy
          exact Option.some.inj hy
        next parent companions hinput =>
          have hx (x y : DataVector) (hy : stage.input.primary? = some y) : x = y := by
            rw [hinput] at hy
            cases hy
          split
          next hlt => exact (ih parent.index (hn ▸ hlt) parent rfl).bind fun x _ => hfinish x (hx x)
          next => exact (silent_fail _).obeys.bind fun x _ => hfinish x (hx x)

theorem execute_worksOn (handle : StageHandle) :
    WorksOn p works (execute handle) fun _ => True := by
  intro c hc
  rw [execute, ensures_thenAlways]
  refine (materialize_worksOn hworks handle c hc).mono ?_
  rintro r c' es ⟨hc', -, hcalls⟩
  simp only [clearChain, ensures_bind, ensures_update, Post.after_ok, ensures_tell]
  refine ⟨⟨hc'.entries, hc'.stages.clearChain handle⟩, fun _ _ => trivial, fun call hcall => ?_⟩
  exact hcalls call (by simpa [Event.calls, Event.call?] using hcall)

/-! ## Registering stages -/

theorem stageElements_worksOn (stage : Stage) :
    WorksOn p works (stageElements stage) fun x => ∀ y, stage.input.primary? = some y → x = y := by
  unfold stageElements
  split
  next primary companions columns hinput =>
    refine obeys_pure fun y hy => ?_
    rw [hinput] at hy
    exact Option.some.inj hy
  next parent companions hinput =>
    refine (materialize_worksOn hworks parent).mono fun x _ y hy => ?_
    rw [hinput] at hy
    cases hy

/-- Registering a stage makes calls for its work and for the works of other stages, and a call for
the sample. -/
theorem register_ensures {task : StageTask} {input : StageInput} (hw : works (input.work task f))
    (hc : c.Heeds p (StageRegistry.For works)) :
    (register task f input).Ensures c fun _ c' es => c'.Heeds p (StageRegistry.For works) ∧
      ∀ call ∈ Event.calls es, p.MadeFor works call ∨
        ∃ first, input.first? c.stages = .ok (some first) ∧
          call = (f.id, task.accumulator ++ first :: input.companions.filterMap fun v => v.get? 0) := by
  have hf : p.Knows f := (hworks _ hw).known
  unfold register
  rw [ensures_bind]
  refine (sample_of_knows hf task input c).mono ?_
  rintro r c₁ es ⟨-, ⟨functions, rfl, hrecords⟩, hsample⟩
  rw [(hc.entries f.id).1] at hsample
  have hc₁ : ({ c with functions } : Context).Heeds p (StageRegistry.For works) :=
    hc.congr (Context.target_of_standing (Context.standing_of_records hrecords)) rfl
  cases r with
  | error e => exact ⟨hc₁, fun call hcall => .inr (hsample call hcall)⟩
  | ok v =>
    have hadd (stage : Stage) (hstage : works stage.work) : WorksOn p works (update fun c =>
        ((c.stages.add stage).1, { c with stages := (c.stages.add stage).2 })) fun _ => True :=
      fun c hc => ⟨⟨hc.entries, hc.stages.add hstage⟩, fun _ _ => trivial, nofun⟩
    rw [Post.after_ok]
    -- once the sample has been taken, what is left keeps to the works
    refine Ensures.mono (Obeys.ensures (S := StageRegistry.For works) (Q := p.MadeFor works)
      (R := fun _ => True) ?_ hc₁) ?_
    · refine silent_get.obeys.bind fun c _ => ?_
      split
      · exact hadd _ hw
      · -- an eager stage is computed before it is registered
        exact (stageElements_worksOn hworks _).bind fun x hx =>
          (computeStage_worksOn hw hf hx).bind fun result _ => hadd _ hw
    · rintro r c₂ es' ⟨hc₂, -, hcalls⟩
      refine ⟨hc₂, fun call hcall => ?_⟩
      rw [Event.calls_append] at hcall
      exact (List.mem_append.1 hcall).elim (fun h => .inr (hsample call h)) fun h =>
        .inl (hcalls call h)

end Operator

/-! ## Operators -/

/-- The vector that is given, unless it is yet to be computed. -/
def Operand.vector? : Operand → Option DataVector
  | .vector v => some v
  | .pending _ => none

namespace Operation

/-- What the operator itself calls its function for. -/
def work? : Operation → Option Work
  | map x f companions => some ⟨.map, f, x.vector?, companions⟩
  | apply x f _ companions | pendingMap x f companions => some ⟨.map, f, some x, companions⟩
  | terminalReduce x f neutral companions | reduce x f neutral companions =>
    some ⟨.reduce neutral, f, x.vector?, companions⟩
  | execute _ => none

/-- The stage from which the operator registers another one to read. -/
def parent? : Operation → Option StageHandle
  | map (.pending parent) _ _ | reduce (.pending parent) _ _ _ => some parent
  | _ => none

/-- The call is for the sample of a stage that reads from another one: after the neutral value, if
the stage is to fold, come the sample of the other stage and the first elements of those companions
that have one. -/
def Samples (p : Program) (op : Operation) (c : Context) (call : FunctionId × List Value) : Prop :=
  ∃ w parent stage first, w.Sized p ∧ op.work? = some w ∧ op.parent? = some parent ∧
    c.stages.get? parent = some stage ∧ stage.sample = some first ∧
    call = (w.function.id, w.task.accumulator ++ first :: w.companions.filterMap fun v => v.get? 0)

end Operation

namespace Operator

open TieredVectors.Action

/-- A function that takes another number of arguments is refused. -/
theorem ensures_of_checkArity {supplied : Nat} {a : Action α} {post : Post α}
    (hrefused : ∀ e, post (.error e) c []) (h : f.arity = supplied → a.Ensures c post) :
    (checkArity f supplied >>= fun _ => a).Ensures c post := by
  unfold checkArity
  split
  next harity =>
    rw [pure_bind]
    exact h harity
  next => exact hrefused _

/-- Where vectors are zipped, the call for the sample passes their first elements. -/
theorem makes_sample (hf : p.Knows f) (task : StageTask) {companions : List DataVector}
    (hz : Zipped.make x companions = .ok z) {first : Value} (hfirst : x.get? 0 = some first) :
    Work.Makes p ⟨task, f, some x, companions⟩
      (f.id, task.accumulator ++ first :: companions.filterMap fun v => v.get? 0) := by
  obtain ⟨hprimary, hcompanions⟩ := Zipped.of_make hz
  have hrow : z.IsRow (z.arguments 0) :=
    Zipped.isRow_arguments (DataVector.isSome_get?_iff.1 (by rw [hprimary, hfirst]; rfl))
  have harguments : z.arguments 0 = first :: companions.filterMap fun v => v.get? 0 := by
    rw [Zipped.arguments, hprimary, hcompanions, List.filterMap_cons]
    simp only [hfirst]
  rw [← harguments]
  refine ⟨rfl, z, f.ownEntry, ⟨fun y hy => hprimary.trans (Option.some.inj hy), hcompanions⟩,
    ⟨rfl, congrArg some hf.symm⟩, ?_⟩
  cases task with
  | map => exact .map hrow
  | reduce neutral => exact .fold .neutral hrow

end Operator

namespace Operation

open TieredVectors.Action Operator

variable {op : Operation}

/-- The operator leaves stages for the works only, and its calls are made for them or for a sample.
-/
def Done (p : Program) (works : Work → Prop) (op : Operation) (c : Context) : Post α :=
  fun _ c' es => c'.Heeds p (StageRegistry.For works) ∧
    ∀ call ∈ Event.calls es, p.MadeFor works call ∨ op.Samples p c call

theorem done_of_worksOn (hc : c.Heeds p (StageRegistry.For works)) {a : Action α} {R : α → Prop}
    (h : WorksOn p works a R) : a.Ensures c (op.Done p works c) :=
  (h.ensures hc).mono fun _ _ _ h => ⟨h.1, fun call hcall => .inl (h.2.2 call hcall)⟩

section

variable (hworks : ∀ w, works w → w.Sized p) (hown : ∀ w, op.work? = some w → w.Sized p → works w)
  (hc : c.Heeds p (StageRegistry.For works)) {task : StageTask} {companions : List DataVector}
include hworks hown hc

/-- A stage is registered that reads an operand of the operator. -/
theorem register_done {y : Operand} {input : StageInput} (hinput : y.Feeds companions input)
    (hwork : op.work? = some ⟨task, f, y.vector?, companions⟩)
    (hparent : ∀ parent, y = .pending parent → op.parent? = some parent)
    (hsized : Work.Sized p ⟨task, f, y.vector?, companions⟩) :
    (register task f input).Ensures c (op.Done p works c) := by
  have hw : works (input.work task f) := by
    cases hinput <;> exact hown _ hwork hsized
  refine (register_ensures hworks hw hc).mono ?_
  rintro r c' es ⟨hc', hcalls⟩
  refine ⟨hc', fun call hcall => (hcalls call hcall).elim .inl ?_⟩
  rintro ⟨first, hfirst, rfl⟩
  cases hinput with
  | vector hz columns =>
    -- the vectors have been zipped, so that none is empty unless all are
    exact .inl ⟨_, hw, makes_sample hsized.known task hz (Except.ok.inj hfirst)⟩
  | pending parent =>
    simp only [StageInput.first?] at hfirst
    split at hfirst
    next stage hstage =>
      exact .inr ⟨_, parent, stage, first, hsized, hwork, hparent parent rfl, hstage,
        Except.ok.inj hfirst, rfl⟩
    next => cases hfirst

/-- An operator makes calls for its own work and for the works of stages, and a call for a sample if
it registers a stage that reads from another one. -/
theorem obeys (hknown : ∀ f, op.function? = some f → p.Knows f) :
    (op.perform c).Heeds p (StageRegistry.For works) ∧
      ∀ call ∈ Event.calls (op.events c), p.MadeFor works call ∨ op.Samples p c call := by
  have hrefused {α : Type} (e : OperatorError) : op.Done (α := α) p works c (.error e) c [] :=
    ⟨hc, List.forall_mem_nil _⟩
  cases op with
  | map x f companions =>
    cases x with
    | vector v =>
      change (Operator.map (.vector v) f companions).Ensures c
        (Done p works (.map (.vector v) f companions) c)
      refine ensures_of_checkArity hrefused fun harity => ?_
      have hsized : Work.Sized p ⟨.map, f, some v, companions⟩ :=
        ⟨hknown f rfl, by simpa [StageTask.accumulator] using harity⟩
      refine done_of_worksOn hc ((mapVector_worksOn (hown _ rfl hsized) hsized.known ?_ rfl none).map _)
      exact fun y hy => Option.some.inj hy
    | pending parent =>
      change (Operator.map (.pending parent) f companions).Ensures c
        (Done p works (.map (.pending parent) f companions) c)
      rcases map_pending_cases parent f companions with ⟨e, h⟩ | ⟨harity, h⟩
      · exact h ▸ hrefused e
      · rw [h, ensures_map]
        refine register_done hworks hown hc (.pending parent) rfl (fun _ h => ?_)
          ⟨hknown f rfl, by simpa [StageTask.accumulator] using harity⟩
        rw [← Operand.pending.inj h]
        rfl
  | apply x f workers companions =>
    change (Operator.apply x f workers companions).Ensures c
      (Done p works (.apply x f workers companions) c)
    refine ensures_of_checkArity hrefused fun harity => ?_
    have hsized : Work.Sized p ⟨.map, f, some x, companions⟩ :=
      ⟨hknown f rfl, by simpa [StageTask.accumulator] using harity⟩
    refine done_of_worksOn (R := fun _ => True) hc ((zip_worksOn x companions).bind fun z hz =>
      (lookup_obeys hsized.known).bind fun entry hentry => ?_)
    have hserves : entry.Serves (p.MadeFor works) z .map :=
      Work.serves (hown _ rfl hsized) ⟨fun y hy => hz.1.trans (Option.some.inj hy), hz.2⟩ hentry
    split
    · exact (Entry.callFrom_obeys hserves (by omega)).bind fun _ _ => (silent_results _ _).obeys
    · exact (silent_pool _).obeys.bind fun _ _ => (Pool.callAll_obeys hserves).bind fun _ _ =>
        (silent_results _ _).obeys
  | terminalReduce x f neutral companions =>
    change (Operator.terminalReduce x f neutral companions).Ensures c
      (Done p works (.terminalReduce x f neutral companions) c)
    refine ensures_of_checkArity hrefused fun harity => ?_
    have hsized : Work.Sized p ⟨.reduce neutral, f, x.vector?, companions⟩ :=
      ⟨hknown f rfl, by simpa [StageTask.accumulator] using harity⟩
    have hreduce (v : DataVector) (hv : ∀ y, x.vector? = some y → v = y) :
        WorksOn p works (reduceVector f v companions neutral none) fun _ => True :=
      reduceVector_worksOn (hown _ rfl hsized) hsized.known hv rfl none
    cases x with
    | vector v =>
      dsimp only
      rw [pure_bind]
      exact done_of_worksOn hc (hreduce v fun y hy => Option.some.inj hy)
    | pending handle =>
      exact done_of_worksOn hc
        ((execute_worksOn hworks handle).bind fun v _ => hreduce v fun _ h => by cases h)
  | pendingMap x f companions =>
    change (Operator.pendingMap x f companions).Ensures c
      (Done p works (.pendingMap x f companions) c)
    rcases pendingMap_cases x f companions with ⟨e, h⟩ | ⟨harity, input, hinput, h⟩
    · exact h ▸ hrefused e
    · rw [h]
      exact register_done hworks hown hc hinput rfl (fun _ h => by cases h)
        ⟨hknown f rfl, by simpa [StageTask.accumulator] using harity⟩
  | reduce x f neutral companions =>
    change (Operator.reduce x f neutral companions).Ensures c
      (Done p works (.reduce x f neutral companions) c)
    rcases reduce_cases x f neutral companions with ⟨e, h⟩ | ⟨harity, input, hinput, h⟩
    · exact h ▸ hrefused e
    · rw [h]
      refine register_done hworks hown hc hinput rfl (fun parent hx => ?_)
        ⟨hknown f rfl, by simpa [StageTask.accumulator] using harity⟩
      rw [hx]
      rfl
  | execute handle => exact done_of_worksOn hc (execute_worksOn hworks handle)

end

end Operation

/-! ## Histories -/

/-- Vectors have a first element, but for those that are empty. -/
theorem DataVector.length_firsts (vs : List DataVector) :
    (vs.filterMap fun v => v.get? 0).length + vs.countP (fun v => v.isEmpty) = vs.length := by
  induction vs with
  | nil => rfl
  | cons v vs ih =>
    rw [List.filterMap_cons, List.countP_cons, List.length_cons]
    by_cases hlength : v.length = 0
    · have hnone : v.get? 0 = none := by
        rw [← Option.not_isSome_iff_eq_none, isSome_get?_iff]
        omega
      have hempty : v.isEmpty = true := by simpa [isEmpty] using hlength
      simp only [hnone, hempty, if_true]
      omega
    · obtain ⟨first, hfirst⟩ := Option.isSome_iff_exists.1
        (isSome_get?_iff.2 (Nat.pos_of_ne_zero hlength))
      have hempty : v.isEmpty = false := by simpa [isEmpty] using hlength
      simp only [hfirst, hempty, List.length_cons, Bool.false_eq_true, if_false]
      omega

namespace Context

theorem Fresh.heeds (h : c.Fresh) : c.Heeds p (StageRegistry.For (Work.Sized p)) := by
  refine ⟨fun f => ?_, fun handle stage hstage => ?_⟩
  · rw [h.functions]
    exact ⟨rfl, rfl⟩
  · rw [h.stages] at hstage
    cases hstage

/-- In every reachable context stages are for functions that take as many arguments as they will be
passed. -/
theorem Fresh.heeds_after (h : c.Fresh) {requests : List Request}
    (huses : ∀ request ∈ requests, request.Uses p.Knows) :
    (c.after requests).Heeds p (StageRegistry.For (Work.Sized p)) := by
  induction requests using List.reverseRecOn with
  | nil => exact h.heeds
  | append_singleton requests request ih =>
    rw [List.forall_mem_append, List.forall_mem_singleton] at huses
    rw [after_concat]
    have hbefore := ih huses.1
    cases request with
    | operate op => exact (op.obeys (fun _ => id) (fun _ _ => id) hbefore huses.2).1
    | _ => exact hbefore.congr rfl rfl

/-- Calls fit the arity of the function, but for those that take a sample. Take a reachable context
and an operator that is called there; a call that is made meanwhile is one of two.

* It is made for the operator's own work, or for that of a registered stage, and passes as many
  arguments as the function takes: an element of the vector and those of the companions at the same
  index, in order, and before them what has been accumulated, if the work is to fold; or, where
  there are no companions, two accumulated values that are combined.
* It takes the sample of a stage that the operator registers to read from another one. Then the
  sample of that other stage comes after the neutral value, if there is one, and the first elements
  of the companions follow. One argument is missing for each companion that is empty. -/
theorem calls_fit_or_sample (h : c.Fresh) {requests : List Request}
    (huses : ∀ request ∈ requests, request.Uses p.Knows) {op : Operation}
    (hknown : ∀ f, op.function? = some f → p.Knows f) {f : FunctionId} {args : List Value}
    (hcall : (f, args) ∈ Event.calls (op.events (c.after requests))) :
    (args.length = (p.body f).arity ∧ ∃ w, w.Makes p (f, args) ∧ (op.work? = some w ∨
      ∃ handle stage, (c.after requests).stages.get? handle = some stage ∧ stage.work = w)) ∨
    ∃ w parent stage first, op.work? = some w ∧ op.parent? = some parent ∧
      (c.after requests).stages.get? parent = some stage ∧ stage.sample = some first ∧
      f = w.function.id ∧
      args = w.task.accumulator ++ first :: w.companions.filterMap (fun v => v.get? 0) ∧
      args.length + w.companions.countP (fun v => v.isEmpty) = (p.body f).arity := by
  have hheeds := h.heeds_after huses
  generalize c.after requests = d at hheeds hcall ⊢
  -- the works that matter are those that the context and the operator come with
  let works (w : Work) : Prop := w.Sized p ∧ (op.work? = some w ∨
    ∃ handle stage, d.stages.get? handle = some stage ∧ stage.work = w)
  have hd : d.Heeds p (StageRegistry.For works) :=
    ⟨hheeds.entries, fun handle stage hstage =>
      ⟨hheeds.stages handle stage hstage, .inr ⟨handle, stage, hstage, rfl⟩⟩⟩
  rcases (op.obeys (fun _ => And.left) (fun w hw hsized => ⟨hsized, .inl hw⟩) hd hknown).2 _ hcall
    with ⟨w, ⟨hsized, hw⟩, hmakes⟩ |
      ⟨w, parent, stage, first, hsized, hwork, hparent, hstage, hsample, heq⟩
  · exact .inl ⟨hmakes.length_eq hsized, w, hmakes, hw⟩
  · obtain ⟨rfl, rfl⟩ := Prod.mk.inj heq
    have harity : (p.body w.function.id).arity = w.function.arity :=
      congrArg Body.arity hsized.known.symm
    refine .inr ⟨w, parent, stage, first, hwork, hparent, hstage, hsample, rfl, rfl, ?_⟩
    have hfirsts := DataVector.length_firsts w.companions
    rw [harity, hsized.arity, List.length_append, List.length_cons]
    omega

/-- Adds two values. -/
def addition : Function where
  id := ⟨1⟩
  body := (Expr.arith .add (.arg 0) (.arg 1)).toBody ["x", "y"] [] none

/-- The program of `increment` and `addition`. -/
def additionProgram : Program where
  body f := if f = ⟨1⟩ then addition.body else Operator.increment.body

/-- Both elements of a vector with a companion are passed together with those of the companion. -/
theorem calls_fit_or_sample_companion :
    initial.Fresh ∧
      Event.calls ((Operation.execute ⟨1⟩).events (initial.after
        [.operate (.pendingMap (.int [1, 2]) addition [.int [3, 4]])])) =
          [(⟨1⟩, [.int 1, .int 3]), (⟨1⟩, [.int 2, .int 4])] ∧
      ∀ args, (⟨1⟩, args) ∈ Event.calls ((Operation.execute ⟨1⟩).events (initial.after
        [.operate (.pendingMap (.int [1, 2]) addition [.int [3, 4]])])) → args.length = 2 := by
  have huses : ∀ request ∈ [Request.operate (.pendingMap (.int [1, 2]) addition
      [.int [3, 4]])], request.Uses additionProgram.Knows := by
    simp [Request.Uses, Operation.function?, Program.Knows, additionProgram, addition]
  have hknown : ∀ f, (Operation.execute ⟨1⟩).function? = some f → additionProgram.Knows f := by
    intro f hf
    cases hf
  refine ⟨initial_fresh, ?_, fun args hcall => ?_⟩
  · unfold Operation.events Operator.execute Operator.materialize
    rfl
  · rcases calls_fit_or_sample initial_fresh huses hknown hcall with
      ⟨hlength, -⟩ | ⟨w, _, _, _, hw, -⟩
    · exact hlength
    · cases hw

/-- A stage that is to read from another one is given an empty companion: `addition` is called with
one argument though it takes two, and fails for want of the other, so nothing is registered. -/
theorem sample_lacks_argument :
    initial.Fresh ∧
      (∀ request ∈ [Request.operate (.pendingMap (.int [1, 2]) Operator.increment [])],
        request.Uses additionProgram.Knows) ∧
      additionProgram.Knows addition ∧ addition.arity = 2 ∧
      Event.calls ((Operation.map (.pending ⟨1⟩) addition [.int []]).events (initial.after
        [.operate (.pendingMap (.int [1, 2]) Operator.increment [])])) = [(⟨1⟩, [.int 2])] ∧
      ((Operator.map (.pending ⟨1⟩) addition [.int []]).run (initial.after
        [.operate (.pendingMap (.int [1, 2]) Operator.increment [])])).result =
          .error (.eval ⟨"missing argument 1"⟩) := by
  refine ⟨initial_fresh, ?_, rfl, rfl, rfl, rfl⟩
  simp [Request.Uses, Operation.function?, Program.Knows, additionProgram, Operator.increment]

end Context

end TieredVectors
