import TieredVectors.Proofs.Operator.Computations
import TieredVectors.Proofs.Operator.Reachability
import TieredVectors.Proofs.Operator.Registering

/-!
# Branches

Stages that have been registered but not computed form a forest, and its leaves may be executed in
any order (`Operator.executeEach_leaves`):

* `Context.Grown` — what holds while a forest is registered (`Operation.grows`);
* `Operator.executeEach_of_remains` — what executing all leaves comes to;
* `Context.callsOf` — the calls that a stage of the forest makes, by itself.

A function is specialized when it is first mapped with, and folding with it does not wait for that.
So if the specialization does not compute what it replaces, a fold may come to something else after
another leaf has been executed (`Operator.executeEach_after_specializing`).
-/

namespace TieredVectors

open StageRegistry

variable {p : Program} {targets : StageTask → FunctionId → Target} {c₀ c : Context}

/-! ## Registering a forest -/

/-- Stages have been registered, and none has been computed. -/
structure Context.Grown (p : Program) (c₀ c : Context) : Prop where
  standing : c.standing p = c₀.standing p
  deferred : c.options.stages = .deferred
  whole : c.stages.Whole
  waiting : ∀ handle stage, c.stages.get? handle = some stage → stage.result = none
  known : ∀ handle stage, c.stages.get? handle = some stage → p.Knows stage.function

namespace Context.Grown

/-- Nothing has been registered. -/
theorem of_clear (hdeferred : c.options.stages = .deferred) (hclear : c.stages = c.stages.clear) :
    c.Grown p c := by
  have hnone (handle : StageHandle) : c.stages.get? handle = none := by
    rw [hclear]
    rfl
  refine ⟨rfl, hdeferred, hclear ▸ .clear _, fun handle stage h => ?_, fun handle stage h => ?_⟩
  all_goals
    rw [hnone] at h
    cases h

/-- One more stage is registered. -/
theorem add (hc : c₀.Grown p c) {c' : Context} (hstanding : c'.standing p = c.standing p)
    {stage : Stage} (hstages : c'.stages = (c.stages.add stage).2)
    (hparent : ∀ parent, stage.input.parent? = some parent → c.stages.input? parent ≠ none)
    (hresult : stage.result = none) (hknown : p.Knows stage.function) : c₀.Grown p c' := by
  have hcases (handle : StageHandle) (stage' : Stage) (h : c'.stages.get? handle = some stage') :
      stage' = stage ∨ c.stages.get? handle = some stage' := by
    rw [hstages, get?_add] at h
    split at h
    · exact .inl (Option.some.inj h).symm
    · exact .inr h
  refine ⟨hstanding.trans hc.standing, ?_, hstages ▸ hc.whole.add hparent,
    fun handle stage' h => ?_, fun handle stage' h => ?_⟩
  · rw [Context.options_of_standing hstanding]
    exact hc.deferred
  · rcases hcases handle stage' h with rfl | h
    · exact hresult
    · exact hc.waiting handle stage' h
  · rcases hcases handle stage' h with rfl | h
    · exact hknown
    · exact hc.known handle stage' h

/-- Nothing has been executed, so that all stages are there without a result. -/
theorem remains (hc : c₀.Grown p c) : Remains targets c.stages c.stages := by
  refine ⟨hc.whole, fun handle stage h => ?_, fun handle stage v h hv => ?_,
    fun handle parent hreads hdue => ?_⟩
  · rw [h, ← hc.waiting handle stage h]
  · rw [hc.waiting handle stage h] at hv
    cases hv
  · obtain ⟨input, hinput, -⟩ := hreads
    obtain ⟨stage, hstage, -⟩ := Option.map_eq_some_iff.1 hinput
    rw [due_of_get? hstage, hc.waiting handle stage hstage] at hdue
    cases hdue

end Context.Grown

namespace Action

variable {α β : Type} {a : Action α}

/-- The action registers stages at most. -/
def Grows (p : Program) (c₀ : Context) (a : Action α) : Prop :=
  ∀ c, c₀.Grown p c → a.Ensures c fun _ c' _ => c₀.Grown p c'

theorem grows_fail (e : OperatorError) : (fail e : Action α).Grows p c₀ := fun _ hc => hc

theorem Grows.map (ha : a.Grows p c₀) (f : α → β) : (f <$> a).Grows p c₀ := fun c hc => by
  rw [ensures_map]
  exact ha c hc

end Action

namespace Operator

open TieredVectors.Action

variable {f : Function}

theorem register_grows (hf : p.Knows f) (task : StageTask) (input : StageInput) :
    (register task f input).Grows p c₀ := by
  intro c hc
  refine (register_of_deferred hc.deferred hf task input).mono ?_
  rintro r c' es ⟨hstanding, herror, hok⟩
  cases hsample : c.sampleFor p task f.id input with
  | error e =>
    obtain ⟨-, hstages⟩ := herror e hsample
    refine ⟨hstanding.trans hc.standing, ?_, hstages ▸ hc.whole, hstages ▸ hc.waiting,
      hstages ▸ hc.known⟩
    rw [Context.options_of_standing hstanding]
    exact hc.deferred
  | ok v =>
    obtain ⟨-, hstages⟩ := hok v hsample
    exact hc.add hstanding hstages (fun _ => registered_of_sampleFor hsample) rfl hf

end Operator

namespace Operation

/-- Whether the operator registers a stage, for a function of the program. -/
def Builds (p : Program) : Operation → Prop
  | pendingMap _ f _ | map (.pending _) f _ | reduce _ f _ _ => p.Knows f
  | _ => False

open Operator in
/-- Registering one more stage, or failing to. -/
theorem grows {op : Operation} (hop : op.Builds p) (hc : c₀.Grown p c) :
    c₀.Grown p (op.perform c) := by
  cases op with
  | pendingMap x f companions =>
    rw [perform]
    rcases pendingMap_cases x f companions with ⟨e, h⟩ | ⟨-, input, -, h⟩
    · exact h ▸ Action.grows_fail e c hc
    · exact h ▸ register_grows hop .map input c hc
  | map x f companions =>
    cases x with
    | vector v => cases hop
    | pending parent =>
      rw [perform]
      rcases map_pending_cases parent f companions with ⟨e, h⟩ | ⟨-, h⟩
      · exact h ▸ Action.grows_fail e c hc
      · exact h ▸ (register_grows hop .map _).map _ c hc
  | reduce x f neutral companions =>
    rw [perform]
    rcases reduce_cases x f neutral companions with ⟨e, h⟩ | ⟨-, input, -, h⟩
    · exact h ▸ Action.grows_fail e c hc
    · exact h ▸ register_grows hop (.reduce neutral) input c hc
  | apply x f workers companions => cases hop
  | terminalReduce x f neutral companions => cases hop
  | execute handle => cases hop

end Operation

/-- A forest is registered stage by stage. -/
theorem Context.Grown.after {building : List Operation} (hc : c₀.Grown p c)
    (hbuilding : ∀ op ∈ building, op.Builds p) :
    c₀.Grown p (c.after (building.map .operate)) := by
  induction building using List.reverseRecOn with
  | nil => exact hc
  | append_singleton building op ih =>
    rw [List.forall_mem_append, List.forall_mem_singleton] at hbuilding
    rw [List.map_append, List.map_singleton, Context.after_concat]
    exact Operation.grows hbuilding.2 (ih hbuilding.1)

/-! ## Executing all leaves -/

namespace Operator

open TieredVectors.Action

variable {r₀ : StageRegistry}

/-- Executing all leaves, in any order, gives their values. -/
theorem executeEach_of_remains (hknown : ∀ h s, r₀.get? h = some s → p.Knows s.function)
    (hordered : r₀.Ordered) (hagrees : c.Agrees p r₀.Uses targets)
    (hremains : Remains targets r₀ c.stages) {order : List StageHandle} (hnodup : order.Nodup)
    (hleaves : ∀ h, h ∈ order ↔ h ∈ c.stages.leaves) :
    (executeEach order).Ensures c fun r c' es =>
      r = .ok (order.map (r₀.value targets)) ∧
      Tally targets r₀ c.stages c'.stages (Event.calls es) := by
  induction order generalizing c with
  | nil => exact ⟨rfl, .refl _ _ _⟩
  | cons handle order ih =>
    rw [executeEach, ensures_bind, ensures_attempt]
    have hleaf : handle ∈ c.stages.leaves := (hleaves handle).1 List.mem_cons_self
    refine (execute_of_remains hknown hordered hagrees hremains hleaf).mono ?_
    rintro r c₁ es ⟨rfl, hagrees₁, hremains₁, hleaves₁, htally⟩
    rw [Post.after_ok, ensures_map]
    refine (ih hagrees₁ hremains₁ (List.nodup_cons.1 hnodup).2
      (mem_leaves_of_cons hnodup hleaves hleaves₁)).mono ?_
    rintro r c₂ es' ⟨rfl, htally'⟩
    refine ⟨rfl, ?_⟩
    rw [Event.calls_append]
    exact htally.trans htally'

end Operator

/-! ## The forest by itself -/

/-- The calls that computing a stage makes in the context, without those that its elements take. -/
def Context.callsOf (c : Context) (handle : StageHandle) : List (FunctionId × List Value) :=
  match c.stages.get? handle with
  | none => []
  | some stage =>
    match ((Operator.stageElements stage).run c).result with
    | .ok x => Event.calls ((Operator.computeStage stage x).run c).events
    | .error _ => []

namespace Context.Grown

variable {handle : StageHandle}

theorem materialize_eq (hc : c₀.Grown p c) (hagrees : c.Agrees p c.stages.Uses targets)
    (hregistered : c.stages.input? handle ≠ none) :
    ((Operator.materialize handle).run c).result = c.stages.value targets handle :=
  (Operator.materialize_of_remains hc.known hc.whole.ordered hagrees hc.remains hregistered).1

theorem callsOf_eq (hc : c₀.Grown p c) (hagrees : c.Agrees p c.stages.Uses targets)
    (handle : StageHandle) : c.callsOf handle = c.stages.callsOf targets handle := by
  rw [Context.callsOf, StageRegistry.callsOf]
  cases hstage : c.stages.get? handle with
  | none => rfl
  | some stage =>
    have hcalls (x : DataVector) : Event.calls ((Operator.computeStage stage x).run c).events =
        stage.calls (targets stage.task stage.function.id) x :=
      (Operator.computeStage_of_agrees hagrees ⟨handle, stage, hstage, rfl, rfl⟩
        (hc.known handle stage hstage) x).2.2.2
    have helements : ((Operator.stageElements stage).run c).result =
        c.stages.elements targets stage.input := by
      cases hsource : stage.input with
      | source primary companions columns =>
        rw [Operator.stageElements, hsource]
        rfl
      | parent parent companions =>
        rw [Operator.stageElements, hsource]
        refine hc.materialize_eq hagrees (hc.whole.parents handle parent ?_)
        rw [reads_iff_of_get? hstage, hsource]
        rfl
    dsimp only
    rw [helements]
    cases c.stages.elements targets stage.input with
    | ok x => exact hcalls x
    | error e => rfl

/-- A stage that can be computed is registered. -/
theorem registered_of_materialize {v : DataVector}
    (h : ((Operator.materialize handle).run c).result = .ok v) :
    ∃ stage, c.stages.get? handle = some stage := by
  cases hget : c.stages.get? handle with
  | some stage => exact ⟨stage, rfl⟩
  | none =>
    have hnone : (Operator.materialize handle).Ensures c fun r _ _ =>
        r = .error (.unknownStage handle) := (Operator.ensures_materialize_of_none hget).2 rfl
    cases hnone.symm.trans h

end Context.Grown

namespace Operator

open TieredVectors.Action

/-- Where no specialization can be told from what it replaces, leaves come to what they come to by
themselves, and a stage that can be computed is computed once. -/
theorem executeEach_of_agrees {forest : Context} (hgrown : c₀.Grown p forest)
    (hagrees : forest.Agrees p forest.stages.Uses targets) {order : List StageHandle}
    (horder : order.Perm forest.stages.leaves) :
    (executeEach order).Ensures forest fun results c' es =>
      results = .ok (order.map fun leaf => ((execute leaf).run forest).result) ∧
      (c'.stages = c'.stages.clear → ∃ computed : List StageHandle,
        Event.calls es = computed.flatMap forest.callsOf ∧
        ∀ handle v, ((materialize handle).run forest).result = .ok v →
          computed.count handle = 1) := by
  have halone (leaf : StageHandle) (h : leaf ∈ order) : ((execute leaf).run forest).result =
      forest.stages.value targets leaf :=
    (execute_of_remains hgrown.known hgrown.whole.ordered hagrees hgrown.remains
      (horder.mem_iff.1 h)).1
  refine (executeEach_of_remains hgrown.known hgrown.whole.ordered hagrees hgrown.remains
    (horder.nodup_iff.2 (nodup_leaves _)) fun _ => horder.mem_iff).mono ?_
  rintro r c' es ⟨rfl, computed, hcalls, hcount⟩
  refine ⟨?_, fun hclear => ⟨computed, ?_, fun handle v hv => ?_⟩⟩
  · rw [List.map_congr_left halone]
  · rw [hcalls, funext (hgrown.callsOf_eq hagrees)]
  · -- a stage that can be computed is due until it has been
    obtain ⟨stage, hstage⟩ := Context.Grown.registered_of_materialize hv
    have hregistered : forest.stages.input? handle ≠ none := by simp [input?, hstage]
    rw [hgrown.materialize_eq hagrees hregistered] at hv
    have hdue : forest.stages.due handle = true := by
      rw [due_of_get? hstage, hgrown.waiting handle stage hstage]
      rfl
    have hdone : c'.stages.due handle = false := by
      rw [hclear]
      rfl
    simpa [hdue, hdone] using hcount handle v hv

/-- Branches may be executed in any order. Take a context that interprets its functions and in which
nothing is registered. Have operators register stages there, and execute the leaves of that forest
one after another, in any order:

* none is refused as unknown;
* the calls made are those of computing stages of the forest one after another, none of them again
  once that has succeeded;
* no stage is left, and nothing that refers to one.

If functions are specialized, take it further that this cannot be told of a function that the forest
both maps and folds with. Then

* each leaf gives the result, or the error, that it gives when it is executed first;
* each stage that can be computed is computed once. -/
theorem executeEach_leaves (hbare : c.Bare) (hdeferred : c.options.stages = .deferred)
    (hclear : c.stages = c.stages.clear) {building : List Operation}
    (hbuilding : ∀ op ∈ building, op.Builds p) {forest : Context}
    (hforest : c.after (building.map .operate) = forest) {order : List StageHandle}
    (horder : order.Perm forest.stages.leaves) :
    (executeEach order).Ensures forest fun results c' es =>
      ((∃ outcomes, results = .ok outcomes ∧
          ∀ outcome ∈ outcomes, ∀ handle, outcome ≠ .error (.unknownStage handle)) ∧
        (∃ computations : List Computation, forest.Advances computations c' ∧
          Event.calls es = computations.flatMap (·.calls) ∧
          (∀ k ∈ computations, forest.stages.get? k.handle = some k.stage) ∧
          computations.Pairwise fun k later => later.handle = k.handle → ¬ k.Succeeds) ∧
        c'.stages.size = 0 ∧ c'.stages.current = none ∧ c'.stages.byFunction = ∅) ∧
      ((c.options.specializeScope = true → ∀ f neutral, forest.stages.Uses .map f →
          forest.stages.Uses (.reduce neutral) f → (c.functions.target p f).Steady f) →
        results = .ok (order.map fun leaf => ((execute leaf).run forest).result) ∧
        ∃ computed : List StageHandle, Event.calls es = computed.flatMap forest.callsOf ∧
          ∀ handle v, ((materialize handle).run forest).result = .ok v →
            computed.count handle = 1) := by
  subst hforest
  have hgrown := (Context.Grown.of_clear hdeferred hclear).after hbuilding
  generalize c.after (building.map .operate) = forest at hgrown horder ⊢
  have hwhole := executeEach_of_whole hgrown.whole (horder.nodup_iff.2 (nodup_leaves _))
    fun _ => horder.mem_iff
  refine Ensures.and (hwhole.mono ?_) fun hsteady => ?_
  · rintro r c' es ⟨hknown, hclear', computations, hcalls, hadvances⟩
    refine ⟨hknown, ⟨computations, hadvances, hcalls, fun k hk => (hadvances.ledger.waiting k hk).1,
      hadvances.ledger.once⟩, ?_⟩
    rw [hclear']
    exact ⟨rfl, rfl, rfl⟩
  · have hagrees : forest.Agrees p forest.stages.Uses (forest.called p) := by
      refine .self (hbare.of_standing hgrown.standing) ?_
      rw [Context.options_of_standing hgrown.standing, Context.target_of_standing hgrown.standing]
      exact hsteady
    obtain ⟨hresults, honce⟩ := executeEach_of_agrees hgrown hagrees horder
    exact ⟨hresults, honce hwhole.2.1⟩

/-- A function of two arguments that adds a captured value to their sum. -/
def offsetSum : Function where
  id := ⟨0⟩
  body := (Expr.arith .add (.arith .add (.arg 0) (.arg 1)) (.scope 0)).toBody ["x", "y"] [.int 10]
    (some ((Expr.arith .add (.arith .add (.arg 0) (.arg 1)) (.const (.int 10))).toBody
      ["x", "y"] [] none))

/-- A function of two arguments with a specialization that adds ten to their sum. -/
def driftingSum : Function where
  id := ⟨0⟩
  body := (Expr.arith .add (.arg 0) (.arg 1)).toBody ["x", "y"] []
    (some ((Expr.arith .add (.arith .add (.arg 0) (.arg 1)) (.const (.int 10))).toBody
      ["x", "y"] [] none))

/-- All functions are as `offsetSum`. -/
def offsetSumProgram : Program where
  body _ := offsetSum.body

/-- All functions are as `driftingSum`. -/
def driftingProgram : Program where
  body _ := driftingSum.body

/-- A captured value that is worked in cannot be told. -/
theorem offsetSum_steady (f : FunctionId) :
    (Context.specializing.functions.target offsetSumProgram f).Steady f :=
  ⟨rfl, rfl⟩

/-- A map, and a fold and a map that read from it. -/
def sharedStages : List Operation :=
  [.pendingMap (.int [1, 2]) offsetSum [.int [3, 4]], .reduce (.pending ⟨1⟩) offsetSum (.int 0) [],
    .map (.pending ⟨1⟩) offsetSum [.int [5, 6]]]

/-- The function is mapped and folded with, and specialized when the first leaf is executed. -/
theorem executeEach_leaves_shared :
    Context.specializing.Bare ∧ Context.specializing.options.specializeScope = true ∧
      Context.specializing.options.stages = .deferred ∧
      Context.specializing.stages = Context.specializing.stages.clear ∧
      (∀ op ∈ sharedStages, op.Builds offsetSumProgram) ∧
      ∃ forest, Context.specializing.after (sharedStages.map .operate) = forest ∧
        [⟨3⟩, ⟨2⟩].Perm forest.stages.leaves ∧
        forest.stages.Uses .map offsetSum.id ∧ forest.stages.Uses (.reduce (.int 0)) offsetSum.id ∧
        (Context.specializing.functions.target offsetSumProgram offsetSum.id).Steady offsetSum.id ∧
        (executeEach [⟨3⟩, ⟨2⟩]).Ensures forest fun results c' es =>
          results = .ok [.ok (.int [29, 32]), .ok (.int [50])] ∧
          (∃ computed : List StageHandle, Event.calls es = computed.flatMap forest.callsOf ∧
            computed.count ⟨1⟩ = 1) ∧
          c'.stages.size = 0 ∧ c'.stages.current = none := by
  have hbuilds : ∀ op ∈ sharedStages, op.Builds offsetSumProgram := by
    simp [sharedStages, Operation.Builds, Program.Knows, offsetSumProgram]
  have hperm : [⟨3⟩, ⟨2⟩].Perm
      (Context.specializing.after (sharedStages.map .operate)).stages.leaves := by decide +kernel
  refine ⟨Context.specializing_bare, rfl, rfl, rfl, hbuilds, _, rfl, hperm, ⟨⟨1⟩, _, rfl, rfl, rfl⟩,
    ⟨⟨2⟩, _, rfl, rfl, rfl⟩, offsetSum_steady _, ?_⟩
  refine (executeEach_leaves Context.specializing_bare rfl rfl hbuilds rfl hperm).mono ?_
  rintro r c' es ⟨⟨-, -, hsize, hcurrent, -⟩, hsame⟩
  obtain ⟨rfl, computed, hcalls, hcount⟩ := hsame fun _ f _ _ _ => offsetSum_steady f
  refine ⟨?_, ⟨computed, hcalls, hcount ⟨1⟩ (.int [14, 16]) ?_⟩, hsize, hcurrent⟩
  · unfold execute materialize
    unfold materialize
    rfl
  · rw [materialize]
    rfl

/-- A map and a fold with one function. -/
def driftingStages : List Operation :=
  [.pendingMap (.int [1]) driftingSum [.int [2]],
    .reduce (.vector (.int [1])) driftingSum (.int 0) []]

/-- A specialization that does not compute what it replaces shows in the order: the fold gives one
thing by itself and another once the function has been mapped with. -/
theorem executeEach_after_specializing :
    Context.specializing.Bare ∧ Context.specializing.options.stages = .deferred ∧
      Context.specializing.stages = Context.specializing.stages.clear ∧
      (∀ op ∈ driftingStages, op.Builds driftingProgram) ∧
      ∃ forest, Context.specializing.after (driftingStages.map .operate) = forest ∧
        [⟨1⟩, ⟨2⟩].Perm forest.stages.leaves ∧
        ((execute ⟨2⟩).run forest).result = .ok (.int [1]) ∧
        ((executeEach [⟨1⟩, ⟨2⟩]).run forest).result =
          .ok [.ok (.int [13]), .ok (.int [11])] ∧
        ((executeEach [⟨1⟩, ⟨2⟩]).run forest).result ≠
          .ok ([⟨1⟩, ⟨2⟩].map fun leaf => ((execute leaf).run forest).result) := by
  have hbuilds : ∀ op ∈ driftingStages, op.Builds driftingProgram := by
    simp [driftingStages, Operation.Builds, Program.Knows, driftingProgram]
  have hperm : [⟨1⟩, ⟨2⟩].Perm
      (Context.specializing.after (driftingStages.map .operate)).stages.leaves := by decide +kernel
  have halone : ((execute ⟨2⟩).run
      (Context.specializing.after (driftingStages.map .operate))).result = .ok (.int [1]) := by
    unfold execute materialize
    rfl
  have hboth : ((executeEach [⟨1⟩, ⟨2⟩]).run
      (Context.specializing.after (driftingStages.map .operate))).result =
        .ok [.ok (.int [13]), .ok (.int [11])] := by
    simp only [executeEach, execute, clearChain]
    unfold materialize StageRegistry.clearChain
    rfl
  refine ⟨Context.specializing_bare, rfl, rfl, hbuilds, _, rfl, hperm, halone, hboth, ?_⟩
  rw [hboth, List.map_cons, List.map_singleton, halone]
  intro h
  simp at h

end Operator

end TieredVectors
