import TieredVectors.Proofs.Operator.Materializing

/-!
# Which stages are computed

Executing a stage computes the stages of its chain that have no result yet, and keeps their results.
Which stages these are depends on what has been computed before, but not on what functions do, and a
function may well be rewritten between two computations:

* `Context.Advances` — stages are computed one after another, and results are kept;
* `StageRegistry.Ledger` — then none is computed again once that has succeeded;
* `Operator.Materializes.advances` — so it goes along the chain of a stage;
* `Operator.execute_of_whole`, `Operator.executeEach_of_whole` — and when leaves are executed, of
  which none is left in the end.
-/

namespace TieredVectors

/-- One time that a stage is computed. -/
structure Computation where
  handle : StageHandle
  stage : Stage
  /-- The elements that the stage reads. -/
  elements : DataVector
  /-- What there is when the stage is computed. -/
  context : Context

namespace Computation

/-- How it goes. -/
def run (k : Computation) : Run DataVector :=
  (Operator.computeStage k.stage k.elements).run k.context

/-- The calls that it makes. -/
def calls (k : Computation) : List (FunctionId × List Value) := Event.calls k.run.events

/-- It comes to a result. -/
def Succeeds (k : Computation) : Prop := ∃ v, k.run.result = .ok v

/-- What there is then. If there is a result it is kept. -/
def next (k : Computation) : Context := (k.run.andThen (Operator.keepResult k.handle)).context

end Computation

/-- Stages are computed one after another. Each is one that has no result, and it is computed in the
context that there is by then, from elements that are there. In between stages may be dropped. -/
inductive Context.Advances : Context → List Computation → Context → Prop
  | refl (c : Context) : Advances c [] c
  | compute {c c' : Context} {handle : StageHandle} {stage : Stage} {x : DataVector}
      {computations : List Computation} (hstage : c.stages.get? handle = some stage)
      (hresult : stage.result = none) (hready : c.stages.Ready x stage.input)
      (hrest : Advances (Computation.next ⟨handle, stage, x, c⟩) computations c') :
      Advances c (⟨handle, stage, x, c⟩ :: computations) c'
  | drop {c c' : Context} {stages : StageRegistry} {computations : List Computation}
      (hdropped : ∀ handle stage, stages.get? handle = some stage →
        c.stages.get? handle = some stage)
      (hrest : Advances { c with stages } computations c') : Advances c computations c'

theorem Context.Advances.trans {c c' c'' : Context} {computations computations' : List Computation}
    (h : c.Advances computations c') (h' : c'.Advances computations' c'') :
    c.Advances (computations ++ computations') c'' := by
  induction h with
  | refl => exact h'
  | compute hstage hresult hready _ ih => exact .compute hstage hresult hready (ih h')
  | drop hdropped _ ih => exact .drop hdropped (ih h')

/-! ## Keeping books -/

namespace StageRegistry

variable {r r' r'' : StageRegistry} {handle : StageHandle} {stage : Stage}
  {computations computations' : List Computation}

/-- Stages are computed one after another. -/
structure Ledger (r : StageRegistry) (computations : List Computation) (r' : StageRegistry) :
    Prop where
  /-- Stages are computed that have no result. -/
  waiting : ∀ k ∈ computations, r.get? k.handle = some k.stage ∧ k.stage.result = none
  /-- A stage that is left without a result has been there all along. -/
  left : ∀ handle stage, r'.get? handle = some stage → stage.result = none →
    r.get? handle = some stage
  /-- A stage whose computation has succeeded is not left without a result. -/
  done : ∀ k ∈ computations, k.Succeeds → ∀ stage, r'.get? k.handle = some stage →
    stage.result ≠ none
  /-- No stage is computed again once that has succeeded. -/
  once : computations.Pairwise fun k later => later.handle = k.handle → ¬ k.Succeeds

namespace Ledger

/-- Nothing is computed. Stages may be dropped. -/
theorem nil (h : ∀ handle stage, r'.get? handle = some stage → r.get? handle = some stage) :
    Ledger r [] r' :=
  ⟨List.forall_mem_nil _, fun handle stage hstage _ => h handle stage hstage, List.forall_mem_nil _,
    .nil⟩

theorem refl (r : StageRegistry) : Ledger r [] r := nil fun _ _ h => h

theorem trans (h : Ledger r computations r') (h' : Ledger r' computations' r'') :
    Ledger r (computations ++ computations') r'' := by
  refine ⟨fun k hk => ?_, fun handle stage hstage hresult => ?_,
    fun k hk hsucceeds stage hstage => ?_,
    List.pairwise_append.2 ⟨h.once, h'.once, fun k hk later hlater heq hsucceeds => ?_⟩⟩
  · rcases List.mem_append.1 hk with hk | hk
    · exact h.waiting k hk
    · obtain ⟨hstage, hresult⟩ := h'.waiting k hk
      exact ⟨h.left _ _ hstage hresult, hresult⟩
  · exact h.left handle stage (h'.left handle stage hstage hresult) hresult
  · rcases List.mem_append.1 hk with hk | hk
    · intro hresult
      exact h.done k hk hsucceeds stage (h'.left _ _ hstage hresult) hresult
    · exact h'.done k hk hsucceeds stage hstage
  · -- what is computed later has no result when the first computations have been made
    obtain ⟨hstage, hresult⟩ := h'.waiting later hlater
    exact h.done k hk hsucceeds later.stage (heq ▸ hstage) hresult

/-- One stage is computed, and is not left without a result if that succeeds. -/
theorem single {k : Computation} (hstage : r.get? k.handle = some k.stage)
    (hresult : k.stage.result = none)
    (hleft : ∀ handle stage, r'.get? handle = some stage → stage.result = none →
      r.get? handle = some stage)
    (hdone : k.Succeeds → ∀ stage, r'.get? k.handle = some stage → stage.result ≠ none) :
    Ledger r [k] r' :=
  ⟨List.forall_mem_singleton.2 ⟨hstage, hresult⟩, hleft, List.forall_mem_singleton.2 hdone,
    List.pairwise_singleton _ _⟩

end Ledger

/-- From a registered stage no chain leads to one that is missing. -/
theorem Whole.registered_of_chain (hr : r.Whole) {parent : StageHandle}
    (hchain : Relation.ReflTransGen r.Reads handle parent) (hregistered : r.input? handle ≠ none) :
    r.input? parent ≠ none := by
  induction hchain with
  | refl => exact hregistered
  | tail _ hreads _ => exact hr.parents _ _ hreads

end StageRegistry

namespace Run

variable {α β γ : Type} {first : Run α} {f : α → Action β}

theorem andThen_of_error {e : OperatorError} (h : first.result = .error e) :
    (first.andThen f).context = first.context ∧ (first.andThen f).events = first.events := by
  rw [andThen, h]
  exact ⟨rfl, rfl⟩

theorem andThen_of_ok {x : α} (h : first.result = .ok x) :
    (first.andThen f).context = ((f x).run first.context).context ∧
      (first.andThen f).events = first.events ++ ((f x).run first.context).events := by
  rw [andThen, h]
  exact ⟨rfl, Action.append_eq _ _⟩

theorem andThen_andThen (first : Run α) (f : α → Action β) (g : β → Action γ) :
    (first.andThen f).andThen g = first.andThen fun x => f x >>= g := by
  unfold andThen
  cases first.result with
  | error e => rfl
  | ok x =>
    dsimp only
    rw [Action.run_bind, andThen]
    cases ((f x).run first.context).result with
    | error e => rfl
    | ok y => simp only [Action.append_eq, List.append_assoc]

end Run

namespace Operator

open TieredVectors.Action

variable {c : Context} {handle : StageHandle} {stage : Stage}

/-- A stage is computed, and its result kept. -/
theorem ledger_of_compute (hstage : c.stages.get? handle = some stage)
    (hresult : stage.result = none) (x : DataVector) :
    (computeStage stage x >>= keepResult handle).Ensures c fun _ c' es =>
      Event.calls es = Computation.calls ⟨handle, stage, x, c⟩ ∧
      c.stages.Ledger [⟨handle, stage, x, c⟩] c'.stages := by
  have hstages := (computes_computeStage x stage).stages_eq c
  rw [ensures_bind]
  change Post.after _ _ ((computeStage stage x).run c).result _ _
  cases hrun : ((computeStage stage x).run c).result with
  | error e =>
    refine ⟨rfl, .single hstage hresult (fun h s hs _ => ?_) fun hsucceeds => ?_⟩
    · rwa [hstages] at hs
    · obtain ⟨v, hv⟩ := hsucceeds
      cases hrun.symm.trans hv
  | ok v =>
    rw [Post.after_ok, keepResult, ensures_bind, ensures_modify, Post.after_ok, ensures_pure,
      List.append_nil, List.append_nil]
    have hget (h : StageHandle) := StageRegistry.Remains.get?_memoize_eq (v := v) hstage h
    dsimp only
    rw [hstages]
    refine ⟨rfl, .single hstage hresult (fun h s hs hnone => ?_) fun _ s hs => ?_⟩
    · rw [hget] at hs
      split at hs
      · rw [← Option.some.inj hs] at hnone
        cases hnone
      · exact hs
    · rw [hget, if_pos rfl] at hs
      rw [← Option.some.inj hs]
      exact Option.some_ne_none v

end Operator

/-- As stages are computed one after another, books can be kept. -/
theorem Context.Advances.ledger {c c' : Context} {computations : List Computation}
    (h : c.Advances computations c') : c.stages.Ledger computations c'.stages := by
  induction h with
  | refl => exact .refl _
  | compute hstage hresult _ _ ih =>
    exact (Operator.ledger_of_compute hstage hresult _).2.trans ih
  | drop hdropped _ ih => exact (StageRegistry.Ledger.nil hdropped).trans ih

/-! ## The chain of a stage -/

namespace Operator

open TieredVectors.Action

variable {c : Context} {handle : StageHandle} {visited : List StageHandle} {run : Run DataVector}

/-- The stages of the chain are computed one after another. -/
theorem Materializes.advances (h : Materializes c handle visited run) (hr : c.stages.Ordered) :
    ∃ computations, Event.calls run.events = computations.flatMap Computation.calls ∧
      c.Advances computations run.context := by
  induction h with
  | unknown => exact ⟨[], rfl, .refl _⟩
  | known => exact ⟨[], rfl, .refl _⟩
  | @source handle stage primary _ _ hstage hresult hinput =>
    have hcalls := (ledger_of_compute hstage hresult primary).1
    have hready : c.stages.Ready primary stage.input := by
      rw [hinput]
      rfl
    exact ⟨[_], hcalls.trans (List.flatMap_singleton _ _).symm,
      .compute hstage hresult hready (.refl _)⟩
  | @parent handle parent stage _ visited run hstage hresult hinput hrun ih =>
    obtain ⟨computations, hcalls, hadvances⟩ := ih
    -- the stage is not among those that have been asked for to find its elements
    have hnotMem : handle ∉ visited :=
      (List.nodup_cons.1 ((Materializes.parent hstage hresult hinput hrun).nodup hr)).1
    have hkept : run.context.stages.get? handle = some stage := by
      rcases hrun.fills.stages handle with heq | ⟨hmem, -⟩
      · exact heq.trans hstage
      · exact absurd hmem hnotMem
    rw [Run.andThen_andThen]
    cases helements : run.result with
    | error e =>
      obtain ⟨hcontext, hevents⟩ := Run.andThen_of_error helements
      rw [hcontext, hevents]
      exact ⟨computations, hcalls, hadvances⟩
    | ok x =>
      have hcalls' := (ledger_of_compute hkept hresult x).1
      have hready : run.context.stages.Ready x stage.input := by
        rw [hinput]
        exact Option.bind_eq_some_iff.1 (hrun.kept helements).1
      obtain ⟨hcontext, hevents⟩ := Run.andThen_of_ok helements
      rw [hcontext, hevents]
      refine ⟨computations ++ [_], ?_,
        hadvances.trans (.compute hkept hresult hready (.refl _))⟩
      rw [Event.calls_append, hcalls, hcalls', List.flatMap_append, List.flatMap_singleton]

/-- The chain of a stage changes results only. -/
theorem Materializes.layout (h : Materializes c handle visited ((materialize handle).run c)) :
    ((materialize handle).run c).context.stages.layout = c.stages.layout :=
  Prod.ext (materialize_ensures handle c).1 (Prod.ext h.fills.current h.fills.byFunction)

/-! ## Executing leaves -/

/-- Executing a leaf takes the leaf away and leaves the others, whether or not that succeeds. It
does not fail for want of a stage. -/
theorem execute_of_whole (hwhole : c.stages.Whole) (hleaf : handle ∈ c.stages.leaves) :
    (execute handle).Ensures c fun r c' es =>
      (∀ missing, r ≠ .error (.unknownStage missing)) ∧ c'.stages.Whole ∧
      (∀ h, h ∈ c'.stages.leaves ↔ h ∈ c.stages.leaves ∧ h ≠ handle) ∧
      ∃ computations, Event.calls es = computations.flatMap Computation.calls ∧
        c.Advances computations c' := by
  obtain ⟨visited, hrun⟩ := exists_materializes hwhole.ordered handle
  have hmaterialize : (materialize handle).Ensures c fun r c' es =>
      (∀ missing, r = .error (.unknownStage missing) → c.stages.Ordered →
        c.stages.input? missing = none ∧ Relation.ReflTransGen c.stages.Reads handle missing) ∧
      c'.stages.layout = c.stages.layout ∧
      ∃ computations, Event.calls es = computations.flatMap Computation.calls ∧
        c.Advances computations c' :=
    ⟨(materialize_ensures handle c).2, hrun.layout, hrun.advances hwhole.ordered⟩
  rw [execute, ensures_thenAlways]
  refine hmaterialize.mono ?_
  rintro r c₁ es ⟨hunknown, hlayout, computations, hcalls, hadvances⟩
  simp only [clearChain, ensures_bind, ensures_update, Post.after_ok, ensures_tell]
  have hwhole' := hwhole.of_layout hlayout
  have hleaf' := (StageRegistry.mem_leaves_of_layout hlayout).2 hleaf
  refine ⟨fun missing hmissing => ?_, (hwhole'.clearChain hleaf').1, fun h => ?_, computations, ?_,
    ?_⟩
  · obtain ⟨hnone, hchain⟩ := hunknown missing hmissing hwhole.ordered
    exact hwhole.registered_of_chain hchain (StageRegistry.mem_leaves_iff.1 hleaf).1 hnone
  · rw [(hwhole'.clearChain hleaf').2 h, StageRegistry.mem_leaves_of_layout hlayout]
  · -- clearing the chain is told, but is no call
    rw [← hcalls]
    simp [Event.calls, Event.call?]
  · rw [← List.append_nil computations]
    exact hadvances.trans (.drop (fun _ _ => StageRegistry.get?_clearChain) (.refl _))

end Operator

/-- The action, which is made to succeed with how it went. -/
def Action.attempt {α : Type} (a : Action α) : Action (Except OperatorError α) := fun c =>
  { a.run c with result := .ok (a.run c).result }

namespace Operator

open TieredVectors.Action

variable {c : Context}

theorem ensures_attempt {α : Type} {a : Action α} {post : Post (Except OperatorError α)} :
    a.attempt.Ensures c post ↔ a.Ensures c fun r c' es => post (.ok r) c' es :=
  Iff.rfl

/-- Execute stages one after another, whether or not that succeeds. -/
def executeEach : List StageHandle → Action (List (Except OperatorError DataVector))
  | [] => pure []
  | handle :: handles => do
    let result ← (execute handle).attempt
    (result :: ·) <$> executeEach handles

/-- The leaves that are left are the ones still to come. -/
theorem mem_leaves_of_cons {handle : StageHandle} {order leaves leaves' : List StageHandle}
    (hnodup : (handle :: order).Nodup) (hleaves : ∀ h, h ∈ handle :: order ↔ h ∈ leaves)
    (hrest : ∀ h, h ∈ leaves' ↔ h ∈ leaves ∧ h ≠ handle) (h : StageHandle) :
    h ∈ order ↔ h ∈ leaves' := by
  rw [hrest, ← hleaves, List.mem_cons]
  refine ⟨fun hh => ⟨.inr hh, ?_⟩, fun hh => hh.1.resolve_left hh.2⟩
  rintro rfl
  exact (List.nodup_cons.1 hnodup).1 hh

/-- Executing all leaves, in any order, leaves no stage, and none of them is found missing. -/
theorem executeEach_of_whole (hwhole : c.stages.Whole) {order : List StageHandle}
    (hnodup : order.Nodup) (hleaves : ∀ h, h ∈ order ↔ h ∈ c.stages.leaves) :
    (executeEach order).Ensures c fun r c' es =>
      (∃ outcomes, r = .ok outcomes ∧
        ∀ outcome ∈ outcomes, ∀ missing, outcome ≠ .error (.unknownStage missing)) ∧
      c'.stages = c'.stages.clear ∧
      ∃ computations, Event.calls es = computations.flatMap Computation.calls ∧
        c.Advances computations c' := by
  induction order generalizing c with
  | nil =>
    refine ⟨⟨[], rfl, List.forall_mem_nil _⟩, hwhole.eq_clear ?_, [], rfl, .refl _⟩
    exact List.eq_nil_iff_forall_not_mem.2 fun h hh => List.not_mem_nil ((hleaves h).2 hh)
  | cons handle order ih =>
    rw [executeEach, ensures_bind, ensures_attempt]
    refine (execute_of_whole hwhole ((hleaves handle).1 List.mem_cons_self)).mono ?_
    rintro r c₁ es ⟨hknown, hwhole₁, hleaves₁, computations, hcalls, hadvances⟩
    rw [Post.after_ok, ensures_map]
    refine (ih hwhole₁ (List.nodup_cons.1 hnodup).2
      (mem_leaves_of_cons hnodup hleaves hleaves₁)).mono ?_
    rintro r' c₂ es' ⟨⟨outcomes, rfl, hknown'⟩, hclear, computations', hcalls', hadvances'⟩
    refine ⟨⟨r :: outcomes, rfl, List.forall_mem_cons.2 ⟨hknown, hknown'⟩⟩, hclear,
      computations ++ computations', ?_, hadvances.trans hadvances'⟩
    rw [Event.calls_append, hcalls, hcalls', List.flatMap_append]

end Operator

end TieredVectors
