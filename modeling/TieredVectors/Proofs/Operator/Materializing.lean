import Mathlib.Data.List.Chain
import TieredVectors.Proofs.Operator.Executing

/-!
# Materializing a chain

Asked for the result of a stage, `materialize` asks for that of its parent first, and so on up the
chain, before anything is computed. Nothing in the stages themselves bounds this recursion:
`Operator.Materializes` says what it does, and which stages it asks for, without a look at their
numbers, and in a circle of stages it never ends (`Operator.not_materializes_of_circle`).

* `Operator.Materializes.path` — the stages asked for are the stage and, one by one, its ancestors;
* `Operator.Materializes.fills` — some of those that lack a result are given one, and nothing else
  happens to the stages;
* `Operator.exists_materializes` — where stages read from earlier ones only, the recursion ends, and
  goes as `materialize` does.

`Context.materialization_terminates` puts these together for reachable contexts.
-/

namespace TieredVectors

/-! ## Results that are filled in -/

namespace StageRegistry

variable {r r' : StageRegistry} {handle : StageHandle} {stage : Stage} {visited : List StageHandle}

/-- The stages are the same, but that some of those visited had no result and now have one. -/
structure Fills (r : StageRegistry) (visited : List StageHandle) (r' : StageRegistry) : Prop where
  byFunction : r'.byFunction = r.byFunction
  current : r'.current = r.current
  last : r'.last = r.last
  stages : ∀ h, r'.get? h = r.get? h ∨ h ∈ visited ∧ ∃ stage result, r.get? h = some stage ∧
    stage.result = none ∧ r'.get? h = some { stage with result := some result }

/-- The result that is kept for a stage. -/
def kept? (r : StageRegistry) (handle : StageHandle) : Option DataVector :=
  (r.get? handle).bind Stage.result

namespace Fills

theorem refl (r : StageRegistry) (visited : List StageHandle) : Fills r visited r :=
  ⟨rfl, rfl, rfl, fun _ => .inl rfl⟩

/-- More stages may be said to have been visited. -/
theorem cons (h : Fills r visited r') (handle : StageHandle) : Fills r (handle :: visited) r' := by
  refine ⟨h.byFunction, h.current, h.last, fun k => ?_⟩
  rcases h.stages k with heq | ⟨hmem, hfilled⟩
  · exact .inl heq
  · exact .inr ⟨List.mem_cons_of_mem handle hmem, hfilled⟩

/-- A stage that had no result is still there, with a result or without. -/
theorem exists_result (h : Fills r visited r') (hstage : r.get? handle = some stage)
    (hresult : stage.result = none) :
    ∃ result, r'.get? handle = some { stage with result } := by
  rcases h.stages handle with heq | ⟨-, stage', v, hstage', -, hfilled⟩
  · refine ⟨none, ?_⟩
    rw [heq, hstage, ← hresult]
  · obtain rfl := Option.some.inj (hstage.symm.trans hstage')
    exact ⟨some v, hfilled⟩

/-- A result is kept for a stage that had none. -/
theorem memoize (h : Fills r visited r') (hstage : r.get? handle = some stage)
    (hresult : stage.result = none) (v : DataVector) :
    Fills r (handle :: visited) (r'.memoize handle v) := by
  obtain ⟨result, hstage'⟩ := h.exists_result hstage hresult
  refine ⟨h.byFunction, h.current, h.last, fun k => ?_⟩
  rw [Remains.get?_memoize_eq hstage']
  split
  next heq =>
    subst heq
    exact .inr ⟨List.mem_cons_self, stage, v, hstage, hresult, rfl⟩
  next => exact (h.cons handle).stages k

end Fills

/-- A result that is kept is not lost when another one is kept. -/
theorem isSome_kept?_memoize {h : StageHandle} (v : DataVector) (hkept : (r.kept? h).isSome) :
    ((r.memoize handle v).kept? h).isSome := by
  simp only [kept?, get?, memoize, Table.get?_modify] at hkept ⊢
  split
  next => cases hstage : r.pending.get? h <;> simp_all
  next => exact hkept

end StageRegistry

/-! ## Going on after a run -/

section

variable {α β : Type}

namespace Run

/-- A run, and then an action if the run succeeded. -/
def andThen (first : Run α) (f : α → Action β) : Run β :=
  match first.result with
  | .error e => { result := .error e, context := first.context, events := first.events }
  | .ok x =>
    let second := (f x).run first.context
    { second with events := Action.append first.events second.events }

/-- What goes on succeeds only if the run did, and ends in the context of the action. -/
theorem of_andThen_eq_ok {first : Run α} {f : α → Action β} {y : β}
    (h : (first.andThen f).result = .ok y) :
    ∃ x, first.result = .ok x ∧ ((f x).run first.context).result = .ok y ∧
      (first.andThen f).context = ((f x).run first.context).context := by
  unfold andThen at *
  cases hfirst : first.result with
  | error e =>
    rw [hfirst] at h
    cases h
  | ok x =>
    rw [hfirst] at h
    exact ⟨x, rfl, h, rfl⟩

/-- Computing goes on with the stages that there are. -/
theorem stages_andThen (first : Run α) {f : α → Action β} (hf : ∀ x, (f x).Computes) :
    (first.andThen f).context.stages = first.context.stages := by
  unfold andThen
  cases first.result with
  | error e => rfl
  | ok x => exact (hf x).stages_eq first.context

end Run

namespace Action

theorem run_bind (a : Action α) (f : α → Action β) (c : Context) :
    (a >>= f).run c = (a.run c).andThen f := rfl

/-- Actions that ensure the same go alike. -/
theorem run_eq_of_ensures {a b : Action α} {c : Context}
    (h : ∀ post, a.Ensures c post ↔ b.Ensures c post) : a.run c = b.run c :=
  (h fun r c' es => ⟨r, c', es⟩ = b.run c).2 rfl

end Action

end

namespace Operator

open TieredVectors.Action

variable {c : Context} {handle parent : StageHandle} {stage : Stage}
  {visited visited' : List StageHandle} {run run' : Run DataVector}

/-! ## The recursion -/

/-- Keep the result of a stage. -/
def keepResult (handle : StageHandle) (result : DataVector) : Action DataVector := do
  modify fun c => { c with stages := c.stages.memoize handle result }
  return result

/-- Asked for the result of a stage, the recursion asks for the results of `visited`, in this order,
and comes to an end as `run` tells. Whether a parent has a smaller number than the stage that reads
from it plays no part. -/
inductive Materializes (c : Context) : StageHandle → List StageHandle → Run DataVector → Prop where
  | unknown {handle : StageHandle} (hstage : c.stages.get? handle = none) :
      Materializes c handle [handle] ((fail (.unknownStage handle)).run c)
  | known {handle : StageHandle} {stage : Stage} {result : DataVector}
      (hstage : c.stages.get? handle = some stage) (hresult : stage.result = some result) :
      Materializes c handle [handle] ((pure result : Action DataVector).run c)
  | source {handle : StageHandle} {stage : Stage} {primary : DataVector}
      {companions : List DataVector} {columns : Option ColumnArray}
      (hstage : c.stages.get? handle = some stage) (hresult : stage.result = none)
      (hinput : stage.input = .source primary companions columns) :
      Materializes c handle [handle]
        (((computeStage stage primary).run c).andThen (keepResult handle))
  | parent {handle parent : StageHandle} {stage : Stage} {companions : List DataVector}
      {visited : List StageHandle} {run : Run DataVector}
      (hstage : c.stages.get? handle = some stage) (hresult : stage.result = none)
      (hinput : stage.input = .parent parent companions)
      (hrun : Materializes c parent visited run) :
      Materializes c handle (handle :: visited)
        ((run.andThen (computeStage stage)).andThen (keepResult handle))

namespace Materializes

/-- The recursion goes up from the stage, from parent to parent. -/
theorem path (h : Materializes c handle visited run) :
    visited.head? = some handle ∧ visited.IsChain c.stages.Reads := by
  induction h with
  | unknown => exact ⟨rfl, .singleton _⟩
  | known => exact ⟨rfl, .singleton _⟩
  | source => exact ⟨rfl, .singleton _⟩
  | parent hstage _ hinput _ ih =>
    refine ⟨rfl, List.isChain_cons.2 ⟨fun first hfirst => ?_, ih.2⟩⟩
    obtain rfl : _ = first := Option.some.inj (ih.1.symm.trans hfirst)
    exact (StageRegistry.reads_iff_of_get? hstage).2 (by rw [hinput]; rfl)

/-- Where stages read from earlier ones only, none is asked for twice. -/
theorem nodup (h : Materializes c handle visited run) (hr : c.stages.Ordered) :
    visited.Nodup := by
  let Later (child parent : StageHandle) : Prop := parent.index < child.index
  have : Trans Later Later Later := ⟨fun hlt hlt' => Nat.lt_trans hlt' hlt⟩
  have hlater : visited.IsChain Later := h.path.2.imp fun _ _ hreads => hr.lt_of_reads hreads
  refine hlater.pairwise.imp fun hlt => ?_
  rintro rfl
  exact Nat.lt_irrefl _ hlt

/-- The recursion can go in one way only. -/
theorem unique (h : Materializes c handle visited run) (h' : Materializes c handle visited' run') :
    visited' = visited ∧ run' = run := by
  -- what is registered under the number decides which way the recursion goes
  induction h generalizing visited' run' with
  | unknown hstage => cases h' <;> simp_all
  | known hstage hresult => cases h' <;> simp_all
  | source hstage hresult hinput => cases h' <;> simp_all
  | parent hstage hresult hinput _ ih =>
    cases h' with
    | parent hstage' _ hinput' hrun' =>
      obtain rfl := Option.some.inj (hstage.symm.trans hstage')
      obtain ⟨rfl, rfl⟩ := StageInput.parent.inj (hinput.symm.trans hinput')
      obtain ⟨rfl, rfl⟩ := ih hrun'
      exact ⟨rfl, rfl⟩
    | _ => simp_all

end Materializes

/-- In a circle of stages without results the recursion never ends. -/
theorem not_materializes_of_circle {circle : StageHandle → Prop}
    (hcircle : ∀ handle, circle handle → ∃ stage parent, c.stages.get? handle = some stage ∧
      stage.result = none ∧ stage.input.parent? = some parent ∧ circle parent)
    (hhandle : circle handle) : ¬ Materializes c handle visited run := by
  intro h
  induction h with
  | unknown hstage =>
    obtain ⟨stage, -, hstage', -⟩ := hcircle _ hhandle
    rw [hstage] at hstage'
    cases hstage'
  | known hstage hresult =>
    obtain ⟨stage, -, hstage', hresult', -⟩ := hcircle _ hhandle
    obtain rfl := Option.some.inj (hstage.symm.trans hstage')
    rw [hresult] at hresult'
    cases hresult'
  | source hstage _ hinput =>
    obtain ⟨stage, parent, hstage', -, hparent, -⟩ := hcircle _ hhandle
    obtain rfl := Option.some.inj (hstage.symm.trans hstage')
    rw [hinput] at hparent
    cases hparent
  | parent hstage _ hinput _ ih =>
    obtain ⟨stage, parent, hstage', -, hparent, hnext⟩ := hcircle _ hhandle
    obtain rfl := Option.some.inj (hstage.symm.trans hstage')
    rw [hinput] at hparent
    exact ih (Option.some.inj hparent ▸ hnext)

/-! ## What becomes of the stages -/

/-- The result of a stage that lacks one is kept if there is a result. -/
theorem fills_keepResult (h : c.stages.Fills visited run.context.stages)
    (hstage : c.stages.get? handle = some stage) (hresult : stage.result = none) :
    c.stages.Fills (handle :: visited) (run.andThen (keepResult handle)).context.stages := by
  unfold Run.andThen
  cases run.result with
  | error e => exact h.cons handle
  | ok v => exact h.memoize hstage hresult v

/-- If there is a result it is kept, beside those that are kept already. -/
theorem kept_keepResult (h : c.stages.Fills visited run.context.stages)
    (hstage : c.stages.get? handle = some stage) (hresult : stage.result = none)
    (hkept : ∀ k ∈ visited, (run.context.stages.kept? k).isSome) {v : DataVector}
    (hok : (run.andThen (keepResult handle)).result = .ok v) :
    (run.andThen (keepResult handle)).context.stages.kept? handle = some v ∧
      ∀ k ∈ handle :: visited,
        ((run.andThen (keepResult handle)).context.stages.kept? k).isSome := by
  obtain ⟨x, -, hx, hcontext⟩ := Run.of_andThen_eq_ok hok
  obtain rfl : x = v := Except.ok.inj hx
  obtain ⟨_, hthere⟩ := h.exists_result hstage hresult
  have hself : (run.context.stages.memoize handle x).kept? handle = some x := by
    rw [StageRegistry.kept?, StageRegistry.Remains.get?_memoize_eq hthere, if_pos rfl]
    rfl
  rw [hcontext]
  refine ⟨hself, List.forall_mem_cons.2 ⟨Option.isSome_of_eq_some hself, fun k hk => ?_⟩⟩
  exact StageRegistry.isSome_kept?_memoize x (hkept k hk)

namespace Materializes

/-- However far the recursion gets, it only gives results to visited stages that lack them. -/
theorem fills (h : Materializes c handle visited run) :
    c.stages.Fills visited run.context.stages := by
  -- computing leaves the stages alone, so that only keeping a result counts
  induction h with
  | unknown => exact .refl _ _
  | known => exact .refl _ _
  | @source _ stage primary _ _ hstage hresult _ =>
    refine fills_keepResult ?_ hstage hresult
    rw [(computes_computeStage primary stage).stages_eq c]
    exact .refl _ _
  | @parent _ _ stage _ _ run hstage hresult _ _ ih =>
    refine fills_keepResult ?_ hstage hresult
    rw [run.stages_andThen fun x => computes_computeStage x stage]
    exact ih

/-- If the recursion succeeds, all visited stages have a result, and that of the first is the one
asked for. -/
theorem kept (h : Materializes c handle visited run) {v : DataVector} (hok : run.result = .ok v) :
    run.context.stages.kept? handle = some v ∧
      ∀ k ∈ visited, (run.context.stages.kept? k).isSome := by
  induction h generalizing v with
  | unknown => cases hok
  | @known handle _ _ hstage hresult =>
    have hself : c.stages.kept? handle = some v := by
      rw [StageRegistry.kept?, hstage, ← Except.ok.inj hok]
      exact hresult
    exact ⟨hself, List.forall_mem_singleton.2 (Option.isSome_of_eq_some hself)⟩
  | @source _ stage primary _ _ hstage hresult _ =>
    refine kept_keepResult ?_ hstage hresult (List.forall_mem_nil _) hok
    rw [(computes_computeStage primary stage).stages_eq c]
    exact .refl _ _
  | @parent _ _ stage _ _ run hstage hresult _ hrun ih =>
    -- there is a result, so that the parent had one
    obtain ⟨_, hcomputed, -⟩ := Run.of_andThen_eq_ok hok
    obtain ⟨_, hparent, -⟩ := Run.of_andThen_eq_ok hcomputed
    have hstages := run.stages_andThen fun x => computes_computeStage x stage
    refine kept_keepResult ?_ hstage hresult ?_ hok
    · rw [hstages]
      exact hrun.fills
    · rw [hstages]
      exact (ih hparent).2

end Materializes

/-! ## Where the recursion ends -/

/-- Where stages read from earlier ones only, the recursion ends, and `materialize` goes as it. -/
theorem exists_materializes (hr : c.stages.Ordered) (handle : StageHandle) :
    ∃ visited, Materializes c handle visited ((materialize handle).run c) := by
  -- on the number of the stage: its parent has a smaller one
  induction hn : handle.index using Nat.strongRecOn generalizing handle with
  | ind n ih =>
    cases hstage : c.stages.get? handle with
    | none =>
      have hrun : (materialize handle).run c = (fail (.unknownStage handle)).run c :=
        run_eq_of_ensures fun _ => ensures_materialize_of_none hstage
      rw [hrun]
      exact ⟨_, .unknown hstage⟩
    | some stage =>
      cases hresult : stage.result with
      | some result =>
        have hrun : (materialize handle).run c = (pure result : Action DataVector).run c :=
          run_eq_of_ensures fun _ => ensures_materialize_of_result hstage hresult
        rw [hrun]
        exact ⟨_, .known hstage hresult⟩
      | none =>
        have hlt (parent : StageHandle) (h : stage.input.parent? = some parent) :
            parent.index < handle.index :=
          hr.lt_of_reads ((StageRegistry.reads_iff_of_get? hstage).2 h)
        -- so `materialize` finds nothing amiss with the number of the parent
        have hrun : (materialize handle).run c =
            (stageElements stage >>= computeStage stage >>= keepResult handle).run c := by
          rw [LawfulMonad.bind_assoc]
          exact run_eq_of_ensures fun _ => ensures_materialize_of_due hstage hresult hlt
        rw [hrun, stageElements]
        cases hinput : stage.input with
        | source primary companions columns =>
          dsimp only
          rw [pure_bind, run_bind]
          exact ⟨_, .source hstage hresult hinput⟩
        | parent parent companions =>
          have hparent := hlt parent (by rw [hinput]; rfl)
          obtain ⟨visited, hvisited⟩ := ih parent.index (hn ▸ hparent) parent rfl
          exact ⟨_, .parent hstage hresult hinput hvisited⟩

end Operator

namespace Context

open Operator

variable {c : Context} {allowed : Request → Prop}

/-- In a reachable context stages read from earlier stages only. -/
theorem Reachable.ordered (h : c.Reachable allowed) : c.stages.Ordered := by
  induction h with
  | fresh h => exact h.ordered_after []
  | @after _ request _ _ ih => exact (request.change _).ordered ih

/-- Materializing comes to an end. In a context that any requests have led to, a stage reads only
from stages with smaller numbers. So the recursion that computes the chain of a stage, whichever
stage is asked for,

* ends, in one way only, and `materialize` goes as it does;
* asks for the stage itself and then for one ancestor after the other, none of them twice;
* leaves the stages as they are, succeeding or failing, but that some of the visited stages that had
  no result have one afterwards;
* keeps, if it succeeds, the results of all the visited stages. -/
theorem materialization_terminates (h : c.Reachable allowed) :
    (∀ child parent, c.stages.Reads child parent → parent.index < child.index) ∧
    ∀ handle, ∃ visited,
      Materializes c handle visited ((materialize handle).run c) ∧
      (∀ visited' run, Materializes c handle visited' run →
        visited' = visited ∧ run = (materialize handle).run c) ∧
      visited.head? = some handle ∧ visited.IsChain c.stages.Reads ∧ visited.Nodup ∧
      c.stages.Fills visited ((materialize handle).run c).context.stages ∧
      ∀ v, ((materialize handle).run c).result = .ok v →
        ((materialize handle).run c).context.stages.kept? handle = some v ∧
        ∀ k ∈ visited, (((materialize handle).run c).context.stages.kept? k).isSome := by
  refine ⟨fun child parent => h.ordered.lt_of_reads, fun handle => ?_⟩
  obtain ⟨visited, hrun⟩ := exists_materializes h.ordered handle
  exact ⟨visited, hrun, fun _ _ hrun' => hrun.unique hrun', hrun.path.1, hrun.path.2,
    hrun.nodup h.ordered, hrun.fills, fun _ hok => hrun.kept hok⟩

/-- Asked for the second of two stages, the recursion asks for both of them. -/
theorem materialization_terminates_chained :
    (initial.after chainedStages).Reachable (fun _ => True) ∧
      Materializes (initial.after chainedStages) ⟨2⟩ [⟨2⟩, ⟨1⟩]
        ((materialize ⟨2⟩).run (initial.after chainedStages)) := by
  have hreachable : (initial.after chainedStages).Reachable fun _ => True :=
    initial_fresh.reachable_after fun _ _ => trivial
  have hfirst : ∃ stage primary companions columns,
      (initial.after chainedStages).stages.get? ⟨1⟩ = some stage ∧ stage.result = none ∧
        stage.input = .source primary companions columns := ⟨_, _, _, _, rfl, rfl, rfl⟩
  have hsecond : ∃ stage companions,
      (initial.after chainedStages).stages.get? ⟨2⟩ = some stage ∧ stage.result = none ∧
        stage.input = .parent ⟨1⟩ companions := ⟨_, _, rfl, rfl, rfl⟩
  obtain ⟨first, primary, companions, columns, hfirst, hresult, hinput⟩ := hfirst
  obtain ⟨second, companions', hsecond, hresult', hinput'⟩ := hsecond
  have hrun := Materializes.parent hsecond hresult' hinput' (.source hfirst hresult hinput)
  obtain ⟨visited, hvisited, hunique, -⟩ := (materialization_terminates hreachable).2 ⟨2⟩
  obtain ⟨rfl, -⟩ := hunique _ _ hrun
  exact ⟨hreachable, hvisited⟩

end Context

end TieredVectors
