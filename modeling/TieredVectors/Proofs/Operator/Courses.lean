import TieredVectors.Proofs.Operator.Passes
import TieredVectors.Proofs.Operator.Reachability

/-!
# The passes of an operator

An operator makes passes one after the other. Between them it looks functions up, registers and
clears stages and starts pools, and tells of no phase meanwhile (`Context.Course`). So whatever
happens to the device, the detector, the compiler and the caches happens in the passes:

* `Action.Goes` — an action takes such a course, with one rule for each way to put actions together;
* `Operation.course` — every operator does.
-/

namespace TieredVectors

variable {α β : Type} {c c' c'' : Context} {es es' : List Event} {passes passes' : List Pass}

namespace Context

/-- The course from one context to another, with what is told on the way and the passes made. -/
inductive Course (c : Context) : List Event → List Pass → Context → Prop where
  | here : Course c [] [] c
  | tell {es es' : List Event} {passes : List Pass} {c' : Context} (h : Course c es passes c')
      (htold : ∀ e ∈ es', e.phase? = none) : Course c (es ++ es') passes c'
  | lookup {es : List Event} {passes : List Pass} {c' : Context} (h : Course c es passes c')
      (f : Function) : Course c es passes { c' with functions := (c'.functions.lookup f).2 }
  | stages {es : List Event} {passes : List Pass} {c' : Context} (h : Course c es passes c')
      (stages : StageRegistry) : Course c es passes { c' with stages }
  | pools {es : List Event} {passes : List Pass} {c' : Context} (h : Course c es passes c')
      (pools : List Nat) : Course c es passes { c' with pools }
  | pass {es : List Event} {passes : List Pass} (a : Pass) (h : Course c es passes a.start) :
      Course c (es ++ a.run.events) (passes ++ [a]) a.run.context

theorem Course.trans (h : c.Course es passes c') (h' : c'.Course es' passes' c'') :
    c.Course (es ++ es') (passes ++ passes') c'' := by
  -- a course grows at its end
  induction h' with
  | here => simpa using h
  | tell _ htold ih =>
    rw [← List.append_assoc]
    exact .tell ih htold
  | lookup _ f ih => exact .lookup ih f
  | stages _ stages ih => exact .stages ih stages
  | pools _ pools ih => exact .pools ih pools
  | pass a _ ih =>
    rw [← List.append_assoc, ← List.append_assoc]
    exact .pass a ih

end Context

namespace Action

variable {a : Action α}

/-- In every context the action takes a course. -/
def Goes (a : Action α) : Prop :=
  ∀ c, a.Ensures c fun _ c' es => ∃ passes, c.Course es passes c'

theorem goes_of_quiet (hquiet : a.Quiet) (htells : a.Phaseless) : a.Goes := by
  intro c
  refine ((hquiet c).and (htells c)).mono ?_
  rintro r c' es ⟨rfl, hes⟩
  exact ⟨[], .tell .here hes⟩

theorem goes_pure (x : α) : (pure x : Action α).Goes := fun _ => ⟨[], .here⟩

theorem goes_fail (e : OperatorError) : (fail e : Action α).Goes := fun _ => ⟨[], .here⟩

theorem goes_get : get.Goes := fun _ => ⟨[], .here⟩

theorem goes_ofExcept {ε : Type} (wrap : ε → OperatorError) (x : Except ε α) :
    (ofExcept wrap x).Goes :=
  goes_of_quiet (quiet_ofExcept wrap x) (tells_ofExcept wrap x)

theorem goes_lookup (f : Function) : (lookup f).Goes := fun _ => ⟨[], .lookup .here f⟩

theorem goes_stages {change : Context → α × StageRegistry} :
    (update fun c => ((change c).1, { c with stages := (change c).2 })).Goes :=
  fun c => ⟨[], .stages .here (change c).2⟩

theorem Goes.bind {f : α → Action β} (ha : a.Goes) (hf : ∀ x, (f x).Goes) : (a >>= f).Goes := by
  intro c
  rw [ensures_bind]
  refine (ha c).mono ?_
  rintro r c' es ⟨passes, hcourse⟩
  cases r with
  | error e =>
    -- what was done before the failure stays done
    exact ⟨passes, hcourse⟩
  | ok x =>
    rw [Post.after_ok]
    refine (hf x c').mono ?_
    rintro r c'' es' ⟨passes', hcourse'⟩
    exact ⟨passes ++ passes', hcourse.trans hcourse'⟩

theorem Goes.map (ha : a.Goes) (f : α → β) : (f <$> a).Goes := by
  rw [map_eq_pure_bind]
  exact ha.bind fun x => goes_pure (f x)

theorem Goes.thenAlways {last : Action Unit} (ha : a.Goes) (hlast : last.Goes) :
    (a.thenAlways last).Goes := by
  intro c
  rw [ensures_thenAlways]
  refine (ha c).mono ?_
  rintro r c' es ⟨passes, hcourse⟩
  refine (hlast c').mono ?_
  rintro r' c'' es' ⟨passes', hcourse'⟩
  exact ⟨passes ++ passes', hcourse.trans hcourse'⟩

theorem goes_pool (threads : Nat) : (pool threads).Goes := by
  refine goes_get.bind fun c => ?_
  split
  · exact goes_pure _
  · split
    · exact goes_fail _
    · refine (goes_of_quiet (quiet_tell _) (phaseless_tell (by simp [Event.phase?]))).bind
        fun _ => ?_
      exact Goes.bind (fun c => ⟨[], .pools .here _⟩) fun _ => goes_pure _

theorem goes_results (values : List Value) (type : Option RowType) : (results values type).Goes :=
  goes_of_quiet (quiet_results values type) (phaseless_results values type)

end Action

open TieredVectors.Action

/-- A call through the tiers is a pass. -/
theorem Tiering.goes_run (f : Function) (z : Zipped) (columns : Option ColumnArray) :
    (run f z columns).Goes := fun c =>
  ⟨[⟨f, z, columns, c⟩], .pass ⟨f, z, columns, c⟩ .here⟩

namespace Operator

variable {x : DataVector} {f : Function} {companions : List DataVector}

theorem goes_mapVector (columns : Option ColumnArray) :
    (mapVector f x companions columns).Goes := by
  refine (goes_ofExcept _ _).bind fun z => goes_get.bind fun c => ?_
  split
  · refine (goes_lookup f).bind fun entry => (goes_pool _).bind fun _ => ?_
    exact (goes_of_quiet (Pool.quiet_callAll entry z) (Pool.phaseless_callAll entry z)).bind
      fun _ => goes_results _ _
  · refine (Tiering.goes_run f z columns).bind fun outcome => ?_
    cases outcome with
    | device array => exact goes_pure _
    | interpreted values type => exact goes_results values type

theorem goes_reduceVector (neutral : Value) (type : Option RowType) :
    (reduceVector f x companions neutral type).Goes := by
  refine (goes_ofExcept _ _).bind fun z => (goes_lookup f).bind fun entry => ?_
  have hfold : (entry.fold z neutral).Goes :=
    goes_of_quiet (entry.quiet_foldFrom z neutral 0 z.length)
      (entry.phaseless_foldFrom z neutral 0 z.length)
  have hpool (size : Nat) : (Pool.fold size entry z neutral).Goes :=
    goes_of_quiet (Pool.quiet_fold size entry z neutral) (Pool.phaseless_fold size entry z neutral)
  refine goes_get.bind fun c => ?_
  split
  · split
    · exact (goes_pool _).bind fun size => (hpool size).bind fun _ => goes_results _ _
    · exact hfold.bind fun _ => goes_results _ _
  · exact hfold.bind fun _ => goes_results _ _

theorem goes_computeStage (stage : Stage) (x : DataVector) : (computeStage stage x).Goes := by
  unfold computeStage
  split
  · exact goes_mapVector _
  · exact goes_reduceVector _ _

/-- Stages are computed one after the other, each after the one that it reads from. -/
theorem goes_materialize (handle : StageHandle) : (materialize handle).Goes := by
  -- a stage reads from an earlier one, or is refused
  induction hn : handle.index using Nat.strongRecOn generalizing handle with
  | ind n ih =>
    rw [materialize]
    refine goes_get.bind fun c => ?_
    split
    next => exact goes_fail _
    next stage hstage =>
      split
      next => exact goes_pure _
      next =>
        have hcompute (x : DataVector) : (do
            let result ← computeStage stage x
            modify fun c => { c with stages := c.stages.memoize handle result }
            return result).Goes :=
          (goes_computeStage stage x).bind fun result =>
            Goes.bind (fun c => ⟨[], .stages .here _⟩) fun _ => goes_pure _
        split
        next => exact (goes_pure _).bind hcompute
        next parent _ _ =>
          split
          next hlt => exact (ih parent.index (hn ▸ hlt) parent rfl).bind hcompute
          next => exact (goes_fail _).bind hcompute

theorem goes_sample (task : StageTask) (f : Function) (input : StageInput) :
    (sample task f input).Goes := by
  have hfirst : (firstElement input).Goes := by
    unfold firstElement
    split
    · exact goes_pure _
    · refine goes_get.bind fun c => ?_
      split
      · exact goes_pure _
      · exact goes_fail _
  refine hfirst.bind fun first => ?_
  split
  · exact goes_pure _
  · exact (goes_lookup f).bind fun entry =>
      (goes_of_quiet (entry.quiet_call _) (entry.phaseless_call _)).map _

theorem goes_register (task : StageTask) (f : Function) (input : StageInput) :
    (register task f input).Goes := by
  unfold register
  refine (goes_sample task f input).bind fun sample => goes_get.bind fun c => ?_
  split
  · exact (goes_pure _).bind fun stage => goes_stages
  · -- an eager stage is computed before it is registered
    have helements : (stageElements (Stage.ofSample task f input sample)).Goes := by
      unfold stageElements
      split
      · exact goes_pure _
      · exact goes_materialize _
    exact helements.bind fun x => (goes_computeStage _ x).bind fun result => goes_stages

theorem goes_execute (handle : StageHandle) : (execute handle).Goes := by
  refine (goes_materialize handle).thenAlways (goes_stages.bind fun _ => ?_)
  exact goes_of_quiet (quiet_tell _) (phaseless_tell (by simp [Event.phase?]))

theorem goes_checkArity (f : Function) (supplied : Nat) : (checkArity f supplied).Goes := by
  unfold checkArity
  split
  · exact goes_pure _
  · exact goes_fail _

theorem goes_map (x : Operand) : (map x f companions).Goes := by
  refine (goes_checkArity _ _).bind fun _ => ?_
  split
  · exact (goes_mapVector _).map _
  · exact (goes_register _ _ _).map _

theorem goes_apply (workers : Nat) : (apply x f workers companions).Goes := by
  refine (goes_checkArity _ _).bind fun _ => (goes_ofExcept _ _).bind fun z =>
    (goes_lookup f).bind fun entry => ?_
  split
  · exact (goes_of_quiet (entry.quiet_callAll z) (entry.phaseless_callFrom z 0 _)).bind
      fun _ => goes_results _ _
  · refine (goes_pool _).bind fun _ => ?_
    exact (goes_of_quiet (Pool.quiet_callAll entry z) (Pool.phaseless_callAll entry z)).bind
      fun _ => goes_results _ _

theorem goes_terminalReduce (x : Operand) (neutral : Value) :
    (terminalReduce x f neutral companions).Goes := by
  refine (goes_checkArity _ _).bind fun _ => ?_
  split
  · exact (goes_pure _).bind fun _ => goes_reduceVector neutral none
  · exact (goes_execute _).bind fun _ => goes_reduceVector neutral none

theorem goes_pendingMap : (pendingMap x f companions).Goes := by
  refine (goes_checkArity _ _).bind fun _ => (goes_ofExcept _ _).bind fun z => ?_
  have hsnapshot : (snapshot z).Goes := by
    unfold snapshot
    split
    · exact (goes_ofExcept _ _).map _
    · split
      · exact goes_pure _
      · exact goes_fail _
  exact hsnapshot.bind fun columns => goes_register _ _ _

theorem goes_reduce (x : Operand) (neutral : Value) : (reduce x f neutral companions).Goes := by
  refine (goes_checkArity _ _).bind fun _ => ?_
  split
  · -- a vector is zipped to see whether it can be, before its stage is registered
    refine (goes_ofExcept _ _).bind fun _ => ?_
    exact (goes_pure _).bind fun input => goes_register _ _ input
  · exact (goes_pure _).bind fun input => goes_register _ _ input

end Operator

/-- Every operator takes a course. -/
theorem Operation.course (op : Operation) (c : Context) :
    ∃ passes, c.Course (op.events c) passes (op.perform c) := by
  cases op with
  | map x f companions => exact Operator.goes_map x c
  | apply x f workers companions => exact Operator.goes_apply workers c
  | terminalReduce x f neutral companions => exact Operator.goes_terminalReduce x neutral c
  | pendingMap x f companions => exact Operator.goes_pendingMap c
  | reduce x f neutral companions => exact Operator.goes_reduce x neutral c
  | execute handle => exact Operator.goes_execute handle c

end TieredVectors
