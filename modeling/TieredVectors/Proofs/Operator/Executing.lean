import TieredVectors.Proofs.Operator.Bare
import TieredVectors.Proofs.Operator.Stages
import TieredVectors.Proofs.Stage.Leaves

/-!
# Executing stages one after another

Stages are registered once and then executed. Every stage has a value, which says nothing of what
has been executed before (`StageRegistry.value`); what is left of the stages keeps only results that
are these values (`StageRegistry.Remains`). Computing the chain of a stage gives its value
(`Operator.materialize_of_remains`), and so does executing a leaf, which leaves the other leaves
(`Operator.execute_of_remains`).

Results are kept so that no stage is computed twice: `StageRegistry.Tally` counts the stages
computed against those that wait to be, as far as they have a value at all.
-/

namespace TieredVectors

open Relation (ReflTransGen)

namespace StageRegistry

variable {targets : StageTask → FunctionId → Target} {r₀ r r' r'' : StageRegistry}
  {handle parent : StageHandle} {stage : Stage}

/-- A stage with the given task and function is registered. -/
def Uses (r : StageRegistry) (task : StageTask) (f : FunctionId) : Prop :=
  ∃ handle stage, r.get? handle = some stage ∧ stage.task = task ∧ stage.function.id = f

/-- The result of a stage by interpreting its chain, whatever results are kept. -/
def value (targets : StageTask → FunctionId → Target) (r : StageRegistry) (handle : StageHandle) :
    Except OperatorError DataVector :=
  match r.get? handle with
  | none => .error (.unknownStage handle)
  | some stage => do
    let x ←
      match stage.input with
      | .source primary _ _ => .ok primary
      | .parent parent _ =>
        if _h : parent.index < handle.index then value targets r parent
        else .error (.unknownStage parent)
    stage.compute (targets stage.task stage.function.id) x
termination_by handle.index

/-- The elements that a stage reads. -/
def elements (targets : StageTask → FunctionId → Target) (r : StageRegistry) :
    StageInput → Except OperatorError DataVector
  | .source primary _ _ => .ok primary
  | .parent parent _ => r.value targets parent

theorem elements_of_parent? {input : StageInput} (h : input.parent? = some parent) :
    r.elements targets input = r.value targets parent := by
  cases input with
  | source primary companions columns => cases h
  | parent handle companions =>
    obtain rfl := Option.some.inj h
    rfl

/-- The calls that computing a stage makes, once its elements are there. -/
def callsOf (targets : StageTask → FunctionId → Target) (r : StageRegistry) (handle : StageHandle) :
    List (FunctionId × List Value) :=
  match r.get? handle with
  | none => []
  | some stage =>
    match r.elements targets stage.input with
    | .ok x => stage.calls (targets stage.task stage.function.id) x
    | .error _ => []

theorem value_eq (hr : r.Ordered) (hstage : r.get? handle = some stage) :
    r.value targets handle =
      r.elements targets stage.input >>= stage.compute (targets stage.task stage.function.id) := by
  rw [value, hstage]
  dsimp only
  cases hinput : stage.input with
  | source primary companions columns => rfl
  | parent parent companions =>
    have hlt : parent.index < handle.index :=
      (hr handle stage.input (by simp [input?, hstage])).2 parent (by rw [hinput]; rfl)
    simp only [elements, dif_pos hlt]

/-- Whether a stage is registered and its result not known yet. -/
def due (r : StageRegistry) (handle : StageHandle) : Bool :=
  (r.get? handle).any fun stage => stage.result.isNone

theorem due_of_get? (h : r.get? handle = some stage) : r.due handle = stage.result.isNone := by
  rw [due, h, Option.any_some]

/-- Clearing a chain drops no stage that is due, if none along the chain is. -/
theorem due_clearChain {h : StageHandle}
    (hchain : ReflTransGen r.Reads handle h → r.due h = false) :
    (r.clearChain handle).2.due h = r.due h := by
  cases hget : (r.clearChain handle).2.get? h with
  | some stage => rw [due_of_get? hget, due_of_get? (get?_clearChain hget)]
  | none =>
    have hnone : (r.clearChain handle).2.due h = false := by
      rw [due, hget]
      rfl
    rw [hnone]
    cases hstage : r.get? h with
    | none =>
      rw [due, hstage]
      rfl
    | some stage =>
      have hcases : _ ∨ ReflTransGen r.Reads handle h := clearChain_cases hstage
      rcases hcases with hkept | hdropped
      · rw [hget] at hkept
        cases hkept
      · exact (hchain hdropped).symm

/-- What is left of registered stages: a part of them, whose results are their values. With the
result of a stage that of its parent is known as well. -/
structure Remains (targets : StageTask → FunctionId → Target) (r₀ r : StageRegistry) : Prop where
  whole : r.Whole
  stages : ∀ handle stage, r.get? handle = some stage →
    r₀.get? handle = some { stage with result := none }
  kept : ∀ handle stage v, r.get? handle = some stage → stage.result = some v →
    r₀.value targets handle = .ok v
  settled : ∀ handle parent, r.Reads handle parent → r.due handle = false → r.due parent = false

/-- The calls are those of computing some stages. Of the stages that have a value, each of these was
due before and no longer is, and no other ceased to be due. -/
def Tally (targets : StageTask → FunctionId → Target) (r₀ r r' : StageRegistry)
    (calls : List (FunctionId × List Value)) : Prop :=
  ∃ computed : List StageHandle, calls = computed.flatMap (r₀.callsOf targets) ∧
    ∀ handle v, r₀.value targets handle = .ok v →
      computed.count handle + (r'.due handle).toNat = (r.due handle).toNat

theorem Tally.refl (targets : StageTask → FunctionId → Target) (r₀ r : StageRegistry) :
    Tally targets r₀ r r [] :=
  ⟨[], rfl, fun _ _ _ => by simp⟩

theorem Tally.trans {calls calls' : List (FunctionId × List Value)}
    (h : Tally targets r₀ r r' calls) (h' : Tally targets r₀ r' r'' calls') :
    Tally targets r₀ r r'' (calls ++ calls') := by
  obtain ⟨computed, rfl, hcount⟩ := h
  obtain ⟨computed', rfl, hcount'⟩ := h'
  refine ⟨computed ++ computed', List.flatMap_append.symm, fun handle v hv => ?_⟩
  rw [List.count_append, Nat.add_assoc, hcount' handle v hv, hcount handle v hv]

namespace Remains

/-- With the result of a stage all results along its chain are known. -/
theorem settled_chain (h : Remains targets r₀ r) (hchain : ReflTransGen r.Reads handle parent)
    (hdue : r.due handle = false) : r.due parent = false := by
  induction hchain with
  | refl => exact hdue
  | tail _ hreads ih => exact h.settled _ _ hreads ih

theorem get?_memoize_eq {v : DataVector} (hstage : r.get? handle = some stage) (h : StageHandle) :
    (r.memoize handle v).get? h =
      if h = handle then some { stage with result := some v } else r.get? h := by
  simp only [get?, memoize, Table.get?_modify] at hstage ⊢
  split
  next heq =>
    subst heq
    rw [hstage]
    rfl
  next => rfl

/-- The value of a stage may be kept once the result of its parent is known. -/
theorem memoize (h : Remains targets r₀ r) (hstage : r.get? handle = some stage) {v : DataVector}
    (hv : r₀.value targets handle = .ok v)
    (hparent : ∀ parent, r.Reads handle parent → r.due parent = false) :
    Remains targets r₀ (r.memoize handle v) := by
  have hlayout := r.layout_memoize handle v
  have hdue (h : StageHandle) : (r.memoize handle v).due h = true → r.due h = true := by
    rw [due, due, get?_memoize_eq hstage]
    split <;> simp
  refine ⟨h.whole.of_layout hlayout, fun h' stage' hstage' => ?_, fun h' stage' v' hstage' hv' => ?_,
    fun h' parent hreads hdue' => ?_⟩
  · rw [get?_memoize_eq hstage] at hstage'
    split at hstage'
    next heq =>
      obtain rfl := Option.some.inj hstage'
      rw [heq]
      exact h.stages handle stage hstage
    next => exact h.stages h' stage' hstage'
  · rw [get?_memoize_eq hstage] at hstage'
    split at hstage'
    next heq =>
      obtain rfl := Option.some.inj hstage'
      obtain rfl := Option.some.inj hv'
      rw [heq, hv]
    next => exact h.kept h' stage' v' hstage' hv'
  · -- a parent may have ceased to be due, but none has become so
    rw [reads_of_layout hlayout] at hreads
    refine Bool.eq_false_iff.2 fun hd => ?_
    have hparent' : r.due parent = false := by
      by_cases heq : h' = handle
      · exact hparent parent (heq ▸ hreads)
      · refine h.settled h' parent hreads ?_
        rwa [due, get?_memoize_eq hstage, if_neg heq] at hdue'
    rw [hdue parent hd] at hparent'
    cases hparent'

/-- Clearing the chain of a leaf. -/
theorem clearChain (h : Remains targets r₀ r) (hleaf : handle ∈ r.leaves) :
    Remains targets r₀ (r.clearChain handle).2 := by
  refine ⟨(h.whole.clearChain hleaf).1, fun h' stage' hstage' => ?_,
    fun h' stage' v' hstage' hv' => ?_, fun h' parent hreads hdue => ?_⟩
  · exact h.stages h' stage' (get?_clearChain hstage')
  · exact h.kept h' stage' v' (get?_clearChain hstage') hv'
  · have hbefore := hreads.of_clearChain
    obtain ⟨input, hinput, -⟩ := hreads
    obtain ⟨stage', hstage', rfl⟩ := Option.map_eq_some_iff.1 hinput
    rw [due_of_get? hstage', ← due_of_get? (get?_clearChain hstage')] at hdue
    have hparent := h.settled h' parent hbefore hdue
    -- the parent has been dropped, or is as it was
    cases hget : (r.clearChain handle).2.get? parent with
    | none => rw [due, hget]; rfl
    | some stage =>
      rw [due_of_get? hget, ← due_of_get? (get?_clearChain hget)]
      exact hparent

end Remains

end StageRegistry

namespace Operator

open StageRegistry TieredVectors.Action

variable {p : Program} {targets : StageTask → FunctionId → Target} {r₀ : StageRegistry}
  {c : Context} {handle : StageHandle} {stage : Stage}

/-- How far stages have been computed: functions still agree with their targets, and what is left of
the stages are the stages there were, with some more results. -/
structure Progress (p : Program) (targets : StageTask → FunctionId → Target) (r₀ : StageRegistry)
    (c c' : Context) (es : List Event) : Prop where
  agrees : c'.Agrees p r₀.Uses targets
  remains : Remains targets r₀ c'.stages
  layout : c'.stages.layout = c.stages.layout
  options : c'.options = c.options
  tally : Tally targets r₀ c.stages c'.stages (Event.calls es)

theorem Progress.refl (hagrees : c.Agrees p r₀.Uses targets)
    (hremains : Remains targets r₀ c.stages) : Progress p targets r₀ c c [] :=
  ⟨hagrees, hremains, rfl, rfl, .refl _ _ _⟩

theorem Progress.trans {c' c'' : Context} {es es' : List Event}
    (h : Progress p targets r₀ c c' es) (h' : Progress p targets r₀ c' c'' es') :
    Progress p targets r₀ c c'' (es ++ es') :=
  ⟨h'.agrees, h'.remains, h'.layout.trans h.layout, h'.options.trans h.options,
    by rw [Event.calls_append]; exact h.tally.trans h'.tally⟩

/-- A stage is computed once its elements are there, and its result kept. No other stage is
touched. -/
theorem finish_of_remains (hknown : p.Knows stage.function) (hagrees : c.Agrees p r₀.Uses targets)
    (hremains : Remains targets r₀ c.stages) (hstage : c.stages.get? handle = some stage)
    (hdue : stage.result = none) {x : DataVector}
    (hx : r₀.elements targets stage.input = .ok x)
    (hvalue : r₀.value targets handle = stage.compute (targets stage.task stage.function.id) x)
    (hparent : ∀ parent, c.stages.Reads handle parent → c.stages.due parent = false) :
    (do
      let result ← computeStage stage x
      modify fun c => { c with stages := c.stages.memoize handle result }
      return result).Ensures c fun r c' es =>
        r = r₀.value targets handle ∧ Progress p targets r₀ c c' es ∧
        (∀ h, h ≠ handle → c'.stages.get? h = c.stages.get? h) ∧
        ∀ v, r₀.value targets handle = Except.ok v → c'.stages.due handle = false := by
  have hcallsOf : r₀.callsOf targets handle =
      stage.calls (targets stage.task stage.function.id) x := by
    rw [callsOf, hremains.stages handle stage hstage]
    dsimp only
    rw [hx]
    rfl
  have huses : r₀.Uses stage.task stage.function.id :=
    ⟨handle, _, hremains.stages handle stage hstage, rfl, rfl⟩
  rw [ensures_bind]
  refine (computeStage_of_agrees hagrees huses hknown x).mono ?_
  rintro r c' es ⟨rfl, hagrees', hbystanders, hcalls⟩
  have hstages : c'.stages = c.stages := congrArg Prod.fst hbystanders
  have hoptions : c'.options = c.options := congrArg (·.2.1) hbystanders
  have hflat : Event.calls es = [handle].flatMap (r₀.callsOf targets) := by
    rw [hcalls, List.flatMap_singleton, hcallsOf]
  cases hresult : stage.compute (targets stage.task stage.function.id) x with
  | error e =>
    -- there is no value, so that it does not count that the stage has been computed
    rw [hresult] at hvalue
    refine ⟨hvalue.symm,
      ⟨hagrees', hstages ▸ hremains, by rw [hstages], hoptions, [handle], hflat, ?_⟩,
      fun h _ => by rw [hstages], by rw [hvalue]; nofun⟩
    intro h v hv
    have hne : handle ≠ h := by
      rintro rfl
      rw [hvalue] at hv
      cases hv
    rw [List.count_singleton, hstages]
    simp [hne]
  | ok v =>
    rw [hresult] at hvalue
    rw [Post.after_ok, ensures_bind, ensures_modify, Post.after_ok, ensures_pure, hstages]
    have hget (h : StageHandle) := Remains.get?_memoize_eq (v := v) hstage h
    refine ⟨hvalue.symm, ⟨?_, hremains.memoize hstage hvalue hparent, layout_memoize _ _ _, hoptions,
      [handle], ?_, fun h v' hv' => ?_⟩, fun h hne => ?_, fun _ _ => ?_⟩
    · exact hagrees'.of_target (hagrees'.bare.congr rfl rfl rfl) rfl rfl
    · rw [← hflat]
      simp
    · -- this stage was due and is no longer, and the others are as they were
      rw [List.count_singleton, due, due, hget]
      by_cases heq : h = handle
      · subst heq
        simp [hstage, hdue]
      · simp [heq, Ne.symm heq]
    · rw [hget, if_neg hne]
    · rw [due, hget, if_pos rfl]
      rfl

/-- The chain of a stage has been computed, as far as it has values. -/
structure Computed (p : Program) (targets : StageTask → FunctionId → Target) (r₀ : StageRegistry)
    (c : Context) (handle : StageHandle) (r : Except OperatorError DataVector) (c' : Context)
    (es : List Event) : Prop where
  result : r = r₀.value targets handle
  progress : Progress p targets r₀ c c' es
  later : ∀ h, handle.index < h.index → c'.stages.get? h = c.stages.get? h
  settled : ∀ h v, ReflTransGen c.stages.Reads handle h → r₀.value targets h = .ok v →
    c'.stages.due h = false

/-- Where the chain of the parent gets computed, a stage finds its elements. -/
theorem stageElements_of_parent (hagrees : c.Agrees p r₀.Uses targets)
    (hremains : Remains targets r₀ c.stages) (hstage : c.stages.get? handle = some stage)
    (hparent : ∀ parent, c.stages.Reads handle parent →
      (materialize parent).Ensures c (Computed p targets r₀ c parent)) :
    (stageElements stage).Ensures c fun r c' es =>
      r = r₀.elements targets stage.input ∧ Progress p targets r₀ c c' es ∧
      (∀ h, handle.index ≤ h.index → c'.stages.get? h = c.stages.get? h) ∧
      ∀ parent h v, c.stages.Reads handle parent → ReflTransGen c.stages.Reads parent h →
        r₀.value targets h = .ok v → c'.stages.due h = false := by
  simp only [reads_iff_of_get? hstage] at hparent ⊢
  unfold stageElements
  cases hinput : stage.input with
  | source primary companions columns =>
    exact ⟨rfl, .refl hagrees hremains, fun _ _ => rfl, nofun⟩
  | parent parent companions =>
    have hreads : stage.input.parent? = some parent := by rw [hinput]; rfl
    have hlt : parent.index < handle.index :=
      hremains.whole.ordered.lt_of_reads ((reads_iff_of_get? hstage).2 hreads)
    refine (hparent parent hreads).mono ?_
    rintro r c' es ⟨rfl, hprogress, hlater, hsettled⟩
    refine ⟨rfl, hprogress, fun h hle => hlater h (by omega), ?_⟩
    rintro _ h v ⟨⟩ hchain hv
    exact hsettled h v hchain hv

/-- Computing the chain of a stage gives its value. -/
theorem materialize_of_remains
    (hknown : ∀ h s, r₀.get? h = some s → p.Knows s.function) (hordered : r₀.Ordered)
    (hagrees : c.Agrees p r₀.Uses targets) (hremains : Remains targets r₀ c.stages)
    (hregistered : c.stages.input? handle ≠ none) :
    (materialize handle).Ensures c (Computed p targets r₀ c handle) := by
  -- on the number of the stage: its parent has a smaller one
  induction hn : handle.index using Nat.strongRecOn generalizing handle with
  | ind n ih =>
    obtain ⟨input, hinput⟩ := Option.ne_none_iff_exists'.1 hregistered
    obtain ⟨stage, hstage, rfl⟩ := Option.map_eq_some_iff.1 hinput
    have hstage₀ := hremains.stages handle stage hstage
    have hf : p.Knows stage.function := hknown handle { stage with result := none } hstage₀
    have hvalue : r₀.value targets handle = r₀.elements targets stage.input >>=
        stage.compute (targets stage.task stage.function.id) := by
      rw [value_eq hordered hstage₀]
      rfl
    have hlt (parent : StageHandle) (h : c.stages.Reads handle parent) :
        parent.index < handle.index := hremains.whole.ordered.lt_of_reads h
    cases hresult : stage.result with
    | some v =>
      -- the result is known, and so are those along the chain
      have hdue : c.stages.due handle = false := by
        rw [due_of_get? hstage, hresult]
        rfl
      rw [ensures_materialize_of_result hstage hresult]
      exact ⟨(hremains.kept handle stage v hstage hresult).symm, .refl hagrees hremains,
        fun _ _ => rfl, fun h _ hchain _ => hremains.settled_chain hchain hdue⟩
    | none =>
      rw [ensures_materialize_of_due hstage hresult fun parent h =>
        hlt parent ((reads_iff_of_get? hstage).2 h), ensures_bind]
      refine (stageElements_of_parent hagrees hremains hstage fun parent h =>
        ih parent.index (hn ▸ hlt parent h) (hremains.whole.parents _ _ h) rfl).mono ?_
      rintro r c₁ es ⟨rfl, hprogress, hlater, hchain⟩
      cases hx : r₀.elements targets stage.input with
      | error e =>
        have herror : r₀.value targets handle = .error e := by
          rw [hvalue, hx]
          rfl
        refine ⟨herror.symm, hprogress, fun h hgt => hlater h (by omega), fun h v hh hv => ?_⟩
        rcases hh.cases_head with rfl | ⟨parent, hreads, hrest⟩
        · rw [herror] at hv
          cases hv
        · exact hchain parent h v hreads hrest hv
      | ok x =>
        rw [Post.after_ok]
        have hstage₁ : c₁.stages.get? handle = some stage :=
          (hlater handle (Nat.le_refl _)).trans hstage
        refine (finish_of_remains hf hprogress.agrees hprogress.remains hstage₁ hresult hx
          (by rw [hvalue, hx]; rfl) fun parent hreads => ?_).mono ?_
        · -- there are elements, so that the parent has a value
          rw [reads_of_layout hprogress.layout] at hreads
          refine hchain parent parent x hreads .refl ?_
          rw [← elements_of_parent? ((reads_iff_of_get? hstage).1 hreads), hx]
        · rintro r c₂ es' ⟨rfl, hprogress', hothers, hdue⟩
          refine ⟨rfl, hprogress.trans hprogress', fun h hgt => ?_, fun h v hh hv => ?_⟩
          · rw [hothers h (by rintro rfl; omega), hlater h (by omega)]
          · by_cases heq : h = handle
            · exact heq ▸ hdue v (heq ▸ hv)
            · rcases hh.cases_head with rfl | ⟨parent, hreads, hrest⟩
              · exact absurd rfl heq
              · rw [due, hothers h heq]
                exact hchain parent h v hreads hrest hv

/-- Executing a leaf gives its value, takes the leaf away and leaves the others. -/
theorem execute_of_remains (hknown : ∀ h s, r₀.get? h = some s → p.Knows s.function)
    (hordered : r₀.Ordered) (hagrees : c.Agrees p r₀.Uses targets)
    (hremains : Remains targets r₀ c.stages) (hleaf : handle ∈ c.stages.leaves) :
    (execute handle).Ensures c fun r c' es =>
      r = r₀.value targets handle ∧ c'.Agrees p r₀.Uses targets ∧ Remains targets r₀ c'.stages ∧
      (∀ h, h ∈ c'.stages.leaves ↔ h ∈ c.stages.leaves ∧ h ≠ handle) ∧
      Tally targets r₀ c.stages c'.stages (Event.calls es) := by
  rw [execute, ensures_thenAlways]
  refine (materialize_of_remains hknown hordered hagrees hremains (mem_leaves_iff.1 hleaf).1).mono ?_
  rintro r c₁ es ⟨rfl, hprogress, -, hchain⟩
  simp only [clearChain, ensures_bind, ensures_update, Post.after_ok, ensures_tell]
  have hleaf' : handle ∈ c₁.stages.leaves := (mem_leaves_of_layout hprogress.layout).2 hleaf
  refine ⟨trivial, ?_, hprogress.remains.clearChain hleaf', fun h => ?_, ?_⟩
  · exact hprogress.agrees.of_target (hprogress.agrees.bare.congr rfl rfl rfl) rfl rfl
  · rw [(hprogress.remains.whole.clearChain hleaf').2 h, mem_leaves_of_layout hprogress.layout]
  · -- what is dropped lies along the chain, and is not due any more if it has a value
    obtain ⟨computed, hcalls, hcount⟩ := hprogress.tally
    refine ⟨computed, ?_, fun h v hv => ?_⟩
    · -- clearing the chain is told, but is no call
      rw [← hcalls]
      simp [Event.calls, Event.call?]
    · rw [← hcount h v hv, due_clearChain fun hh => ?_]
      rw [reads_of_layout hprogress.layout] at hh
      exact hchain h v hh hv

end Operator

end TieredVectors
