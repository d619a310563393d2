import TieredVectors.Proofs.Columns.Dense
import TieredVectors.Proofs.Tables
import TieredVectors.Stage.Registry

/-!
# Stages with sequences written out

A registered stage keeps the vectors that it was given in the form in which it was given them. That
form makes no difference to what a registry does: registering a stage, keeping a result and clearing
a chain go together with writing out the sequences of all stages.
-/

namespace TieredVectors

namespace StageInput

/-- The input with its sequences written out. -/
def dense : StageInput → StageInput
  | .source primary companions columns =>
    .source primary.dense (companions.map DataVector.dense) (columns.map ColumnArray.dense)
  | .parent stage companions => .parent stage (companions.map DataVector.dense)

@[simp]
theorem parent?_dense (input : StageInput) : input.dense.parent? = input.parent? := by
  cases input <;> rfl

theorem companions_dense (input : StageInput) :
    input.dense.companions = input.companions.map DataVector.dense := by
  cases input <;> rfl

theorem columns?_dense (input : StageInput) :
    input.dense.columns? = input.columns?.map ColumnArray.dense := by
  cases input <;> rfl

/-- Inputs with the same elements are both vectors, or both the result of one stage. -/
theorem cases_of_dense_eq {input input' : StageInput} (h : input.dense = input'.dense) :
    (∃ v cs columns v' cs' columns', input = .source v cs columns ∧
      input' = .source v' cs' columns' ∧ v.dense = v'.dense) ∨
      ∃ parent cs cs', input = .parent parent cs ∧ input' = .parent parent cs' := by
  cases input with
  | source v cs columns =>
    cases input' with
    | source v' cs' columns' =>
      exact .inl ⟨v, cs, columns, v', cs', columns', rfl, rfl, (source.inj h).1⟩
    | parent handle cs' => cases h
  | parent handle cs =>
    cases input' with
    | source v' cs' columns' => cases h
    | parent handle' cs' =>
      obtain rfl : handle = handle' := (parent.inj h).1
      exact .inr ⟨handle, cs, cs', rfl, rfl⟩

end StageInput

/-- The stage with the sequences of its input written out. -/
def Stage.dense (stage : Stage) : Stage := { stage with input := stage.input.dense }

theorem Stage.dense_eq_dense_iff {stage stage' : Stage} :
    stage.dense = stage'.dense ↔
      stage' = { stage with input := stage'.input } ∧ stage.input.dense = stage'.input.dense := by
  obtain ⟨task, function, input, sample, output, result⟩ := stage
  obtain ⟨task', function', input', sample', output', result'⟩ := stage'
  simp only [dense, mk.injEq]
  constructor
  · rintro ⟨rfl, rfl, h, rfl, rfl, rfl⟩
    exact ⟨⟨rfl, rfl, trivial, rfl, rfl, rfl⟩, h⟩
  · rintro ⟨⟨rfl, rfl, -, rfl, rfl, rfl⟩, h⟩
    exact ⟨rfl, rfl, h, rfl, rfl, rfl⟩

namespace StageRegistry

variable {r r' : StageRegistry}

/-- The registry with the sequences of all inputs written out. -/
def dense (r : StageRegistry) : StageRegistry :=
  { r with pending := r.pending.mapValues Stage.dense }

theorem get?_dense (r : StageRegistry) (handle : StageHandle) :
    r.dense.get? handle = (r.get? handle).map Stage.dense :=
  Table.get?_mapValues _ _ _

/-- A stage is registered in both registries or in neither. -/
theorem get?_cases (h : r.dense = r'.dense) (handle : StageHandle) :
    r.get? handle = none ∧ r'.get? handle = none ∨
      ∃ stage stage', r.get? handle = some stage ∧ r'.get? handle = some stage' ∧
        stage.dense = stage'.dense := by
  have hget : (r.get? handle).map Stage.dense = (r'.get? handle).map Stage.dense := by
    rw [← get?_dense, ← get?_dense, h]
  cases hstage : r.get? handle with
  | none =>
    rw [hstage] at hget
    exact .inl ⟨rfl, by simpa using hget.symm⟩
  | some stage =>
    rw [hstage] at hget
    obtain ⟨stage', hstage', hdense⟩ := Option.map_eq_some_iff.1 hget.symm
    exact .inr ⟨stage, stage', rfl, hstage', hdense.symm⟩

theorem add_dense (r : StageRegistry) (stage : Stage) :
    r.dense.add stage.dense = ((r.add stage).1, (r.add stage).2.dense) := by
  simp only [add, dense, Table.mapValues_insert]
  rfl

theorem memoize_dense (r : StageRegistry) (handle : StageHandle) (result : DataVector) :
    r.dense.memoize handle result = (r.memoize handle result).dense := by
  have hpending : (r.pending.modify handle fun s => { s with result := some result }).mapValues
      Stage.dense = (r.pending.mapValues Stage.dense).modify handle
        fun s => { s with result := some result } := by
    apply Table.mapValues_modify
    intro stage
    rfl
  simp only [memoize, dense, hpending]

theorem remove_dense (r : StageRegistry) (handle : StageHandle) :
    r.dense.remove handle = (r.remove handle).dense := by
  simp only [remove, dense, Table.mapValues_erase]
  rfl

theorem hasChild_dense (r : StageRegistry) (parent : StageHandle) :
    r.dense.hasChild parent = r.hasChild parent := by
  simp only [hasChild, dense, Table.values_mapValues, List.any_map, Function.comp_def, Stage.dense,
    StageInput.parent?_dense]

/-- How the chain of a registered stage is cleared. -/
theorem clearChain_of_get? {handle : StageHandle} {stage : Stage}
    (h : r.get? handle = some stage) :
    r.clearChain handle = stage.input.parent?.elim (1, r.remove handle) fun parent =>
      if (r.remove handle).hasChild parent then (1, r.remove handle)
      else (((r.remove handle).clearChain parent).1 + 1,
        ((r.remove handle).clearChain parent).2) := by
  rw [clearChain]
  split
  next heq => cases h.symm.trans heq
  next stage' heq =>
    obtain rfl : stage = stage' := Option.some.inj (h.symm.trans heq)
    cases stage.input.parent? <;> rfl

/-- Which chain is cleared is a matter of the parents alone. -/
theorem clearChain_dense (r : StageRegistry) (handle : StageHandle) :
    r.dense.clearChain handle = ((r.clearChain handle).1, (r.clearChain handle).2.dense) := by
  have hsome {r : StageRegistry} {handle : StageHandle} {stage : Stage}
      (h : r.get? handle = some stage) : r.dense.get? handle = some stage.dense := by
    rw [get?_dense, h, Option.map_some]
  have hparent? (stage : Stage) : stage.dense.input.parent? = stage.input.parent? :=
    stage.input.parent?_dense
  -- on the chain: a stage that is dropped has the same parent in both registries
  fun_induction clearChain r handle with
  | case1 r handle hstage =>
    have hnone : r.dense.get? handle = none := by rw [get?_dense, hstage, Option.map_none]
    rw [clearChain]
    split
    next => rfl
    next heq => cases hnone.symm.trans heq
  | case2 r handle stage hstage rest hparent =>
    rw [clearChain_of_get? (hsome hstage), hparent?, hparent, remove_dense]
    rfl
  | case3 r handle stage hstage rest parent hparent hchild =>
    rw [clearChain_of_get? (hsome hstage), hparent?, hparent, remove_dense, Option.elim_some,
      hasChild_dense, if_pos hchild]
  | case4 r handle stage hstage rest parent hparent hchild removed r' heq ih =>
    rw [clearChain_of_get? (hsome hstage), hparent?, hparent, remove_dense, Option.elim_some,
      hasChild_dense, if_neg hchild, ih, heq]

end StageRegistry

end TieredVectors
