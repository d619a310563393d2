import TieredVectors.Stage.Registry

/-!
# Stages and their parents

Which stages are registered, and which stage reads from which, is the outline of a registry; results
are not part of it. The module says what registering a stage and clearing a chain do to the outline:

* `StageRegistry.keeps_parents_clearChain` — clearing the chain of a stage takes no parent away from
  a stage that stays, unless that parent is the very stage whose chain is cleared;
* `StageRegistry.Change` — all that a call can do to the outline, with the stage that it executes;
* `StageRegistry.Ordered` — stages read from earlier stages only, and this is never lost.
-/

namespace TieredVectors.StageRegistry

variable {r r' : StageRegistry} {handle parent child : StageHandle}

/-- A memoized stage is as it was but for its result. -/
theorem get?_memoize {h : StageHandle} {result : DataVector} {stage : Stage}
    (hs : (r.memoize handle result).get? h = some stage) :
    ∃ stage', r.get? h = some stage' ∧ (stage = stage' ∨ stage = { stage' with result }) := by
  simp only [memoize, get?, Table.get?_modify] at hs
  split at hs
  · obtain ⟨stage', hs', rfl⟩ := Option.map_eq_some_iff.1 hs
    exact ⟨stage', hs', Or.inr rfl⟩
  · exact ⟨stage, hs, Or.inl rfl⟩

/-- What is left of the stages when one has been removed. -/
theorem get?_remove {h : StageHandle} {stage : Stage}
    (hs : (r.remove handle).get? h = some stage) : r.get? h = some stage := by
  simp only [remove, get?, Table.get?_erase] at hs
  split at hs
  · cases hs
  · exact hs

/-- What a registered stage reads. -/
def input? (r : StageRegistry) (handle : StageHandle) : Option StageInput :=
  (r.get? handle).map Stage.input

/-- The numbers given so far, and what each registered stage reads. -/
def outline (r : StageRegistry) : Nat × (StageHandle → Option StageInput) := (r.last, r.input?)

/-- A registered stage reads from another one, which need not be registered any more. -/
def Reads (r : StageRegistry) (handle parent : StageHandle) : Prop :=
  ∃ input, r.input? handle = some input ∧ input.parent? = some parent

instance : Decidable (r.Reads handle parent) :=
  decidable_of_iff ((r.input? handle).bind StageInput.parent? = some parent) Option.bind_eq_some_iff

/-- The elements that a stage with the input will read are there. -/
def Ready (r : StageRegistry) (x : DataVector) : StageInput → Prop
  | .source primary _ _ => primary = x
  | .parent handle _ => ∃ stage, r.get? handle = some stage ∧ stage.result = some x

@[simp]
theorem input?_eq_none_iff : r.input? handle = none ↔ r.get? handle = none := by simp [input?]

theorem last_eq_of_outline_eq (h : r'.outline = r.outline) : r'.last = r.last := congrArg Prod.fst h

theorem input?_eq_of_outline_eq (h : r'.outline = r.outline) : r'.input? = r.input? :=
  congrArg Prod.snd h

/-! ## Changes to the outline -/

@[simp]
theorem outline_memoize (r : StageRegistry) (handle : StageHandle) (result : DataVector) :
    (r.memoize handle result).outline = r.outline := by
  refine Prod.ext rfl (funext fun k => ?_)
  simp only [outline, memoize, input?, get?, Table.get?_modify]
  split <;> cases r.pending.get? k <;> rfl

theorem input?_remove_eq_some_iff {input : StageInput} :
    (r.remove handle).input? child = some input ↔ child ≠ handle ∧ r.input? child = some input := by
  simp only [input?, get?, remove, Table.get?_erase]
  by_cases h : child = handle <;> simp [h]

theorem get?_add (r : StageRegistry) (stage : Stage) (h : StageHandle) :
    (r.add stage).2.get? h = if h = ⟨r.last + 1⟩ then some stage else r.get? h :=
  Table.get?_insert ..

/-- A stage is registered under the number that it is given. -/
theorem get?_add_self (r : StageRegistry) (stage : Stage) :
    (r.add stage).2.get? (r.add stage).1 = some stage := by
  rw [get?_add]
  exact if_pos rfl

theorem input?_add (r : StageRegistry) (stage : Stage) (k : StageHandle) :
    (r.add stage).2.input? k = if k = ⟨r.last + 1⟩ then some stage.input else r.input? k := by
  simp only [input?, get?, add, Table.get?_insert]
  split <;> rfl

/-- A stage has a child if a registered stage reads from it. -/
theorem hasChild_iff : r.hasChild parent ↔ ∃ handle, r.Reads handle parent := by
  simp only [hasChild, List.any_eq_true, Table.mem_values_iff, beq_iff_eq, Reads, input?,
    Option.map_eq_some_iff, get?]
  constructor
  · rintro ⟨stage, ⟨handle, hstage⟩, hparent⟩
    exact ⟨handle, stage.input, ⟨stage, hstage, rfl⟩, hparent⟩
  · rintro ⟨handle, -, ⟨stage, hstage, rfl⟩, hparent⟩
    exact ⟨stage, ⟨handle, hstage⟩, hparent⟩

/-! ## Clearing a chain -/

theorem last_clearChain (r : StageRegistry) (handle : StageHandle) :
    (r.clearChain handle).2.last = r.last := by
  fun_induction clearChain r handle with
  | case4 r handle stage _ rest parent _ _ removed r' hrest ih =>
    rw [hrest] at ih
    exact ih
  | _ => rfl

/-- What is left of the stages when a chain has been cleared. -/
theorem get?_clearChain {h : StageHandle} {stage : Stage}
    (hs : (r.clearChain handle).2.get? h = some stage) : r.get? h = some stage := by
  fun_induction clearChain r handle with
  | case1 => exact hs
  | case2 => exact get?_remove hs
  | case3 => exact get?_remove hs
  | case4 r _ _ _ _ _ _ _ _ _ heq ih =>
    rw [heq] at ih
    exact get?_remove (ih hs)

theorem input?_of_clearChain {input : StageInput}
    (h : (r.clearChain handle).2.input? child = some input) : r.input? child = some input := by
  obtain ⟨stage, hstage, rfl⟩ := Option.map_eq_some_iff.1 h
  rw [input?, get?_clearChain hstage]
  rfl

theorem Reads.of_clearChain (h : (r.clearChain handle).2.Reads child parent) :
    r.Reads child parent := by
  obtain ⟨input, hinput, hparent⟩ := h
  exact ⟨input, input?_of_clearChain hinput, hparent⟩

/-- The stage whose chain is cleared is dropped. -/
theorem input?_clearChain_self (r : StageRegistry) (handle : StageHandle) :
    (r.clearChain handle).2.input? handle = none := by
  have hremove (r : StageRegistry) (input : StageInput) :
      (r.remove handle).input? handle ≠ some input := by simp [input?_remove_eq_some_iff]
  refine Option.eq_none_iff_forall_ne_some.2 fun input => ?_
  fun_induction clearChain r handle with
  | case1 r handle hnone => simp [input?, hnone]
  | case4 r handle stage _ rest parent _ _ removed r' hrest ih =>
    -- what is not in `rest` does not come back
    intro h
    have hcleared : (rest.clearChain parent).2.input? handle = some input := by rw [hrest]; exact h
    exact hremove r input (input?_of_clearChain hcleared)
  | _ => exact hremove _ input

/-- Of a stage that stays, clearing a chain takes the parent only if the chain is the parent's. -/
theorem keeps_parents_clearChain {input : StageInput}
    (hreads : (r.clearChain handle).2.Reads child parent) (hparent : r.input? parent = some input)
    (hne : parent ≠ handle) : (r.clearChain handle).2.input? parent = some input := by
  fun_induction clearChain r handle with
  | case1 => exact hparent
  | case4 r handle stage _ rest next _ hchild removed r' hrest ih =>
    rw [hrest] at ih
    have hrest' : rest.input? parent = some input := input?_remove_eq_some_iff.2 ⟨hne, hparent⟩
    refine ih hreads hrest' ?_
    -- the walk goes on to `next` only if no stage reads from it
    rintro rfl
    have hreads' : rest.Reads child parent := by
      rw [← show (rest.clearChain parent).2 = r' by rw [hrest]] at hreads
      exact hreads.of_clearChain
    exact hchild (hasChild_iff.2 ⟨child, hreads'⟩)
  | _ => exact input?_remove_eq_some_iff.2 ⟨hne, hparent⟩

/-! ## What a call can do -/

/-- Stages have numbers that have been given, and read from stages with smaller numbers. -/
def Ordered (r : StageRegistry) : Prop :=
  ∀ handle input, r.input? handle = some input →
    handle.index ≤ r.last ∧ ∀ parent, input.parent? = some parent → parent.index < handle.index

theorem Ordered.lt_of_reads {r : StageRegistry} {child parent : StageHandle} (h : r.Ordered)
    (hreads : r.Reads child parent) : parent.index < child.index := by
  obtain ⟨input, hinput, hparent⟩ := hreads
  exact (h child input hinput).2 parent hparent

/-- What a call can do to the outline of a registry. The index is the stage that it executes. -/
inductive Change (r r' : StageRegistry) : Option StageHandle → Prop where
  | keep (h : r'.outline = r.outline) : Change r r' none
  /-- A stage is registered, whose parent, if it has one, is there. -/
  | add (stage : Stage)
      (hparent : ∀ parent, stage.input.parent? = some parent → ∃ input, r.input? parent = some input)
      (h : r'.outline = (r.add stage).2.outline) : Change r r' none
  /-- The chain of a stage is computed and cleared. -/
  | clear (handle : StageHandle) (computed : StageRegistry) (h : computed.outline = r.outline)
      (h' : r'.outline = (computed.clearChain handle).2.outline) : Change r r' (some handle)

namespace Change

variable {executed? : Option StageHandle}

/-- Whatever keeps the outline may come before a change. -/
theorem of_outline_eq {r₀ : StageRegistry} (h : Change r r' executed?)
    (h₀ : r.outline = r₀.outline) : Change r₀ r' executed? := by
  cases h with
  | keep h => exact .keep (h.trans h₀)
  | add stage hparent h =>
    refine .add stage (input?_eq_of_outline_eq h₀ ▸ hparent) (h.trans ?_)
    refine Prod.ext (congrArg (· + 1) (last_eq_of_outline_eq h₀)) (funext fun k => ?_)
    dsimp only [outline]
    rw [input?_add, input?_add, last_eq_of_outline_eq h₀, input?_eq_of_outline_eq h₀]
  | clear handle computed h h' => exact .clear handle computed (h.trans h₀) h'

/-- Whatever keeps the outline may come after a change. -/
theorem trans_outline_eq {r'' : StageRegistry} (h : Change r r' executed?)
    (h' : r''.outline = r'.outline) : Change r r'' executed? := by
  cases h with
  | keep h => exact .keep (h'.trans h)
  | add stage hparent h => exact .add stage hparent (h'.trans h)
  | clear handle computed h₁ h => exact .clear handle computed h₁ (h'.trans h)

theorem last_le (h : Change r r' executed?) : r.last ≤ r'.last := by
  cases h with
  | keep h => exact Nat.le_of_eq (last_eq_of_outline_eq h).symm
  | add stage _ h =>
    rw [last_eq_of_outline_eq h]
    exact Nat.le_succ r.last
  | clear handle computed h h' =>
    rw [last_eq_of_outline_eq h', last_clearChain]
    exact Nat.le_of_eq (last_eq_of_outline_eq h).symm

theorem ordered (h : Change r r' executed?) (hr : r.Ordered) : r'.Ordered := by
  intro handle input hinput
  cases h with
  | keep h =>
    rw [input?_eq_of_outline_eq h] at hinput
    rw [last_eq_of_outline_eq h]
    exact hr handle input hinput
  | add stage hparent h =>
    rw [input?_eq_of_outline_eq h, input?_add] at hinput
    rw [last_eq_of_outline_eq h]
    change handle.index ≤ r.last + 1 ∧ _
    split at hinput
    next hnew =>
      obtain rfl := Option.some.inj hinput
      subst hnew
      refine ⟨Nat.le_refl _, fun parent hp => ?_⟩
      obtain ⟨input', hinput'⟩ := hparent parent hp
      exact Nat.lt_succ_of_le (hr parent input' hinput').1
    next =>
      obtain ⟨hle, hlt⟩ := hr handle input hinput
      exact ⟨Nat.le_succ_of_le hle, hlt⟩
  | clear handle' computed h h' =>
    rw [last_eq_of_outline_eq h', last_clearChain, last_eq_of_outline_eq h]
    rw [input?_eq_of_outline_eq h'] at hinput
    have hbefore := input?_of_clearChain hinput
    rw [input?_eq_of_outline_eq h] at hbefore
    exact hr handle input hbefore

/-- A stage that reads from a parent after a call either did so before, and then the parent is
missing if it was, or if it is what the call executed; or the stage is new, and the parent there. -/
theorem reads_cases (h : Change r r' executed?) (hr : r.Ordered) (hreads : r'.Reads child parent) :
    (r.Reads child parent ∧
      (r'.input? parent = none ↔ r.input? parent = none ∨ executed? = some parent)) ∨
    (r.last < child.index ∧ r'.input? parent ≠ none ∧ executed? = none) := by
  cases h with
  | keep h =>
    rw [Reads, input?_eq_of_outline_eq h] at hreads
    exact .inl ⟨hreads, by simp [input?_eq_of_outline_eq h]⟩
  | add stage hparent h =>
    obtain ⟨input, hinput, hp⟩ := hreads
    rw [input?_eq_of_outline_eq h, input?_add] at hinput
    rw [input?_eq_of_outline_eq h, input?_add]
    split at hinput
    next hnew =>
      obtain rfl := Option.some.inj hinput
      obtain ⟨input', hinput'⟩ := hparent parent hp
      refine .inr ⟨?_, ?_, rfl⟩
      · rw [hnew]
        exact Nat.lt_succ_self _
      · split <;> simp [*]
    next =>
      -- an old stage reads from an older one, not from the new one
      obtain ⟨hle, hlt⟩ := hr child input hinput
      have hold : parent ≠ ⟨r.last + 1⟩ := by
        rintro rfl
        have := hlt _ hp
        dsimp only at this
        omega
      exact .inl ⟨⟨input, hinput, hp⟩, by simp [hold]⟩
  | clear handle computed h h' =>
    rw [Reads, input?_eq_of_outline_eq h'] at hreads
    have hbefore : r.Reads child parent := by
      have := Reads.of_clearChain hreads
      rwa [Reads, input?_eq_of_outline_eq h] at this
    refine .inl ⟨hbefore, ?_⟩
    rw [← input?_eq_of_outline_eq h, input?_eq_of_outline_eq h', Option.some.injEq]
    by_cases hself : parent = handle
    · subst hself
      simp [input?_clearChain_self]
    · have hkept : (computed.clearChain handle).2.input? parent = none ↔
          computed.input? parent = none := by
        constructor
        · intro hnone
          refine Option.eq_none_iff_forall_ne_some.2 fun input hinput => ?_
          rw [keeps_parents_clearChain hreads hinput hself] at hnone
          exact absurd hnone (by simp)
        · intro hnone
          refine Option.eq_none_iff_forall_ne_some.2 fun input hinput => ?_
          rw [input?_of_clearChain hinput] at hnone
          exact absurd hnone (by simp)
      simp only [hkept, or_iff_left (Ne.symm hself)]

end Change

end TieredVectors.StageRegistry
