import Mathlib.Logic.Relation
import TieredVectors.Proofs.Stage.Parents

/-!
# Leaves

A leaf is a registered stage from which no other one reads. In a registry that lacks no stage it
still refers to, clearing the chain of a leaf takes that leaf away, and neither makes a new leaf nor
takes another one (`StageRegistry.Whole.clearChain`): the walk stops at the first ancestor that
still has a child, and an ancestor that has none left is dropped as well. Once there are no leaves
left, there are no stages left (`StageRegistry.Whole.eq_clear`).
-/

namespace TieredVectors

open Relation (ReflTransGen)

namespace Table

variable {κ α : Type} {t : Table κ α}

theorem values_filterValues (t : Table κ α) (q : α → Bool) :
    (t.filterValues q).values = t.values.filter q := by
  simp only [values, filterValues, List.filter_map]
  rfl

theorem eq_empty_of_entries (h : t.entries = []) : t = ∅ := by
  cases t
  cases h
  rfl

theorem eq_empty_of_values (h : t.values = []) : t = ∅ := eq_empty_of_entries (by simpa [values] using h)

/-- A table in which no key has a value is empty. -/
theorem eq_empty_of_get? [DecidableEq κ] (h : ∀ k, t.get? k = none) : t = ∅ := by
  refine eq_empty_of_entries (List.eq_nil_iff_forall_not_mem.2 fun e he => ?_)
  have := (lookup_eq_some_iff t.nodup).2 he
  rw [← get?, h] at this
  cases this

end Table

namespace StageRegistry

variable {r r' : StageRegistry} {handle child parent : StageHandle}

theorem reads_iff_of_get? {stage : Stage} (h : r.get? handle = some stage) :
    r.Reads handle parent ↔ stage.input.parent? = some parent := by
  simp [Reads, input?, h]

theorem reads_remove_iff :
    (r.remove handle).Reads child parent ↔ child ≠ handle ∧ r.Reads child parent := by
  simp only [Reads, input?_remove_eq_some_iff, and_assoc, exists_and_left]

/-- The stages from which no other one reads, oldest first. -/
def leaves (r : StageRegistry) : List StageHandle := r.pending.keys.filter fun h => !r.hasChild h

theorem mem_leaves_iff :
    handle ∈ r.leaves ↔ r.input? handle ≠ none ∧ ∀ child, ¬ r.Reads child handle := by
  have hregistered : handle ∈ r.pending.keys ↔ r.input? handle ≠ none := by
    rw [← Table.contains_iff, Table.contains, ne_eq, input?_eq_none_iff, get?,
      Option.isSome_iff_ne_none]
  rw [leaves, List.mem_filter, hregistered, Bool.not_eq_true', ← Bool.not_eq_true, hasChild_iff,
    not_exists]

/-- Dropping a stage makes no leaf of one from which it does not read. -/
theorem mem_leaves_remove_iff {h : StageHandle} (hnot : ¬ r.Reads handle h) :
    h ∈ (r.remove handle).leaves ↔ h ∈ r.leaves ∧ h ≠ handle := by
  have hregistered : (r.remove handle).input? h ≠ none ↔ r.input? h ≠ none ∧ h ≠ handle := by
    simp only [Option.ne_none_iff_exists', input?_remove_eq_some_iff, exists_and_left, and_comm]
  have hreads : (∀ child, ¬ (r.remove handle).Reads child h) ↔ ∀ child, ¬ r.Reads child h := by
    refine forall_congr' fun child => not_congr ?_
    rw [reads_remove_iff, and_iff_right_iff_imp]
    rintro hreads rfl
    exact hnot hreads
  rw [mem_leaves_iff, mem_leaves_iff, hregistered, hreads, and_right_comm]

theorem nodup_leaves (r : StageRegistry) : r.leaves.Nodup := r.pending.nodup.filter _

/-- The registry refers to a stage, other than as a parent. -/
def Mentions (r : StageRegistry) (handle : StageHandle) : Prop :=
  r.current = some handle ∨ handle ∈ r.byFunction.values

/-- Stages read from earlier ones, and whatever the registry refers to is registered. -/
structure Whole (r : StageRegistry) : Prop where
  ordered : r.Ordered
  parents : ∀ child parent, r.Reads child parent → r.input? parent ≠ none
  mentioned : ∀ handle, r.Mentions handle → r.input? handle ≠ none

/-- All but the outline and what is mentioned is left alone by results that are kept. -/
def layout (r : StageRegistry) :
    (Nat × (StageHandle → Option StageInput)) × Option StageHandle × Table FunctionId StageHandle :=
  (r.outline, r.current, r.byFunction)

theorem layout_memoize (r : StageRegistry) (handle : StageHandle) (result : DataVector) :
    (r.memoize handle result).layout = r.layout := by
  rw [layout, outline_memoize]
  rfl

theorem outline_of_layout (h : r'.layout = r.layout) : r'.outline = r.outline :=
  congrArg Prod.fst h

theorem reads_of_layout (h : r'.layout = r.layout) : r'.Reads = r.Reads := by
  unfold Reads
  rw [input?_eq_of_outline_eq (outline_of_layout h)]

theorem mem_leaves_of_layout (h : r'.layout = r.layout) : handle ∈ r'.leaves ↔ handle ∈ r.leaves := by
  rw [mem_leaves_iff, mem_leaves_iff, reads_of_layout h,
    input?_eq_of_outline_eq (outline_of_layout h)]

theorem Whole.of_layout (hr : r.Whole) (h : r'.layout = r.layout) : r'.Whole := by
  have hinput := input?_eq_of_outline_eq (outline_of_layout h)
  have hlast := last_eq_of_outline_eq (outline_of_layout h)
  have hmentions : r'.Mentions = r.Mentions := by
    unfold Mentions
    rw [show r'.current = r.current from congrArg (·.2.1) h,
      show r'.byFunction = r.byFunction from congrArg (·.2.2) h]
  refine ⟨?_, ?_, ?_⟩
  · rw [Ordered, hinput, hlast]
    exact hr.ordered
  · rw [reads_of_layout h, hinput]
    exact hr.parents
  · rw [hmentions, hinput]
    exact hr.mentioned

namespace Whole

/-- Nothing is registered. -/
theorem clear (r : StageRegistry) : r.clear.Whole := by
  have hnone (handle : StageHandle) : r.clear.input? handle = none := rfl
  refine ⟨fun handle input h => ?_, ?_, ?_⟩
  · rw [hnone] at h
    cases h
  · rintro child parent ⟨input, hinput, -⟩
    rw [hnone] at hinput
    cases hinput
  · rintro handle (h | h)
    · cases h
    · cases h

/-- A stage is registered whose parent, if it has one, is registered. -/
theorem add (hr : r.Whole) {stage : Stage}
    (hparent : ∀ parent, stage.input.parent? = some parent → r.input? parent ≠ none) :
    (r.add stage).2.Whole := by
  have hkept {h : StageHandle} (hh : r.input? h ≠ none) : (r.add stage).2.input? h ≠ none := by
    rw [input?_add]
    split
    · simp
    · exact hh
  refine ⟨?_, ?_, ?_⟩
  · refine Change.ordered (.add stage (fun parent hp => ?_) rfl) hr.ordered
    exact Option.ne_none_iff_exists'.1 (hparent parent hp)
  · rintro child parent ⟨input, hinput, hp⟩
    rw [input?_add] at hinput
    split at hinput
    · obtain rfl := Option.some.inj hinput
      exact hkept (hparent parent hp)
    · exact hkept (hr.parents child parent ⟨input, hinput, hp⟩)
  · -- what is mentioned is the new stage, or was mentioned before
    have hnew : (r.add stage).2.input? ⟨r.last + 1⟩ ≠ none := by simp [input?_add]
    rintro handle (hcurrent | hfunction)
    · obtain rfl : ⟨r.last + 1⟩ = handle := Option.some.inj hcurrent
      exact hnew
    · obtain ⟨f, hf⟩ := Table.mem_values_iff.1 hfunction
      simp only [StageRegistry.add, Table.get?_insert] at hf
      split at hf
      · obtain rfl := Option.some.inj hf
        exact hnew
      · exact hkept (hr.mentioned handle (.inr (Table.mem_values_iff.2 ⟨f, hf⟩)))

/-- A leaf may be dropped, together with what mentions it. -/
theorem remove (hr : r.Whole) (hleaf : handle ∈ r.leaves) : (r.remove handle).Whole := by
  obtain ⟨-, hchildless⟩ := mem_leaves_iff.1 hleaf
  have hkept {h : StageHandle} (hh : r.input? h ≠ none) (hne : h ≠ handle) :
      (r.remove handle).input? h ≠ none := by
    obtain ⟨input, hinput⟩ := Option.ne_none_iff_exists'.1 hh
    rw [input?_remove_eq_some_iff.2 ⟨hne, hinput⟩]
    simp
  refine ⟨?_, ?_, ?_⟩
  · intro h input hinput
    exact hr.ordered h input (input?_remove_eq_some_iff.1 hinput).2
  · rintro child parent ⟨input, hinput, hp⟩
    have hreads : r.Reads child parent := ⟨input, (input?_remove_eq_some_iff.1 hinput).2, hp⟩
    -- a leaf is the parent of no stage, so that no parent goes with it
    refine hkept (hr.parents child parent hreads) ?_
    rintro rfl
    exact hchildless child hreads
  · rintro h (hcurrent | hfunction)
    · simp only [StageRegistry.remove] at hcurrent
      split at hcurrent
      · cases hcurrent
      next hne =>
        refine hkept (hr.mentioned h (.inl hcurrent)) ?_
        rintro rfl
        exact hne hcurrent
    · simp only [StageRegistry.remove, Table.values_filterValues, List.mem_filter, bne_iff_ne]
        at hfunction
      exact hkept (hr.mentioned h (.inr hfunction.1)) hfunction.2

/-- Clearing the chain of a leaf takes that leaf away, and leaves the others. -/
theorem clearChain (hr : r.Whole) (hleaf : handle ∈ r.leaves) :
    (r.clearChain handle).2.Whole ∧
      ∀ h, h ∈ (r.clearChain handle).2.leaves ↔ h ∈ r.leaves ∧ h ≠ handle := by
  fun_induction StageRegistry.clearChain r handle with
  | case1 r handle hnone => exact absurd (input?_eq_none_iff.2 hnone) (mem_leaves_iff.1 hleaf).1
  | case2 r handle stage hstage rest hroot =>
    refine ⟨hr.remove hleaf, fun h => mem_leaves_remove_iff fun hreads => ?_⟩
    rw [reads_iff_of_get? hstage, hroot] at hreads
    cases hreads
  | case3 r handle stage hstage rest parent hparent hchild =>
    refine ⟨hr.remove hleaf, fun h => ?_⟩
    by_cases hp : h = parent
    · -- the parent was no leaf and, having another child, is none now
      subst hp
      obtain ⟨child, hreads⟩ := hasChild_iff.1 hchild
      refine iff_of_false (fun h => (mem_leaves_iff.1 h).2 child hreads) fun h => ?_
      exact (mem_leaves_iff.1 h.1).2 handle ((reads_iff_of_get? hstage).2 hparent)
    · refine mem_leaves_remove_iff fun hreads => hp ?_
      rw [reads_iff_of_get? hstage, hparent] at hreads
      exact (Option.some.inj hreads).symm
  | case4 r handle stage hstage rest parent hparent hchild removed r' hrest ih =>
    have hreads : r.Reads handle parent := (reads_iff_of_get? hstage).2 hparent
    have hne : parent ≠ handle := by
      rintro rfl
      exact (mem_leaves_iff.1 hleaf).2 parent hreads
    -- the parent has become a leaf, and goes as well
    have hleaf' : parent ∈ rest.leaves := by
      refine mem_leaves_iff.2 ⟨?_, fun child h => hchild (hasChild_iff.2 ⟨child, h⟩)⟩
      obtain ⟨input, hinput⟩ := Option.ne_none_iff_exists'.1 (hr.parents handle parent hreads)
      rw [input?_remove_eq_some_iff.2 ⟨hne, hinput⟩]
      simp
    obtain ⟨hwhole, hleaves⟩ := ih (hr.remove hleaf) hleaf'
    rw [hrest] at hwhole hleaves
    refine ⟨hwhole, fun h => (hleaves h).trans ?_⟩
    by_cases hp : h = parent
    · subst hp
      exact iff_of_false (fun h => h.2 rfl) fun h => (mem_leaves_iff.1 h.1).2 handle hreads
    · rw [and_iff_left hp]
      refine mem_leaves_remove_iff fun hreads' => hp ?_
      rw [reads_iff_of_get? hstage, hparent] at hreads'
      exact (Option.some.inj hreads').symm

/-- Where there is no leaf, there is no stage: a stage has a reader with a greater number, and that
one has too. -/
theorem eq_clear (hr : r.Whole) (hnone : r.leaves = []) : r = r.clear := by
  have hinput (handle : StageHandle) : r.input? handle = none := by
    refine Classical.byContradiction fun hregistered => ?_
    -- numbers are given out in order, so that readers come closer and closer to the last one
    induction hn : r.last - handle.index using Nat.strongRecOn generalizing handle with
    | ind n ih =>
      have hnot : handle ∉ r.leaves := by simp [hnone]
      rw [mem_leaves_iff] at hnot
      obtain ⟨child, hreads⟩ : ∃ child, r.Reads child handle := by
        simpa [hregistered] using hnot
      obtain ⟨input, hinput, hparent⟩ := hreads
      obtain ⟨hle, hlt⟩ := hr.ordered child input hinput
      have := hlt handle hparent
      exact ih (r.last - child.index) (by omega) child (by simp [hinput]) rfl
  have hmentions (handle : StageHandle) : ¬ r.Mentions handle := fun h =>
    hr.mentioned handle h (hinput handle)
  have hpending : r.pending = ∅ :=
    Table.eq_empty_of_get? fun handle => input?_eq_none_iff.1 (hinput handle)
  have hfunctions : r.byFunction = ∅ :=
    Table.eq_empty_of_values (List.eq_nil_iff_forall_not_mem.2 fun h hh => hmentions h (.inr hh))
  have hcurrent : r.current = none :=
    Option.eq_none_iff_forall_ne_some.2 fun h hh => hmentions h (.inl hh)
  cases r
  simp_all [StageRegistry.clear]

end Whole

/-- What is dropped with a stage is the stage and what it reads from, one after another. -/
theorem clearChain_cases {stage : Stage} (hstage : r.get? child = some stage) :
    (r.clearChain handle).2.get? child = some stage ∨ ReflTransGen r.Reads handle child := by
  -- at each step of the walk only the stage that has been reached is dropped
  have hremove (r : StageRegistry) (handle : StageHandle) (hstage : r.get? child = some stage) :
      (r.remove handle).get? child = some stage ∨ handle = child := by
    by_cases hc : child = handle
    · exact .inr hc.symm
    · refine .inl ((Table.get?_erase ..).trans ?_)
      rw [if_neg hc]
      exact hstage
  fun_induction clearChain r handle with
  | case1 => exact .inl hstage
  | case2 r handle | case3 r handle =>
    rcases hremove r handle hstage with h | rfl
    · exact .inl h
    · exact .inr .refl
  | case4 r handle stage' hstage' rest parent hparent hchild removed r' hrest ih =>
    rcases hremove r handle hstage with hstage | rfl
    · rcases ih hstage with h | h
      · rw [hrest] at h
        exact .inl h
      · refine .inr (.head ((reads_iff_of_get? hstage').2 hparent) ?_)
        exact ReflTransGen.mono (fun _ _ hreads => (reads_remove_iff.1 hreads).2) _ _ h
    · exact .inr .refl

end StageRegistry

end TieredVectors
