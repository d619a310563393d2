import TieredVectors.Proofs.Stage.Clearing
import TieredVectors.Proofs.Stage.Dense

/-!
# The stage registered last for a function

A registry has an index by function, with one stage for each function: the one registered for it
last. Several stages may be registered for one function and cleared in any order, and a chain that
is cleared takes its stages out of the index, with no other stage of the function put in their
place.

* `StageRegistry.Indexed` — how the stages, the index and the current stage go together with all
  that has been registered, which every request preserves (`StageRegistry.Indexed.perform`);
* `StageRegistry.latest_unless_cleared` — a stage is found by its function as long as no later stage
  of the function has been cleared, after any requests to a new registry.
-/

namespace TieredVectors.StageRegistry

variable {r : StageRegistry} {handle h : StageHandle} {stage : Stage} {f : FunctionId}
  {past : List (StageHandle × Stage)}

/-! ## Requests -/

/-- What can be asked of a registry. A stage may be registered with any parent. -/
inductive Request where
  | add (stage : Stage)
  /-- Register a stage whose result is known. -/
  | addComputed (stage : Stage) (result : DataVector)
  | clearChain (handle : StageHandle)
  | clear

namespace Request

/-- The stage that a request registers, if it registers one. -/
def stage? : Request → Option Stage
  | add stage => some stage
  | addComputed stage result => some { stage with result }
  | clearChain _ | clear => none

/-- The registry after a request. -/
def perform (r : StageRegistry) : Request → StageRegistry
  | add stage => (r.add stage).2
  | addComputed stage result => (r.add { stage with result }).2
  | clearChain handle => (r.clearChain handle).2
  | clear => r.clear

/-- The handle that a request gives out, with the stage that it is for. -/
def issued? (r : StageRegistry) (request : Request) : Option (StageHandle × Stage) :=
  request.stage?.map fun stage => ((r.add stage).1, stage)

end Request

/-- The registry after requests, oldest first. -/
def after (r : StageRegistry) (requests : List Request) : StageRegistry :=
  requests.foldl Request.perform r

/-- The handles that requests give out with the stages that they are for, oldest first. -/
def issued (r : StageRegistry) : List Request → List (StageHandle × Stage)
  | [] => []
  | request :: later => (request.issued? r).toList ++ (request.perform r).issued later

/-! ## What goes together -/

/-- A registered stage of the given function. -/
def StageOf (r : StageRegistry) (f : FunctionId) (h : StageHandle) (stage : Stage) : Prop :=
  r.get? h = some stage ∧ stage.function.id = f

/-- No stage with a greater handle has been registered for the function. -/
def Latest (past : List (StageHandle × Stage)) (f : FunctionId) (h : StageHandle) : Prop :=
  ∀ p ∈ past, p.2.function.id = f → p.1.index ≤ h.index

theorem latest_append {p : StageHandle × Stage} :
    Latest (past ++ [p]) f h ↔
      Latest past f h ∧ (p.2.function.id = f → p.1.index ≤ h.index) := by
  simp only [Latest, List.forall_mem_append, List.forall_mem_singleton]

/-- How a registry goes together with the stages that have been registered, oldest first: handles go
up, registered stages are as they were given, the index has for a function the stage that is the
latest for it, if that is there, and so is the current stage. -/
structure Indexed (past : List (StageHandle × Stage)) (r : StageRegistry) : Prop where
  ordered : past.Pairwise fun p p' => p.1.index < p'.1.index
  given : ∀ p ∈ past, p.1.index ≤ r.last
  stages : ∀ h stage, r.get? h = some stage → (h, stage) ∈ past
  index : ∀ f h, r.byFunction.get? f = some h ↔ (∃ stage, r.StageOf f h stage) ∧ Latest past f h
  current : ∀ h, r.current = some h → ∃ stage, r.get? h = some stage

namespace Indexed

/-- Nothing is registered, whatever has been. -/
theorem ofClear (hordered : past.Pairwise fun p p' => p.1.index < p'.1.index)
    (hgiven : ∀ p ∈ past, p.1.index ≤ r.last) : Indexed past r.clear := by
  have hnone (h : StageHandle) (stage : Stage) : r.clear.get? h ≠ some stage := fun hs => by
    cases hs
  refine ⟨hordered, hgiven, fun h stage hs => absurd hs (hnone h stage), fun f h => ?_,
    fun h hh => ?_⟩
  · refine iff_of_false (fun hf => by cases hf) ?_
    rintro ⟨⟨stage, hs, -⟩, -⟩
    exact hnone h stage hs
  · cases hh

theorem new : Indexed [] {} := ofClear (r := {}) .nil (List.forall_mem_nil _)

/-- Dropping a stage takes it, and nothing else, out of the index. -/
theorem remove (hr : Indexed past r) (handle : StageHandle) : Indexed past (r.remove handle) := by
  have hkept {k : StageHandle} (hne : k ≠ handle) : (r.remove handle).get? k = r.get? k := by
    rw [get?_remove_eq, if_neg hne]
  refine ⟨hr.ordered, hr.given, fun k stage hs => hr.stages k stage (get?_remove hs), fun f k => ?_,
    fun k hk => ?_⟩
  · -- no other stage takes the place of the one that is dropped: it is not the latest
    rw [byFunction_remove, Option.filter_eq_some_iff, hr.index, decide_eq_true_eq]
    constructor
    · rintro ⟨⟨⟨stage, hs, hf⟩, hlatest⟩, hne⟩
      exact ⟨⟨stage, (hkept hne).trans hs, hf⟩, hlatest⟩
    · rintro ⟨⟨stage, hs, hf⟩, hlatest⟩
      refine ⟨⟨⟨stage, get?_remove hs, hf⟩, hlatest⟩, ?_⟩
      rintro rfl
      rw [get?_remove_eq, if_pos rfl] at hs
      cases hs
  · rw [current_remove, Option.filter_eq_some_iff, decide_eq_true_eq] at hk
    rw [hkept hk.2]
    exact hr.current k hk.1

theorem removeAll (hr : Indexed past r) (handles : List StageHandle) :
    Indexed past (r.removeAll handles) := by
  induction handles generalizing r with
  | nil => exact hr
  | cons handle handles ih => exact ih (hr.remove handle)

theorem clearChain (hr : Indexed past r) (handle : StageHandle) :
    Indexed past (r.clearChain handle).2 := by
  obtain ⟨chain, -, -, -, -, heq⟩ := r.exists_clearChain_eq handle
  rw [heq]
  exact hr.removeAll chain

theorem index_le_last (hr : Indexed past r) (hs : r.get? h = some stage) : h.index ≤ r.last :=
  hr.given _ (hr.stages h stage hs)

/-- A new stage is the latest of its function, and the others stay the latest of theirs. -/
theorem byFunction_add (hr : Indexed past r) (stage : Stage) (f : FunctionId) (k : StageHandle) :
    (r.add stage).2.byFunction.get? f = some k ↔
      (∃ s, (r.add stage).2.StageOf f k s) ∧ Latest (past ++ [((r.add stage).1, stage)]) f k := by
  have hindex : (r.add stage).2.byFunction.get? f =
      if f = stage.function.id then some ⟨r.last + 1⟩ else r.byFunction.get? f :=
    Table.get?_insert ..
  rw [hindex, latest_append]
  by_cases hk : k = ⟨r.last + 1⟩
  · -- the new stage is the only one with its handle
    have hnew (s : Stage) : (r.add stage).2.StageOf f k s ↔ stage = s ∧ s.function.id = f := by
      rw [StageOf, get?_add, if_pos hk, Option.some.injEq]
    have hlatest : Latest past f k := fun p hp _ => by
      rw [hk]
      exact Nat.le_succ_of_le (hr.given p hp)
    have hunknown : r.byFunction.get? f ≠ some k := fun hf => by
      obtain ⟨⟨s, hs, -⟩, -⟩ := (hr.index f k).1 hf
      exact absurd (hk ▸ hr.index_le_last hs) (Nat.not_succ_le_self _)
    simp only [hnew, exists_eq_left', hlatest, true_and]
    by_cases hf : f = stage.function.id
    · rw [if_pos hf]
      exact iff_of_true (congrArg some hk.symm) ⟨hf.symm, fun _ => Nat.le_of_eq (by rw [hk]; rfl)⟩
    · rw [if_neg hf]
      exact iff_of_false hunknown fun h => hf h.1.symm
  · have hold (s : Stage) : (r.add stage).2.StageOf f k s ↔ r.StageOf f k s := by
      rw [StageOf, get?_add, if_neg hk, StageOf]
    simp only [hold]
    by_cases hf : f = stage.function.id
    · -- an earlier stage is not the latest any more
      rw [if_pos hf]
      refine iff_of_false (fun h => hk (Option.some.inj h).symm) ?_
      rintro ⟨⟨s, hs, -⟩, -, hlatest⟩
      exact absurd (Nat.le_trans (hlatest hf.symm) (hr.index_le_last hs)) (Nat.not_succ_le_self _)
    · rw [if_neg hf, hr.index, and_iff_left fun h => absurd h.symm hf]

/-- A new stage has the greatest handle. -/
theorem add (hr : Indexed past r) (stage : Stage) :
    Indexed (past ++ [((r.add stage).1, stage)]) (r.add stage).2 := by
  refine ⟨?_, ?_, fun k s hs => ?_, hr.byFunction_add stage, fun k hk => ?_⟩
  · rw [List.pairwise_append]
    refine ⟨hr.ordered, List.pairwise_singleton _ _, fun p hp q hq => ?_⟩
    obtain rfl := List.mem_singleton.1 hq
    exact Nat.lt_succ_of_le (hr.given p hp)
  · rw [List.forall_mem_append, List.forall_mem_singleton]
    exact ⟨fun p hp => Nat.le_succ_of_le (hr.given p hp), Nat.le_refl _⟩
  · rw [get?_add] at hs
    split at hs
    next hk =>
      obtain rfl := Option.some.inj hs
      rw [hk]
      exact List.mem_append_right _ (List.mem_singleton.2 rfl)
    next => exact List.mem_append_left _ (hr.stages k s hs)
  · obtain rfl := Option.some.inj hk
    exact ⟨stage, get?_add_self r stage⟩

/-- What a request does goes together with what it gives out. -/
theorem perform (hr : Indexed past r) (request : Request) :
    Indexed (past ++ (request.issued? r).toList) (request.perform r) := by
  cases request with
  | add stage => exact hr.add stage
  | addComputed stage result => exact hr.add { stage with result }
  | clearChain handle => exact (List.append_nil past).symm ▸ hr.clearChain handle
  | clear => exact (List.append_nil past).symm ▸ ofClear hr.ordered hr.given

theorem after (hr : Indexed past r) (requests : List Request) :
    Indexed (past ++ r.issued requests) (r.after requests) := by
  induction requests generalizing r past with
  | nil => exact (List.append_nil past).symm ▸ hr
  | cons request later ih =>
    rw [StageRegistry.issued, ← List.append_assoc]
    exact ih (hr.perform request)

/-! ## Looking a function up -/

/-- What is found for a function is its latest stage. -/
theorem latestFor?_eq_some_iff (hr : Indexed past r) :
    r.latestFor? f = some (h, stage) ↔ r.StageOf f h stage ∧ Latest past f h := by
  have hfound : r.latestFor? f = some (h, stage) ↔
      r.byFunction.get? f = some h ∧ r.get? h = some stage := by
    simp [latestFor?, Option.bind_eq_some_iff]
  rw [hfound, hr.index]
  constructor
  · rintro ⟨⟨⟨s, hs, hf⟩, hlatest⟩, hstage⟩
    obtain rfl := Option.some.inj (hs.symm.trans hstage)
    exact ⟨⟨hs, hf⟩, hlatest⟩
  · rintro ⟨hs, hlatest⟩
    exact ⟨⟨⟨stage, hs⟩, hlatest⟩, hs.1⟩

/-- Of the stages registered for a function one is the latest. -/
theorem exists_latest (hr : Indexed past r) (hs : (h, stage) ∈ past)
    (hf : stage.function.id = f) :
    ∃ p ∈ past, p.2.function.id = f ∧ Latest past f p.1 := by
  have hmem : (h, stage) ∈ past.filter (·.2.function.id = f) :=
    List.mem_filter.2 ⟨hs, decide_eq_true hf⟩
  obtain hnil | ⟨front, p, hsplit⟩ := List.eq_nil_or_concat (past.filter (·.2.function.id = f))
  · rw [hnil] at hmem
    cases hmem
  · rw [List.concat_eq_append] at hsplit
    have hp : p ∈ past.filter (·.2.function.id = f) := by simp [hsplit]
    obtain ⟨hp, hpf⟩ := List.mem_filter.1 hp
    refine ⟨p, hp, of_decide_eq_true hpf, fun q hq hqf => ?_⟩
    -- handles go up, so that the last stage of the function has the greatest
    have hordered := hr.ordered.filter (·.2.function.id = f)
    rw [hsplit, List.pairwise_append] at hordered
    have hq : q ∈ front ++ [p] := hsplit ▸ List.mem_filter.2 ⟨hq, decide_eq_true hqf⟩
    rcases List.mem_append.1 hq with hq | hq
    · exact Nat.le_of_lt (hordered.2.2 q hq p (List.mem_singleton.2 rfl))
    · exact Nat.le_of_eq (by rw [List.mem_singleton.1 hq])

/-- Under one handle only one stage has been registered. -/
theorem eq_of_issued {stage' : Stage} (hr : Indexed past r) (hs : (h, stage) ∈ past)
    (hs' : (h, stage') ∈ past) : stage = stage' := by
  have hnodup : (past.map Prod.fst).Nodup := by
    refine List.pairwise_map.2 (hr.ordered.imp fun {p p'} hlt heq => ?_)
    rw [heq] at hlt
    exact Nat.lt_irrefl _ hlt
  have hlookup := (Table.lookup_eq_some_iff hnodup).2 hs
  exact Option.some.inj (hlookup.symm.trans ((Table.lookup_eq_some_iff hnodup).2 hs'))

/-- Nothing is found for a function that has no stage, or whose latest stage is gone. -/
theorem latestFor?_eq_none_iff (hr : Indexed past r) :
    r.latestFor? f = none ↔ (∀ h stage, ¬ r.StageOf f h stage) ∨
      ∃ p ∈ past, p.2.function.id = f ∧ r.get? p.1 = none ∧
        ∀ h stage, r.StageOf f h stage → h.index < p.1.index := by
  rw [Option.eq_none_iff_forall_ne_some]
  constructor
  · intro hnone
    refine or_iff_not_imp_left.2 fun hsome => ?_
    obtain ⟨h, stage, hs, hf⟩ : ∃ h stage, r.StageOf f h stage := by simpa using hsome
    obtain ⟨p, hp, hpf, hlatest⟩ := hr.exists_latest (hr.stages h stage hs) hf
    have hgone : r.get? p.1 = none := by
      refine Option.eq_none_iff_forall_ne_some.2 fun stage' hs' => ?_
      obtain rfl : stage' = p.2 := hr.eq_of_issued (hr.stages p.1 stage' hs') hp
      exact hnone p (hr.latestFor?_eq_some_iff.2 ⟨⟨hs', hpf⟩, hlatest⟩)
    refine ⟨p, hp, hpf, hgone, fun k s hk => ?_⟩
    refine Nat.lt_of_le_of_ne (hlatest _ (hr.stages k s hk.1) hk.2) fun heq => ?_
    have hsame : k = p.1 := by
      cases k
      exact congrArg StageHandle.mk heq
    rw [← hsame, hk.1] at hgone
    cases hgone
  · rintro hnone ⟨h, stage⟩ hfound
    obtain ⟨hs, hlatest⟩ := hr.latestFor?_eq_some_iff.1 hfound
    rcases hnone with hnone | ⟨p, hp, hpf, -, hless⟩
    · exact hnone h stage hs
    · exact Nat.lt_irrefl _ (Nat.lt_of_lt_of_le (hless h stage hs) (hlatest p hp hpf))

end Indexed

/-- A stage is found by its function unless a later stage of the function has been cleared. Take any
requests to a new registry, with any functions and any parents.

* What is found for a function is a registered stage of it, and no later one has been registered for
  the function; so it is the registered stage of the function with the greatest handle.
* Nothing is found exactly if no stage of the function is registered, or if a stage of the function
  has been cleared that was registered later than all that are left.
* The current stage, if there is one, is registered.
* Handles go up, so that none is given out twice, however often the registry is cleared. -/
theorem latest_unless_cleared (requests : List Request) :
    let r := after {} requests
    let issued := issued {} requests
    (∀ f h stage, r.latestFor? f = some (h, stage) ↔ r.StageOf f h stage ∧ Latest issued f h) ∧
    (∀ f h stage, r.latestFor? f = some (h, stage) →
      ∀ h' stage', r.StageOf f h' stage' → h'.index ≤ h.index) ∧
    (∀ f, r.latestFor? f = none ↔ (∀ h stage, ¬ r.StageOf f h stage) ∨
      ∃ p ∈ issued, p.2.function.id = f ∧ r.get? p.1 = none ∧
        ∀ h stage, r.StageOf f h stage → h.index < p.1.index) ∧
    (∀ h, r.current = some h → ∃ stage, r.get? h = some stage) ∧
    issued.Pairwise fun p p' => p.1.index < p'.1.index := by
  intro r issued
  have hr : Indexed issued r := Indexed.new.after requests
  refine ⟨fun f h stage => hr.latestFor?_eq_some_iff, fun f h stage hfound h' stage' hs => ?_,
    fun f => hr.latestFor?_eq_none_iff, hr.current, hr.ordered⟩
  obtain ⟨-, hlatest⟩ := hr.latestFor?_eq_some_iff.1 hfound
  exact hlatest _ (hr.stages h' stage' hs.1) hs.2

/-- A stage that maps a function of the given number over a word. -/
def mapping (f : FunctionId) : Stage where
  task := .map
  function := ⟨f, ⟨["x"], [], fun args => .ok (args.headD .null), none⟩⟩
  input := .source (.int [1]) [] none

/-- Two stages of one function and one of another, of which the latest is cleared. -/
def clearedLatest : List Request :=
  [.add (mapping ⟨1⟩), .add (mapping ⟨2⟩), .addComputed (mapping ⟨1⟩) (.int [1]), .clearChain ⟨3⟩]

theorem after_clearedLatest :
    after {} clearedLatest = (after {} (clearedLatest.take 3)).remove ⟨3⟩ := by
  have hlatest : (after {} (clearedLatest.take 3)).get? ⟨3⟩ =
      some { mapping ⟨1⟩ with result := some (.int [1]) } := rfl
  show (clearChain (after {} (clearedLatest.take 3)) ⟨3⟩).2 = _
  rw [clearChain_of_get? hlatest]
  rfl

theorem latest_unless_cleared_mapping :
    (after {} clearedLatest).latestFor? ⟨2⟩ = some (⟨2⟩, mapping ⟨2⟩) ∧
      (∀ h stage, (after {} clearedLatest).StageOf ⟨2⟩ h stage → h.index ≤ 2) ∧
      (issued {} clearedLatest).map (·.1.index) = [1, 2, 3] := by
  have hfound : (after {} clearedLatest).latestFor? ⟨2⟩ = some (⟨2⟩, mapping ⟨2⟩) := by
    rw [after_clearedLatest]
    rfl
  obtain ⟨-, hgreatest, -⟩ := latest_unless_cleared clearedLatest
  exact ⟨hfound, hgreatest _ _ _ hfound, rfl⟩

/-- Once the later of two stages of a function has been cleared, the earlier one is registered and
is not found by its function. -/
theorem earlier_stage_is_not_found :
    (after {} clearedLatest).StageOf ⟨1⟩ ⟨1⟩ (mapping ⟨1⟩) ∧
      (after {} clearedLatest).latestFor? ⟨1⟩ = none := by
  rw [after_clearedLatest]
  exact ⟨⟨rfl, rfl⟩, rfl⟩

end TieredVectors.StageRegistry
