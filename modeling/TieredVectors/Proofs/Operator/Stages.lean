import TieredVectors.Proofs.Operator.Computing
import TieredVectors.Proofs.Operator.Mapping
import TieredVectors.Proofs.Stage.Parents

/-!
# What calls do to the stages

An operator call keeps the outline of the registry, adds one stage to it or executes one
(`Operation.change`), whether it succeeds or fails. Along a history of requests this tells which
stages still have their parents:

* `Context.parent_registered_until_executed` — a parent is missing just when it was executed while
  the stage read from it;
* `Context.executed_parent_is_dropped` — and that does happen.
-/

namespace TieredVectors

open StageRegistry (Change)
open Relation (ReflTransGen)

variable {α β : Type} {c : Context}

namespace Action

variable {a : Action α} {executed? : Option StageHandle}

/-- Whatever the context, the action leaves the outline of the stages alone. -/
abbrev KeepsOutline (a : Action α) : Prop := a.Contained (fun c => c.stages.outline) fun _ => True

theorem Computes.keepsOutline (h : a.Computes) : a.KeepsOutline := fun c =>
  ⟨congrArg StageRegistry.outline (h.stages_eq c), fun _ _ => trivial⟩

/-- Whatever the context, the action does to the outline what a call can do, and executes the given
stage. -/
def Changes (executed? : Option StageHandle) (a : Action α) : Prop :=
  ∀ c, a.Ensures c fun _ c' _ => Change c.stages c'.stages executed?

theorem KeepsOutline.changes (h : a.KeepsOutline) : a.Changes none := fun c => .keep (h c).1

theorem KeepsOutline.bind_changes {f : α → Action β} (ha : a.KeepsOutline)
    (hf : ∀ x, (f x).Changes none) : (a >>= f).Changes none := by
  intro c
  rw [ensures_bind]
  refine (ha c).mono fun r c' _ h => ?_
  cases r with
  | error e => exact .keep h.1
  | ok x => exact (hf x c').mono fun _ _ _ h' => h'.of_outline_eq h.1

theorem Changes.bind {f : α → Action β} (ha : a.Changes executed?)
    (hf : ∀ x, (f x).KeepsOutline) : (a >>= f).Changes executed? := by
  intro c
  rw [ensures_bind]
  refine (ha c).mono fun r c' _ h => ?_
  cases r with
  | error e => exact h
  | ok x => exact (hf x c').mono fun _ _ _ h' => h.trans_outline_eq h'.1

theorem Changes.map (ha : a.Changes executed?) (f : α → β) : (f <$> a).Changes executed? := by
  rw [map_eq_pure_bind]
  exact ha.bind fun x => contained_pure _

end Action

namespace Operator

open TieredVectors.Action

variable {f : Function}

/-- Once the elements of a stage are there, no stage is looked up any more. -/
theorem contained_finish (handle : StageHandle) (stage : Stage) (x : DataVector) :
    (do
      let result ← computeStage stage x
      modify fun c => { c with stages := c.stages.memoize handle result }
      return result).Contained (fun c => c.stages.outline) OperatorError.OfComputing := by
  refine .bind ((computes_computeStage x stage).mono ?_ fun _ h => h) fun result => ?_
  · exact fun c c' h => congrArg StageRegistry.outline (congrArg Prod.fst h)
  · exact .bind (contained_modify fun c => c.stages.outline_memoize handle result) fun _ =>
      contained_pure _

section

variable {c : Context} {handle : StageHandle} {stage : Stage} {post : Post DataVector}

/-- A stage that is not registered cannot be computed. -/
theorem ensures_materialize_of_none (h : c.stages.get? handle = none) :
    (materialize handle).Ensures c post ↔ post (.error (.unknownStage handle)) c [] := by
  rw [materialize, ensures_bind, ensures_get, Post.after_ok, h]
  rfl

/-- A result that is kept is not computed again. -/
theorem ensures_materialize_of_result (hstage : c.stages.get? handle = some stage) {v : DataVector}
    (hresult : stage.result = some v) :
    (materialize handle).Ensures c post ↔ post (.ok v) c [] := by
  rw [materialize, ensures_bind, ensures_get, Post.after_ok, hstage]
  dsimp only
  rw [hresult]
  rfl

/-- A stage without a result is computed from its elements, and the result kept. -/
theorem ensures_materialize_of_due (hstage : c.stages.get? handle = some stage)
    (hresult : stage.result = none)
    (hlt : ∀ parent, stage.input.parent? = some parent → parent.index < handle.index) :
    (materialize handle).Ensures c post ↔ (stageElements stage >>= fun x => do
      let result ← computeStage stage x
      modify fun c => { c with stages := c.stages.memoize handle result }
      return result).Ensures c post := by
  rw [materialize, ensures_bind, ensures_get, Post.after_ok, hstage]
  dsimp only
  rw [hresult, stageElements]
  cases hinput : stage.input with
  | source primary companions columns => simp only [List.nil_append]
  | parent parent companions =>
    have hparent : parent.index < handle.index := hlt parent (by rw [hinput]; rfl)
    simp only [List.nil_append, dif_pos hparent]

end

/-- Computing the chain of a stage keeps the outline. If it fails for want of a stage, that stage is
part of the chain, and is not registered. -/
theorem materialize_ensures (handle : StageHandle) (c : Context) :
    (materialize handle).Ensures c fun r c' _ => c'.stages.outline = c.stages.outline ∧
      ∀ missing, r = .error (.unknownStage missing) → c.stages.Ordered →
        c.stages.input? missing = none ∧ ReflTransGen c.stages.Reads handle missing := by
  induction hn : handle.index using Nat.strongRecOn generalizing handle with
  | ind n ih =>
    rw [materialize, ensures_bind, ensures_get, Post.after_ok]
    cases hstage : c.stages.get? handle with
    | none =>
      dsimp only
      rw [ensures_fail]
      refine ⟨rfl, fun missing he _ => ?_⟩
      obtain rfl : handle = missing := by simpa using he
      exact ⟨StageRegistry.input?_eq_none_iff.2 hstage, .refl⟩
    | some stage =>
      dsimp only
      split
      next => exact ⟨rfl, nofun⟩
      next =>
        have hfinish := contained_finish handle stage
        split
        next =>
          rw [pure_bind]
          refine (hfinish _ c).mono fun r c' _ h => ⟨h.1, fun missing he => ?_⟩
          exact (h.2 _ he).elim
        next parent companions hinput =>
          have hreads : c.stages.Reads handle parent :=
            ⟨stage.input, by simp [StageRegistry.input?, hstage], by rw [hinput]; rfl⟩
          split
          next hlt =>
            rw [ensures_bind]
            refine (ih parent.index (hn ▸ hlt) parent rfl).mono fun r c' _ h => ?_
            cases r with
            | error e =>
              refine ⟨h.1, fun missing he hordered => ?_⟩
              obtain ⟨hnone, hchain⟩ := h.2 missing (by simpa using he) hordered
              exact ⟨hnone, .head hreads hchain⟩
            | ok x =>
              rw [Post.after_ok]
              refine (hfinish x c').mono fun r c'' _ h' => ⟨h'.1.trans h.1, fun missing he => ?_⟩
              exact (h'.2 _ he).elim
          next hnot =>
            refine ⟨rfl, fun missing _ hordered => ?_⟩
            obtain ⟨input, hinput, hparent⟩ := hreads
            exact absurd ((hordered handle input hinput).2 parent hparent) hnot

/-- A stage that is not computed yet cannot be executed without its parent. -/
theorem execute_of_missing_parent {handle parent : StageHandle} {c : Context}
    (hreads : c.stages.Reads handle parent)
    (hresult : (c.stages.get? handle).bind Stage.result = none)
    (hmissing : c.stages.get? parent = none) :
    ((execute handle).run c).result = .error (.unknownStage parent) := by
  obtain ⟨input, hinput, hparent⟩ := hreads
  obtain ⟨stage, hstage, rfl⟩ := Option.map_eq_some_iff.1 hinput
  have hresult' : stage.result = none := by simpa [hstage] using hresult
  have hmaterialize : (materialize parent).Ensures c fun r _ _ =>
      r = .error (.unknownStage parent) := by
    rw [materialize, ensures_bind, ensures_get, Post.after_ok, hmissing]
    rfl
  change (materialize handle).Ensures c fun r _ _ => r = _
  rw [materialize, ensures_bind, ensures_get, Post.after_ok, hstage]
  dsimp only
  rw [hresult']
  dsimp only
  split
  next hsource =>
    rw [hsource] at hparent
    cases hparent
  next parent' companions hinput' =>
    rw [hinput'] at hparent
    obtain rfl := Option.some.inj hparent
    -- the parent is looked for only if it is an earlier stage, but its absence is told either way
    split
    · rw [ensures_bind]
      refine hmaterialize.mono ?_
      rintro r c' es rfl
      rfl
    · rfl

theorem keepsOutline_materialize (handle : StageHandle) : (materialize handle).KeepsOutline :=
  fun c => ⟨(materialize_ensures handle c).1, fun _ _ => trivial⟩

/-- The first element of a parent is known only if the parent is registered. -/
theorem firstElement_ensures (input : StageInput) (c : Context) :
    (firstElement input).Ensures c fun r c' _ => c' = c ∧
      ∀ v, r = .ok v → ∀ parent, input.parent? = some parent →
        ∃ input', c.stages.input? parent = some input' := by
  unfold firstElement
  cases input with
  | source primary companions columns =>
    refine ⟨rfl, fun _ _ parent hparent => ?_⟩
    cases hparent
  | parent parent companions =>
    rw [ensures_bind, ensures_get, Post.after_ok]
    cases hparent : c.stages.get? parent with
    | none =>
      refine ⟨rfl, fun _ hok => ?_⟩
      cases hok
    | some stage =>
      refine ⟨rfl, fun _ _ parent' he => ⟨stage.input, ?_⟩⟩
      obtain rfl := Option.some.inj he
      simp [StageRegistry.input?, hparent]

/-- A stage whose parent is not registered gets no sample. -/
theorem sample_ensures (task : StageTask) (f : Function) (input : StageInput) (c : Context) :
    (sample task f input).Ensures c fun r c' _ => c'.stages.outline = c.stages.outline ∧
      ∀ v, r = .ok v → ∀ parent, input.parent? = some parent →
        ∃ input', c.stages.input? parent = some input' := by
  unfold sample
  rw [ensures_bind]
  refine (firstElement_ensures input c).mono ?_
  rintro r c' es ⟨rfl, hparent⟩
  cases r with
  | error e =>
    refine ⟨rfl, fun _ hok => ?_⟩
    cases hok
  | ok first =>
    rw [Post.after_ok]
    have hregistered := hparent first rfl
    cases first with
    | none => exact ⟨rfl, fun _ _ => hregistered⟩
    | some v =>
      have hcall (args : List Value) :
          (lookup f >>= fun entry => some <$> entry.call args).KeepsOutline :=
        Computes.keepsOutline ((computes_lookup f).bind fun entry =>
          (entry.contained_call (fun _ => trivial) args).map some)
      exact (hcall _ c').mono fun _ _ _ h => ⟨h.1, fun _ _ => hregistered⟩

theorem keepsOutline_stageElements (stage : Stage) : (stageElements stage).KeepsOutline := by
  unfold stageElements
  split
  · exact contained_pure _
  · exact keepsOutline_materialize _

/-- Registering a stage adds it, if it succeeds, to stages among which its parent is. -/
theorem changes_register (task : StageTask) (f : Function) (input : StageInput) :
    (register task f input).Changes none := by
  intro c
  unfold register
  rw [ensures_bind]
  refine (sample_ensures task f input c).mono fun r c' _ h => ?_
  cases r with
  | error e => exact .keep h.1
  | ok sample =>
    rw [Post.after_ok, ensures_bind, ensures_get, Post.after_ok]
    have hadd {stage : Stage} {d : Context} (hd : d.stages.outline = c.stages.outline)
        (hstage : stage.input = input) :
        Change c.stages (d.stages.add stage).2 none := by
      refine Change.of_outline_eq (.add stage ?_ rfl) hd
      rw [StageRegistry.input?_eq_of_outline_eq hd, hstage]
      exact h.2 sample rfl
    dsimp only
    split
    · exact hadd h.1 rfl
    · -- an eager stage is computed before it is added
      simp only [pure_bind]
      rw [ensures_bind]
      refine (keepsOutline_stageElements _ c').mono fun r d _ hd => ?_
      cases r with
      | error e => exact .keep (hd.1.trans h.1)
      | ok x =>
        rw [Post.after_ok, ensures_bind]
        refine ((computes_computeStage x _).keepsOutline d).mono fun r d' _ hd' => ?_
        cases r with
        | error e => exact .keep (hd'.1.trans (hd.1.trans h.1))
        | ok result => exact hadd (hd'.1.trans (hd.1.trans h.1)) rfl

theorem changes_execute (handle : StageHandle) : (execute handle).Changes (some handle) := by
  intro c
  rw [execute, ensures_thenAlways]
  refine (materialize_ensures handle c).mono fun r c' es h => ?_
  exact .clear handle c'.stages h.1 rfl

/-- What follows a check of the number of arguments may rely on it. -/
theorem changes_of_checkArity {supplied : Nat} {executed? : Option StageHandle} {a : Action α}
    (h : f.arity = supplied → a.Changes executed?)
    (hnot : f.arity ≠ supplied → executed? = none) :
    (checkArity f supplied >>= fun _ => a).Changes executed? := by
  unfold checkArity
  split
  next harity =>
    rw [pure_bind]
    exact h harity
  next hne =>
    rw [hnot hne]
    exact fun _ => .keep rfl

end Operator

/-- The stage whose chain an operator executes. -/
def Operation.executed? : Operation → Option StageHandle
  | execute handle => some handle
  | terminalReduce (.pending handle) f _ companions =>
    if f.arity = 2 + companions.length then some handle else none
  | _ => none

open Operator TieredVectors.Action in
/-- What an operator does to the stages, whether it succeeds or fails. -/
theorem Operation.change (op : Operation) (c : Context) :
    Change c.stages (op.perform c).stages op.executed? := by
  cases op with
  | map x f companions =>
    refine changes_of_checkArity (fun _ => ?_) (fun _ => rfl) c
    cases x with
    | vector v => exact (computes_mapVector f v companions none).keepsOutline.changes.map _
    | pending parent => exact (changes_register .map f _).map _
  | apply x f workers companions =>
    have hstages := congrArg Prod.fst (contained_apply f x companions workers c).1
    exact .keep (congrArg StageRegistry.outline hstages)
  | terminalReduce x f neutral companions =>
    have hreduce (x : DataVector) : (reduceVector f x companions neutral none).KeepsOutline :=
      (computes_reduceVector f x companions neutral none).keepsOutline
    cases x with
    | vector v =>
      refine changes_of_checkArity (fun _ => ?_) (fun _ => rfl) c
      exact (hreduce v).changes
    | pending handle =>
      refine changes_of_checkArity (fun harity => ?_) (fun hne => if_neg hne) c
      dsimp only [executed?]
      rw [if_pos harity]
      exact (changes_execute handle).bind hreduce
  | pendingMap x f companions =>
    refine changes_of_checkArity (fun _ => ?_) (fun _ => rfl) c
    refine (computes_zip x companions).keepsOutline.bind_changes fun z => ?_
    exact (computes_snapshot z).keepsOutline.bind_changes fun columns => changes_register _ _ _
  | reduce x f neutral companions =>
    refine changes_of_checkArity (fun _ => ?_) (fun _ => rfl) c
    cases x with
    | vector v =>
      exact (computes_zip v companions).keepsOutline.bind_changes fun _ => changes_register _ _ _
    | pending parent => exact changes_register _ _ _
  | execute handle => exact changes_execute handle c

/-! ## Along a history -/

/-- The stage whose chain a request executes. -/
def Request.executed? : Request → Option StageHandle
  | operate op => op.executed?
  | _ => none

theorem Request.change (request : Request) (c : Context) :
    Change c.stages (request.perform c).stages request.executed? := by
  cases request with
  | operate op => exact op.change c
  | _ => exact .keep rfl

namespace Context

variable {requests : List Request} {request : Request} {child parent : StageHandle}

/-- At some point of the history `parent` was executed while `child` read from it. -/
def ExecutedUnder (c : Context) (requests : List Request) (child parent : StageHandle) : Prop :=
  ∃ earlier request later, requests = earlier ++ request :: later ∧
    request.executed? = some parent ∧ (c.after earlier).stages.Reads child parent

theorem not_executedUnder_nil : ¬ c.ExecutedUnder [] child parent := by
  rintro ⟨earlier, request, later, h, -⟩
  simp at h

theorem executedUnder_concat :
    c.ExecutedUnder (requests ++ [request]) child parent ↔
      c.ExecutedUnder requests child parent ∨
        request.executed? = some parent ∧ (c.after requests).stages.Reads child parent := by
  constructor
  · rintro ⟨earlier, request', later, h, hexecuted, hreads⟩
    rcases List.eq_nil_or_concat later with rfl | ⟨later, last, rfl⟩
    · obtain ⟨rfl, hrequest⟩ := List.append_inj' h rfl
      obtain rfl : request = request' := by simpa using hrequest
      exact .inr ⟨hexecuted, hreads⟩
    · rw [List.concat_eq_append, ← List.cons_append, ← List.append_assoc] at h
      exact .inl ⟨earlier, request', later, (List.append_inj' h rfl).1, hexecuted, hreads⟩
  · rintro (⟨earlier, request', later, rfl, hexecuted, hreads⟩ | ⟨hexecuted, hreads⟩)
    · exact ⟨earlier, request', later ++ [request], by simp, hexecuted, hreads⟩
    · exact ⟨requests, request, [], by simp, hexecuted, hreads⟩

theorem Fresh.input?_eq_none (h : c.Fresh) (handle : StageHandle) :
    c.stages.input? handle = none := by
  simp [StageRegistry.get?, h.stages]

/-- Stages read from earlier ones only. -/
theorem Fresh.ordered_after (h : c.Fresh) (requests : List Request) :
    (c.after requests).stages.Ordered := by
  induction requests using List.reverseRecOn with
  | nil =>
    intro handle input hinput
    rw [after_nil, h.input?_eq_none] at hinput
    cases hinput
  | append_singleton requests request ih =>
    rw [after_concat]
    exact (request.change _).ordered ih

/-- A stage under which another one was executed had its number then. -/
theorem ExecutedUnder.index_le (h : c.Fresh) (hexecuted : c.ExecutedUnder requests child parent) :
    child.index ≤ (c.after requests).stages.last := by
  induction requests using List.reverseRecOn with
  | nil => exact absurd hexecuted not_executedUnder_nil
  | append_singleton requests request ih =>
    rw [after_concat]
    refine Nat.le_trans ?_ (request.change _).last_le
    rcases executedUnder_concat.1 hexecuted with hexecuted | ⟨-, input, hinput, -⟩
    · exact ih hexecuted
    · exact (h.ordered_after requests child input hinput).1

/-- The parent of a registered stage is missing just when it has been executed under that stage. -/
theorem Fresh.input?_parent_eq_none_iff (h : c.Fresh)
    (hreads : (c.after requests).stages.Reads child parent) :
    (c.after requests).stages.input? parent = none ↔ c.ExecutedUnder requests child parent := by
  induction requests using List.reverseRecOn with
  | nil =>
    obtain ⟨input, hinput, -⟩ := hreads
    rw [after_nil, h.input?_eq_none] at hinput
    cases hinput
  | append_singleton requests request ih =>
    rw [after_concat] at hreads ⊢
    rw [executedUnder_concat]
    rcases (request.change _).reads_cases (h.ordered_after requests) hreads with
      ⟨hbefore, hmissing⟩ | ⟨hnew, hthere, hnone⟩
    · rw [hmissing, ih hbefore]
      exact or_congr_right (and_iff_left hbefore).symm
    · -- a new stage has a parent, and nothing was executed under it
      have hnot : ¬ c.ExecutedUnder requests child parent := fun hexecuted =>
        absurd (hexecuted.index_le h) (Nat.not_le.2 hnew)
      simp [hthere, hnot, hnone]

/-- A stage keeps its parent until that parent itself is executed, and loses it then: after any
history of requests, the parent of a registered stage is missing if and only if it was executed
while the stage read from it. So executing a registered stage fails for want of a stage only if
somewhere up its chain a stage was executed from which the next one still read. -/
theorem parent_registered_until_executed (h : c.Fresh) (requests : List Request) :
    (∀ child parent, (c.after requests).stages.Reads child parent →
      ((c.after requests).stages.get? parent = none ↔ c.ExecutedUnder requests child parent)) ∧
    ∀ handle missing, (c.after requests).stages.get? handle ≠ none →
      ((Operator.execute handle).run (c.after requests)).result =
        .error (.unknownStage missing) →
      ∃ child, ReflTransGen (c.after requests).stages.Reads handle child ∧
        (c.after requests).stages.Reads child missing ∧
        c.ExecutedUnder requests child missing := by
  constructor
  · intro child parent hreads
    rw [← StageRegistry.input?_eq_none_iff]
    exact h.input?_parent_eq_none_iff hreads
  · intro handle missing hregistered hexecute
    obtain ⟨hnone, hchain⟩ := (Operator.materialize_ensures handle (c.after requests)).2 missing
      hexecute (h.ordered_after requests)
    -- the chain does not end with the stage itself, which is registered
    rcases hchain.cases_tail with rfl | ⟨child, hchain, hreads⟩
    · exact absurd (StageRegistry.input?_eq_none_iff.1 hnone) hregistered
    · exact ⟨child, hchain, hreads, (h.input?_parent_eq_none_iff hreads).1 hnone⟩

/-- A stage, and another one that reads from it. -/
def chainedStages : List Request :=
  [.operate (.pendingMap (.int [1, 2]) Operator.increment []),
    .operate (.map (.pending ⟨1⟩) Operator.increment [])]

/-- A third stage also reads from the first; executing the second leaves the third its parent. -/
theorem parent_registered_until_executed_fork :
    initial.Fresh ∧
      (initial.after (chainedStages ++ [.operate (.map (.pending ⟨1⟩) Operator.increment []),
        .operate (.execute ⟨2⟩)])).stages.Reads ⟨3⟩ ⟨1⟩ ∧
      ¬ initial.ExecutedUnder (chainedStages ++
        [.operate (.map (.pending ⟨1⟩) Operator.increment []), .operate (.execute ⟨2⟩)])
        ⟨3⟩ ⟨1⟩ := by
  have hreads : (initial.after (chainedStages ++
      [.operate (.map (.pending ⟨1⟩) Operator.increment []),
        .operate (.execute ⟨2⟩)])).stages.Reads ⟨3⟩ ⟨1⟩ := by decide +kernel
  have hthere : ((initial.after (chainedStages ++
      [.operate (.map (.pending ⟨1⟩) Operator.increment []),
        .operate (.execute ⟨2⟩)])).stages.get? ⟨1⟩).isSome := by decide +kernel
  refine ⟨initial_fresh, hreads, fun hexecuted => ?_⟩
  have hmissing := ((parent_registered_until_executed initial_fresh _).1 _ _ hreads).2 hexecuted
  rw [hmissing] at hthere
  cases hthere

/-- A stage that is executed while another one reads from it is dropped all the same, and the other
one cannot be executed any more. -/
theorem executed_parent_is_dropped :
    initial.Fresh ∧
      (initial.after (chainedStages ++ [.operate (.execute ⟨1⟩)])).stages.Reads ⟨2⟩ ⟨1⟩ ∧
      (initial.after (chainedStages ++ [.operate (.execute ⟨1⟩)])).stages.get? ⟨1⟩ = none ∧
      ((Operator.execute ⟨2⟩).run
        (initial.after (chainedStages ++ [.operate (.execute ⟨1⟩)]))).result =
          .error (.unknownStage ⟨1⟩) := by
  have hreads : (initial.after (chainedStages ++ [.operate (.execute ⟨1⟩)])).stages.Reads ⟨2⟩ ⟨1⟩ :=
    by decide +kernel
  have hmissing : (initial.after (chainedStages ++ [.operate (.execute ⟨1⟩)])).stages.get? ⟨1⟩ =
      none := Option.isNone_iff_eq_none.1 (by decide +kernel)
  have hresult : ((initial.after (chainedStages ++ [.operate (.execute ⟨1⟩)])).stages.get?
      ⟨2⟩).bind Stage.result = none := Option.isNone_iff_eq_none.1 (by decide +kernel)
  exact ⟨initial_fresh, hreads, hmissing,
    Operator.execute_of_missing_parent hreads hresult hmissing⟩

end Context

end TieredVectors
