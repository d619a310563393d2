import TieredVectors.Proofs.Operator.Bare
import TieredVectors.Proofs.Operator.Lookahead
import TieredVectors.Proofs.Operator.Stages

/-!
# Registering stages

A stage is registered with a sample: the result for the first element that it will read, as far as
that is known. The sample depends on the target of the function and on the sample of the parent
(`Context.sampleFor`), and taking it changes nothing that computing depends on
(`Operator.sample_of_knows`). A stage that is deferred is then added as it is
(`Operator.register_of_deferred`).

An operator that registers a stage is refused whatever the context, or registers it from its operand
(`Operator.pendingMap_cases`, `Operator.map_pending_cases`, `Operator.reduce_cases`).
-/

namespace TieredVectors

/-- All that interpreting a function depends on, and the options. -/
def Context.standing (p : Program) (c : Context) :
    (FunctionId → Target) × Options × Detector × UnitCache :=
  (c.functions.target p, c.options, c.detector, c.units)

namespace Context

variable {p : Program} {c c' : Context}

theorem target_of_standing (h : c'.standing p = c.standing p) :
    c'.functions.target p = c.functions.target p := congrArg Prod.fst h

theorem options_of_standing (h : c'.standing p = c.standing p) : c'.options = c.options :=
  congrArg (·.2.1) h

/-- What is known of functions tells what is called for them. -/
theorem standing_of_records {functions : FunctionRegistry}
    (h : ∀ f, functions.record p f = c.functions.record p f) :
    ({ c with functions } : Context).standing p = c.standing p := by
  have htarget : functions.target p = c.functions.target p := by
    funext f
    rw [FunctionRegistry.target_eq_record, FunctionRegistry.target_eq_record, h]
  rw [standing, htarget]
  rfl

theorem Bare.of_standing (hc : c.Bare) (h : c'.standing p = c.standing p) : c'.Bare :=
  hc.congr (by rw [options_of_standing h]) (congrArg (·.2.2.1) h) (congrArg (·.2.2.2) h)

end Context

/-- The accumulator that comes first among the arguments, if there is one. -/
def StageTask.accumulator : StageTask → List Value
  | .map => []
  | .reduce neutral => [neutral]

/-- The first element that a stage will read, if that is known. -/
def StageInput.first? (r : StageRegistry) : StageInput → Except OperatorError (Option Value)
  | .source primary _ _ => .ok (primary.get? 0)
  | .parent handle _ =>
    match r.get? handle with
    | some stage => .ok stage.sample
    | none => .error (.unknownStage handle)

/-- The result for the first element, if there is one. -/
def Target.sample (t : Target) (task : StageTask) (companions : List DataVector) :
    Option Value → Except OperatorError (Option Value)
  | none => .ok none
  | some first => some <$> (t.entry.body.call
      (task.accumulator ++ first :: companions.filterMap fun c => c.get? 0)).mapError .eval

/-- The sample that a stage is registered with. -/
def Context.sampleFor (p : Program) (c : Context) (task : StageTask) (f : FunctionId)
    (input : StageInput) : Except OperatorError (Option Value) :=
  input.first? c.stages >>= (c.functions.target p f).sample task input.companions

namespace Operator

open TieredVectors.Action

variable {p : Program} {c : Context} {f : Function} {task : StageTask} {input : StageInput}

theorem firstElement_first? (input : StageInput) (c : Context) :
    (firstElement input).Ensures c fun r c' es =>
      r = input.first? c.stages ∧ c' = c ∧ es = [] := by
  unfold firstElement StageInput.first?
  cases input with
  | source primary companions columns => exact ⟨rfl, rfl, rfl⟩
  | parent parent companions =>
    dsimp only
    rw [ensures_bind, ensures_get, Post.after_ok]
    cases c.stages.get? parent <;> exact ⟨rfl, rfl, rfl⟩

/-- If the first element is known, or known to be missing, the target is called for it, with those
of the companions that there are. Nothing changes but that the function has been seen. -/
theorem sample_of_first (hf : p.Knows f) (task : StageTask) {first : Option Value}
    (hfirst : input.first? c.stages = .ok first) :
    (sample task f input).Ensures c fun r c' es =>
      r = (c.functions.target p f.id).sample task input.companions first ∧
      (∃ functions, c' = { c with functions } ∧
        ∀ g, functions.record p g = c.functions.record p g) ∧
      Event.calls es = first.toList.map fun v =>
        ((c.functions.target p f.id).entry.id.function,
          task.accumulator ++ v :: input.companions.filterMap fun c => c.get? 0) := by
  unfold sample
  rw [ensures_bind]
  refine (firstElement_first? input c).mono ?_
  rintro r c' es ⟨rfl, rfl, rfl⟩
  rw [hfirst, Post.after_ok]
  cases first with
  | none => exact ⟨rfl, ⟨_, rfl, fun _ => rfl⟩, rfl⟩
  | some v =>
    dsimp only
    rw [ensures_bind, lookup, ensures_update, Post.after_ok, ensures_map,
      FunctionRegistry.lookup_fst hf]
    refine (Entry.call_ensures _ _ _).mono ?_
    rintro r c'' es ⟨rfl, rfl, rfl⟩
    -- the accumulator is chosen by the task, so that each case computes
    refine ⟨?_, ⟨_, rfl, FunctionRegistry.record_lookup hf⟩, ?_⟩
    · cases task <;> rfl
    · cases task <;> rfl

/-- Taking a sample changes nothing but that the function has been seen. The target is called for
the first element, if there is one, and for those of the companions that there are. -/
theorem sample_of_knows (hf : p.Knows f) (task : StageTask) (input : StageInput) (c : Context) :
    (sample task f input).Ensures c fun r c' es =>
      r = c.sampleFor p task f.id input ∧
      (∃ functions, c' = { c with functions } ∧
        ∀ g, functions.record p g = c.functions.record p g) ∧
      ∀ call ∈ Event.calls es, ∃ first, input.first? c.stages = .ok (some first) ∧
        call = ((c.functions.target p f.id).entry.id.function,
          task.accumulator ++ first :: input.companions.filterMap fun c => c.get? 0) := by
  rw [Context.sampleFor]
  cases hfirst : input.first? c.stages with
  | error e =>
    unfold sample
    rw [ensures_bind]
    refine (firstElement_first? input c).mono ?_
    rintro r c' es ⟨rfl, rfl, rfl⟩
    rw [hfirst]
    exact ⟨rfl, ⟨_, rfl, fun _ => rfl⟩, nofun⟩
  | ok first =>
    refine (sample_of_first hf task hfirst).mono ?_
    rintro r c' es ⟨hr, hseen, hcalls⟩
    refine ⟨hr, hseen, fun call hcall => ?_⟩
    rw [hcalls, List.mem_map] at hcall
    obtain ⟨v, hv, rfl⟩ := hcall
    obtain rfl := Option.mem_toList.1 hv
    exact ⟨v, rfl, rfl⟩

/-- Taking the columns of vectors neither fails nor tells anything. -/
theorem snapshot_eq (z : Zipped) : snapshot z = pure (z.primary.marshal z.companions).toOption := by
  rcases z.marshal_cases with ⟨type, a, htype, ha, hmarshal⟩ | ⟨e, htype, he, hmarshal⟩
  · simp only [snapshot, htype, ha, hmarshal]
    rfl
  · simp only [snapshot, htype, if_pos he, hmarshal]
    rfl

/-- A stage that is deferred is added with its sample, unless that cannot be taken. -/
theorem register_of_deferred (hdeferred : c.options.stages = .deferred) (hf : p.Knows f)
    (task : StageTask) (input : StageInput) :
    (register task f input).Ensures c fun r c' _ => c'.standing p = c.standing p ∧
      (∀ e, c.sampleFor p task f.id input = .error e → r = .error e ∧ c'.stages = c.stages) ∧
      ∀ v, c.sampleFor p task f.id input = .ok v → r = .ok ⟨c.stages.last + 1⟩ ∧
        c'.stages = (c.stages.add (.ofSample task f input v)).2 := by
  unfold register
  rw [ensures_bind]
  refine (sample_of_knows hf task input c).mono ?_
  rintro r c' es ⟨rfl, ⟨functions, rfl, hrecords⟩, -⟩
  have hstanding := Context.standing_of_records hrecords
  cases c.sampleFor p task f.id input with
  | error e =>
    refine ⟨hstanding, fun e' he => ?_, fun _ h => by cases h⟩
    obtain rfl := Except.error.inj he
    exact ⟨rfl, rfl⟩
  | ok v =>
    rw [Post.after_ok, ensures_bind, ensures_get, Post.after_ok]
    simp only [hdeferred, ensures_bind, ensures_pure, Post.after_ok, ensures_update]
    refine ⟨hstanding, (fun _ h => by cases h), fun v' hv => ?_⟩
    obtain rfl := Except.ok.inj hv
    exact ⟨rfl, rfl⟩

/-- Only a stage whose parent is registered has a sample. -/
theorem registered_of_sampleFor {v : Option Value} (h : c.sampleFor p task f.id input = .ok v)
    {parent : StageHandle} (hparent : input.parent? = some parent) :
    c.stages.input? parent ≠ none := by
  obtain ⟨first, hfirst, -⟩ := bind_eq_ok.1 h
  cases input with
  | source primary companions columns => cases hparent
  | parent parent' companions =>
    obtain rfl := Option.some.inj hparent
    intro hnone
    rw [StageInput.first?, StageRegistry.input?_eq_none_iff.1 hnone] at hfirst
    cases hfirst

end Operator

/-- A stage with the input reads the operand and the companions. If the operand is a vector, it can
be zipped with them. -/
inductive Operand.Feeds (companions : List DataVector) : Operand → StageInput → Prop
  | vector {v : DataVector} {z : Zipped} (hz : Zipped.make v companions = .ok z)
      (columns : Option ColumnArray) : Feeds companions (.vector v) (.source v companions columns)
  | pending (handle : StageHandle) : Feeds companions (.pending handle) (.parent handle companions)

namespace Operator

open TieredVectors.Action

theorem pendingMap_cases (x : DataVector) (f : Function) (companions : List DataVector) :
    (∃ e, pendingMap x f companions = fail e) ∨
      f.arity = 1 + companions.length ∧ ∃ input, Operand.Feeds companions (.vector x) input ∧
        pendingMap x f companions = register .map f input := by
  unfold pendingMap checkArity zip
  split
  next harity =>
    cases hz : Zipped.make x companions with
    | error e => exact .inl ⟨.type e, rfl⟩
    | ok z =>
      refine .inr ⟨harity, _, .vector hz (z.primary.marshal z.companions).toOption, ?_⟩
      change (pure () >>= fun _ => pure z >>= fun z => snapshot z >>= _) = _
      rw [pure_bind, pure_bind, snapshot_eq, pure_bind]
  next => exact .inl ⟨_, rfl⟩

theorem map_pending_cases (parent : StageHandle) (f : Function) (companions : List DataVector) :
    (∃ e, map (.pending parent) f companions = fail e) ∨
      f.arity = 1 + companions.length ∧
        map (.pending parent) f companions =
          .pending <$> register .map f (.parent parent companions) := by
  unfold map checkArity
  split
  next harity => exact .inr ⟨harity, pure_bind _ _⟩
  next => exact .inl ⟨_, rfl⟩

theorem reduce_cases (x : Operand) (f : Function) (neutral : Value) (companions : List DataVector) :
    (∃ e, reduce x f neutral companions = fail e) ∨
      f.arity = 2 + companions.length ∧ ∃ input, x.Feeds companions input ∧
        reduce x f neutral companions = register (.reduce neutral) f input := by
  unfold reduce checkArity zip
  split
  next harity =>
    rw [pure_bind]
    cases x with
    | vector v =>
      dsimp only
      cases hz : Zipped.make v companions with
      | error e => exact .inl ⟨.type e, rfl⟩
      | ok z =>
        refine .inr ⟨harity, _, .vector hz none, ?_⟩
        change (pure z >>= fun _ => pure _ >>= register _ f) = _
        rw [pure_bind, pure_bind]
    | pending handle =>
      refine .inr ⟨harity, _, .pending handle, ?_⟩
      dsimp only
      rw [pure_bind]
  next => exact .inl ⟨_, rfl⟩

end Operator

end TieredVectors
