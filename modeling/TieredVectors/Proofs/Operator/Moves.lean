import TieredVectors.Proofs.Operator.Calls

/-!
# Operators take steps only

Whatever an operator is called with, and whether it succeeds or fails, it changes the context by
steps (`Action.Moves`), as long as the context is sound and its functions are known.
-/

namespace TieredVectors

open Context (Steps)

variable {known : Function → Prop} {α β : Type} {f : Function}

/-- The context is consistent and its stages fit. -/
structure Context.Sound (known : Function → Prop) (c : Context) : Prop where
  consistent : c.Consistent
  stages : c.StagesFit known

theorem Context.Sound.steps {c c' : Context} (h : c.Sound known) (hs : Steps known c c') :
    c'.Sound known :=
  ⟨h.consistent.steps hs, h.stages.steps hs⟩

namespace Action

/-- In a sound context the action takes steps only. -/
def Moves (known : Function → Prop) (a : Action α) : Prop :=
  ∀ c, c.Sound known → a.Ensures c fun _ c' _ => Steps known c c'

variable {a : Action α}

theorem Quiet.moves (h : a.Quiet) : a.Moves known := fun c _ =>
  (h c).mono fun _ c' _ hc => by rw [hc]

theorem Moves.bind {g : α → Action β} (ha : a.Moves known) (hg : ∀ x, (g x).Moves known) :
    (a >>= g).Moves known := by
  intro c hc
  rw [ensures_bind]
  refine (ha c hc).mono fun r c' es hs => ?_
  cases r with
  | error e => exact hs
  | ok x => exact (hg x c' (hc.steps hs)).mono fun _ _ _ hs' => hs.trans hs'

/-- After the context has been looked at. -/
theorem moves_get {g : Context → Action β}
    (hg : ∀ c, c.Sound known → (g c).Ensures c fun _ c' _ => Steps known c c') :
    (get >>= g).Moves known := by
  intro c hc
  rw [ensures_bind, ensures_get, Post.after_ok]
  simpa using hg c hc

theorem Moves.map (ha : a.Moves known) (g : α → β) : (g <$> a).Moves known := fun c hc => by
  rw [ensures_map]
  exact ha c hc

theorem Moves.thenAlways (ha : a.Moves known) {last : Action Unit} (hlast : last.Moves known) :
    (a.thenAlways last).Moves known := by
  intro c hc
  rw [ensures_thenAlways]
  exact (ha c hc).mono fun _ c' _ hs =>
    (hlast c' (hc.steps hs)).mono fun _ _ _ hs' => hs.trans hs'

theorem moves_lookup (hf : known f) : (lookup f).Moves known := fun _ _ => .single (.lookup hf)

theorem quiet_fail (e : OperatorError) : (fail e : Action α).Quiet := fun _ => rfl

theorem quiet_ofExcept {ε : Type} (wrap : ε → OperatorError) (x : Except ε α) :
    (ofExcept wrap x).Quiet := by
  cases x <;> exact fun _ => rfl

theorem moves_pool (threads : Nat) : (pool threads).Moves known := by
  refine moves_get fun c _ => ?_
  split
  · exact .refl
  · split
    · exact .refl
    · simp only [ensures_bind, ensures_tell, Post.after_ok, ensures_modify]
      exact .single (.pool _)

end Action

/-- The vectors that have been zipped. -/
theorem Zipped.of_make {primary : DataVector} {companions : List DataVector} {z : Zipped}
    (h : Zipped.make primary companions = .ok z) :
    z.primary = primary ∧ z.companions = companions := by
  unfold make at h
  split at h
  · split at h
    · cases h
    · obtain rfl := Except.ok.inj h
      exact ⟨rfl, rfl⟩
  · cases h

namespace Operator

open TieredVectors.Action

variable {x : DataVector} {companions : List DataVector}

theorem quiet_toVector (outcome : Tiering.Outcome) : outcome.toVector.Quiet := by
  cases outcome with
  | device array => exact quiet_pure _
  | interpreted values type => exact quiet_results values type

theorem mapVector_moves (hf : known f) (harity : f.arity = 1 + companions.length)
    {columns : Option ColumnArray}
    (hcolumns : ∀ a, columns = some a → a.WellFormed ∧ a.type.width = 1 + companions.length) :
    (mapVector f x companions columns).Moves known := by
  intro c hc
  unfold mapVector zip
  rw [ensures_bind, ensures_ofExcept]
  cases hz : Zipped.make x companions with
  | error e => exact .refl
  | ok z =>
    obtain ⟨rfl, rfl⟩ := Zipped.of_make hz
    rw [mapError_ok, Post.after_ok]
    refine (moves_get fun c hc => ?_) c hc
    split
    · refine ((moves_lookup hf).bind fun entry => (moves_pool _).bind fun _ => ?_) c hc
      exact ((Pool.quiet_callAll entry z).bind fun _ => quiet_results _ _).moves
    · rw [ensures_bind]
      refine (Tiering.run_ensures hf hc.consistent harity hcolumns).mono ?_
      rintro r c' es ⟨hs, -⟩
      cases r with
      | error e => exact hs
      | ok outcome =>
        exact ((quiet_toVector outcome).moves c' (hc.steps hs)).mono fun _ _ _ hs' => hs.trans hs'

theorem reduceVector_moves (hf : known f) (neutral : Value) (type : Option RowType) :
    (reduceVector f x companions neutral type).Moves known := by
  refine (quiet_ofExcept _ _).moves.bind fun z => (moves_lookup hf).bind fun entry => ?_
  have hfold : (entry.fold z neutral).Quiet := entry.quiet_foldFrom z neutral 0 z.length
  refine moves_get fun c hc => ?_
  have hresults (value : Value) :
      (results [value] (type <|> value.inferOutput.toOption)).Moves known :=
    (quiet_results _ _).moves
  split
  · split
    · exact ((moves_pool _).bind fun size =>
        (Pool.quiet_fold size entry z neutral).moves.bind hresults) c hc
    · exact (hfold.moves.bind hresults) c hc
  · exact (hfold.moves.bind hresults) c hc

theorem computeStage_moves {stage : Stage} (h : stage.Fits known) (x : DataVector) :
    (computeStage stage x).Moves known := by
  unfold computeStage
  split
  next htask => exact mapVector_moves h.function (h.arity htask) h.columns
  next neutral _ => exact reduceVector_moves h.function neutral _

/-- Stages are computed one after the other, each after the one that it reads from. -/
theorem materialize_moves (handle : StageHandle) : (materialize handle).Moves known := by
  -- a stage reads from an earlier one, or is refused
  induction hn : handle.index using Nat.strongRecOn generalizing handle with
  | ind n ih =>
    rw [materialize]
    refine moves_get fun c hc => ?_
    split
    next => exact (quiet_fail _).moves c hc
    next stage hstage =>
      split
      next => exact (quiet_pure _).moves c hc
      next =>
        have hcompute (x : DataVector) : (do
            let result ← computeStage stage x
            modify fun c => { c with stages := c.stages.memoize handle result }
            return result).Moves known :=
          (computeStage_moves (hc.stages handle stage hstage) x).bind fun result =>
            Moves.bind (fun _ _ => .single (.memoize handle result)) fun _ => (quiet_pure _).moves
        split
        next => exact ((quiet_pure _).moves.bind hcompute) c hc
        next parent _ _ =>
          split
          next hlt => exact ((ih parent.index (hn ▸ hlt) parent rfl).bind hcompute) c hc
          next => exact ((quiet_fail _).moves.bind hcompute) c hc

theorem sample_moves (hf : known f) (task : StageTask) (input : StageInput) :
    (sample task f input).Moves known := by
  have hfirst : (firstElement input).Moves known := by
    unfold firstElement
    split
    · exact (quiet_pure _).moves
    · refine moves_get fun c hc => ?_
      split
      · exact (quiet_pure _).moves c hc
      · exact (quiet_fail _).moves c hc
  refine hfirst.bind fun first => ?_
  split
  · exact (quiet_pure _).moves
  · exact (moves_lookup hf).bind fun entry => (entry.quiet_call _).moves.map _

/-- Registering a stage that will fit. -/
theorem register_moves {task : StageTask} {input : StageInput}
    (h : ∀ sample, (Stage.ofSample task f input sample).Fits known) :
    (register task f input).Moves known := by
  unfold register
  refine (sample_moves (h none).function task input).bind fun sample => moves_get fun c hc => ?_
  have hadd {stage : Stage} (hstage : stage.Fits known) : (update fun c =>
      ((c.stages.add stage).1, { c with stages := (c.stages.add stage).2 })).Moves known :=
    fun _ _ => .single (.stage hstage)
  split
  · exact ((quiet_pure _).moves.bind fun _ => hadd (h sample)) c hc
  · -- an eager stage is computed before it is registered
    have helements : (stageElements (Stage.ofSample task f input sample)).Moves known := by
      unfold stageElements
      split
      · exact (quiet_pure _).moves
      · exact materialize_moves _
    refine (helements.bind fun x => (computeStage_moves (h sample) x).bind fun result => ?_) c hc
    exact hadd ⟨(h sample).function, (h sample).arity, (h sample).columns⟩

theorem execute_moves (handle : StageHandle) : (execute handle).Moves known := by
  refine (materialize_moves handle).thenAlways (Moves.bind (fun _ _ => ?_) fun _ => ?_)
  · exact .single (.clear handle)
  · exact (quiet_tell _).moves

/-- What follows a check of the number of arguments may rely on it. -/
theorem moves_of_checkArity {supplied : Nat} {a : Action α}
    (h : f.arity = supplied → a.Moves known) :
    (checkArity f supplied >>= fun _ => a).Moves known := by
  unfold checkArity
  split
  next harity => exact (quiet_pure _).moves.bind fun _ => h harity
  next => exact fun c _ => .refl

theorem map_moves (hf : known f) (x : Operand) (companions : List DataVector) :
    (map x f companions).Moves known := by
  refine moves_of_checkArity fun harity => ?_
  split
  · exact (mapVector_moves hf harity (by simp)).map _
  next parent =>
    refine Moves.map (register_moves fun sample => ?_) _
    exact ⟨hf, fun _ => harity, by simp [Stage.ofSample, StageInput.columns?]⟩

theorem apply_moves (hf : known f) (x : DataVector) (workers : Nat) (companions : List DataVector) :
    (apply x f workers companions).Moves known := by
  refine moves_of_checkArity fun _ => (quiet_ofExcept _ _).moves.bind fun z =>
    (moves_lookup hf).bind fun entry => ?_
  have hresults (values : List Value) : (resultsByFirst values).Moves known :=
    (quiet_results _ _).moves
  split
  · exact (entry.quiet_callAll z).moves.bind hresults
  · exact (moves_pool _).bind fun _ => (Pool.quiet_callAll entry z).moves.bind hresults

theorem terminalReduce_moves (hf : known f) (x : Operand) (neutral : Value)
    (companions : List DataVector) : (terminalReduce x f neutral companions).Moves known := by
  refine moves_of_checkArity fun _ => ?_
  split
  · exact (quiet_pure _).moves.bind fun _ => reduceVector_moves hf neutral none
  · exact (execute_moves _).bind fun _ => reduceVector_moves hf neutral none

/-- The columns of a stage; making them never fails. -/
theorem snapshot_ensures (z : Zipped) (c : Context) :
    (snapshot z).Ensures c fun r c' _ =>
      c' = c ∧ r = .ok (z.primary.marshal z.companions).toOption := by
  rcases z.marshal_cases with ⟨type, a, htype, ha, hmarshal⟩ | ⟨e, htype, he, hmarshal⟩
  · rw [hmarshal]
    simp only [snapshot, htype, ha]
    rw [ensures_map, ensures_ofExcept]
    exact ⟨rfl, rfl⟩
  · rw [hmarshal]
    simp only [snapshot, htype, if_pos he]
    exact ⟨rfl, rfl⟩

theorem pendingMap_moves (hf : known f) (x : DataVector) (companions : List DataVector) :
    (pendingMap x f companions).Moves known := by
  refine moves_of_checkArity fun harity c hc => ?_
  unfold zip
  rw [ensures_bind, ensures_ofExcept]
  cases hz : Zipped.make x companions with
  | error e => exact .refl
  | ok z =>
    obtain ⟨rfl, rfl⟩ := Zipped.of_make hz
    rw [mapError_ok, Post.after_ok, ensures_bind]
    refine (snapshot_ensures z c).mono ?_
    rintro r c' es ⟨rfl, rfl⟩
    rw [Post.after_ok]
    refine register_moves (fun sample => ?_) c' hc
    exact ⟨hf, fun _ => harity, fun a => Zipped.layout_of_marshal⟩

theorem reduce_moves (hf : known f) (x : Operand) (neutral : Value) (companions : List DataVector) :
    (reduce x f neutral companions).Moves known := by
  refine moves_of_checkArity fun _ => ?_
  have hregister (input : StageInput) (hinput : input.columns? = none) :
      (register (.reduce neutral) f input).Moves known :=
    register_moves fun sample => ⟨hf, nofun, by simp [Stage.ofSample, hinput]⟩
  split
  · refine (quiet_ofExcept _ _).moves.bind fun _ => ?_
    rw [pure_bind]
    exact hregister _ rfl
  · rw [pure_bind]
    exact hregister _ rfl

end Operator

end TieredVectors
