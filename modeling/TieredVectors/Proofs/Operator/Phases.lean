import TieredVectors.Proofs.Operator.Coupling
import TieredVectors.Proofs.Operator.Moves

/-!
# The phases of a call

A call through the tiers tells which phases it enters. Interpreting tells of none, and execution on
the device is entered where an executor attempts the call and nowhere else:

* `Action.Tells` — what an action may tell, with one rule for each way to put actions together;
* `Tiering.trace_prepares` — looking out for a graph gets no further than a cached unit;
* `Tiering.execute_deploys`, `Tiering.proceed_deploys` — a call that gets to the device makes one
  attempt, which alone tells what becomes of the device and of the count of abandoned runs.
-/

namespace TieredVectors

variable {α β : Type}

/-! ## What actions tell -/

namespace Action

variable {a : Action α} {P : Event → Prop}

/-- In every context the action tells only such events. -/
def Tells (P : Event → Prop) (a : Action α) : Prop := ∀ c, a.Ensures c fun _ _ es => ∀ e ∈ es, P e

theorem Tells.mono {P' : Event → Prop} (h : a.Tells P) (himp : ∀ e, P e → P' e) : a.Tells P' :=
  fun c => (h c).mono fun _ _ _ hes e he => himp e (hes e he)

theorem tells_pure (x : α) : (pure x : Action α).Tells P :=
  fun _ _ he => absurd he List.not_mem_nil

theorem tells_fail (e : OperatorError) : (fail e : Action α).Tells P :=
  fun _ _ he => absurd he List.not_mem_nil

theorem tells_get : get.Tells P :=
  fun _ _ he => absurd he List.not_mem_nil

theorem tells_modify (f : Context → Context) : (modify f).Tells P :=
  fun _ _ he => absurd he List.not_mem_nil

theorem tells_update (f : Context → α × Context) : (update f).Tells P :=
  fun _ _ he => absurd he List.not_mem_nil

theorem tells_tell {es : List Event} (h : ∀ e ∈ es, P e) : (tell es).Tells P := fun _ => h

theorem tells_ofExcept {ε : Type} (wrap : ε → OperatorError) (x : Except ε α) :
    (ofExcept wrap x).Tells P := by
  cases x with
  | ok x => exact tells_pure x
  | error e => exact tells_fail (wrap e)

theorem Tells.bind {f : α → Action β} (ha : a.Tells P) (hf : ∀ x, (f x).Tells P) :
    (a >>= f).Tells P := by
  intro c
  rw [ensures_bind]
  refine (ha c).mono fun r c' es hes => ?_
  cases r with
  | error e => exact hes
  | ok x =>
    rw [Post.after_ok]
    exact (hf x c').mono fun _ _ es' hes' => List.forall_mem_append.2 ⟨hes, hes'⟩

theorem Tells.map (ha : a.Tells P) (f : α → β) : (f <$> a).Tells P := by
  rw [map_eq_pure_bind]
  exact ha.bind fun x => tells_pure (f x)

/-- The action tells of no phase. -/
abbrev Phaseless (a : Action α) : Prop := a.Tells fun e => e.phase? = none

theorem Phaseless.tells (h : a.Phaseless) (phase : Phase) :
    a.Tells fun e => e.phase? ≠ some phase :=
  h.mono fun e he => by simp [he]

/-- An action that does not tell of executing does not enter it. -/
theorem Tells.launches (h : a.Tells fun e => e.phase? ≠ some .executing) (c : Context) :
    a.Ensures c fun _ _ es => Event.launches es = 0 :=
  (h c).mono fun _ _ _ => Event.launches_eq_zero

theorem Phaseless.launches (h : a.Phaseless) (c : Context) :
    a.Ensures c fun _ _ es => Event.launches es = 0 :=
  (h.tells .executing).launches c

theorem phaseless_tell {es : List Event} (h : ∀ e ∈ es, e.phase? = none) : (tell es).Phaseless :=
  tells_tell h

theorem phaseless_results (values : List Value) (type : Option RowType) :
    (results values type).Phaseless := by
  refine (phaseless_tell ?_).bind fun _ => tells_pure _
  repeat' split
  all_goals simp [Event.phase?]

theorem phaseless_lookup (f : Function) : (lookup f).Phaseless := tells_update _

end Action

open TieredVectors.Action

namespace Entry

variable (entry : Entry) (z : Zipped)

theorem phaseless_call (args : List Value) : (entry.call args).Phaseless :=
  (phaseless_tell (by simp [Event.phase?])).bind fun _ => tells_ofExcept _ _

theorem phaseless_callFrom (first count : Nat) : (entry.callFrom z first count).Phaseless := by
  induction count generalizing first with
  | zero => exact tells_pure []
  | succ count ih => exact (entry.phaseless_call _).bind fun _ => (ih _).bind fun _ => tells_pure _

theorem phaseless_foldFrom (acc : Value) (first count : Nat) :
    (entry.foldFrom z acc first count).Phaseless := by
  induction count generalizing acc first with
  | zero => exact tells_pure acc
  | succ count ih => exact (entry.phaseless_call _).bind fun v => ih v _

theorem phaseless_foldValues (acc : Value) (values : List Value) :
    (entry.foldValues acc values).Phaseless := by
  induction values generalizing acc with
  | nil => exact tells_pure acc
  | cons v vs ih => exact (entry.phaseless_call _).bind fun acc => ih acc

end Entry

namespace Pool

theorem phaseless_compute (blank : α) (n : Nat) {task : Nat → Action α}
    (h : ∀ i, (task i).Phaseless) : (compute blank n task).Phaseless := by
  have hfinish (order : List Nat) : (finish task order).Phaseless := by
    induction order with
    | nil => exact tells_pure []
    | cons i rest ih => exact (h i).bind fun _ => ih.bind fun _ => tells_pure _
  exact tells_get.bind fun _ => (hfinish _).bind fun _ => tells_pure _

theorem phaseless_callAll (entry : Entry) (z : Zipped) : (callAll entry z).Phaseless :=
  phaseless_compute _ _ fun _ => entry.phaseless_call _

theorem phaseless_fold (threads : Nat) (entry : Entry) (z : Zipped) (neutral : Value) :
    (fold threads entry z neutral).Phaseless := by
  rw [fold]
  split
  · exact entry.phaseless_foldFrom z neutral 0 z.length
  · refine (phaseless_compute _ _ fun _ => entry.phaseless_foldFrom z neutral _ _).bind fun _ => ?_
    exact (phaseless_tell (by simp [Event.phase?])).bind fun _ => entry.phaseless_foldValues _ _

end Pool

namespace Tiering

variable {c c' : Context} {s : Site} {unit : CompiledUnit}

theorem phaseless_columns (z : Zipped) : (columns z).Phaseless := by
  unfold columns
  split
  · exact (tells_ofExcept _ _).map some
  · split
    · exact (phaseless_tell (by simp [Event.phase?])).bind fun _ => tells_pure _
    · exact tells_fail _

theorem phaseless_resolve (f : Function) : (resolve f).Phaseless := by
  refine (phaseless_lookup f).bind fun entry => tells_get.bind fun c => ?_
  split
  · refine (tells_modify _).bind fun _ => ?_
    split
    · exact tells_update _
    · exact tells_pure entry
  · exact tells_pure entry

theorem phaseless_deviceEnabled (f : FunctionId) : (deviceEnabled f).Phaseless := by
  refine tells_get.bind fun c => ?_
  dsimp only
  split
  · exact tells_pure _
  · split
    · exact (phaseless_tell (by simp [Event.phase?])).bind fun _ => tells_pure _
    · exact tells_pure _

theorem phaseless_compile (s : Site) (graph : Graph) : (compile s graph).Phaseless := by
  refine tells_get.bind fun c => ?_
  dsimp only
  -- what follows is the same whether or not the graph is reported
  cases c.compiler.compile graph.shape s.input.type s.output s.entry.body.scope with
  | error e =>
    dsimp only
    split
    · exact (phaseless_tell (by simp [Event.phase?])).bind fun _ => tells_pure _
    · exact tells_pure _
  | ok result =>
    dsimp only
    split
    · exact (phaseless_tell (by simp [Event.phase?])).bind fun _ => tells_update _
    · exact tells_update _

theorem phaseless_tellFailure (e : CompileError) : (tellFailure e).Phaseless := by
  refine (phaseless_tell (by simp [Event.phase?])).bind fun _ => tells_get.bind fun c => ?_
  split
  · exact phaseless_tell (by simp [Event.phase?])
  · exact tells_pure _

/-- Interpreting is no concern of the device. -/
theorem interpretRest_idle (entry : Entry) (z : Zipped) (first : Value) (rest : Nat)
    (type : Option RowType) (c : Context) :
    (interpretRest entry z first rest type).Ensures c fun _ c' es =>
      c' = c ∧ Event.launches es = 0 := by
  have hquiet : (interpretRest entry z first rest type).Quiet :=
    (quiet_of_contained (entry.contained_callFrom z (fun _ => trivial) 1 rest)).bind fun _ =>
      quiet_pure _
  have hphaseless : (interpretRest entry z first rest type).Phaseless :=
    (entry.phaseless_callFrom z 1 rest).bind fun _ => tells_pure _
  exact (hquiet c).and (hphaseless.launches c)

/-- Execution on the device is not entered while a graph is looked out for. -/
theorem trace_tells (s : Site) (first count : Nat) :
    (trace s first count).Tells fun e => e.phase? ≠ some .executing := by
  induction count generalizing first with
  | zero => exact tells_pure _
  | succ count ih =>
    refine ((s.entry.phaseless_call _).tells _).bind fun v => (tells_update _).bind fun graph => ?_
    cases graph with
    | none =>
      refine (ih _).bind fun rest => ?_
      cases rest <;> exact tells_pure _
    | some graph =>
      refine (tells_tell (by simp [Event.phase?])).bind fun _ =>
        ((phaseless_compile s graph).tells _).bind fun compiled => ?_
      cases compiled with
      | ok unit => exact (tells_tell (by simp [Event.phase?])).bind fun _ => tells_pure _
      | error e =>
        exact ((phaseless_tellFailure e).tells _).bind fun _ =>
          ((s.entry.phaseless_callFrom s.elements _ _).tells _).bind fun _ => tells_pure _

end Tiering

/-! ## Attempts -/

/-- Nothing has been done on the device: the executors and what is known of functions are the same
too, and entries keep their traces. -/
structure Context.Prepared (c c' : Context) : Prop where
  device : c'.device = c.device
  executors : c'.executors = c.executors
  functions : c'.functions = c.functions
  options : c'.options = c.options
  names : ∀ e t, c.detector.Names e t → c'.detector.Names e t

namespace Context.Prepared

variable {c c' c'' : Context}

theorem refl (c : Context) : c.Prepared c := ⟨rfl, rfl, rfl, rfl, fun _ _ h => h⟩

theorem trans (h : c.Prepared c') (h' : c'.Prepared c'') : c.Prepared c'' :=
  ⟨h'.device.trans h.device, h'.executors.trans h.executors, h'.functions.trans h.functions,
    h'.options.trans h.options, fun e t hnames => h'.names e t (h.names e t hnames)⟩

end Context.Prepared

/-- Running on the device was abandoned: the flag was raised, or the device failed in a way that the
interpreter can make up for. -/
def Attempt.abandoned (attempt : Attempt) : Bool :=
  match attempt.result with
  | .ok (some _) => false
  | .ok none => true
  | .error e => e.isRecoverable

namespace Tiering

variable {c c' : Context} {s : Site} {unit : CompiledUnit}

/-- Looking out for a graph gets no further than a cached unit. -/
theorem trace_prepares (s : Site) (first count : Nat) (hnone : c.units.get? s.trace = none) :
    (trace s first count).Ensures c fun r c' _ => c.Prepared c' ∧
      ∀ unit, r = .ok (.inl unit) → c'.units.get? s.trace = some unit := by
  -- the detector moves on with each element, so the context has to be a general one
  induction count generalizing first c with
  | zero => exact ⟨.refl c, fun _ heq => by cases heq⟩
  | succ count ih =>
    rw [trace, ensures_bind]
    refine (s.entry.quiet_call _ c).mono ?_
    rintro r c₀ es rfl
    cases r with
    | error e => exact ⟨.refl _, fun _ heq => by cases heq⟩
    | ok v =>
      have hprobe : c₀.Prepared { c₀ with detector := (c₀.detector.probe s.trace).2 } :=
        ⟨rfl, rfl, rfl, rfl, fun _ _ hnames => hnames.probe s.trace⟩
      simp only [Post.after_ok, ensures_bind, probe, ensures_update]
      cases (c₀.detector.probe s.trace).1 with
      | none =>
        simp only [ensures_bind]
        refine (ih (c := { c₀ with detector := (c₀.detector.probe s.trace).2 }) (first + 1)
          hnone).mono ?_
        rintro r c₁ es' ⟨hprepared, hunit⟩
        cases r with
        | error e => exact ⟨hprobe.trans hprepared, fun _ heq => by cases heq⟩
        | ok rest =>
          cases rest with
          | inl unit =>
            refine ⟨hprobe.trans hprepared, fun unit' heq => ?_⟩
            obtain rfl := Sum.inl.inj (Except.ok.inj heq)
            exact hunit unit rfl
          | inr vs => exact ⟨hprobe.trans hprepared, fun _ heq => by cases heq⟩
      | some graph =>
        simp only [ensures_bind, ensures_tell, Post.after_ok]
        refine (compile_cases s graph _).mono ?_
        rintro r c₁ es' (⟨e, rfl, rfl⟩ | ⟨kernel, compiler, -, rfl, rfl⟩)
        · -- the detector is not asked again
          simp only [Post.after_ok, ensures_bind]
          refine (tellFailure_ensures e _).mono ?_
          rintro r c₂ es'' ⟨rfl, rfl⟩
          rw [Post.after_ok, ensures_bind]
          refine (s.entry.callFrom_ensures s.elements (first + 1) count _).mono ?_
          rintro r c₃ es₃ ⟨rfl, rfl, -⟩
          cases s.entry.body.callFrom s.elements (first + 1) count with
          | error e => exact ⟨hprobe, fun _ heq => by cases heq⟩
          | ok vs => exact ⟨hprobe, fun _ heq => by cases heq⟩
        · -- there was no unit before, so that the new one is cached
          rw [install_of_none hnone]
          simp only [Post.after_ok, ensures_bind, ensures_tell, ensures_pure]
          refine ⟨hprobe.trans ⟨rfl, rfl, rfl, rfl, fun _ _ hnames => hnames⟩, fun unit heq => ?_⟩
          obtain rfl := Sum.inl.inj (Except.ok.inj heq)
          simp

/-- Giving the device up is counted. -/
theorem deoptimize_counts (s : Site) (unit : CompiledUnit) (reason : String) (c : Context) :
    (deoptimize s unit reason).Ensures c fun _ c' es => Event.launches es = 0 ∧
      c' = { c with functions := (c.functions.recordDeopt s.function).2 } := by
  have htells : (deoptimize s unit reason).Tells fun e => e.phase? ≠ some .executing := by
    refine (tells_tell (by simp [Event.phase?])).bind fun _ => (tells_update _).bind fun _ => ?_
    refine (tells_tell (by simp [Event.phase?])).bind fun _ => ?_
    exact ((s.entry.phaseless_callFrom s.elements 0 _).tells _).bind fun _ => tells_pure _
  have hcontext : (deoptimize s unit reason).Ensures c fun _ c' _ =>
      c' = { c with functions := (c.functions.recordDeopt s.function).2 } := by
    unfold deoptimize
    simp only [ensures_bind, ensures_tell, Post.after_ok, ensures_update]
    refine (s.entry.quiet_callAll s.elements _).mono ?_
    rintro r c' es rfl
    cases r <;> rfl
  exact (htells.launches c).and hcontext

/-- A call that has got to the device makes one attempt there, with the executor of its trace. -/
theorem execute_deploys (s : Site) (unit : CompiledUnit) (c : Context) {attempt : Attempt}
    (h : (c.executorOf s.trace unit).attempt c.device s.input = attempt) :
    (execute s unit).Ensures c fun _ c' es => Event.launches es = 1 ∧
      c' = { c with
        executors := c.executors.insert s.trace attempt.executor
        device := attempt.device
        functions := if attempt.abandoned then (c.functions.recordDeopt s.function).2
          else c.functions } := by
  unfold execute
  simp only [ensures_bind, ensures_tell, Post.after_ok]
  refine (launch_ensures_attempt s unit c h).mono ?_
  rintro r c' es ⟨rfl, rfl, hes⟩
  have hflags : Event.launches es = 0 := by
    refine Event.launches_eq_zero fun e he => ?_
    rw [hes, List.mem_map] at he
    obtain ⟨flag, -, rfl⟩ := he
    simp [Event.phase?]
  have hlaunch {es' : List Event} (h : Event.launches es' = 0) :
      Event.launches (.entered .executing :: (es ++ es')) = 1 := by
    have hone : Event.launches [.entered .executing] = 1 := rfl
    rw [← List.singleton_append, Event.launches_append, Event.launches_append, hone, hflags, h]
  -- both ways to abandon the run come to this
  have hgive (reason : String) : (deoptimize s unit reason).Ensures { c with
      executors := c.executors.insert s.trace attempt.executor
      device := attempt.device } fun _ c' es' =>
        Event.launches (.entered .executing :: (es ++ es')) = 1 ∧
        c' = { c with
          executors := c.executors.insert s.trace attempt.executor
          device := attempt.device
          functions := (c.functions.recordDeopt s.function).2 } :=
    (deoptimize_counts s unit reason _).mono fun _ _ _ h => ⟨hlaunch h.1, h.2⟩
  rw [Post.after_ok, Attempt.abandoned]
  cases attempt.result with
  | error e =>
    dsimp only
    split
    next => exact hgive _
    next => exact ⟨hlaunch rfl, rfl⟩
  | ok array? =>
    cases array? with
    | none => exact hgive _
    | some array => exact ⟨hlaunch rfl, rfl⟩

/-- A call makes the attempt, if any, with the unit that is cached for its trace in the end. The
attempt alone tells what becomes of the device, and whether one more abandoned run is counted. -/
structure Deploys (s : Site) (c c' : Context) (attempt? : Option Attempt) : Prop where
  unit : ∀ attempt, attempt? = some attempt → ∃ unit, c'.units.get? s.trace = some unit ∧
    (c.executorOf s.trace unit).attempt c.device s.input = attempt
  device : c'.device = (attempt?.map Attempt.device).getD c.device
  functions : c'.functions = if attempt?.any Attempt.abandoned
    then (c.functions.recordDeopt s.function).2 else c.functions
  options : c'.options = c.options
  names : ∀ e t, c.detector.Names e t → c'.detector.Names e t

theorem deploys_none (h : c.Prepared c') : Deploys s c c' none where
  unit attempt hattempt := by cases hattempt
  device := h.device
  functions := h.functions
  options := h.options
  names := h.names

/-- After its first element a call makes one attempt at most. -/
theorem proceed_deploys (s : Site) (first : Value) (rest : Nat) (c : Context) :
    (proceed s first rest).Ensures c fun _ c' es => ∃ attempt?,
      Event.launches es = attempt?.toList.length ∧ Deploys s c c' attempt? := by
  -- the unit may come from an earlier call or have been compiled in this one
  have hexecute {c₁ : Context} {unit : CompiledUnit} (h : c.Prepared c₁)
      (hunit : c₁.units.get? s.trace = some unit) :
      (execute s unit).Ensures c₁ fun _ c' es => ∃ attempt?,
        Event.launches es = attempt?.toList.length ∧ Deploys s c c' attempt? := by
    refine (execute_deploys s unit c₁ rfl).mono ?_
    rintro r c' es ⟨hes, rfl⟩
    have hexecutor : c₁.executorOf s.trace unit = c.executorOf s.trace unit := by
      rw [Context.executorOf, Context.executorOf, h.executors]
    rw [hexecutor, h.device, h.executors, h.functions]
    refine ⟨some ((c.executorOf s.trace unit).attempt c.device s.input), hes, ?_⟩
    refine ⟨fun attempt hattempt => ⟨unit, hunit, Option.some.inj hattempt⟩, rfl, rfl,
      h.options, h.names⟩
  unfold proceed
  simp only [ensures_bind, ensures_get, Post.after_ok]
  cases hunit : c.units.get? s.trace with
  | some unit =>
    dsimp only
    split
    next =>
      simp only [ensures_bind, ensures_tell, Post.after_ok]
      refine (hexecute (.refl c) hunit).mono ?_
      rintro r c' es ⟨attempt?, hes, hdeploys⟩
      exact ⟨attempt?, hes, hdeploys⟩
    next =>
      -- the unit was compiled for other types
      simp only [ensures_bind, ensures_tell, Post.after_ok]
      refine (interpretRest_idle s.entry s.elements first rest _ c).mono ?_
      rintro r c' es ⟨rfl, hes⟩
      exact ⟨none, hes, deploys_none (.refl _)⟩
  | none =>
    simp only [ensures_bind]
    refine ((trace_prepares s 1 rest hunit).and ((trace_tells s 1 rest).launches c)).mono ?_
    rintro r c₁ es ⟨⟨hprepared, hcached⟩, hes⟩
    cases r with
    | error e => exact ⟨none, hes, deploys_none hprepared⟩
    | ok traced =>
      rw [Post.after_ok]
      cases traced with
      | inl unit =>
        refine (hexecute hprepared (hcached unit rfl)).mono ?_
        rintro r c' es' ⟨attempt?, hes', hdeploys⟩
        exact ⟨attempt?, by simp [hes, hes'], hdeploys⟩
      | inr values =>
        rw [ensures_pure]
        exact ⟨none, by simp [hes], deploys_none hprepared⟩

end Tiering

end TieredVectors
