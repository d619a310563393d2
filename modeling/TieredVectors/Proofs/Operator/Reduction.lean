import TieredVectors.Proofs.Operator.Arity
import TieredVectors.Proofs.Operator.Retyping

/-!
# Folding now or later

A vector is folded at once, or a stage is registered that folds it when it is executed. Where the
interpreter folds in order, both fold the same elements with the same entry (`Operator.folded`), so
that they fail alike or arrive at the same value. But a stage makes its result a vector of the type
of its sample, where the type is otherwise that of the value itself, and
`Context.folds_now_as_later_iff` tells when this makes a difference.
-/

namespace TieredVectors

open TieredVectors.Action

variable {α : Type} {p : Program} {c d d' : Context} {x : Operand} {f : Function}
  {companions : List DataVector} {input : StageInput} {n : Nat}

namespace Operand

/-- The elements of an operand, which are computed if they are not known. -/
def elements : Operand → Action DataVector
  | .vector v => pure v
  | .pending handle => Operator.materialize handle

/-- If the operand is a stage, its number is at most `n`. -/
def Within (n : Nat) (x : Operand) : Prop := ∀ handle, x = .pending handle → handle.index ≤ n

/-- A stage from which a sample has been taken is registered. -/
theorem Feeds.within (hx : x.Feeds companions input) (hordered : c.stages.Ordered)
    {task : StageTask} {g : FunctionId} {v : Option Value}
    (hsample : c.sampleFor p task g input = .ok v) : x.Within c.stages.last := by
  intro handle hhandle
  cases hx with
  | vector hz columns => cases hhandle
  | pending parent =>
    obtain rfl := Operand.pending.inj hhandle
    obtain ⟨first, hfirst, -⟩ := bind_eq_ok.1 hsample
    rw [StageInput.first?] at hfirst
    cases hstage : c.stages.get? parent with
    | none => simp [hstage] at hfirst
    | some stage =>
      exact (hordered parent stage.input (by simp [StageRegistry.input?, hstage])).1

/-- The elements do not depend on what lies ahead of them. -/
theorem ahead_elements (hx : x.Within n) :
    x.elements.Coupled (Context.Ahead p n) (Context.Ahead p n) Eq x.elements := by
  cases x with
  | vector v => exact coupled_pure rfl
  | pending handle => exact Operator.ahead_materialize (hx handle rfl)

theorem elements_ensures (h : d.Ahead p n d') (hx : x.Within n) :
    x.elements.Ensures d' fun r c' _ =>
      r = (x.elements.run d).result ∧ (x.elements.run d).context.Ahead p n c' := by
  obtain ⟨hresult, hcontext, -⟩ := ahead_elements hx d d' h
  exact ⟨hresult.eq.symm, hcontext⟩

end Operand

namespace Context

theorem Ahead.target_eq (h : d.Ahead p n d') : d'.functions.target p = d.functions.target p := by
  funext g
  rw [FunctionRegistry.target_eq_record, FunctionRegistry.target_eq_record, h.records]

/-- What has been seen since, and a further stage, lie ahead of all stages. -/
theorem Sound.ahead (h : d.Sound p.Knows) (hoffload : d.options.execution = .offload)
    {functions : FunctionRegistry} {stages : StageRegistry}
    (hrecords : ∀ g, functions.record p g = d.functions.record p g)
    (hstages : ∀ handle : StageHandle, handle.index ≤ n →
      stages.get? handle = d.stages.get? handle) :
    d.Ahead p n { d with functions, stages } :=
  ⟨rfl, hoffload, hrecords, hstages, fun handle stage _ hstage => (h.stages handle stage hstage).1⟩

end Context

/-- The type plays no part in folding. -/
theorem Body.reduce_cases (body : Body) (v : DataVector) (companions : List DataVector)
    (neutral : Value) :
    (∃ e, ∀ type, body.reduce v companions neutral type = .error e) ∨
      ∃ value, ∀ type, body.reduce v companions neutral type =
        .ok (DataVector.ofResults [value] (type <|> value.inferOutput.toOption)).1 := by
  unfold Body.reduce
  cases Zipped.make v companions with
  | error e => exact .inl ⟨_, fun _ => rfl⟩
  | ok z =>
    cases hvalue : body.foldFrom z neutral 0 z.length with
    | error e =>
      refine .inl ⟨.eval e, fun _ => ?_⟩
      change ((body.foldFrom z neutral 0 z.length).mapError OperatorError.eval >>= _) = _
      rw [hvalue]
      rfl
    | ok value =>
      refine .inr ⟨value, fun _ => ?_⟩
      change ((body.foldFrom z neutral 0 z.length).mapError OperatorError.eval >>= _) = _
      rw [hvalue]
      rfl

namespace Operator

/-- The elements of an operand, folded by what is called for a function by the time that they are
known. The result is a vector of the given type, or else of its own. -/
def folded (p : Program) (d : Context) (x : Operand) (f : FunctionId) (neutral : Value)
    (companions : List DataVector) (type : Option RowType) : Except OperatorError DataVector := do
  let v ← (x.elements.run d).result
  ((x.elements.run d).context.functions.target p f).entry.body.reduce v companions neutral type

theorem folded_cases (p : Program) (d : Context) (x : Operand) (f : FunctionId) (neutral : Value)
    (companions : List DataVector) :
    (∃ e, ∀ type, folded p d x f neutral companions type = .error e) ∨
      ∃ value, ∀ type, folded p d x f neutral companions type =
        .ok (DataVector.ofResults [value] (type <|> value.inferOutput.toOption)).1 := by
  unfold folded
  cases (x.elements.run d).result with
  | error e => exact .inl ⟨e, fun _ => rfl⟩
  | ok v => exact Body.reduce_cases _ v companions neutral

theorem reduceVector_folded {v : DataVector} (hv : (x.elements.run d).result = .ok v)
    (hc : (x.elements.run d).context.Ahead p n c) (stages : StageRegistry) (hf : p.Knows f)
    (neutral : Value) (type : Option RowType) :
    (reduceVector f v companions neutral type).Ensures { c with stages } fun r _ _ =>
      r = folded p d x f.id neutral companions type := by
  have hoffload : c.options.execution = .offload := hc.options_eq ▸ hc.offload
  refine (reduceVector_of_offload (c := { c with stages }) hoffload hf neutral type).mono ?_
  rintro r c' es ⟨rfl, -, -⟩
  rw [folded, hv, hc.target_eq]
  rfl

/-- Folding now. -/
theorem terminalReduce_folded (h : d.Ahead p n d) (hx : x.Within n) (hf : p.Knows f)
    (harity : f.arity = 2 + companions.length) (neutral : Value) :
    (terminalReduce x f neutral companions).Ensures d fun r _ _ =>
      r = folded p d x f.id neutral companions none := by
  unfold terminalReduce checkArity
  rw [if_pos harity, pure_bind]
  -- without elements there is nothing to fold
  have hfailed (e : OperatorError) (he : (x.elements.run d).result = .error e) :
      .error e = folded p d x f.id neutral companions none := by
    rw [folded, he]
    rfl
  cases x with
  | vector v =>
    obtain ⟨-, hahead⟩ := Operand.elements_ensures (x := .vector v) h hx
    exact reduceVector_folded (x := .vector v) rfl hahead _ hf neutral none
  | pending handle =>
    -- the chain is cleared between the elements and the fold
    dsimp only
    rw [ensures_bind, execute, ensures_thenAlways]
    refine (Operand.elements_ensures (x := .pending handle) h hx).mono ?_
    rintro r c' es ⟨hr, hahead⟩
    rw [clearChain, ensures_bind, ensures_update, Post.after_ok, ensures_tell]
    cases r with
    | error e => exact hfailed e hr.symm
    | ok v => exact reduceVector_folded hr.symm hahead _ hf neutral none

theorem stageElements_of_feeds {stage : Stage} (hinput : stage.input = input)
    (hx : x.Feeds companions input) : stageElements stage = x.elements := by
  rw [stageElements, hinput]
  cases hx <;> rfl

/-- What follows a fold of the elements, in a context that may be ahead. -/
theorem ensures_fold_bind (h : d.Ahead p n d') (hx : x.Within n) (hf : p.Knows f) {neutral : Value}
    {type : Option RowType} {next : DataVector → Action α} {post : Post α}
    (herror : ∀ e c' es, folded p d x f.id neutral companions type = .error e →
      post (.error e) c' es)
    (hok : ∀ y c' es, folded p d x f.id neutral companions type = .ok y →
      (next y).Ensures c' fun r c'' es' => post r c'' (es ++ es')) :
    (x.elements >>= fun v => reduceVector f v companions neutral type >>= next).Ensures d'
      post := by
  rw [ensures_bind]
  refine (Operand.elements_ensures h hx).mono ?_
  rintro r c₁ es ⟨hr, hahead⟩
  cases r with
  | error e =>
    refine herror e c₁ es ?_
    rw [folded, ← hr]
    rfl
  | ok v =>
    rw [Post.after_ok, ensures_bind]
    refine (reduceVector_folded hr.symm hahead c₁.stages hf neutral type).mono ?_
    rintro r c₂ es' hr'
    cases r with
    | error e => exact herror e c₂ _ hr'.symm
    | ok y =>
      rw [Post.after_ok]
      refine (hok y c₂ (es ++ es') hr'.symm).mono fun r c₃ es'' hpost => ?_
      rw [← List.append_assoc]
      exact hpost

/-- Folding later. A stage that is registered is one that folds the elements when it is executed,
and makes the result a vector of the type of the sample. -/
theorem register_folded (hsound : d.Sound p.Knows) (hordered : d.stages.Ordered)
    (hoffload : d.options.execution = .offload) (hf : p.Knows f) (hx : x.Feeds companions input)
    (neutral : Value) :
    (register (.reduce neutral) f input).Ensures d fun r d' _ => ∀ handle, r = .ok handle →
      ∃ v, d.sampleFor p (.reduce neutral) f.id input = .ok v ∧
        (execute handle).Ensures d' fun r _ _ =>
          r = folded p d x f.id neutral companions (v.bind fun v => v.inferOutput.toOption) := by
  have hcompanions : input.companions = companions := by cases hx <;> rfl
  unfold register
  rw [ensures_bind]
  refine (sample_of_knows hf (.reduce neutral) input d).mono ?_
  rintro r c₁ es ⟨rfl, ⟨functions, rfl, hrecords⟩, -⟩
  cases hsample : d.sampleFor p (.reduce neutral) f.id input with
  | error e =>
    -- no stage is registered without a sample
    intro handle hhandle
    cases hhandle
  | ok v =>
    have hwithin := hx.within hordered hsample
    rw [Post.after_ok, ensures_bind, ensures_get, Post.after_ok]
    dsimp only
    cases hmode : d.options.stages with
    | deferred =>
      dsimp only
      rw [ensures_bind, ensures_pure, Post.after_ok, ensures_update]
      rintro handle ⟨⟩
      refine ⟨v, rfl, ?_⟩
      -- the stage lies ahead of those that it reads from
      have hahead : d.Ahead p d.stages.last { d with
          functions, stages := (d.stages.add (.ofSample (.reduce neutral) f input v)).2 } := by
        refine hsound.ahead hoffload hrecords fun handle hle => ?_
        rw [StageRegistry.get?_add, if_neg]
        rintro rfl
        exact absurd hle (Nat.not_succ_le_self _)
      have hlt (parent : StageHandle) (hparent : input.parent? = some parent) :
          parent.index < d.stages.last + 1 := by
        cases hx with
        | vector hz columns => cases hparent
        | pending handle =>
          obtain rfl := Option.some.inj hparent
          exact Nat.lt_succ_of_le (hwithin handle rfl)
      rw [execute, ensures_thenAlways]
      refine (ensures_materialize_of_due (StageRegistry.get?_add_self ..) rfl hlt).2 ?_
      rw [stageElements_of_feeds rfl hx, ← hcompanions]
      refine ensures_fold_bind hahead hwithin hf (fun e c' es he => ?_) fun y c' es hy => ?_
      · exact he.symm
      · exact hy.symm
    | eager =>
      -- the result is computed now, and kept for the time when the stage is executed
      dsimp only
      have hahead : d.Ahead p d.stages.last { d with functions } :=
        hsound.ahead hoffload hrecords fun _ _ => rfl
      rw [stageElements_of_feeds rfl hx, ← hcompanions]
      refine ensures_fold_bind hahead hwithin hf (fun e c' es he => ?_) fun y c' es hy => ?_
      · intro handle hhandle
        cases hhandle
      · rw [pure_bind, ensures_update]
        rintro handle ⟨⟩
        refine ⟨v, rfl, ?_⟩
        rw [execute, ensures_thenAlways]
        exact (ensures_materialize_of_result (StageRegistry.get?_add_self ..) rfl).2 hy.symm

end Operator

/-- A result of the type of the sample is the result of its own type, if that type does not alter
it; in particular if there is no sample, or the sample has no type. -/
theorem DataVector.ofResults_sampled_eq_iff (value : Value) (sample : Option Value) :
    (ofResults [value] ((sample.bind fun v => v.inferOutput.toOption) <|>
        value.inferOutput.toOption)).1 = (ofResults [value] value.inferOutput.toOption).1 ↔
      ∀ v type, sample = some v → v.inferOutput = .ok type → value.SameUnder type := by
  cases sample with
  | none => exact ⟨nofun, fun _ => rfl⟩
  | some v =>
    cases htype : v.inferOutput with
    | error e =>
      refine ⟨fun _ v' type hv' htype' => ?_, fun _ => by simp [htype, Except.toOption]⟩
      rw [← Option.some.inj hv', htype] at htype'
      cases htype'
    | ok type =>
      have hexpected : ((some v).bind fun v => v.inferOutput.toOption) = some type := by
        simp [htype, Except.toOption]
      rw [hexpected]
      refine (ofResults_singleton_eq_iff value type).trans
        ⟨fun hsame v' type' hv' htype' => ?_, fun hsame => hsame v type rfl htype⟩
      rw [← Option.some.inj hv', htype] at htype'
      exact Except.ok.inj htype' ▸ hsame

namespace Context

/-- Fold an operand at once. -/
def foldNow (d : Context) (x : Operand) (f : Function) (neutral : Value)
    (companions : List DataVector) : Except OperatorError DataVector :=
  ((Operator.terminalReduce x f neutral companions).run d).result

/-- Register a stage that folds an operand, and execute it. -/
def foldLater (d : Context) (x : Operand) (f : Function) (neutral : Value)
    (companions : List DataVector) : Except OperatorError DataVector :=
  ((Operator.reduce x f neutral companions >>= Operator.execute).run d).result

/-- After any history of requests with known functions, if the interpreter folds in order: where a
stage can be registered that folds an operand, a vector or a stage itself, with any companions,
executing it and folding the operand at once either fail with the same error or fold to the same
value. Folded at once the value becomes a vector of its own type. The stage makes it a vector of the
type of its sample, if that has one. So the two agree exactly if that type does not alter the value
(`Value.SameUnder`). -/
theorem folds_now_as_later_iff (h : c.Fresh) {requests : List Request}
    (huses : ∀ request ∈ requests, request.Uses p.Knows)
    (hoffload : (c.after requests).options.execution = .offload) (x : Operand) (f : FunctionId)
    (neutral : Value) (companions : List DataVector) {handle : StageHandle}
    (hreduce : ((Operator.reduce x (p.function f) neutral companions).run
      (c.after requests)).result = .ok handle) :
    (∃ e, (c.after requests).foldLater x (p.function f) neutral companions = .error e ∧
      (c.after requests).foldNow x (p.function f) neutral companions = .error e) ∨
    ∃ value input sample, x.Feeds companions input ∧
      (c.after requests).sampleFor p (.reduce neutral) f input = .ok sample ∧
      (c.after requests).foldLater x (p.function f) neutral companions =
        .ok (DataVector.ofResults [value]
          ((sample.bind fun v => v.inferOutput.toOption) <|> value.inferOutput.toOption)).1 ∧
      (c.after requests).foldNow x (p.function f) neutral companions =
        .ok (DataVector.ofResults [value] value.inferOutput.toOption).1 ∧
      ((c.after requests).foldLater x (p.function f) neutral companions =
          (c.after requests).foldNow x (p.function f) neutral companions ↔
        ∀ v type, sample = some v → v.inferOutput = .ok type → value.SameUnder type) := by
  have hknows : p.Knows (p.function f) := rfl
  have hsound : (c.after requests).Sound p.Knows := (h.reachable_after huses).sound fun _ => id
  have hordered := h.ordered_after requests
  obtain ⟨e, hfail⟩ | ⟨harity, input, hfeeds, hregister⟩ :=
    Operator.reduce_cases x (p.function f) neutral companions
  · -- a vector that cannot be zipped, or an arity that does not fit
    rw [hfail] at hreduce
    cases hreduce
  · have hregistered := Operator.register_folded hsound hordered hoffload hknows hfeeds neutral
    rw [← hregister] at hregistered
    obtain ⟨sample, hsample, hexecute⟩ := hregistered handle hreduce
    have hlater : (c.after requests).foldLater x (p.function f) neutral companions =
        Operator.folded p (c.after requests) x f neutral companions
          (sample.bind fun v => v.inferOutput.toOption) := by
      have hbind :
          (Operator.reduce x (p.function f) neutral companions >>= Operator.execute).Ensures
            (c.after requests) fun r _ _ => r = Operator.folded p (c.after requests) x f neutral
              companions (sample.bind fun v => v.inferOutput.toOption) := by
        rw [ensures_bind, Action.Ensures, hreduce]
        exact hexecute
      exact hbind
    have hnow : (c.after requests).foldNow x (p.function f) neutral companions =
        Operator.folded p (c.after requests) x f neutral companions none :=
      Operator.terminalReduce_folded (hsound.ahead hoffload (fun _ => rfl) fun _ _ => rfl)
        (hfeeds.within hordered hsample) hknows harity neutral
    rw [hlater, hnow]
    obtain ⟨e, he⟩ | ⟨value, hvalue⟩ :=
      Operator.folded_cases p (c.after requests) x f neutral companions
    · exact .inl ⟨e, he _, he _⟩
    · refine .inr ⟨value, input, sample, hfeeds, hsample, hvalue _, hvalue none, ?_⟩
      rw [hvalue, hvalue, Except.ok.injEq]
      exact DataVector.ofResults_sampled_eq_iff value sample

/-- A stage that increments three words. -/
def wordsStage : List Request := [.operate (.pendingMap (.int [1, 2, 3]) Operator.increment [])]

theorem folds_now_as_later_addition :
    initial.Fresh ∧ (∀ request ∈ wordsStage, request.Uses additionProgram.Knows) ∧
      (initial.after wordsStage).options.execution = .offload ∧
      ((Operator.reduce (.pending ⟨1⟩) (additionProgram.function ⟨1⟩) (.int 0) []).run
        (initial.after wordsStage)).result = .ok ⟨2⟩ ∧
      (initial.after wordsStage).foldNow (.pending ⟨1⟩) (additionProgram.function ⟨1⟩) (.int 0) [] =
        .ok (.int [9]) ∧
      ∃ (value : Value) (sample : Option Value), (initial.after wordsStage).foldLater (.pending ⟨1⟩)
          (additionProgram.function ⟨1⟩) (.int 0) [] = .ok (DataVector.ofResults [value]
            ((sample.bind fun v => v.inferOutput.toOption) <|> value.inferOutput.toOption)).1 ∧
        ((initial.after wordsStage).foldLater (.pending ⟨1⟩) (additionProgram.function ⟨1⟩)
            (.int 0) [] = .ok (.int [9]) ↔
          ∀ v type, sample = some v → v.inferOutput = .ok type → value.SameUnder type) := by
  have huses : ∀ request ∈ wordsStage, request.Uses additionProgram.Knows := by
    simp [wordsStage, Request.Uses, Operation.function?, Program.Knows, additionProgram,
      Operator.increment]
  have hnow : (initial.after wordsStage).foldNow (.pending ⟨1⟩) (additionProgram.function ⟨1⟩)
      (.int 0) [] = .ok (.int [9]) := by
    unfold foldNow Operator.terminalReduce Operator.execute Operator.materialize
    rfl
  refine ⟨initial_fresh, huses, rfl, rfl, hnow, ?_⟩
  obtain ⟨e, -, he⟩ | ⟨value, input, sample, -, -, hlater, -, hiff⟩ :=
    folds_now_as_later_iff initial_fresh huses rfl (.pending ⟨1⟩) ⟨1⟩ (.int 0) [] rfl
  · rw [hnow] at he
    cases he
  · rw [hnow] at hiff
    exact ⟨value, sample, hlater, hiff⟩

/-- The second of two arguments. -/
def second : Function where
  id := ⟨0⟩
  body := (Expr.arg 1).toBody ["acc", "x"] [] none

/-- Of a truth value and a word the word is the last. Folded at once it is a vector of words. The
sample is the truth value, so that a stage leaves the word in a list, whether it is computed when it
is registered or not before it is executed. -/
theorem later_word_stays_in_list :
    initial.Fresh ∧ ∀ stages,
      (initial.after [.setOptions { stages }]).options.execution = .offload ∧
      (initial.after [.setOptions { stages }]).foldNow (.vector (.list [.bool true, .int 2])) second
        (.int 0) [] = .ok (.int [2]) ∧
      (initial.after [.setOptions { stages }]).foldLater (.vector (.list [.bool true, .int 2]))
        second (.int 0) [] = .ok (.list [.int 2]) := by
  refine ⟨initial_fresh, fun stages => ⟨rfl, rfl, ?_⟩⟩
  unfold foldLater Operator.execute Operator.materialize
  cases stages <;> rfl

end Context

end TieredVectors
