import TieredVectors.Proofs.Operator.Calls

/-!
# Computing

Calling a function for each element, and folding elements with one, is all that the tiers and the
pools are for. None of it registers a stage or drops one, and none of it changes an option: this is
`Action.Computes`, and `Operator.computes_computeStage` is what the theory of stages needs of it.
-/

namespace TieredVectors

/-- An error of the function, of the data, of the device or of the workers. -/
def OperatorError.OfComputing : OperatorError → Prop
  | .eval _ | .type _ | .tier _ | .workerPool _ _ => True
  | _ => False

/-- What computing leaves alone: the stages, the options and the schedule. -/
def Context.bystanders (c : Context) : StageRegistry × Options × Schedule :=
  (c.stages, c.options, c.schedule)

/-- The action leaves stages, options and schedule alone, and fails only as computing does. -/
abbrev Action.Computes {α : Type} (a : Action α) : Prop :=
  a.Contained Context.bystanders OperatorError.OfComputing

namespace Action

variable {α : Type} {a : Action α} {c : Context}

theorem Computes.stages_eq (h : a.Computes) (c : Context) : (a.run c).context.stages = c.stages :=
  congrArg Prod.fst (h c).1

theorem computes_lookup (f : Function) : (lookup f).Computes := contained_update fun _ => rfl

theorem computes_pool (threads : Nat) : (pool threads).Computes := by
  refine contained_get.bind fun c => ?_
  split
  · exact contained_pure _
  · split
    · exact contained_fail trivial
    · refine (contained_tell _).bind fun _ => ?_
      exact .bind (contained_modify (by intro c; rfl)) fun _ => contained_pure _

end Action

namespace Tiering

open TieredVectors.Action

theorem computes_columns (z : Zipped) : (columns z).Computes := by
  unfold columns
  split
  · exact (contained_ofExcept (fun _ => trivial) _).map _
  · split
    · exact (contained_tell _).bind fun _ => contained_pure _
    · exact contained_fail trivial

theorem computes_resolve (f : Function) : (resolve f).Computes := by
  refine (computes_lookup f).bind fun entry => contained_get.bind fun c => ?_
  split
  · refine .bind (contained_modify (by intro c; rfl)) fun _ => ?_
    split
    · exact contained_update (by intro c; rfl)
    · exact contained_pure _
  · exact contained_pure _

theorem computes_outputType (v : Value) : (outputType v).Computes := by
  unfold outputType
  split
  · exact contained_pure _
  · exact (contained_tell _).bind fun _ => contained_pure _

theorem computes_deviceEnabled (f : FunctionId) : (deviceEnabled f).Computes := by
  refine contained_get.bind fun c => ?_
  split
  · exact contained_pure _
  · dsimp only
    split
    · exact (contained_tell _).bind fun _ => contained_pure _
    · exact contained_pure _

theorem computes_propose (f : FunctionId) (entry : EntryId) : (propose f entry).Computes :=
  contained_update fun _ => rfl

theorem computes_probe (trace : TraceId) : (probe trace).Computes := contained_update fun _ => rfl

theorem computes_compile (s : Site) (graph : Graph) : (compile s graph).Computes := by
  refine contained_get.bind fun c => ?_
  dsimp only
  -- what follows is the same whether or not the graph is reported
  cases c.compiler.compile graph.shape s.input.type s.output s.entry.body.scope with
  | error e =>
    dsimp only
    split
    · exact (contained_tell _).bind fun _ => contained_pure _
    · exact contained_pure _
  | ok result =>
    dsimp only
    split
    · exact .bind (contained_tell _) fun _ => contained_update (by intro c; rfl)
    · exact contained_update (by intro c; rfl)

theorem computes_launch (s : Site) (unit : CompiledUnit) : (launch s unit).Computes := by
  refine contained_get.bind fun c => .bind (contained_modify (by intro c; rfl)) fun _ => ?_
  split
  · dsimp only
    split
    · exact (contained_tell _).bind fun _ => contained_pure _
    · exact contained_pure _
  · exact contained_pure _

theorem computes_deoptimize (s : Site) (unit : CompiledUnit) (reason : String) :
    (deoptimize s unit reason).Computes := by
  refine (contained_tell _).bind fun _ => .bind (contained_update (by intro c; rfl)) fun _ => ?_
  refine (contained_tell _).bind fun _ => .bind ?_ fun _ => contained_pure _
  exact s.entry.contained_callFrom s.elements (fun _ => trivial) 0 _

theorem computes_execute (s : Site) (unit : CompiledUnit) : (execute s unit).Computes := by
  refine (contained_tell _).bind fun _ => (computes_launch s unit).bind fun result => ?_
  split
  · exact (contained_tell _).bind fun _ => contained_pure _
  · exact computes_deoptimize s unit _
  · split
    · exact computes_deoptimize s unit _
    · exact contained_fail trivial

theorem computes_tellFailure (e : CompileError) : (tellFailure e).Computes := by
  refine (contained_tell _).bind fun _ => contained_get.bind fun c => ?_
  split
  · exact contained_tell _
  · exact contained_pure _

theorem computes_trace (s : Site) (first count : Nat) : (trace s first count).Computes := by
  induction count generalizing first with
  | zero => exact contained_pure _
  | succ count ih =>
    refine (s.entry.contained_call (fun _ => trivial) _).bind fun v => ?_
    refine (computes_probe s.trace).bind fun graph? => ?_
    split
    · refine (ih (first + 1)).bind fun rest => ?_
      split <;> exact contained_pure _
    · refine (contained_tell _).bind fun _ => (computes_compile s _).bind fun result => ?_
      split
      · exact (contained_tell _).bind fun _ => contained_pure _
      · refine (computes_tellFailure _).bind fun _ => .bind ?_ fun _ => contained_pure _
        exact s.entry.contained_callFrom s.elements (fun _ => trivial) _ _

theorem computes_interpretRest (entry : Entry) (z : Zipped) (first : Value) (rest : Nat)
    (type : Option RowType) : (interpretRest entry z first rest type).Computes :=
  (entry.contained_callFrom z (fun _ => trivial) 1 rest).bind fun _ => contained_pure _

theorem computes_proceed (s : Site) (first : Value) (rest : Nat) :
    (proceed s first rest).Computes := by
  refine contained_get.bind fun c => ?_
  split
  · split
    · exact (contained_tell _).bind fun _ => computes_execute s _
    · exact (contained_tell _).bind fun _ => computes_interpretRest _ _ _ _ _
  · refine (computes_trace s 1 rest).bind fun result => ?_
    split
    · exact computes_execute s _
    · exact contained_pure _

theorem computes_callEntry (f : FunctionId) (entry : Entry) (z : Zipped)
    (input : Option ColumnArray) : (callEntry f entry z input).Computes := by
  unfold callEntry
  split
  · exact contained_pure _
  · refine (contained_tell _).bind fun _ => ?_
    refine (entry.contained_call (fun _ => trivial) _).bind fun first => ?_
    refine (computes_outputType first).bind fun output => ?_
    refine .bind (contained_modify (by intro c; rfl)) fun _ => ?_
    split
    · refine (computes_deviceEnabled f).bind fun enabled => ?_
      split
      · exact (computes_propose f entry.id).bind fun trace => computes_proceed _ _ _
      · exact computes_interpretRest _ _ _ _ _
    · exact computes_interpretRest _ _ _ _ _

/-- A call through the tiers, whichever way it takes, leaves the stages alone. -/
theorem computes_run (f : Function) (z : Zipped) (input : Option ColumnArray) :
    (run f z input).Computes := by
  have hcall (input : Option ColumnArray) :
      (resolve f >>= fun entry => callEntry f.id entry z input).Computes :=
    (computes_resolve f).bind fun entry => computes_callEntry f.id entry z input
  cases input with
  | none =>
    rw [run_none]
    exact (computes_columns z).bind hcall
  | some array =>
    rw [run_some]
    exact hcall (some array)

end Tiering

namespace Operator

open TieredVectors.Action

variable (f : Function) (x : DataVector) (companions : List DataVector)

theorem computes_zip : (zip x companions).Computes := contained_ofExcept (fun _ => trivial) _

theorem computes_snapshot (z : Zipped) : (snapshot z).Computes := by
  unfold snapshot
  split
  · exact (contained_ofExcept (fun _ => trivial) _).map _
  · split
    · exact contained_pure _
    · exact contained_fail trivial

theorem computes_mapVector (columns : Option ColumnArray) :
    (mapVector f x companions columns).Computes := by
  refine (computes_zip x companions).bind fun z => contained_get.bind fun c => ?_
  split
  · refine (computes_lookup f).bind fun entry => (computes_pool _).bind fun _ => ?_
    refine (Pool.contained_callAll (fun _ => trivial) entry z).bind fun values => ?_
    exact contained_results values _
  · refine (Tiering.computes_run f z columns).bind fun outcome => ?_
    cases outcome with
    | device array => exact contained_pure _
    | interpreted values type => exact contained_results values type

theorem computes_reduceVector (neutral : Value) (type : Option RowType) :
    (reduceVector f x companions neutral type).Computes := by
  refine (computes_zip x companions).bind fun z => (computes_lookup f).bind fun entry => ?_
  refine contained_get.bind fun c => ?_
  dsimp only
  have hfinish (value : Value) :
      (results [value] (type <|> value.inferOutput.toOption)).Computes := contained_results _ _
  have hfold := (entry.contained_foldFrom z (fun _ => trivial) neutral 0 z.length).bind hfinish
  split
  · split
    · refine (computes_pool _).bind fun size => ?_
      exact (Pool.contained_fold (fun _ => trivial) size entry z neutral).bind hfinish
    · exact hfold
  · exact hfold

/-- Computing a stage leaves all stages alone, and fails only as computing does. -/
theorem computes_computeStage (stage : Stage) : (computeStage stage x).Computes := by
  unfold computeStage
  split
  · exact computes_mapVector _ _ _ _
  · exact computes_reduceVector _ _ _ _ _

/-- With a given number of workers, too, a function is only called for each element. -/
theorem contained_apply (workers : Nat) :
    (apply x f workers companions).Contained Context.bystanders fun _ => True := by
  have hresults (values : List Value) :
      (resultsByFirst values).Contained Context.bystanders fun _ => True := contained_results _ _
  have hcheck : (checkArity f (1 + companions.length)).Contained Context.bystanders
      fun _ => True := by
    unfold checkArity
    split
    · exact contained_pure _
    · exact contained_fail trivial
  refine hcheck.bind fun _ => (contained_ofExcept (fun _ => trivial) _).bind fun z => ?_
  refine .bind (contained_update fun _ => rfl) fun entry => ?_
  split
  · exact (entry.contained_callFrom z (fun _ => trivial) 0 z.length).bind hresults
  · refine ((computes_pool workers).mono (fun _ _ h => h) fun _ _ => trivial).bind fun _ => ?_
    exact (Pool.contained_callAll (fun _ => trivial) entry z).bind hresults

end Operator

end TieredVectors
