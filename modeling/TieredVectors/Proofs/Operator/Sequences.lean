import TieredVectors.Proofs.Operator.Alike
import TieredVectors.Proofs.Operator.Mapping

/-!
# Sequences among the operands

A vector of equally spaced words may be given as a sequence or written out. No operator can tell:
`Operator.alike_map` and its like say so of one call, and
`Operation.sequences_indistinguishable` of a whole history of calls, after which results, events and
all that is kept are the same but for the bytes written to the device.
-/

namespace TieredVectors

open TieredVectors.Action

namespace Operator

variable {x x' : DataVector} {companions companions' : List DataVector} {stage stage' : Stage}

/-! ## Computing -/

theorem alike_zip (hx : x.dense = x'.dense)
    (hcs : companions.map DataVector.dense = companions'.map DataVector.dense) :
    (zip x companions).Alike Zipped.Alike (zip x' companions') :=
  coupled_ofExcept _ (Zipped.make_alike hx hcs)

theorem alike_mapVector (f : Function) (hx : x.dense = x'.dense)
    (hcs : companions.map DataVector.dense = companions'.map DataVector.dense)
    {columns columns' : Option ColumnArray}
    (hcolumns : columns.map ColumnArray.dense = columns'.map ColumnArray.dense) :
    (mapVector f x companions columns).Alike Eq (mapVector f x' companions' columns') := by
  refine (alike_zip hx hcs).bind fun z z' hz => alike_get_bind fun c _ _ _ => ?_
  dsimp only
  cases c.options.execution with
  | pool threads =>
    refine (alike_lookup f).next fun entry => (alike_pool threads).next fun _ => ?_
    exact (Pool.alike_callAll entry hz).next fun values => coupled_results values _
  | offload => exact (Tiering.alike_run f hz hcolumns).next fun o => Tiering.coupled_toVector o

theorem alike_reduceVector (f : Function) (hx : x.dense = x'.dense)
    (hcs : companions.map DataVector.dense = companions'.map DataVector.dense) (neutral : Value)
    (type : Option RowType) :
    (reduceVector f x companions neutral type).Alike Eq
      (reduceVector f x' companions' neutral type) := by
  refine (alike_zip hx hcs).bind fun z z' hz => (alike_lookup f).next fun entry => ?_
  refine alike_get_bind fun c _ _ _ => ?_
  have hfinish (value : Value) :
      (results [value] (type <|> value.inferOutput.toOption)).Alike Eq
        (results [value] (type <|> value.inferOutput.toOption)) := coupled_results _ _
  have hfold := (entry.coupled_fold hz neutral).next hfinish
  dsimp only
  cases c.options.execution with
  | pool threads =>
    dsimp only
    split
    · refine (alike_pool threads).next fun size => ?_
      exact (Pool.alike_fold size entry hz neutral).next hfinish
    · exact hfold
  | offload => exact hfold

theorem alike_computeStage (hstage : stage.dense = stage'.dense) (hx : x.dense = x'.dense) :
    (computeStage stage x).Alike Eq (computeStage stage' x') := by
  obtain ⟨hsame, hinput⟩ := Stage.dense_eq_dense_iff.1 hstage
  have hcs : stage.input.companions.map DataVector.dense =
      stage'.input.companions.map DataVector.dense := by
    rw [← StageInput.companions_dense, hinput, StageInput.companions_dense]
  have hcolumns : stage.input.columns?.map ColumnArray.dense =
      stage'.input.columns?.map ColumnArray.dense := by
    rw [← StageInput.columns?_dense, hinput, StageInput.columns?_dense]
  rw [hsame]
  unfold computeStage
  dsimp only
  cases stage.task with
  | map => exact alike_mapVector stage.function hx hcs hcolumns
  | reduce neutral => exact alike_reduceVector stage.function hx hcs neutral stage.output

/-! ## Stages -/

/-- A change of the stages that does not see the form of their vectors. -/
theorem alike_update_stages {α : Type} (f f' : StageRegistry → α × StageRegistry)
    (h : ∀ r r', r.dense = r'.dense → (f r).1 = (f' r').1 ∧ (f r).2.dense = (f' r').2.dense) :
    (update fun c => ((f c.stages).1, { c with stages := (f c.stages).2 })).Alike Eq
      (update fun c => ((f' c.stages).1, { c with stages := (f' c.stages).2 })) := by
  intro c c' hc
  obtain ⟨hresult, hstages⟩ := h c.stages c'.stages hc.stages
  refine ⟨matches_ok hresult, ⟨?_, hstages, hc.fleet⟩, rfl⟩
  -- all but stages and device is as it was
  show { c' with stages := (f' c'.stages).2 } = _
  rw [hc.same]
  rfl

theorem alike_memoize (handle : StageHandle) (result : DataVector) :
    (Action.modify fun c => { c with stages := c.stages.memoize handle result }).Alike Eq
      (Action.modify fun c => { c with stages := c.stages.memoize handle result }) := by
  refine alike_update_stages (fun r => ((), r.memoize handle result))
    (fun r => ((), r.memoize handle result)) fun r r' h => ⟨rfl, ?_⟩
  rw [← StageRegistry.memoize_dense, h, StageRegistry.memoize_dense]

theorem alike_add (h : stage.dense = stage'.dense) :
    (update fun c => ((c.stages.add stage).1, { c with stages := (c.stages.add stage).2 })).Alike Eq
      (update fun c =>
        ((c.stages.add stage').1, { c with stages := (c.stages.add stage').2 })) := by
  refine alike_update_stages (·.add stage) (·.add stage') fun r r' hr => ?_
  have hadd := r.add_dense stage
  rw [h, hr, StageRegistry.add_dense] at hadd
  exact ⟨(Prod.mk.inj hadd).1.symm, (Prod.mk.inj hadd).2.symm⟩

theorem alike_clearChain (handle : StageHandle) :
    (clearChain handle).Alike Eq (clearChain handle) := by
  refine .next ?_ fun removed => coupled_tell _
  refine alike_update_stages (·.clearChain handle) (·.clearChain handle) fun r r' hr => ?_
  have hclear := r.clearChain_dense handle
  rw [hr, StageRegistry.clearChain_dense] at hclear
  exact ⟨(Prod.mk.inj hclear).1.symm, (Prod.mk.inj hclear).2.symm⟩

theorem alike_materialize (handle : StageHandle) :
    (materialize handle).Alike Eq (materialize handle) := by
  -- a stage reads from an earlier one, or is refused
  induction hn : handle.index using Nat.strongRecOn generalizing handle with
  | ind n ih =>
    rw [materialize]
    refine alike_get_bind fun c stages device hc => ?_
    dsimp only
    have hstages : c.stages.dense = stages.dense := hc.stages
    rcases StageRegistry.get?_cases hstages handle with
      ⟨hnone, hnone'⟩ | ⟨stage, stage', hstage, hstage', hdense⟩
    · rw [hnone, hnone']
      exact coupled_fail _
    · rw [hstage, hstage']
      -- what a parent gives is the same, what a source holds has the same elements
      have hcompute {x x' : DataVector} (hx : x.dense = x'.dense) : (do
          let result ← computeStage stage x
          Action.modify fun c => { c with stages := c.stages.memoize handle result }
          return result).Alike Eq (do
          let result ← computeStage stage' x'
          Action.modify fun c => { c with stages := c.stages.memoize handle result }
          return result) :=
        (alike_computeStage hdense hx).next fun result =>
          (alike_memoize handle result).next fun _ => coupled_pure rfl
      obtain ⟨hsame, hinput⟩ := Stage.dense_eq_dense_iff.1 hdense
      have hresult : stage'.result = stage.result := by rw [hsame]
      dsimp only
      rw [hresult]
      cases stage.result with
      | some result => exact coupled_pure rfl
      | none =>
        rcases StageInput.cases_of_dense_eq hinput with
          ⟨v, cs, columns, v', cs', columns', hread, hread', hv⟩ | ⟨parent, cs, cs', hread, hread'⟩
        · simp only [hread, hread', pure_bind]
          exact hcompute hv
        · simp only [hread, hread']
          split
          next hlt => exact (ih parent.index (hn ▸ hlt) parent rfl).next fun x => hcompute rfl
          next => exact Coupled.next (coupled_fail _) fun x => hcompute rfl

theorem alike_execute (handle : StageHandle) : (execute handle).Alike Eq (execute handle) :=
  (alike_materialize handle).thenAlways (alike_clearChain handle)

/-! ## Registering -/

variable {input input' : StageInput}

theorem alike_stageElements (hstage : stage.dense = stage'.dense) :
    (stageElements stage).Alike (fun x x' => x.dense = x'.dense) (stageElements stage') := by
  unfold stageElements
  rcases StageInput.cases_of_dense_eq (Stage.dense_eq_dense_iff.1 hstage).2 with
    ⟨v, cs, columns, v', cs', columns', hread, hread', hv⟩ | ⟨parent, cs, cs', hread, hread'⟩
  · rw [hread, hread']
    exact coupled_pure hv
  · rw [hread, hread']
    exact (alike_materialize parent).mono fun x x' hx => congrArg DataVector.dense hx

theorem alike_firstElement (hinput : input.dense = input'.dense) :
    (firstElement input).Alike Eq (firstElement input') := by
  rcases StageInput.cases_of_dense_eq hinput with
    ⟨v, cs, columns, v', cs', columns', rfl, rfl, hv⟩ | ⟨parent, cs, cs', rfl, rfl⟩
  · refine coupled_pure ?_
    rw [← v.get?_dense, hv, DataVector.get?_dense]
  · refine alike_get_bind fun c stages device hc => ?_
    dsimp only
    have hstages : c.stages.dense = stages.dense := hc.stages
    rcases StageRegistry.get?_cases hstages parent with
      ⟨hnone, hnone'⟩ | ⟨stage, stage', hstage, hstage', hdense⟩
    · rw [hnone, hnone']
      exact coupled_fail _
    · rw [hstage, hstage']
      refine coupled_pure ?_
      rw [(Stage.dense_eq_dense_iff.1 hdense).1]

theorem alike_sample (task : StageTask) (f : Function) (hinput : input.dense = input'.dense) :
    (sample task f input).Alike Eq (sample task f input') := by
  have hcs : input.companions.filterMap (·.get? 0) = input'.companions.filterMap (·.get? 0) := by
    apply DataVector.filterMap_get?_congr
    rw [← StageInput.companions_dense, hinput, StageInput.companions_dense]
  refine (alike_firstElement hinput).next fun first? => ?_
  cases first? with
  | none => exact coupled_pure rfl
  | some first =>
    dsimp only
    rw [hcs]
    exact (alike_lookup f).next fun entry => (entry.coupled_call _).map fun v v' hv => by rw [hv]

theorem alike_register (task : StageTask) (f : Function) (hinput : input.dense = input'.dense) :
    (register task f input).Alike Eq (register task f input') := by
  refine (alike_sample task f hinput).next fun sample => alike_get_bind fun c _ _ _ => ?_
  have hstage : (Stage.ofSample task f input sample).dense =
      (Stage.ofSample task f input' sample).dense :=
    Stage.dense_eq_dense_iff.2 ⟨rfl, hinput⟩
  dsimp only
  cases c.options.stages with
  | deferred => exact alike_add hstage
  | eager =>
    -- the result is the same, so that the stages registered still differ in their inputs only
    refine (alike_stageElements hstage).bind fun x x' hx => ?_
    refine (alike_computeStage hstage hx).next fun result => ?_
    exact alike_add (Stage.dense_eq_dense_iff.2 ⟨rfl, hinput⟩)

/-! ## Whole calls -/

theorem alike_checkArity (f : Function) (n : Nat)
    (hcs : companions.map DataVector.dense = companions'.map DataVector.dense) :
    (checkArity f (n + companions.length)).Alike Eq
      (checkArity f (n + companions'.length)) := by
  have hcount : companions.length = companions'.length := by
    rw [← List.length_map DataVector.dense, hcs, List.length_map]
  unfold checkArity
  rw [hcount]
  split
  · exact coupled_pure rfl
  · exact coupled_fail _

theorem alike_snapshot {z z' : Zipped} (hz : z.Alike z') :
    (snapshot z).Alike (fun a a' => a.map ColumnArray.dense = a'.map ColumnArray.dense)
      (snapshot z') := by
  unfold snapshot
  rw [hz.inferRows_eq]
  cases z'.primary.inferRows z'.companions with
  | ok type => exact coupled_ofVectors hz type
  | error e =>
    dsimp only
    split
    · exact coupled_pure rfl
    · exact coupled_fail _

end Operator

namespace Operand

/-- The operand with its words written out if it is a sequence. -/
def dense : Operand → Operand
  | .vector v => .vector v.dense
  | .pending handle => .pending handle

/-- Operands with the same elements are both vectors, or both the result of one stage. -/
theorem cases_of_dense_eq {x x' : Operand} (h : x.dense = x'.dense) :
    (∃ v v', x = .vector v ∧ x' = .vector v' ∧ v.dense = v'.dense) ∨
      ∃ handle, x = .pending handle ∧ x' = .pending handle := by
  cases x with
  | vector v =>
    cases x' with
    | vector v' => exact .inl ⟨v, v', rfl, rfl, vector.inj h⟩
    | pending handle => cases h
  | pending handle =>
    cases x' with
    | vector v' => cases h
    | pending handle' =>
      obtain rfl : handle = handle' := pending.inj h
      exact .inr ⟨handle, rfl, rfl⟩

end Operand

namespace Operator

variable {x x' : Operand} {v v' : DataVector} {companions companions' : List DataVector}

theorem alike_map (hx : x.dense = x'.dense) (f : Function)
    (hcs : companions.map DataVector.dense = companions'.map DataVector.dense) :
    (map x f companions).Alike Eq (map x' f companions') := by
  refine (alike_checkArity f 1 hcs).next fun _ => ?_
  rcases Operand.cases_of_dense_eq hx with ⟨v, v', rfl, rfl, hv⟩ | ⟨handle, rfl, rfl⟩
  · exact (alike_mapVector f hv hcs rfl).map fun r r' hr => congrArg Operand.vector hr
  · refine (alike_register .map f ?_).map fun h h' hh => congrArg Operand.pending hh
    rw [StageInput.dense, StageInput.dense, hcs]

theorem alike_apply (hv : v.dense = v'.dense) (f : Function) (workers : Nat)
    (hcs : companions.map DataVector.dense = companions'.map DataVector.dense) :
    (apply v f workers companions).Alike Eq (apply v' f workers companions') := by
  refine (alike_checkArity f 1 hcs).next fun _ => (alike_zip hv hcs).bind fun z z' hz => ?_
  refine (alike_lookup f).next fun entry => ?_
  have hfinish (values : List Value) :
      (resultsByFirst values).Alike Eq (resultsByFirst values) := coupled_results _ _
  split
  · exact (entry.coupled_callAll hz).next hfinish
  · exact (alike_pool workers).next fun _ => (Pool.alike_callAll entry hz).next hfinish

theorem alike_terminalReduce (hx : x.dense = x'.dense) (f : Function) (neutral : Value)
    (hcs : companions.map DataVector.dense = companions'.map DataVector.dense) :
    (terminalReduce x f neutral companions).Alike Eq
      (terminalReduce x' f neutral companions') := by
  refine (alike_checkArity f 2 hcs).next fun _ => ?_
  rcases Operand.cases_of_dense_eq hx with ⟨v, v', rfl, rfl, hv⟩ | ⟨handle, rfl, rfl⟩
  · simp only [pure_bind]
    exact alike_reduceVector f hv hcs neutral none
  · exact (alike_execute handle).next fun x => alike_reduceVector f rfl hcs neutral none

theorem alike_pendingMap (hv : v.dense = v'.dense) (f : Function)
    (hcs : companions.map DataVector.dense = companions'.map DataVector.dense) :
    (pendingMap v f companions).Alike Eq (pendingMap v' f companions') := by
  refine (alike_checkArity f 1 hcs).next fun _ => (alike_zip hv hcs).bind fun z z' hz => ?_
  refine (alike_snapshot hz).bind fun columns columns' hcolumns => alike_register .map f ?_
  rw [StageInput.dense, StageInput.dense, hv, hcs, hcolumns]

theorem alike_reduce (hx : x.dense = x'.dense) (f : Function) (neutral : Value)
    (hcs : companions.map DataVector.dense = companions'.map DataVector.dense) :
    (reduce x f neutral companions).Alike Eq (reduce x' f neutral companions') := by
  refine (alike_checkArity f 2 hcs).next fun _ => ?_
  rcases Operand.cases_of_dense_eq hx with ⟨v, v', rfl, rfl, hv⟩ | ⟨handle, rfl, rfl⟩
  · refine (alike_zip hv hcs).bind fun _ _ _ => ?_
    simp only [pure_bind]
    refine alike_register (.reduce neutral) f ?_
    rw [StageInput.dense, StageInput.dense, hv, hcs]
  · simp only [pure_bind]
    refine alike_register (.reduce neutral) f ?_
    rw [StageInput.dense, StageInput.dense, hcs]

end Operator

namespace Operation

/-- The operation with the sequences among its operands and companions written out. -/
def dense : Operation → Operation
  | map x f companions => map x.dense f (companions.map DataVector.dense)
  | apply x f workers companions => apply x.dense f workers (companions.map DataVector.dense)
  | terminalReduce x f neutral companions =>
    terminalReduce x.dense f neutral (companions.map DataVector.dense)
  | pendingMap x f companions => pendingMap x.dense f (companions.map DataVector.dense)
  | reduce x f neutral companions => reduce x.dense f neutral (companions.map DataVector.dense)
  | execute handle => execute handle

/-- What the operator gives: a vector, or the stage that it has registered. -/
def result : Operation → Context → Except OperatorError Operand
  | map x f companions, c => ((Operator.map x f companions).run c).result
  | apply x f workers companions, c =>
    ((Operator.apply x f workers companions).run c).result.map .vector
  | terminalReduce x f neutral companions, c =>
    ((Operator.terminalReduce x f neutral companions).run c).result.map .vector
  | pendingMap x f companions, c =>
    ((Operator.pendingMap x f companions).run c).result.map .pending
  | reduce x f neutral companions, c =>
    ((Operator.reduce x f neutral companions).run c).result.map .pending
  | execute handle, c => ((Operator.execute handle).run c).result.map .vector

/-- One call goes the same way, whichever of its vectors are sequences. -/
theorem alike_of_dense_eq {op op' : Operation} (h : op.dense = op'.dense) {c c' : Context}
    (hc : c.Alike c') : op.result c = op'.result c' ∧ (op.perform c).Alike (op'.perform c') ∧
      op.events c = op'.events c' := by
  have hgives {α : Type} {a a' : Action α} (ha : a.Alike Eq a') (wrap : α → Operand) :
      (a.run c).result.map wrap = (a'.run c').result.map wrap ∧
        (a.run c).context.Alike (a'.run c').context ∧ (a.run c).events = (a'.run c').events := by
    obtain ⟨hr, hcontext, hevents⟩ := ha c c' hc
    exact ⟨by rw [hr.eq], hcontext, hevents⟩
  cases op with
  | map x f cs =>
    cases op' with
    | map x' f' cs' =>
      obtain ⟨hx, rfl, hcs⟩ := map.inj h
      obtain ⟨hr, hcontext, hevents⟩ := Operator.alike_map hx f hcs c c' hc
      exact ⟨hr.eq, hcontext, hevents⟩
    | _ => cases h
  | apply x f workers cs =>
    cases op' with
    | apply x' f' workers' cs' =>
      obtain ⟨hx, rfl, rfl, hcs⟩ := apply.inj h
      exact hgives (Operator.alike_apply hx f workers hcs) .vector
    | _ => cases h
  | terminalReduce x f neutral cs =>
    cases op' with
    | terminalReduce x' f' neutral' cs' =>
      obtain ⟨hx, rfl, rfl, hcs⟩ := terminalReduce.inj h
      exact hgives (Operator.alike_terminalReduce hx f neutral hcs) .vector
    | _ => cases h
  | pendingMap x f cs =>
    cases op' with
    | pendingMap x' f' cs' =>
      obtain ⟨hx, rfl, hcs⟩ := pendingMap.inj h
      exact hgives (Operator.alike_pendingMap hx f hcs) .pending
    | _ => cases h
  | reduce x f neutral cs =>
    cases op' with
    | reduce x' f' neutral' cs' =>
      obtain ⟨hx, rfl, rfl, hcs⟩ := reduce.inj h
      exact hgives (Operator.alike_reduce hx f neutral hcs) .pending
    | _ => cases h
  | execute handle =>
    cases op' with
    | execute handle' =>
      obtain rfl := execute.inj h
      exact hgives (Operator.alike_execute handle) .vector
    | _ => cases h

end Operation

namespace Request

/-- The request with the sequences among its vectors written out. -/
def dense : Request → Request
  | operate op => operate op.dense
  | request => request

/-- Requests with the same elements are the same, or call an operator in different forms. -/
theorem cases_of_dense_eq {request request' : Request} (h : request.dense = request'.dense) :
    request = request' ∨ ∃ op op', request = operate op ∧ request' = operate op' ∧
      op.dense = op'.dense := by
  cases request with
  | operate op =>
    cases request' with
    | operate op' => exact .inr ⟨op, op', rfl, rfl, operate.inj h⟩
    | _ => cases h
  | _ =>
    cases request' with
    | operate op' => cases h
    | _ => exact .inl h

theorem alike_of_dense_eq {request request' : Request} (h : request.dense = request'.dense)
    {c c' : Context} (hc : c.Alike c') : (request.perform c).Alike (request'.perform c') := by
  rcases cases_of_dense_eq h with rfl | ⟨op, op', rfl, rfl, hop⟩
  · have hset {f : Context → Context}
        (hsame : ∀ c stages device, f { c with stages, device } = { f c with stages, device })
        (hkeeps : ∀ c, (f c).stages = c.stages ∧ (f c).executors = c.executors ∧
          (f c).device = c.device) : (f c).Alike (f c') :=
      (alike_modify hsame hkeeps c c' hc).2.1
    cases request with
    | operate op => exact (Operation.alike_of_dense_eq rfl hc).2.1
    | setForceDeopt force =>
      -- the device is told the same in both contexts, and no buffer is touched
      have halike : Device.Alike { c.device with forceDeopt := force }
          { c'.device with forceDeopt := force } := by
        show { c.device.dense with forceDeopt := force } =
          { c'.device.dense with forceDeopt := force }
        rw [show c.device.dense = c'.device.dense from hc.fleet.alike]
      refine ⟨?_, hc.stages, hc.fleet.fleet.of_buffers_eq rfl rfl, halike, fun t e he => ?_⟩
      · show { c' with device := { c'.device with forceDeopt := force } } = _
        rw [hc.same]
        rfl
      · exact ⟨halike, (hc.fleet.outputs t e he).shared⟩
    | _ => exact hset (fun _ _ _ => rfl) fun _ => ⟨rfl, rfl, rfl⟩
  · exact (Operation.alike_of_dense_eq hop hc).2.1

end Request

namespace Context

variable {c c' : Context}

/-- A fresh context is alike to itself. -/
theorem Fresh.alike_self (h : c.Fresh) : c.Alike c := by
  have hsound : c.Sound fun _ => True := h.sound
  refine ⟨rfl, rfl, hsound.consistent.fleet, rfl, fun t e he => ?_⟩
  rw [h.executors] at he
  cases he

/-- Histories that differ only in the form of vectors lead to contexts that are alike. -/
theorem Alike.after (hc : c.Alike c') {requests requests' : List Request}
    (h : requests.map Request.dense = requests'.map Request.dense) :
    (c.after requests).Alike (c'.after requests') := by
  induction requests generalizing c c' requests' with
  | nil =>
    obtain rfl : requests' = [] := by simpa using h.symm
    exact hc
  | cons request requests ih =>
    obtain ⟨request', rest', rfl, hrequest, hrest⟩ := List.map_eq_cons_iff.1 h.symm
    exact ih (Request.alike_of_dense_eq hrequest.symm hc) hrest.symm

/-- What can be counted is the same in contexts that are alike. -/
theorem Alike.counts_eq (h : c.Alike c') :
    c.device.liveBuffers = c'.device.liveBuffers ∧ c.device.used = c'.device.used ∧
      c.device.allocations = c'.device.allocations ∧ c.device.launches = c'.device.launches := by
  have hdevice : c.device.dense = c'.device.dense := h.fleet.alike
  have hlive (d : Device) : d.dense.liveBuffers = d.liveBuffers := Table.size_mapValues _ _
  refine ⟨?_, ?_, ?_, ?_⟩
  · rw [← hlive, hdevice, hlive]
  · show c.device.dense.used = c'.device.dense.used
    rw [hdevice]
  · show c.device.dense.allocations = c'.device.dense.allocations
    rw [hdevice]
  · show c.device.dense.launches = c'.device.dense.launches
    rw [hdevice]

end Context

namespace Operation

/-- No call can tell a sequence from the vector of its words. Take two histories from a fresh
context, with any graphs, options, capacity and schedules, that are the same once every sequence
among operands and companions is written out, and then one more call, which is the same up to that
as well. Then the call has the same result or error and tells the same events, the calls of
functions among them, and leaves the same units, functions with their deoptimizations, and
executors, and as many live buffers, bytes taken up, allocations and launches. -/
theorem sequences_indistinguishable {c : Context} (hc : c.Fresh) {requests requests' : List Request}
    (hrequests : requests.map Request.dense = requests'.map Request.dense) {op op' : Operation}
    (hop : op.dense = op'.dense) :
    op.result (c.after requests) = op'.result (c.after requests') ∧
    op.events (c.after requests) = op'.events (c.after requests') ∧
    (op.perform (c.after requests)).units = (op'.perform (c.after requests')).units ∧
    (op.perform (c.after requests)).functions = (op'.perform (c.after requests')).functions ∧
    (op.perform (c.after requests)).executors = (op'.perform (c.after requests')).executors ∧
    (op.perform (c.after requests)).device.liveBuffers =
      (op'.perform (c.after requests')).device.liveBuffers ∧
    (op.perform (c.after requests)).device.used =
      (op'.perform (c.after requests')).device.used ∧
    (op.perform (c.after requests)).device.allocations =
      (op'.perform (c.after requests')).device.allocations ∧
    (op.perform (c.after requests)).device.launches =
      (op'.perform (c.after requests')).device.launches := by
  have hbefore := hc.alike_self.after hrequests
  obtain ⟨hresult, hafter, hevents⟩ := alike_of_dense_eq hop hbefore
  refine ⟨hresult, hevents, ?_, ?_, ?_, hafter.counts_eq⟩
  · rw [hafter.same]
  · rw [hafter.same]
  · rw [hafter.same]

/-- Adding one to each element. -/
def incrementing (v : DataVector) : Operation := .map (.vector v) Operator.increment []

/-- A graph of the function is at hand, and a first call has had it compiled. -/
def incrementHistory (v : DataVector) : List Request :=
  [.registerGraph Operator.increment.ownEntry.id Operator.incrementGraph 1,
    .operate (incrementing v)]

/-- Both calls go to the device. The sequence is written in sixteen bytes and its words in twelve,
and nothing else tells them apart. -/
theorem sequences_indistinguishable_one_to_three :
    Context.initial.Fresh ∧
    (incrementHistory (.range 1 3)).map Request.dense =
      (incrementHistory (.int [1, 2, 3])).map Request.dense ∧
    (incrementing (.range 1 3)).dense = (incrementing (.int [1, 2, 3])).dense ∧
    (incrementing (.range 1 3)).result (Context.initial.after (incrementHistory (.range 1 3))) =
      (incrementing (.int [1, 2, 3])).result
        (Context.initial.after (incrementHistory (.int [1, 2, 3]))) ∧
    ((incrementing (.range 1 3)).perform
      (Context.initial.after (incrementHistory (.range 1 3)))).device.launches = 2 ∧
    ((incrementing (.range 1 3)).perform
      (Context.initial.after (incrementHistory (.range 1 3)))).device.bytesWritten = 40 ∧
    ((incrementing (.int [1, 2, 3])).perform
      (Context.initial.after (incrementHistory (.int [1, 2, 3])))).device.bytesWritten = 32 := by
  have hrequests : (incrementHistory (.range 1 3)).map Request.dense =
      (incrementHistory (.int [1, 2, 3])).map Request.dense := rfl
  have hop : (incrementing (.range 1 3)).dense = (incrementing (.int [1, 2, 3])).dense := rfl
  have hsame := sequences_indistinguishable Context.initial_fresh hrequests hop
  exact ⟨Context.initial_fresh, hrequests, hop, hsame.1, rfl, rfl, rfl⟩

end Operation

end TieredVectors
