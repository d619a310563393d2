import TieredVectors.Proofs.Operator.Coupling
import TieredVectors.Proofs.Operator.Targets

/-!
# Looking ahead

Registering a stage looks a function up, which counts as seen from then on, and adds to the stages.
Neither matters to the stages that are there already: wherever the tiers note something of a
function they have looked it up before, and a stage reads from earlier stages only. Contexts that
differ in no more than this are coupled (`Context.Ahead`), and `Operator.ahead_materialize` says
that the earlier stages are computed in both of them alike.
-/

namespace TieredVectors

variable {α β : Type} {p : Program} {n : Nat} {c c' : Context}

namespace FunctionRegistry

variable {r r' : FunctionRegistry} {f : Function}

/-- What is known of a function; of one that has not been seen yet, what would be if it were. -/
def record (p : Program) (r : FunctionRegistry) (f : FunctionId) : FunctionRecord :=
  (r.get? f).getD { entry := (p.function f).ownEntry }

theorem target_eq_record (p : Program) (r : FunctionRegistry) (f : FunctionId) :
    r.target p f = (r.record p f).target := by
  rw [target, record]
  cases r.get? f <;> rfl

theorem record_of_get? {g : FunctionId} {record : FunctionRecord} (h : r.get? g = some record) :
    r.record p g = record := by
  rw [FunctionRegistry.record, h, Option.getD_some]

/-- Looking a function up gives what is known of it a record. -/
theorem get?_lookup_self (hf : p.Knows f) :
    (r.lookup f).2.get? f.id = some (r.record p f.id) := by
  have hown : (p.function f.id).ownEntry = f.ownEntry := by
    rw [Function.ownEntry, Function.ownEntry, Program.function, hf]
  rw [get?_lookup, if_pos rfl, record, hown]

theorem record_lookup (hf : p.Knows f) (g : FunctionId) :
    (r.lookup f).2.record p g = r.record p g := by
  by_cases hg : g = f.id
  · subst hg
    exact record_of_get? (get?_lookup_self hf)
  · rw [record, get?_lookup, if_neg hg, record]

end FunctionRegistry

namespace Context

/-- The contexts differ in nothing that the stages up to number `n` depend on: what is known of
functions is the same, and so are these stages. -/
structure Ahead (p : Program) (n : Nat) (c c' : Context) : Prop where
  same : c' = { c with functions := c'.functions, stages := c'.stages }
  offload : c.options.execution = .offload
  records : ∀ f, c'.functions.record p f = c.functions.record p f
  stages : ∀ handle : StageHandle, handle.index ≤ n →
    c'.stages.get? handle = c.stages.get? handle
  known : ∀ (handle : StageHandle) stage, handle.index ≤ n → c.stages.get? handle = some stage →
    p.Knows stage.function

/-- Besides, the function has been seen in both. -/
structure AheadAt (p : Program) (n : Nat) (f : FunctionId) (c c' : Context) : Prop
    extends Ahead p n c c' where
  seen : ∃ record, c.functions.get? f = some record ∧ c'.functions.get? f = some record

theorem Ahead.options_eq (h : c.Ahead p n c') : c'.options = c.options := by rw [h.same]

theorem Ahead.memoize (h : c.Ahead p n c') (handle : StageHandle) (result : DataVector) :
    Ahead p n { c with stages := c.stages.memoize handle result }
      { c' with stages := c'.stages.memoize handle result } := by
  refine ⟨?_, h.offload, h.records, fun handle' hle => ?_, fun handle' stage hle hstage => ?_⟩
  · rw [h.same]
  · have hget := h.stages handle' hle
    simp only [StageRegistry.get?] at hget
    simp only [StageRegistry.get?, StageRegistry.memoize, Table.get?_modify, hget]
  · obtain ⟨stage', hstage', rfl | rfl⟩ := StageRegistry.get?_memoize hstage
    · exact h.known handle' _ hle hstage'
    · exact h.known handle' stage' hle hstage'

/-- A change that concerns neither functions nor stages. -/
theorem AheadAt.congr {f : FunctionId} (h : AheadAt p n f c c') {d d' : Context}
    (hsame : d' = { d with functions := c'.functions, stages := c'.stages })
    (hfunctions : d.functions = c.functions) (hstages : d.stages = c.stages)
    (hoptions : d.options = c.options) : AheadAt p n f d d' := by
  subst hsame
  exact ⟨⟨rfl, hoptions ▸ h.offload, hfunctions ▸ h.records, hstages ▸ h.stages,
    hstages ▸ h.known⟩, hfunctions ▸ h.seen⟩

/-- A note in the record of the function. -/
theorem AheadAt.modify {f : FunctionId} (h : AheadAt p n f c c')
    (change : FunctionRecord → FunctionRecord) :
    AheadAt p n f { c with functions := c.functions.modify f change }
      { c' with functions := c'.functions.modify f change } := by
  obtain ⟨record, hrecord, hrecord'⟩ := h.seen
  refine ⟨⟨?_, h.offload, fun g => ?_, h.stages, h.known⟩, change record, ?_, ?_⟩
  · rw [h.same]
  · by_cases hg : g = f
    · -- a function that had not been seen in one of them would get no note there
      subst hg
      simp only [FunctionRegistry.record, FunctionRegistry.get?_modify, hrecord, hrecord']
    · have hrecords := h.records g
      simp only [FunctionRegistry.record] at hrecords
      simp only [FunctionRegistry.record, FunctionRegistry.get?_modify, if_neg hg, hrecords]
  · simp [FunctionRegistry.get?_modify, hrecord]
  · simp [FunctionRegistry.get?_modify, hrecord']

end Context

open Context (Ahead AheadAt)
open TieredVectors.Action

namespace Action

/-- Looking a function up makes it seen in both contexts. -/
theorem ahead_lookup {f : Function} (hf : p.Knows f) :
    (lookup f).Coupled (Ahead p n) (AheadAt p n f.id) Eq (lookup f) := by
  refine coupled_update fun c c' hc =>
    ⟨?_, ⟨?_, hc.offload, fun g => ?_, hc.stages, hc.known⟩, ?_⟩
  · dsimp only
    rw [FunctionRegistry.lookup_fst hf, FunctionRegistry.lookup_fst hf,
      FunctionRegistry.target_eq_record, FunctionRegistry.target_eq_record, hc.records]
  · rw [hc.same]
  · dsimp only
    rw [FunctionRegistry.record_lookup hf, FunctionRegistry.record_lookup hf, hc.records]
  · refine ⟨_, FunctionRegistry.get?_lookup_self hf, ?_⟩
    rw [← hc.records]
    exact FunctionRegistry.get?_lookup_self hf

end Action

namespace Tiering

variable {f : Function}

/-- A change that concerns neither functions nor stages, nor looks at them. -/
theorem aheadAt_update {f : FunctionId} {g : Context → α × Context}
    (hsame : ∀ c functions stages,
      g { c with functions, stages } = ((g c).1, { (g c).2 with functions, stages }))
    (hkeeps : ∀ c, (g c).2.functions = c.functions ∧ (g c).2.stages = c.stages ∧
      (g c).2.options = c.options) :
    (update g).Coupled (AheadAt p n f) (AheadAt p n f) Eq (update g) := by
  refine coupled_update fun c c' hc => ?_
  obtain ⟨hfunctions, hstages, hoptions⟩ := hkeeps c
  have hrun :
      g c' = ((g c).1, { (g c).2 with functions := c'.functions, stages := c'.stages }) := by
    rw [← hsame, ← hc.same]
  rw [hrun]
  exact ⟨rfl, hc.congr rfl hfunctions hstages hoptions⟩

theorem aheadAt_deviceEnabled (f : FunctionId) :
    (deviceEnabled f).Coupled (AheadAt p n f) (AheadAt p n f) Eq (deviceEnabled f) := by
  refine coupled_get_bind fun c c' hc => ?_
  obtain ⟨record, hrecord, hrecord'⟩ := hc.seen
  rw [hc.options_eq, hrecord, hrecord']
  split
  · exact coupled_pure rfl
  · dsimp only
    split
    · exact (coupled_tell _).next fun _ => coupled_pure rfl
    · exact coupled_pure rfl

theorem aheadAt_propose (f : FunctionId) (entry : EntryId) :
    (propose f entry).Coupled (AheadAt p n f) (AheadAt p n f) Eq (propose f entry) := by
  refine coupled_update fun c c' hc => ?_
  obtain ⟨record, hrecord, hrecord'⟩ := hc.seen
  have hdetector : c'.detector = c.detector := by rw [hc.same]
  simp only [FunctionRegistry.markCandidate, hrecord, hrecord', hdetector]
  -- it is proposed for the first time in both contexts or in neither
  split
  · refine ⟨rfl, hc.congr ?_ rfl rfl rfl⟩
    rw [hc.same]
  · refine ⟨rfl, (hc.modify _).congr ?_ rfl rfl rfl⟩
    rw [hc.same]

theorem aheadAt_launch {f : FunctionId} {s s' : Site} (hs : s.Alike id s') (unit : CompiledUnit) :
    (launch s unit).Coupled (AheadAt p n f) (AheadAt p n f) Eq (launch s' unit) := by
  have hinput : s'.input = s.input := hs.input.symm
  have htrace : s'.trace = s.trace := by rw [hs.same]
  intro c c' hc
  have hexecutors : c'.executors = c.executors := by rw [hc.same]
  have hdevice : c'.device = c.device := by rw [hc.same]
  obtain ⟨hr, hcontext, hevents⟩ := launch_ensures_attempt s unit c rfl
  obtain ⟨hr', hcontext', hevents'⟩ := launch_ensures_attempt s' unit c' rfl
  rw [hr, hcontext, hevents, hr', hcontext', hevents', hinput, htrace, hexecutors, hdevice]
  refine ⟨matches_ok rfl, hc.congr ?_ rfl rfl rfl, rfl⟩
  rw [hc.same]

theorem aheadAt_deopt (f : FunctionId) :
    (update fun c => ((c.functions.recordDeopt f).1,
      { c with functions := (c.functions.recordDeopt f).2 })).Coupled
        (AheadAt p n f) (AheadAt p n f) Eq
    (update fun c => ((c.functions.recordDeopt f).1,
      { c with functions := (c.functions.recordDeopt f).2 })) := by
  refine coupled_update fun c c' hc => ?_
  obtain ⟨record, hrecord, hrecord'⟩ := hc.seen
  simp only [FunctionRegistry.recordDeopt, hrecord, hrecord', true_and]
  exact hc.modify _

theorem respects_aheadAt (f : FunctionId) : Respects f id (AheadAt p n f) where
  type h := congrArg ColumnArray.type h.symm
  options hc := hc.options_eq
  compiler hc := by rw [hc.same]
  units hc := by rw [hc.same]
  deviceEnabled := aheadAt_deviceEnabled f
  propose := aheadAt_propose f
  probe _ := aheadAt_update (fun _ _ _ => rfl) fun _ => ⟨rfl, rfl, rfl⟩
  install _ _ _ := aheadAt_update (fun _ _ _ => rfl) fun _ => ⟨rfl, rfl, rfl⟩
  launch := aheadAt_launch
  sample _ _ := coupled_modify fun _ _ hc => hc.modify _
  deopt := aheadAt_deopt f

theorem aheadAt_specialize (f : Function) (body : Body) :
    (update fun c => ((c.functions.update f body).1,
      { c with functions := (c.functions.update f body).2 })).Coupled
        (AheadAt p n f.id) (AheadAt p n f.id) Eq
    (update fun c => ((c.functions.update f body).1,
      { c with functions := (c.functions.update f body).2 })) := by
  refine coupled_update fun c c' hc => ?_
  obtain ⟨record, hrecord, hrecord'⟩ := hc.seen
  -- the new entry follows on the old one, which is the same in both contexts
  have hentry : (c'.functions.update f body).1 = (c.functions.update f body).1 := by
    simp only [FunctionRegistry.update, hrecord, hrecord']
  refine ⟨hentry.symm, ⟨?_, hc.offload, fun g => ?_, hc.stages, hc.known⟩, _,
    (FunctionRegistry.get?_update ..).trans (if_pos rfl), ?_⟩
  · rw [hc.same]
  · have hrecords := hc.records g
    simp only [FunctionRegistry.record] at hrecords
    simp only [FunctionRegistry.record, FunctionRegistry.get?_update, hentry]
    split
    · rfl
    · exact hrecords
  · rw [← hentry]
    exact (FunctionRegistry.get?_update ..).trans (if_pos rfl)

/-- Resolving a function looks it up, and may then specialize it, in both contexts alike. -/
theorem ahead_resolve {f : Function} (hf : p.Knows f) :
    (resolve f).Coupled (Ahead p n) (AheadAt p n f.id) Eq (resolve f) := by
  refine (ahead_lookup hf).next fun entry => coupled_get_bind fun c c' hc => ?_
  obtain ⟨record, hrecord, hrecord'⟩ := hc.seen
  simp only [hc.options_eq, FunctionRegistry.awaitsSpecialization, hrecord, hrecord']
  split
  · refine Coupled.next (coupled_modify fun _ _ hc => hc.modify _) fun _ => ?_
    split
    · exact aheadAt_specialize f _
    · exact coupled_pure rfl
  · exact coupled_pure rfl

theorem ahead_run (hf : p.Knows f) (z : Zipped) (input : Option ColumnArray) :
    (run f z input).Coupled (Ahead p n) (Ahead p n) Eq (run f z input) :=
  coupled_run (fun _ _ hc => hc) (fun _ _ hc => hc.toAhead) (ahead_resolve hf)
    ((coupled_columns_self z).mono fun _ _ ha => congrArg (Option.map id) ha)
    (fun _ _ _ => (respects_aheadAt f.id).coupled_callEntry ⟨rfl, rfl⟩) rfl

end Tiering

namespace Operator

variable {f : Function} {x : DataVector} {companions : List DataVector}

theorem ahead_mapVector (hf : p.Knows f) (x : DataVector) (companions : List DataVector)
    (columns : Option ColumnArray) :
    (mapVector f x companions columns).Coupled (Ahead p n) (Ahead p n) Eq
      (mapVector f x companions columns) := by
  refine (coupled_ofExcept_self _ _).next fun z => coupled_get_bind fun c c' hc => ?_
  rw [hc.options_eq, hc.offload]
  exact (Tiering.ahead_run hf z columns).next fun outcome => Tiering.coupled_toVector outcome

theorem ahead_reduceVector (hf : p.Knows f) (x : DataVector) (companions : List DataVector)
    (neutral : Value) (type : Option RowType) :
    (reduceVector f x companions neutral type).Coupled (Ahead p n) (Ahead p n) Eq
      (reduceVector f x companions neutral type) := by
  refine (coupled_ofExcept_self _ _).next fun z => ?_
  refine ((ahead_lookup hf).weaken fun _ _ hc => hc.toAhead).next fun entry => ?_
  refine coupled_get_bind fun c c' hc => ?_
  simp only [hc.options_eq, hc.offload]
  exact (entry.coupled_fold ⟨rfl, rfl⟩ neutral).next fun value => coupled_results _ _

theorem ahead_computeStage {stage : Stage} (hf : p.Knows stage.function) (x : DataVector) :
    (computeStage stage x).Coupled (Ahead p n) (Ahead p n) Eq (computeStage stage x) := by
  unfold computeStage
  split
  · exact ahead_mapVector hf _ _ _
  · exact ahead_reduceVector hf _ _ _ _

/-- The stages that are there already are computed alike. -/
theorem ahead_materialize {handle : StageHandle} (hle : handle.index ≤ n) :
    (materialize handle).Coupled (Ahead p n) (Ahead p n) Eq (materialize handle) := by
  -- on the number of the stage, as a parent has a lower one
  induction hn : handle.index using Nat.strongRecOn generalizing handle with
  | ind m ih =>
    rw [materialize]
    refine coupled_get_bind fun c c' hc => ?_
    rw [hc.stages handle hle]
    cases hstage : c.stages.get? handle with
    | none => exact coupled_fail _
    | some stage =>
      have hfinish (x : DataVector) : (do
          let result ← computeStage stage x
          Action.modify fun c => { c with stages := c.stages.memoize handle result }
          return result).Coupled (Ahead p n) (Ahead p n) Eq (do
          let result ← computeStage stage x
          Action.modify fun c => { c with stages := c.stages.memoize handle result }
          return result) := by
        refine (ahead_computeStage (hc.known handle stage hle hstage) x).next fun result => ?_
        exact Coupled.next (coupled_modify fun _ _ hd => hd.memoize handle result) fun _ =>
          coupled_pure rfl
      dsimp only
      split
      · exact coupled_pure rfl
      · split
        · simp only [pure_bind]
          exact hfinish _
        next parent companions hinput =>
          split
          next hlt =>
            exact (ih parent.index (hn ▸ hlt) (by omega) rfl).next fun x => hfinish x
          next => exact Coupled.next (coupled_fail _) fun x => hfinish x

end Operator

end TieredVectors
