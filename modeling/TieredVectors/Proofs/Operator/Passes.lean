import TieredVectors.Proofs.Operator.Modes
import TieredVectors.Proofs.Operator.Phases

/-!
# Passes

A pass is a call of a function through the tiers, over the elements of a vector. What it attempts on
the device can be told from where it starts and how it ends (`Pass.attempt?`).

* `Pass.account` — a pass makes one attempt at most; an attempt that is abandoned is counted in the
  record of the entry that is called, and nothing else is; and no attempt is made once the count has
  reached the limit;
* `Pass.result_of_spent`, `Pass.idle_of_spent` — from then on a pass gives the interpreted results,
  has no use for the device and what goes with it, and leaves them alone.
-/

namespace TieredVectors

open TieredVectors.Action

/-! ## Counting -/

namespace FunctionRegistry

variable {r r' r'' : FunctionRegistry} {f : FunctionId} {m n : Nat}

/-- The function keeps its entry, and `n` more abandoned runs are counted for it. Nothing changes in
the records of other functions. -/
structure Counts (r : FunctionRegistry) (f : FunctionId) (n : Nat) (r' : FunctionRegistry) :
    Prop where
  others : ∀ g, g ≠ f → r'.get? g = r.get? g
  record : ∀ record, r.get? f = some record → ∃ record', r'.get? f = some record' ∧
    record'.entry = record.entry ∧ record'.deopts = record.deopts + n

theorem Counts.refl (r : FunctionRegistry) (f : FunctionId) : r.Counts f 0 r :=
  ⟨fun _ _ => rfl, fun record h => ⟨record, h, rfl, rfl⟩⟩

theorem Counts.trans (h : r.Counts f m r') (h' : r'.Counts f n r'') : r.Counts f (m + n) r'' := by
  refine ⟨fun g hg => (h'.others g hg).trans (h.others g hg), fun record hrecord => ?_⟩
  obtain ⟨record', hrecord', hentry, hdeopts⟩ := h.record record hrecord
  obtain ⟨record'', hrecord'', hentry', hdeopts'⟩ := h'.record record' hrecord'
  exact ⟨record'', hrecord'', hentry'.trans hentry, by omega⟩

theorem counts_modify {change : FunctionRecord → FunctionRecord}
    (hentry : ∀ record, (change record).entry = record.entry)
    (hdeopts : ∀ record, (change record).deopts = record.deopts + n) :
    r.Counts f n (r.modify f change) := by
  refine ⟨fun g hg => by rw [get?_modify, if_neg hg], fun record hrecord => ?_⟩
  rw [get?_modify, if_pos rfl, hrecord]
  exact ⟨change record, rfl, hentry record, hdeopts record⟩

theorem counts_recordSample (v : Value) (type : Option RowType) :
    r.Counts f 0 (r.recordSample f v type) :=
  counts_modify (fun record => by split <;> rfl) fun record => by split <;> rfl

theorem counts_markCandidate : r.Counts f 0 (r.markCandidate f).2 := by
  unfold markCandidate
  split
  · split
    · exact .refl r f
    · exact counts_modify (fun _ => rfl) fun _ => rfl
  · exact .refl r f

theorem counts_recordDeopt : r.Counts f 1 (r.recordDeopt f).2 := by
  unfold recordDeopt
  split
  · exact counts_modify (fun _ => rfl) fun _ => rfl
  next hnone =>
    refine ⟨fun _ _ => rfl, fun record hrecord => ?_⟩
    rw [hnone] at hrecord
    cases hrecord

end FunctionRegistry

namespace Context

variable {c c' : Context} {f : FunctionId}

/-- How often running the function on the device was abandoned. -/
def deopts (c : Context) (f : FunctionId) : Nat := ((c.functions.get? f).map (·.deopts)).getD 0

/-- The function may go to the device. -/
def Admits (c : Context) (f : FunctionId) : Prop :=
  c.options.execution = .offload ∧ c.deopts f < c.options.deoptLimit

theorem deopts_eq {record : FunctionRecord} (h : c.functions.get? f = some record) :
    c.deopts f = record.deopts := by
  rw [deopts, h]
  rfl

/-- Noting a sample makes no difference to this. -/
theorem admits_recordSample (v : Value) (type : Option RowType) :
    Admits { c with functions := c.functions.recordSample f v type } f ↔ c.Admits f := by
  have hdeopts :
      deopts { c with functions := c.functions.recordSample f v type } f = c.deopts f := by
    simp only [deopts, FunctionRegistry.recordSample, FunctionRegistry.get?_modify, if_true]
    cases c.functions.get? f with
    | none => rfl
    | some record => cases h : record.sample <;> simp [h]
  rw [Admits, Admits, hdeopts]

end Context

/-- An entry that has been given a trace has this one. -/
theorem Detector.traceOf_of_names {d : Detector} {entry : EntryId} {trace : TraceId}
    (h : d.Names entry trace) : (d.traceOf entry).1 = trace := by
  cases d with
  | never => exact h.symm
  | scripted s =>
    have hget : s.traces.get? entry = some trace := h
    simp [traceOf, ScriptedDetector.traceOf, hget]

namespace Tiering

variable {c c' : Context} {f : FunctionId} {entry : Entry} {z : Zipped} {first : Value} {rest : Nat}

theorem deviceEnabled_admits (f : FunctionId) (c : Context) :
    (deviceEnabled f).Ensures c fun r c' _ =>
      c' = c ∧ ∃ enabled, r = .ok enabled ∧ (enabled = true ↔ c.Admits f) := by
  unfold deviceEnabled
  simp only [ensures_bind, ensures_get, Post.after_ok]
  split
  next hmode => exact ⟨rfl, false, rfl, by simp [Context.Admits, hmode]⟩
  next hmode =>
    have hoffload : c.options.execution = .offload := not_not.1 hmode
    split
    next hlimit =>
      have hle : c.options.deoptLimit ≤ c.deopts f := hlimit
      exact ⟨rfl, false, rfl, by simp [Context.Admits, hle]⟩
    next hlimit =>
      have hlt : c.deopts f < c.options.deoptLimit := Nat.lt_of_not_le hlimit
      exact ⟨rfl, true, rfl, by simp [Context.Admits, hoffload, hlt]⟩

/-- A call of an entry makes the attempt, if any, with the unit that is cached in the end for the
trace that the entry has been given. The attempt alone tells what becomes of the device, and whether
one more abandoned run is counted; and it is made only if the function may go to the device. -/
structure Passed (f : FunctionId) (entry : EntryId) (input : Option ColumnArray) (c c' : Context)
    (attempt? : Option Attempt) : Prop where
  unit : ∀ attempt, attempt? = some attempt → ∃ trace unit array, input = some array ∧
    c'.detector.Names entry trace ∧ c'.units.get? trace = some unit ∧
    (c.executorOf trace unit).attempt c.device array = attempt
  device : c'.device = (attempt?.map Attempt.device).getD c.device
  functions : c.functions.Counts f (if attempt?.any Attempt.abandoned then 1 else 0) c'.functions
  options : c'.options = c.options
  admitted : attempt? ≠ none → c.Admits f

theorem passed_none {id : EntryId} {input : Option ColumnArray} (hdevice : c'.device = c.device)
    (hfunctions : c.functions.Counts f 0 c'.functions) (hoptions : c'.options = c.options) :
    Passed f id input c c' none where
  unit attempt hattempt := by cases hattempt
  device := hdevice
  functions := hfunctions
  options := hoptions
  admitted hne := absurd rfl hne

theorem Deploys.counts {s : Site} {attempt? : Option Attempt} (h : Deploys s c c' attempt?) :
    c.functions.Counts s.function (if attempt?.any Attempt.abandoned then 1 else 0)
      c'.functions := by
  rw [h.functions]
  split
  · exact FunctionRegistry.counts_recordDeopt
  · exact .refl ..

/-- After the first element of a call. -/
theorem deploy_passes (f : FunctionId) (entry : Entry) (z : Zipped) (array : ColumnArray)
    (output : RowType) (first : Value) (rest : Nat) (c : Context) :
    (deploy f entry z array output first rest).Ensures c fun _ c' es => ∃ attempt?,
      Event.launches es = attempt?.toList.length ∧
      Passed f entry.id (some array) c c' attempt? := by
  unfold deploy
  rw [ensures_bind]
  refine ((deviceEnabled_admits f c).and ((phaseless_deviceEnabled f).launches c)).mono ?_
  rintro r c₁ es ⟨⟨rfl, enabled, rfl, henabled⟩, hes⟩
  rw [Post.after_ok]
  cases enabled with
  | false =>
    refine (interpretRest_idle entry z first rest _ c₁).mono ?_
    rintro r c₂ es' ⟨rfl, hes'⟩
    refine ⟨none, ?_, passed_none rfl (.refl ..) rfl⟩
    rw [Event.launches_append, hes, hes']
    rfl
  | true =>
    rw [if_pos rfl, ensures_bind, propose, ensures_update, Post.after_ok]
    refine (proceed_deploys _ first rest _).mono ?_
    rintro r c₂ es' ⟨attempt?, hes', hdeploys⟩
    refine ⟨attempt?, ?_, ?_⟩
    · rw [Event.launches_append, hes, Nat.zero_add]
      exact hes'
    · have hcounts := FunctionRegistry.counts_markCandidate.trans hdeploys.counts
      rw [Nat.zero_add] at hcounts
      refine ⟨fun attempt hattempt => ?_, hdeploys.device, hcounts, hdeploys.options,
        fun _ => henabled.1 rfl⟩
      -- the entry was given its trace when it was proposed, and keeps it
      obtain ⟨unit, hunit, hattempt⟩ := hdeploys.unit attempt hattempt
      exact ⟨_, unit, array, rfl, hdeploys.names _ _ (Detector.names_traceOf _ _), hunit, hattempt⟩

/-- A function that may not go to the device is interpreted. -/
theorem deploy_of_not_admits (hadmits : ¬ c.Admits f) (hlength : z.length = rest + 1)
    (hfirst : entry.body.call (z.arguments 0) = .ok first) (array : ColumnArray) {output : RowType}
    (houtput : first.inferOutput = .ok output) :
    (deploy f entry z array output first rest).Ensures c fun r _ _ =>
      r = (entry.body.outcome z).mapError .eval := by
  unfold deploy
  rw [ensures_bind]
  refine (deviceEnabled_admits f c).mono ?_
  rintro r c₁ es ⟨rfl, enabled, rfl, henabled⟩
  rw [Post.after_ok, if_neg fun h => hadmits (henabled.1 h)]
  have hrest := interpretRest_ensures_outcome hlength hfirst c₁
  rw [houtput] at hrest
  exact hrest.mono fun _ _ _ h => h.2.1

/-- A call of an entry. -/
theorem callEntry_passes (f : FunctionId) (entry : Entry) (z : Zipped) (input : Option ColumnArray)
    (c : Context) :
    (callEntry f entry z input).Ensures c fun _ c' es => ∃ attempt?,
      Event.launches es = attempt?.toList.length ∧ Passed f entry.id input c c' attempt? := by
  -- noting a sample is no concern of the device
  have hsampled (first : Value) : c.functions.Counts f 0 (sampled c f first).functions :=
    FunctionRegistry.counts_recordSample _ _
  refine ensures_callEntry _ ?_ ?_ ?_ ?_
  · intro _
    exact ⟨none, rfl, passed_none rfl (.refl ..) rfl⟩
  · intro rest e told _ _ hopens
    exact ⟨none, hopens.launches, passed_none rfl (.refl ..) rfl⟩
  · -- the elements or the results have no row type
    intro rest first told _ _ hopens
    refine (interpretRest_idle entry z first rest _ _).mono ?_
    rintro r c' es ⟨rfl, hes⟩
    refine ⟨none, ?_, passed_none rfl (hsampled first) rfl⟩
    rw [Event.launches_append, hopens.launches, hes]
    rfl
  · rintro rest first told array output _ _ hopens rfl _
    refine (deploy_passes f entry z array output first rest _).mono ?_
    rintro r c' es ⟨attempt?, hes, hpassed⟩
    refine ⟨attempt?, by rw [Event.launches_append, hopens.launches, hes, Nat.zero_add], ?_⟩
    have hcounts := (hsampled first).trans hpassed.functions
    rw [Nat.zero_add] at hcounts
    exact ⟨hpassed.unit, hpassed.device, hcounts, hpassed.options,
      fun hne => (Context.admits_recordSample ..).1 (hpassed.admitted hne)⟩

theorem callEntry_of_not_admits (hadmits : ¬ c.Admits f) (input : Option ColumnArray) :
    (callEntry f entry z input).Ensures c fun r _ _ =>
      r = (entry.body.outcome z).mapError .eval := by
  refine ensures_callEntry _ ?_ ?_ ?_ ?_
  · intro hlength
    rw [Body.outcome, Body.callAll, hlength, Body.callFrom_zero]
    rfl
  · intro rest e told hlength hfirst _
    rw [Body.outcome, Body.callAll, hlength, Body.callFrom_of_error hfirst rest]
    rfl
  · intro rest first told hlength hfirst _
    exact (interpretRest_ensures_outcome hlength hfirst _).mono fun _ _ _ h => h.2.1
  · intro rest first told array output hlength hfirst _ _ houtput
    exact deploy_of_not_admits (fun h => hadmits ((Context.admits_recordSample ..).1 h)) hlength
      hfirst array houtput

/-! ## Resolving -/

/-- The record with which a function is called keeps the entry and the count of the one before, or
starts with a new entry, of a later revision than before. -/
def Renews (f : FunctionId) (before? : Option FunctionRecord) (record : FunctionRecord) : Prop :=
  (∃ before, before? = some before ∧ record.entry = before.entry ∧ record.deopts = before.deopts) ∨
    record.entry.id.function = f ∧ record.deopts = 0 ∧
      ∀ before, before? = some before → before.entry.id.revision < record.entry.id.revision

theorem resolve_record (f : Function) (c : Context) :
    (resolve f).Ensures c fun r c' _ => (∃ functions, c' = { c with functions }) ∧
      (∀ g, g ≠ f.id → c'.functions.get? g = c.functions.get? g) ∧
      ∃ record, r = .ok record.entry ∧ c'.functions.get? f.id = some record ∧
        Renews f.id (c.functions.get? f.id) record := by
  have hothers (g : FunctionId) (hg : g ≠ f.id) :
      (c.functions.lookup f).2.get? g = c.functions.get? g := by
    rw [FunctionRegistry.get?_lookup, if_neg hg]
  -- the function is looked up first, which makes a record if there is none
  obtain ⟨looked, hlooked, hentry, hrevision, hrenews⟩ : ∃ looked,
      (c.functions.lookup f).2.get? f.id = some looked ∧
      (c.functions.lookup f).1 = looked.entry ∧
      (∀ before, c.functions.get? f.id = some before →
        before.entry.id.revision = looked.entry.id.revision) ∧
      Renews f.id (c.functions.get? f.id) looked := by
    rw [FunctionRegistry.get?_lookup, if_pos rfl, FunctionRegistry.lookup]
    cases c.functions.get? f.id with
    | some before =>
      refine ⟨before, rfl, rfl, fun before' hbefore => ?_, .inl ⟨before, rfl, rfl, rfl⟩⟩
      rw [Option.some.inj hbefore]
    | none =>
      refine ⟨{ entry := f.ownEntry }, rfl, rfl, fun _ h => ?_, .inr ⟨rfl, rfl, fun _ h => ?_⟩⟩
      all_goals cases h
  unfold resolve lookup
  simp only [ensures_bind, ensures_update, Post.after_ok, ensures_get]
  split
  · -- a specialization is tried now
    simp only [ensures_bind, ensures_modify, Post.after_ok]
    have htried (g : FunctionId) : ((c.functions.lookup f).2.markSpecializationTried f.id).get? g =
        if g = f.id then some { looked with specializationTried := true }
        else c.functions.get? g := by
      rw [FunctionRegistry.markSpecializationTried, FunctionRegistry.get?_modify]
      split
      next hg => rw [hg, hlooked]; rfl
      next hg => exact hothers g hg
    split
    next body hbody =>
      have hupdated (g : FunctionId) := FunctionRegistry.get?_update
        ((c.functions.lookup f).2.markSpecializationTried f.id) f body g
      rw [ensures_update]
      refine ⟨⟨_, rfl⟩, fun g hg => ?_, _, rfl, (hupdated f.id).trans (if_pos rfl), ?_⟩
      · rw [hupdated, if_neg hg, htried, if_neg hg]
      · -- a specialized body gets an entry of its own, and the count starts over
        refine .inr ⟨rfl, rfl, fun before hbefore => ?_⟩
        rw [hrevision before hbefore, FunctionRegistry.update, htried, if_pos rfl]
        exact Nat.lt_succ_self _
    next =>
      rw [ensures_pure]
      refine ⟨⟨_, rfl⟩, fun g hg => ?_, { looked with specializationTried := true }, ?_, ?_,
        hrenews⟩
      · rw [htried, if_neg hg]
      · rw [hentry]
      · rw [htried, if_pos rfl]
  · rw [ensures_pure, hentry]
    exact ⟨⟨_, rfl⟩, hothers, looked, rfl, hlooked, hrenews⟩

end Tiering

/-! ## Passes -/

/-- A call of a function through the tiers, over the elements of a vector. -/
structure Pass where
  function : Function
  elements : Zipped
  /-- The elements as columns, if these have been made before. -/
  columns : Option ColumnArray
  /-- The context in which the pass begins. -/
  start : Context

namespace Pass

variable (a : Pass)

/-- How the pass goes. -/
def run : Run Tiering.Outcome := (Tiering.run a.function a.elements a.columns).run a.start

/-- How the function is resolved. -/
def resolved : Run Entry := (Tiering.resolve a.function).run a.start

/-- The entry that is called. -/
def entry : Entry := a.resolved.result.toOption.getD a.function.ownEntry

/-- The elements as columns, if they have a row type. -/
def input? : Option ColumnArray :=
  a.columns <|> (a.elements.primary.marshal a.elements.companions).toOption

/-- The trace that the entry has in the end. -/
def trace : TraceId := (a.run.context.detector.traceOf a.entry.id).1

/-- What the pass attempts on the device, if it gets there: to compute the elements with the unit
that is then cached for the trace, on the device as it was. -/
def attempt? : Option Attempt :=
  if Event.launches a.run.events = 0 then none
  else do
    let unit ← a.run.context.units.get? a.trace
    let input ← a.input?
    return (a.start.executorOf a.trace unit).attempt a.start.device input

/-- Whether an attempt was abandoned. -/
def abandoned : Bool := a.attempt?.any Attempt.abandoned

theorem resolved_record : ∃ record, a.entry = record.entry ∧
    a.resolved.result = .ok record.entry ∧
    a.resolved.context.functions.get? a.function.id = some record ∧
    Tiering.Renews a.function.id (a.start.functions.get? a.function.id) record := by
  obtain ⟨-, -, record, hresult, hrecord, hrenews⟩ := Tiering.resolve_record a.function a.start
  refine ⟨record, ?_, hresult, hrecord, hrenews⟩
  rw [entry, resolved, hresult]
  rfl

/-- A pass calls the entry once the function has been resolved, and has entered no phase before. -/
theorem ensures_run (post : Post Tiering.Outcome)
    (h : ∀ told, Event.launches told = 0 →
      (Tiering.callEntry a.function.id a.entry a.elements a.input?).Ensures a.resolved.context
        fun r c' es => post r c' (told ++ es)) :
    (Tiering.run a.function a.elements a.columns).Ensures a.start post := by
  obtain ⟨record, hentry, hresult, -⟩ := a.resolved_record
  have hresolve (input : Option ColumnArray) (hinput : input = a.input?) {told : List Event}
      (htold : Event.launches told = 0) :
      (Tiering.resolve a.function >>= fun entry =>
        Tiering.callEntry a.function.id entry a.elements input).Ensures a.start
          fun r c' es => post r c' (told ++ es) := by
    have hnone := (Tiering.phaseless_resolve a.function).launches a.start
    rw [ensures_bind]
    change Post.after _ _ a.resolved.result a.resolved.context a.resolved.events
    rw [hresult, Post.after_ok, ← hentry, hinput]
    refine (h (told ++ a.resolved.events) ?_).mono fun r c' es hpost => ?_
    · rw [Event.launches_append, htold, Nat.zero_add]
      exact hnone
    · rw [List.append_assoc] at hpost
      exact hpost
  cases hcolumns : a.columns with
  | some array =>
    rw [Tiering.run_some]
    exact hresolve (some array) (by rw [input?, hcolumns]; rfl) Event.launches_nil
  | none =>
    rw [Tiering.run_none, ensures_bind]
    refine ((Tiering.columns_ensures a.elements a.start).and
      ((Tiering.phaseless_columns a.elements).launches a.start)).mono ?_
    rintro r c' told ⟨⟨rfl, rfl, -⟩, htold⟩
    rw [Post.after_ok]
    exact hresolve _ (by rw [input?, hcolumns]; rfl) htold

/-- A pass makes one attempt at most, and only if the function may go to the device. The attempt
alone tells what becomes of the device, and is counted if it is abandoned. -/
structure Account (a : Pass) : Prop where
  launches : Event.launches a.run.events = a.attempt?.toList.length
  device : a.run.context.device = (a.attempt?.map Attempt.device).getD a.start.device
  options : a.run.context.options = a.start.options
  functions : a.resolved.context.functions.Counts a.function.id (if a.abandoned then 1 else 0)
    a.run.context.functions
  admitted : a.attempt? ≠ none → a.resolved.context.Admits a.function.id

theorem account : a.Account := by
  obtain ⟨⟨functions, hresolved⟩, -⟩ := Tiering.resolve_record a.function a.start
  have hcontext : a.resolved.context = { a.start with functions } := hresolved
  have hpasses : (Tiering.run a.function a.elements a.columns).Ensures a.start fun _ c' es =>
      ∃ attempt?, Event.launches es = attempt?.toList.length ∧
        Tiering.Passed a.function.id a.entry.id a.input? a.resolved.context c' attempt? := by
    refine a.ensures_run _ fun told htold => ?_
    refine (Tiering.callEntry_passes ..).mono ?_
    rintro r c' es ⟨attempt?, hes, hpassed⟩
    exact ⟨attempt?, by rw [Event.launches_append, htold, hes, Nat.zero_add], hpassed⟩
  obtain ⟨attempt?, hlaunches, hpassed⟩ := hpasses
  change Event.launches a.run.events = _ at hlaunches
  -- the attempt that was made is the one that the pass tells of
  have hattempt : a.attempt? = attempt? := by
    cases attempt? with
    | none =>
      have hzero : Event.launches a.run.events = 0 := hlaunches
      rw [Pass.attempt?, if_pos hzero]
    | some attempt =>
      have hone : Event.launches a.run.events = 1 := hlaunches
      obtain ⟨trace, unit, array, hinput, hnames, hunit, hattempt⟩ := hpassed.unit attempt rfl
      have htrace : a.trace = trace := Detector.traceOf_of_names hnames
      have hunit' : a.run.context.units.get? trace = some unit := hunit
      rw [hcontext] at hattempt
      rw [Pass.attempt?, if_neg (by omega), htrace, hunit', hinput]
      exact congrArg some hattempt
  subst hattempt
  have hdevice := hpassed.device
  have hoptions := hpassed.options
  rw [hcontext] at hdevice hoptions
  exact ⟨hlaunches, hdevice, hoptions, hpassed.functions, hpassed.admitted⟩

/-- The function may not go to the device, as when its runs have been abandoned up to the limit. -/
def Spent : Prop := ¬ a.resolved.context.Admits a.function.id

theorem attempt?_of_spent (h : a.Spent) : a.attempt? = none := by
  by_contra hne
  exact h (a.account.admitted hne)

/-- The results are then the interpreted ones. -/
theorem result_of_spent (h : a.Spent) :
    a.run.result = (a.entry.body.outcome a.elements).mapError .eval := by
  have hresult : (Tiering.run a.function a.elements a.columns).Ensures a.start fun r _ _ =>
      r = (a.entry.body.outcome a.elements).mapError .eval :=
    a.ensures_run _ fun _ _ => Tiering.callEntry_of_not_admits h a.input?
  exact hresult

end Pass

/-- The context, but with the device of another one, and what goes with it: the detector, the
compiler, the cached units and the executors. -/
def Context.equip (c d : Context) : Context :=
  { c with
    detector := d.detector
    compiler := d.compiler
    units := d.units
    executors := d.executors
    device := d.device }

namespace Tiering

variable {c d : Context} {f : FunctionId}

/-- The contexts differ in the device and what goes with it only, and the function may not go
there. -/
def Barred (d : Context) (f : FunctionId) (c c' : Context) : Prop := c' = c.equip d ∧ ¬ c.Admits f

theorem deviceEnabled_barred (d : Context) (f : FunctionId) :
    (deviceEnabled f).Coupled (Barred d f) (Barred d f) (fun b b' => b = false ∧ b' = false)
      (deviceEnabled f) := by
  refine coupled_get_bind fun c c' hc => ?_
  have hoptions : c'.options = c.options := by rw [hc.1, Context.equip]
  have hfunctions : c'.functions = c.functions := by rw [hc.1, Context.equip]
  rw [hoptions, hfunctions]
  split
  next => exact coupled_pure ⟨rfl, rfl⟩
  next hmode =>
    dsimp only
    split
    next => exact (coupled_tell _).next fun _ => coupled_pure ⟨rfl, rfl⟩
    next hlimit => exact absurd ⟨not_not.1 hmode, Nat.lt_of_not_le hlimit⟩ hc.2

theorem callEntry_barred (entry : Entry) (z : Zipped) {input input' : Option ColumnArray}
    (hinput : input.map id = input'.map id) :
    (callEntry f entry z input).Coupled (Barred d f) (Barred d f) Eq
      (callEntry f entry z input') := by
  have hz : z.Alike z := ⟨rfl, rfl⟩
  refine coupled_callEntry (fun v type => coupled_modify ?_) ?_ hz hinput
  · rintro c c' ⟨rfl, hadmits⟩
    exact ⟨rfl, fun h => hadmits ((Context.admits_recordSample v type).1 h)⟩
  · rintro a a' rfl output first rest
    refine (deviceEnabled_barred d f).bind ?_
    rintro b b' ⟨rfl, rfl⟩
    exact coupled_interpretRest entry hz first rest (some output)

theorem resolve_equip (f : Function) (d : Context) :
    (resolve f).Coupled (fun c c' => c' = c.equip d) (fun c c' => c' = c.equip d) Eq
      (resolve f) := by
  have hlookup : (lookup f).Coupled (fun c c' => c' = c.equip d) (fun c c' => c' = c.equip d) Eq
      (lookup f) := by
    refine coupled_update ?_
    rintro c c' rfl
    exact ⟨rfl, rfl⟩
  refine hlookup.next fun entry => coupled_get_bind fun c c' hc => ?_
  have hoptions : c'.options = c.options := by rw [hc, Context.equip]
  have hfunctions : c'.functions = c.functions := by rw [hc, Context.equip]
  rw [hoptions, hfunctions]
  split
  · refine .next (coupled_modify ?_) fun _ => ?_
    · rintro c c' rfl
      rfl
    · split
      · refine coupled_update ?_
        rintro c c' rfl
        exact ⟨rfl, rfl⟩
      · exact coupled_pure rfl
  · exact coupled_pure rfl

end Tiering

theorem Run.eq_mk {α : Type} {r : Run α} {result : Except OperatorError α} {context : Context}
    {events : List Event} (hresult : r.result = result) (hcontext : r.context = context)
    (hevents : r.events = events) : r = ⟨result, context, events⟩ := by
  subst hresult hcontext hevents
  rfl

namespace Pass

variable {a : Pass}

/-- The pass would then go the same whatever the detector, the compiler, the cached units, the
executors and the device were, and leaves them as they are. -/
theorem idle_of_spent (h : a.Spent) (d : Context) :
    (Tiering.run a.function a.elements a.columns).run (a.start.equip d) =
      { a.run with context := a.run.context.equip d } := by
  -- that the budget is spent is known only once the function has been resolved from where the pass
  -- starts, so the start is part of the relation before and no longer after
  have hresolve : (Tiering.resolve a.function).Coupled
      (fun c c' => c' = c.equip d ∧ c = a.start) (Tiering.Barred d a.function.id) Eq
      (Tiering.resolve a.function) := by
    rintro c c' ⟨rfl, rfl⟩
    obtain ⟨hresult, hcontext, hevents⟩ := Tiering.resolve_equip a.function d a.start _ rfl
    exact ⟨hresult, ⟨hcontext, h⟩, hevents⟩
  have hrun : (Tiering.run a.function a.elements a.columns).Coupled
      (fun c c' => c' = c.equip d ∧ c = a.start) (fun c c' => c' = c.equip d) Eq
      (Tiering.run a.function a.elements a.columns) := by
    have hcolumns := (Tiering.coupled_columns_self (K := fun c c' => c' = c.equip d ∧ c = a.start)
      a.elements).mono fun _ _ ha => congrArg (Option.map id) ha
    exact Tiering.coupled_run (fun _ _ hc => hc.1) (fun _ _ hc => hc.1) hresolve hcolumns
      (fun entry _ _ => Tiering.callEntry_barred entry a.elements) rfl
  obtain ⟨hresult, hcontext, hevents⟩ := hrun a.start _ ⟨rfl, rfl⟩
  exact Run.eq_mk hresult.eq.symm hcontext hevents.symm

end Pass

end TieredVectors
