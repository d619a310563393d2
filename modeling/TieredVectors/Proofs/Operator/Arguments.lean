import TieredVectors.Proofs.Operator.Registering

/-!
# The arguments of calls

Which arguments a function may be called with, for zipped vectors (`Zipped.Passes`): the elements at
one index, after what has been accumulated if the vectors are folded. All that calls functions, in
order, on a pool or through the tiers, keeps to that.

`Action.Obeys` is the form in which this is said: in a context whose entries are those of a program,
an action leaves such a context and calls functions as allowed only.
-/

namespace TieredVectors

namespace Zipped

variable {z : Zipped} {body : Body} {task : StageTask} {neutral : Value} {row : List Value}

/-- The elements at one index: that of the vector, and those of its companions in their order. -/
def IsRow (z : Zipped) (row : List Value) : Prop :=
  ∃ i, row.map some = (z.primary :: z.companions).map fun v => v.get? i

theorem IsRow.length_eq (h : z.IsRow row) : row.length = 1 + z.companions.length := by
  obtain ⟨i, hi⟩ := h
  simpa [Nat.add_comm] using congrArg List.length hi

/-- No element is missing at an index that the vector reaches. -/
theorem isRow_arguments {i : Nat} (hi : i < z.length) : z.IsRow (z.arguments i) :=
  ⟨i, z.map_some_arguments hi⟩

/-- What may have been accumulated when the vectors are folded: the neutral value, what calls for
rows have made of it, and what combining such values gives where there are no companions. -/
inductive Accumulates (z : Zipped) (body : Body) (neutral : Value) : Value → Prop
  | neutral : Accumulates z body neutral neutral
  | step {acc v : Value} {row : List Value} (hacc : Accumulates z body neutral acc)
      (hrow : z.IsRow row) (h : body.call (acc :: row) = .ok v) : Accumulates z body neutral v
  | combine {acc part v : Value} (hnone : z.companions = [])
      (hacc : Accumulates z body neutral acc) (hpart : Accumulates z body neutral part)
      (h : body.call [acc, part] = .ok v) : Accumulates z body neutral v

/-- The arguments that a function may be called with for a task: a row, and before it what has been
accumulated if the task is to fold. -/
inductive Passes (z : Zipped) (body : Body) : StageTask → List Value → Prop
  | map {row : List Value} (hrow : z.IsRow row) : Passes z body .map row
  | fold {neutral acc : Value} {row : List Value} (hacc : z.Accumulates body neutral acc)
      (hrow : z.IsRow row) : Passes z body (.reduce neutral) (acc :: row)
  | combine {neutral acc part : Value} (hnone : z.companions = [])
      (hacc : z.Accumulates body neutral acc) (hpart : z.Accumulates body neutral part) :
      Passes z body (.reduce neutral) [acc, part]

theorem Passes.length_eq {args : List Value} (h : z.Passes body task args) :
    args.length = task.accumulator.length + 1 + z.companions.length := by
  cases h with
  | map hrow => simpa [StageTask.accumulator] using hrow.length_eq
  | fold hacc hrow => simp [StageTask.accumulator, hrow.length_eq]; omega
  | combine hnone => simp [StageTask.accumulator, hnone]

end Zipped

/-! ## Keeping to what is allowed -/

/-- The entry is one that the program has for the function. -/
def Program.Grants (p : Program) (f : FunctionId) (entry : Entry) : Prop :=
  entry.id.function = f ∧ p.Has entry

variable {p : Program} {S : StageRegistry → Prop} {Q : FunctionId × List Value → Prop}
  {c : Context} {α β : Type}

/-- Functions are called through entries of the program, and the stages are as `S` says. -/
structure Context.Heeds (p : Program) (S : StageRegistry → Prop) (c : Context) : Prop where
  entries : ∀ f, p.Grants f (c.functions.target p f).entry
  stages : S c.stages

theorem Context.Heeds.congr {c' : Context} (h : c.Heeds p S)
    (htarget : c'.functions.target p = c.functions.target p) (hstages : c'.stages = c.stages) :
    c'.Heeds p S :=
  ⟨by rw [htarget]; exact h.entries, hstages ▸ h.stages⟩

/-- A specialization is an entry of the program as well. -/
theorem Context.Heeds.resolved (h : c.Heeds p S) (f g : FunctionId) :
    p.Grants g (c.resolved p f g).entry := by
  rw [Context.resolved]
  split
  next hg =>
    obtain ⟨-, rfl⟩ := hg
    obtain ⟨hid, hhas⟩ := h.entries g
    rw [Target.specialize]
    split
    · exact ⟨hid, hhas⟩
    · split
      next body hbody =>
        rw [Program.Has, hid] at hhas
        exact ⟨rfl, by simp [Program.Has, Program.entryBody?, hhas, hbody]⟩
      next => exact ⟨hid, hhas⟩
  next => exact h.entries g

namespace Action

variable {a : Action α} {R : α → Prop}

/-- Where functions are called through entries of the program, the action leaves it so, has results
as `R` says, and makes such calls only as `Q` allows. -/
def Obeys (p : Program) (S : StageRegistry → Prop) (Q : FunctionId × List Value → Prop)
    (a : Action α) (R : α → Prop) : Prop :=
  ∀ c, c.Heeds p S → a.Ensures c fun r c' es =>
    c'.Heeds p S ∧ (∀ v, r = .ok v → R v) ∧ ∀ call ∈ Event.calls es, Q call

theorem Obeys.ensures (h : a.Obeys p S Q R) (hc : c.Heeds p S) : a.Ensures c fun r c' es =>
    c'.Heeds p S ∧ (∀ v, r = .ok v → R v) ∧ ∀ call ∈ Event.calls es, Q call :=
  h c hc

theorem Obeys.mono {R' : α → Prop} (h : a.Obeys p S Q R) (hR : ∀ v, R v → R' v) :
    a.Obeys p S Q R' := fun c hc =>
  (h c hc).mono fun _ _ _ h => ⟨h.1, fun v hv => hR v (h.2.1 v hv), h.2.2⟩

theorem obeys_pure {x : α} (hx : R x) : (pure x : Action α).Obeys p S Q R := by
  refine fun c hc => ⟨hc, fun v hv => ?_, nofun⟩
  obtain rfl := Except.ok.inj hv
  exact hx

theorem obeys_get : get.Obeys p S Q fun c => S c.stages := by
  refine fun c hc => ⟨hc, fun v hv => ?_, nofun⟩
  obtain rfl := Except.ok.inj hv
  exact hc.stages

theorem Obeys.bind {f : α → Action β} {R' : β → Prop} (ha : a.Obeys p S Q R)
    (hf : ∀ x, R x → (f x).Obeys p S Q R') : (a >>= f).Obeys p S Q R' := by
  intro c hc
  rw [ensures_bind]
  refine (ha c hc).mono ?_
  rintro r c' es ⟨hc', hR, hQ⟩
  cases r with
  | error e => exact ⟨hc', nofun, hQ⟩
  | ok x =>
    rw [Post.after_ok]
    refine (hf x (hR x rfl) c' hc').mono ?_
    rintro r c'' es' ⟨hc'', hR', hQ'⟩
    refine ⟨hc'', hR', fun call hcall => ?_⟩
    rw [Event.calls_append] at hcall
    exact (List.mem_append.1 hcall).elim (hQ call) (hQ' call)

theorem Obeys.map (ha : a.Obeys p S Q R) (f : α → β) : (f <$> a).Obeys p S Q fun _ => True := by
  rw [map_eq_pure_bind]
  exact ha.bind fun _ _ => obeys_pure trivial

/-- The action makes no calls, and changes neither the stages nor what is called for a function. -/
def Silent (p : Program) (a : Action α) : Prop :=
  ∀ c, a.Ensures c fun _ c' es =>
    c'.functions.target p = c.functions.target p ∧ c'.stages = c.stages ∧ Event.calls es = []

theorem Silent.obeys (h : a.Silent p) : a.Obeys p S Q fun _ => True := fun c hc =>
  (h c).mono fun _ _ _ h => ⟨hc.congr h.1 h.2.1, fun _ _ => trivial, by rw [h.2.2]; exact nofun⟩

theorem silent_pure (x : α) : (pure x : Action α).Silent p := fun _ => ⟨rfl, rfl, rfl⟩

theorem silent_get : get.Silent p := fun _ => ⟨rfl, rfl, rfl⟩

theorem silent_fail (e : OperatorError) : (fail e : Action α).Silent p := fun _ => ⟨rfl, rfl, rfl⟩

theorem silent_tell {es : List Event} (h : Event.calls es = []) : (tell es).Silent p :=
  fun _ => ⟨rfl, rfl, h⟩

theorem Silent.bind {f : α → Action β} (ha : a.Silent p) (hf : ∀ x, (f x).Silent p) :
    (a >>= f).Silent p := by
  intro c
  rw [ensures_bind]
  refine (ha c).mono ?_
  rintro r c' es ⟨htarget, hstages, hcalls⟩
  cases r with
  | error e => exact ⟨htarget, hstages, hcalls⟩
  | ok x =>
    rw [Post.after_ok]
    refine (hf x c').mono ?_
    rintro r c'' es' ⟨htarget', hstages', hcalls'⟩
    exact ⟨htarget'.trans htarget, hstages'.trans hstages, by simp [hcalls, hcalls']⟩

theorem silent_results (values : List Value) (type : Option RowType) :
    (results values type).Silent p := fun c =>
  (results_ensures values type c).mono fun _ _ _ h => by rw [h.2.1]; exact ⟨rfl, rfl, h.2.2⟩

theorem silent_pool (threads : Nat) : (pool threads).Silent p := by
  refine silent_get.bind fun c => ?_
  split
  · exact silent_pure _
  · split
    · exact silent_fail _
    · exact (silent_tell rfl).bind fun _ => Silent.bind (fun _ => ⟨rfl, rfl, rfl⟩) fun _ =>
        silent_pure _

/-- The entry of a function is one that the program has for it. -/
theorem lookup_obeys {f : Function} (hf : p.Knows f) : (lookup f).Obeys p S Q (p.Grants f.id) := by
  intro c hc
  rw [lookup, ensures_update]
  refine ⟨hc.congr (FunctionRegistry.target_lookup hf) rfl, fun entry hentry => ?_, List.forall_mem_nil _⟩
  obtain rfl := Except.ok.inj hentry
  exact FunctionRegistry.lookup_fst hf ▸ hc.entries f.id

end Action

/-! ## Interpreting -/

/-- Whatever may be passed to the entry for the task is allowed. -/
def Entry.Serves (Q : FunctionId × List Value → Prop) (entry : Entry) (z : Zipped)
    (task : StageTask) : Prop :=
  ∀ args, z.Passes entry.body task args → Q (entry.id.function, args)

namespace Entry

open TieredVectors.Action

variable {entry : Entry} {z : Zipped} {neutral : Value}

theorem call_obeys {args : List Value} (h : Q (entry.id.function, args)) :
    (entry.call args).Obeys p S Q fun v => entry.body.call args = .ok v := by
  intro c hc
  refine (entry.call_ensures args c).mono ?_
  rintro r c' es ⟨rfl, rfl, rfl⟩
  refine ⟨hc, fun v hv => ?_, fun call hcall => ?_⟩
  · cases hcall : entry.body.call args with
    | ok w =>
      rw [hcall] at hv
      exact congrArg Except.ok (Except.ok.inj hv)
    | error e =>
      rw [hcall] at hv
      cases hv
  · obtain rfl := List.mem_singleton.1 hcall
    exact h

theorem callFrom_obeys (h : entry.Serves Q z .map) {first count : Nat}
    (hle : first + count ≤ z.length) :
    (entry.callFrom z first count).Obeys p S Q fun _ => True := by
  induction count generalizing first with
  | zero => exact obeys_pure trivial
  | succ count ih =>
    refine (call_obeys (h _ (.map (Zipped.isRow_arguments (by omega))))).bind fun v _ => ?_
    exact (ih (by omega)).bind fun vs _ => obeys_pure trivial

theorem foldFrom_obeys (h : entry.Serves Q z (.reduce neutral)) {acc : Value}
    (hacc : z.Accumulates entry.body neutral acc) {first count : Nat}
    (hle : first + count ≤ z.length) :
    (entry.foldFrom z acc first count).Obeys p S Q (z.Accumulates entry.body neutral) := by
  induction count generalizing acc first with
  | zero => exact obeys_pure hacc
  | succ count ih =>
    have hrow : z.IsRow (z.arguments first) := Zipped.isRow_arguments (by omega)
    refine (call_obeys (h _ (.fold hacc hrow))).bind fun v hv => ?_
    exact ih (.step hacc hrow hv) (by omega)

theorem foldValues_obeys (h : entry.Serves Q z (.reduce neutral)) (hnone : z.companions = [])
    {acc : Value} (hacc : z.Accumulates entry.body neutral acc) {values : List Value}
    (hvalues : ∀ v ∈ values, z.Accumulates entry.body neutral v) :
    (entry.foldValues acc values).Obeys p S Q (z.Accumulates entry.body neutral) := by
  induction values generalizing acc with
  | nil => exact obeys_pure hacc
  | cons part values ih =>
    rw [List.forall_mem_cons] at hvalues
    refine (call_obeys (h _ (.combine hnone hacc hvalues.1))).bind fun v hv => ?_
    exact ih (.combine hnone hacc hvalues.1 hv) hvalues.2

end Entry

namespace Pool

open TieredVectors.Action

variable {entry : Entry} {z : Zipped} {neutral : Value} {task : Nat → Action α} {R : α → Prop}

/-- Every task that has finished is found under its number. -/
theorem finish_obeys {order : List Nat} (h : ∀ i ∈ order, (task i).Obeys p S Q R) :
    (finish task order).Obeys p S Q fun finished =>
      ∀ i ∈ order, ∃ x, finished.lookup i = some x ∧ R x := by
  induction order with
  | nil => exact obeys_pure nofun
  | cons i rest ih =>
    rw [List.forall_mem_cons] at h
    refine h.1.bind fun x hx => (ih h.2).bind fun finished hfinished => obeys_pure fun j hj => ?_
    -- what finished first stands in front
    by_cases hij : j = i
    · subst hij
      exact ⟨x, List.lookup_cons_self, hx⟩
    · obtain ⟨y, hlookup, hy⟩ := hfinished j ((List.mem_cons.1 hj).resolve_left hij)
      refine ⟨y, ?_, hy⟩
      rw [List.lookup_cons, beq_eq_false_iff_ne.2 hij]
      exact hlookup

theorem compute_obeys (blank : α) {n : Nat} (h : ∀ i < n, (task i).Obeys p S Q R) :
    (compute blank n task).Obeys p S Q fun xs => ∀ x ∈ xs, R x := by
  refine silent_get.obeys.bind fun c _ => ?_
  -- the schedule has all tasks and no others, so that none is left blank
  have hmem (i : Nat) : i ∈ c.schedule.order n ↔ i < n :=
    (c.schedule.complete n).mem_iff.trans List.mem_range
  refine (finish_obeys fun i hi => h i ((hmem i).1 hi)).bind fun finished hfinished =>
    obeys_pure fun x hx => ?_
  obtain ⟨i, hi, rfl⟩ := List.mem_map.1 hx
  obtain ⟨y, hlookup, hy⟩ := hfinished i ((hmem i).2 (List.mem_range.1 hi))
  rw [hlookup]
  exact hy

theorem callAll_obeys (h : entry.Serves Q z .map) :
    (callAll entry z).Obeys p S Q fun _ => True :=
  (compute_obeys (R := fun _ => True) Value.null fun _ hi =>
    (Entry.call_obeys (h _ (.map (Zipped.isRow_arguments hi)))).mono fun _ _ => trivial).mono
      fun _ _ => trivial

/-- Chunks do not reach beyond the elements. -/
theorem mem_cut {size first count : Nat} {chunk : Chunk} (h : chunk ∈ cut size first count) :
    chunk.first + chunk.length ≤ first + count := by
  induction hn : count using Nat.strongRecOn generalizing first count with
  | ind n ih =>
    subst hn
    rw [cut] at h
    split at h
    next => cases h
    next hcount =>
      rcases List.mem_cons.1 h with rfl | h
      · exact Nat.add_le_add_left (Nat.min_le_right ..) first
      · have hlength : min (size + 1) count ≤ count := Nat.min_le_right ..
        have := ih (count - min (size + 1) count) (by omega) h rfl
        omega

theorem fold_obeys (h : entry.Serves Q z (.reduce neutral)) (threads : Nat) :
    (fold threads entry z neutral).Obeys p S Q (z.Accumulates entry.body neutral) := by
  rw [fold]
  split
  next => exact Entry.foldFrom_obeys h .neutral (by omega)
  next hmany =>
    -- partial results are combined by the function itself, which then takes two arguments
    have hnone : z.companions = [] := by
      rw [Bool.or_eq_true, not_or, Bool.not_eq_true', Bool.not_eq_false, List.isEmpty_iff] at hmany
      exact hmany.1
    refine (compute_obeys (R := z.Accumulates entry.body neutral) Value.null
      fun i hi => ?_).bind fun partials hpartials => ?_
    · refine Entry.foldFrom_obeys h .neutral ?_
      have hchunk : (chunks threads z.length).getD i default ∈ chunks threads z.length := by
        rw [List.getD_eq_getElem?_getD, List.getElem?_eq_getElem hi, Option.getD_some]
        exact List.getElem_mem hi
      simpa using mem_cut hchunk
    · exact (silent_tell rfl).obeys.bind fun _ _ =>
        Entry.foldValues_obeys h hnone .neutral hpartials

end Pool

/-! ## Through the tiers -/

/-- A run that has been abandoned changes no target. -/
theorem FunctionRegistry.target_recordDeopt (r : FunctionRegistry) (f : FunctionId) :
    (r.recordDeopt f).2.target p = r.target p := by
  unfold recordDeopt
  split
  · exact target_modify f fun _ => rfl
  · rfl

namespace Tiering

open TieredVectors.Action

variable {f : Function} {s : Site} {entry : Entry} {z : Zipped}

theorem resolve_obeys (hf : p.Knows f) : (resolve f).Obeys p S Q (p.Grants f.id) := by
  intro c hc
  refine ((resolve_targets hf c).and (computes_resolve f c)).mono ?_
  rintro r c' es ⟨⟨rfl, htarget, -, -, rfl⟩, hbystanders, -⟩
  have hstages : c'.stages = c.stages := congrArg Prod.fst hbystanders
  refine ⟨⟨fun g => ?_, hstages ▸ hc.stages⟩, fun entry hentry => ?_, nofun⟩
  · rw [htarget]
    exact hc.resolved f.id g
  · obtain rfl := Except.ok.inj hentry
    exact hc.resolved f.id f.id

theorem silent_columns (z : Zipped) : (columns z).Silent p := fun c =>
  (columns_ensures z c).mono fun _ _ _ h => by rw [h.1]; exact ⟨rfl, rfl, h.2.2⟩

theorem silent_outputType (v : Value) : (outputType v).Silent p := fun c =>
  (outputType_ensures v c).mono fun _ _ _ h => by rw [h.1]; exact ⟨rfl, rfl, h.2.2.1⟩

theorem silent_deviceEnabled (f : FunctionId) : (deviceEnabled f).Silent p := fun c =>
  (deviceEnabled_ensures f c).mono fun _ _ _ h => by rw [h.1]; exact ⟨rfl, rfl, h.2.2⟩

theorem silent_propose (f : FunctionId) (entry : EntryId) : (propose f entry).Silent p := fun _ =>
  ⟨FunctionRegistry.target_markCandidate f, rfl, rfl⟩

theorem silent_probe (trace : TraceId) : (probe trace).Silent p := fun _ => ⟨rfl, rfl, rfl⟩

theorem silent_compile (s : Site) (graph : Graph) : (compile s graph).Silent p := by
  refine silent_get.bind fun c => ?_
  dsimp only
  cases c.compiler.compile graph.shape s.input.type s.output s.entry.body.scope with
  | error e =>
    dsimp only
    split
    · exact (silent_tell rfl).bind fun _ => silent_pure _
    · exact silent_pure _
  | ok result =>
    dsimp only
    split
    · exact (silent_tell rfl).bind fun _ _ => ⟨rfl, rfl, rfl⟩
    · exact fun _ => ⟨rfl, rfl, rfl⟩

theorem silent_launch (s : Site) (unit : CompiledUnit) : (launch s unit).Silent p := by
  refine silent_get.bind fun c => Silent.bind (fun _ => ⟨rfl, rfl, rfl⟩) fun _ => ?_
  split
  · dsimp only
    split
    · exact (silent_tell rfl).bind fun _ => silent_pure _
    · exact silent_pure _
  · exact silent_pure _

theorem silent_tellFailure (e : CompileError) : (tellFailure e).Silent p := by
  refine (silent_tell rfl).bind fun _ => silent_get.bind fun c => ?_
  split
  · exact silent_tell rfl
  · exact silent_pure _

section

variable (h : s.entry.Serves Q s.elements .map)
include h

theorem deoptimize_obeys (unit : CompiledUnit) (reason : String) :
    (deoptimize s unit reason).Obeys p S Q fun _ => True := by
  have hrecord : (update fun c => ((c.functions.recordDeopt s.function).1,
      { c with functions := (c.functions.recordDeopt s.function).2 })).Silent p :=
    fun c => ⟨FunctionRegistry.target_recordDeopt c.functions s.function, rfl, rfl⟩
  refine (silent_tell rfl).obeys.bind fun _ _ => hrecord.obeys.bind fun _ _ => ?_
  refine (silent_tell rfl).obeys.bind fun _ _ => ?_
  exact (Entry.callFrom_obeys h (by omega)).bind fun _ _ => obeys_pure trivial

theorem execute_obeys (unit : CompiledUnit) : (execute s unit).Obeys p S Q fun _ => True := by
  refine (silent_tell rfl).obeys.bind fun _ _ => (silent_launch s unit).obeys.bind fun result _ => ?_
  split
  · exact ((silent_tell rfl).bind fun _ => silent_pure _).obeys
  · exact deoptimize_obeys h unit _
  · split
    · exact deoptimize_obeys h unit _
    · exact (silent_fail _).obeys

theorem trace_obeys {first count : Nat} (hle : first + count ≤ s.elements.length) :
    (trace s first count).Obeys p S Q fun _ => True := by
  induction count generalizing first with
  | zero => exact obeys_pure trivial
  | succ count ih =>
    have hrow : s.elements.IsRow (s.elements.arguments first) := Zipped.isRow_arguments (by omega)
    refine (Entry.call_obeys (h _ (.map hrow))).bind fun v _ => ?_
    refine (silent_probe s.trace).obeys.bind fun graph? _ => ?_
    split
    · refine (ih (by omega)).bind fun rest _ => ?_
      split <;> exact obeys_pure trivial
    · refine (silent_tell rfl).obeys.bind fun _ _ => (silent_compile s _).obeys.bind fun result _ => ?_
      split
      · exact ((silent_tell rfl).bind fun _ => silent_pure _).obeys
      · -- without a unit the elements that are left are interpreted
        refine (silent_tellFailure _).obeys.bind fun _ _ => ?_
        exact (Entry.callFrom_obeys h (by omega)).bind fun _ _ => obeys_pure trivial

end

theorem interpretRest_obeys (h : entry.Serves Q z .map) {rest : Nat} (hle : 1 + rest ≤ z.length)
    (first : Value) (type : Option RowType) :
    (interpretRest entry z first rest type).Obeys p S Q fun _ => True :=
  (Entry.callFrom_obeys h hle).bind fun _ _ => obeys_pure trivial

theorem proceed_obeys (h : s.entry.Serves Q s.elements .map) {rest : Nat}
    (hle : 1 + rest ≤ s.elements.length) (first : Value) :
    (proceed s first rest).Obeys p S Q fun _ => True := by
  refine silent_get.obeys.bind fun c _ => ?_
  split
  · split
    · exact (silent_tell rfl).obeys.bind fun _ _ => execute_obeys h _
    · exact (silent_tell rfl).obeys.bind fun _ _ => interpretRest_obeys h hle _ _
  · refine (trace_obeys h hle).bind fun result _ => ?_
    split
    · exact execute_obeys h _
    · exact obeys_pure trivial

theorem callEntry_obeys (h : entry.Serves Q z .map) (f : FunctionId) (input : Option ColumnArray) :
    (callEntry f entry z input).Obeys p S Q fun _ => True := by
  unfold callEntry
  split
  next => exact obeys_pure trivial
  next rest hlength =>
    have hrow : z.IsRow (z.arguments 0) := Zipped.isRow_arguments (by omega)
    have hle : 1 + rest ≤ z.length := by omega
    have hsample (first : Value) (output : Option RowType) : (modify fun c =>
        { c with functions := c.functions.recordSample f first output }).Silent p :=
      fun _ => ⟨FunctionRegistry.target_recordSample f first output, rfl, rfl⟩
    refine (silent_tell rfl).obeys.bind fun _ _ => ?_
    refine (Entry.call_obeys (h _ (.map hrow))).bind fun first _ => ?_
    refine (silent_outputType first).obeys.bind fun output _ => ?_
    refine (hsample first output).obeys.bind fun _ _ => ?_
    split
    · refine (silent_deviceEnabled f).obeys.bind fun enabled _ => ?_
      split
      · exact (silent_propose f entry.id).obeys.bind fun trace _ => proceed_obeys h hle first
      · exact interpretRest_obeys h hle first _
    · exact interpretRest_obeys h hle first _

/-- A call through the tiers passes rows only, whichever way it takes. -/
theorem run_obeys (hf : p.Knows f) (h : ∀ entry, p.Grants f.id entry → entry.Serves Q z .map)
    (input : Option ColumnArray) : (run f z input).Obeys p S Q fun _ => True := by
  have hcall (input : Option ColumnArray) :
      (resolve f >>= fun entry => callEntry f.id entry z input).Obeys p S Q fun _ => True :=
    (resolve_obeys hf).bind fun entry hentry => callEntry_obeys (h entry hentry) f.id input
  cases input with
  | none =>
    rw [run_none]
    exact (silent_columns z).obeys.bind fun input _ => hcall input
  | some array =>
    rw [run_some]
    exact hcall (some array)

end Tiering

end TieredVectors
