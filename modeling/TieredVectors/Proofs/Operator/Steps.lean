import Mathlib.Logic.Relation
import TieredVectors.Operator.Basic
import TieredVectors.Proofs.Stage.Parents

/-!
# Steps of a context

All that operators do to a context is a sequence of small steps. `Context.Step known` lists them,
each with what is known when it is taken; `known` tells the functions that operators are called
with. A property that every step keeps is kept by every operator (`Context.Steps.preserves`).
-/

namespace TieredVectors

namespace FunctionRegistry

variable (r : FunctionRegistry)

/-- The entry that is called for a function, once the function has been seen. -/
def find? (f : FunctionId) : Option Entry := (r.get? f).map (·.entry)

/-- A function that is looked up has been seen, and its entry is the result. -/
theorem find?_lookup (f : Function) (g : FunctionId) :
    (r.lookup f).2.find? g = if g = f.id then some (r.lookup f).1 else r.find? g := by
  cases h : r.get? f.id with
  | some record =>
    have hlookup : r.lookup f = (record.entry, r) := by simp [lookup, h]
    by_cases hg : g = f.id <;> simp [hlookup, find?, hg, h]
  | none =>
    have hlookup : r.lookup f =
        (f.ownEntry, { records := r.records.insert f.id { entry := f.ownEntry } }) := by
      simp [lookup, h]
    by_cases hg : g = f.id <;> simp [hlookup, find?, get?, hg]

/-- A specialized function has the new entry. -/
theorem find?_update (f : Function) (body : Body) (g : FunctionId) :
    (r.update f body).2.find? g = if g = f.id then some (r.update f body).1 else r.find? g := by
  by_cases hg : g = f.id <;> simp [update, find?, get?, hg]

/-- Looking a function up may give it its own entry, and changes nothing else. -/
theorem of_find?_lookup {r : FunctionRegistry} {f : Function} {g : FunctionId} {entry : Entry}
    (h : (r.lookup f).2.find? g = some entry) :
    r.find? g = some entry ∨ g = f.id ∧ entry = f.ownEntry := by
  cases hget : r.get? f.id with
  | some record =>
    have hlookup : r.lookup f = (record.entry, r) := by simp [lookup, hget]
    rw [hlookup] at h
    exact Or.inl h
  | none =>
    rw [find?_lookup] at h
    split at h
    next hg => exact Or.inr ⟨hg, by simpa [lookup, hget] using h.symm⟩
    next => exact Or.inl h

/-- The new entry of a specialized function has the next revision. -/
theorem update_fst {r : FunctionRegistry} {f : Function} {entry : Entry}
    (h : r.find? f.id = some entry) (body : Body) :
    (r.update f body).1 =
      { id := { function := f.id, revision := entry.id.revision + 1 }, body } := by
  obtain ⟨record, hrecord, rfl⟩ := Option.map_eq_some_iff.1 h
  simp [update, hrecord]

/-- A change that keeps the entry of a record. -/
theorem find?_modify {change : FunctionRecord → FunctionRecord} (f g : FunctionId)
    (h : ∀ record, (change record).entry = record.entry) :
    (r.modify f change).find? g = r.find? g := by
  simp only [modify, find?, get?, Table.get?_modify]
  split
  · cases r.records.get? g <;> simp [h]
  · rfl

@[simp]
theorem find?_recordSample (f g : FunctionId) (sample : Value) (output : Option RowType) :
    (r.recordSample f sample output).find? g = r.find? g :=
  r.find?_modify f g fun record => by split <;> rfl

@[simp]
theorem find?_markSpecializationTried (f g : FunctionId) :
    (r.markSpecializationTried f).find? g = r.find? g :=
  r.find?_modify f g fun _ => rfl

@[simp]
theorem find?_recordDeopt (f g : FunctionId) : (r.recordDeopt f).2.find? g = r.find? g := by
  unfold recordDeopt
  split
  · exact r.find?_modify f g fun _ => rfl
  · rfl

@[simp]
theorem find?_markCandidate (f g : FunctionId) : (r.markCandidate f).2.find? g = r.find? g := by
  unfold markCandidate
  split
  · split
    · rfl
    · exact r.find?_modify f g fun _ => rfl
  · rfl

end FunctionRegistry

/-- The unit that is kept when one is installed. -/
theorem UnitCache.get?_install (cache : UnitCache) (trace t : TraceId) (unit : CompiledUnit) :
    (cache.install trace unit).2.get? t =
      if t = trace then some ((cache.get? trace).getD unit) else cache.get? t := by
  unfold install
  cases h : cache.get? trace with
  | some kept => by_cases ht : t = trace <;> simp [ht, h]
  | none => simp

namespace Detector

/-- The entry has been given the trace. -/
def Names : Detector → EntryId → TraceId → Prop
  | .never, entry, trace => trace = ⟨entry.function.index⟩
  | .scripted s, entry, trace => s.traces.get? entry = some trace

/-- The detector holds the graph in readiness for the trace. -/
def Holds : Detector → TraceId → Graph → Prop
  | .never, _, _ => False
  | .scripted s, trace, graph => (s.scripts.get? trace).map (·.graph) = some graph

/-- The trace of an entry is the entry's from then on. -/
theorem names_traceOf (d : Detector) (entry : EntryId) :
    (d.traceOf entry).2.Names entry (d.traceOf entry).1 := by
  cases d with
  | never => rfl
  | scripted s =>
    simp only [traceOf, ScriptedDetector.traceOf]
    cases h : s.traces.get? entry <;> simp [Names, h]

/-- An entry keeps its trace when another is given one. -/
theorem Names.traceOf {d : Detector} {entry : EntryId} {trace : TraceId} (h : d.Names entry trace)
    (other : EntryId) : (d.traceOf other).2.Names entry trace := by
  cases d with
  | never => exact h
  | scripted s =>
    have h' : s.traces.get? entry = some trace := h
    simp only [Detector.traceOf, ScriptedDetector.traceOf]
    split
    next => exact h
    next hnone =>
      have hne : entry ≠ other := by
        rintro rfl
        simp [hnone] at h'
      simp [Names, hne, h']

/-- An entry keeps its trace when another is marked. -/
theorem Names.mark {d : Detector} {entry : EntryId} {trace : TraceId} (h : d.Names entry trace)
    (other : EntryId) : (d.mark other).Names entry trace := by
  cases d with
  | never => exact h
  | scripted s => exact h.traceOf other

/-- Asking for a graph gives no entry another trace. -/
theorem Names.probe {d : Detector} {entry : EntryId} {trace : TraceId} (h : d.Names entry trace)
    (asked : TraceId) : (d.probe asked).2.Names entry trace := by
  cases d with
  | never => exact h
  | scripted s =>
    simp only [Detector.probe, ScriptedDetector.probe]
    split
    · exact h
    · split <;> exact h

/-- A graph that shows is one that is held in readiness. -/
theorem holds_probe {d : Detector} {trace : TraceId} {graph : Graph}
    (h : (d.probe trace).1 = some graph) : (d.probe trace).2.Holds trace graph := by
  cases d with
  | never => cases h
  | scripted s =>
    simp only [Detector.probe, ScriptedDetector.probe] at h ⊢
    split at h
    next => cases h
    next script hscript =>
      split at h
      next hcandidate =>
        simp only [Option.ite_none_right_eq_some, Option.some.injEq] at h
        simp [Holds, hscript, hcandidate, h.2]
      next => cases h

end Detector

/-- The function of the stage is known, a stage that calls it for each element gives it as many
arguments as it takes, and columns made on registration have one field for each of them. -/
structure Stage.Fits (known : Function → Prop) (stage : Stage) : Prop where
  function : known stage.function
  arity : stage.task = .map → stage.function.arity = 1 + stage.input.companions.length
  columns : ∀ a, stage.input.columns? = some a →
    a.WellFormed ∧ a.type.width = 1 + stage.input.companions.length

namespace Context

variable {known : Function → Prop} {c c' c'' : Context}

/-- The executor of a trace: the one that is kept, or else a new one for the unit. -/
def executorOf (c : Context) (trace : TraceId) (unit : CompiledUnit) : Executor :=
  (c.executors.get? trace).getD (.ofUnit unit)

/-- What the operators do to a context, one thing at a time. -/
inductive Step (known : Function → Prop) : Context → Context → Prop where
  | lookup {c : Context} {f : Function} (hf : known f) :
      Step known c { c with functions := (c.functions.lookup f).2 }
  | tried {c : Context} (f : FunctionId) :
      Step known c { c with functions := c.functions.markSpecializationTried f }
  | specialize {c : Context} {f : Function} {entry : Entry} {body : Body} (hf : known f)
      (hentry : c.functions.find? f.id = some entry) (hbody : entry.body.specialized = some body) :
      Step known c { c with functions := (c.functions.update f body).2 }
  | sample {c : Context} (f : FunctionId) (v : Value) (type : Option RowType) :
      Step known c { c with functions := c.functions.recordSample f v type }
  | candidate {c : Context} (f : FunctionId) :
      Step known c { c with functions := (c.functions.markCandidate f).2 }
  | mark {c : Context} {f : FunctionId} {entry : Entry}
      (hentry : c.functions.find? f = some entry) :
      Step known c { c with detector := c.detector.mark entry.id }
  | name {c : Context} {f : FunctionId} {entry : Entry}
      (hentry : c.functions.find? f = some entry) :
      Step known c { c with detector := (c.detector.traceOf entry.id).2 }
  | probe {c : Context} (trace : TraceId) :
      Step known c { c with detector := (c.detector.probe trace).2 }
  /-- A graph that the detector holds for the entry's trace is compiled, if no unit is cached for
  the trace. -/
  | install {c : Context} {f : Function} {entry : Entry} {trace : TraceId} {graph : Graph}
      {input output : RowType} {kernel : KernelHandle} {compiler : Compiler} (hf : known f)
      (hentry : c.functions.find? f.id = some entry) (hnames : c.detector.Names entry.id trace)
      (hholds : c.detector.Holds trace graph) (hwidth : input.width = f.arity)
      (hnone : c.units.get? trace = none)
      (hcompile : c.compiler.compile graph.shape input output entry.body.scope =
        .ok (kernel, compiler)) :
      Step known c
        { c with
          compiler
          units := (c.units.install trace
            { kernel, input, output, scope := entry.body.scope
              bindings := graph.shape.scopeBindings }).2 }
  | launch {c : Context} {trace : TraceId} {unit : CompiledUnit} (input : ColumnArray)
      (hunit : c.units.get? trace = some unit) :
      Step known c
        { c with
          executors := c.executors.insert trace
            ((c.executorOf trace unit).attempt c.device input).executor
          device := ((c.executorOf trace unit).attempt c.device input).device }
  | deopt {c : Context} (f : FunctionId) :
      Step known c { c with functions := (c.functions.recordDeopt f).2 }
  | pool {c : Context} (size : Nat) : Step known c { c with pools := size :: c.pools }
  | stage {c : Context} {stage : Stage} (hstage : stage.Fits known) :
      Step known c { c with stages := (c.stages.add stage).2 }
  | memoize {c : Context} (handle : StageHandle) (result : DataVector) :
      Step known c { c with stages := c.stages.memoize handle result }
  | clear {c : Context} (handle : StageHandle) :
      Step known c { c with stages := (c.stages.clearChain handle).2 }

/-- Any number of steps. -/
abbrev Steps (known : Function → Prop) : Context → Context → Prop :=
  Relation.ReflTransGen (Step known)

/-- What every step keeps is kept by any number of them. -/
theorem Steps.preserves {inv : Context → Prop}
    (hstep : ∀ {c c' : Context}, inv c → Step known c c' → inv c')
    (h : Steps known c c') (hc : inv c) : inv c' := by
  induction h with
  | refl => exact hc
  | tail _ hs ih => exact hstep ih hs

/-- An entry that has been given a trace keeps it. -/
theorem Step.names {entry : EntryId} {trace : TraceId} (h : Step known c c')
    (hnames : c.detector.Names entry trace) : c'.detector.Names entry trace := by
  cases h with
  | mark => exact hnames.mark _
  | name => exact hnames.traceOf _
  | probe => exact hnames.probe _
  | _ => exact hnames

/-- Every registered stage fits. -/
def StagesFit (known : Function → Prop) (c : Context) : Prop :=
  ∀ handle stage, c.stages.get? handle = some stage → stage.Fits known

theorem StagesFit.step (hc : c.StagesFit known) (h : Step known c c') : c'.StagesFit known := by
  cases h with
  | stage hstage =>
    intro handle stage hget
    simp only [StageRegistry.add, StageRegistry.get?, Table.get?_insert] at hget
    split at hget
    · obtain rfl := Option.some.inj hget
      exact hstage
    · exact hc handle stage hget
  | memoize handle' result =>
    intro handle stage hget
    obtain ⟨stage', hget', rfl | rfl⟩ := StageRegistry.get?_memoize hget
    · exact hc handle _ hget'
    · obtain ⟨hf, harity, hcolumns⟩ := hc handle _ hget'
      exact ⟨hf, harity, hcolumns⟩
  | clear handle' =>
    exact fun handle stage hget => hc handle stage (StageRegistry.get?_clearChain hget)
  | _ => exact hc

theorem StagesFit.steps (hc : c.StagesFit known) (h : Steps known c c') : c'.StagesFit known :=
  h.preserves StagesFit.step hc

end Context

end TieredVectors
