import TieredVectors.Proofs.Operator.Reachability

/-!
# Where units come from

The functions that operators are called with are those of a program, and graphs are registered for
its entries. Every trace then belongs to one entry, and the unit cached for a trace was compiled for
that entry from a graph registered for it (`Context.Traced`). What counts as registered is left open
here; every step of an operator keeps a context traced (`Context.Traced.step`), and so does every
request that registers only such graphs (`Context.Traced.request`).
-/

namespace TieredVectors

/-- The functions of a program by their numbers. -/
structure Program where
  body : FunctionId → Body

namespace Program

variable {p : Program}

/-- A function of the program. -/
def function (p : Program) (id : FunctionId) : Function := ⟨id, p.body id⟩

/-- The function is one of the program's. -/
def Knows (p : Program) (f : Function) : Prop := f.body = p.body f.id

/-- The body of an entry: a function's own, or what specializations have made of it. -/
def entryBody? (p : Program) (f : FunctionId) : Nat → Option Body
  | 0 => some (p.body f)
  | revision + 1 => (p.entryBody? f revision).bind (·.specialized)

/-- The entry is one of the program's. -/
def Has (p : Program) (entry : Entry) : Prop :=
  p.entryBody? entry.id.function entry.id.revision = some entry.body

/-- Operators are called with the program's functions, and the detector stays the scripted one. -/
def Asks (p : Program) : Request → Prop
  | .operate op => ∀ f, op.function? = some f → p.Knows f
  | .setDetector _ => False
  | .registerGraph _ _ _ | .setOptions _ | .setForceDeopt _ | .reschedule _ => True

theorem uses_of_asks {request : Request} (h : p.Asks request) : request.Uses p.Knows := by
  cases request <;> simp_all [Asks, Request.Uses]

end Program

variable {registered : EntryId → Graph → Prop}

/-- Every trace belongs to one entry, and every graph in readiness is registered for the entry that
owns its trace. -/
structure ScriptedDetector.Owned (registered : EntryId → Graph → Prop) (s : ScriptedDetector) :
    Prop where
  bounded : ∀ e t, s.traces.get? e = some t → t.index ≤ s.lastTrace
  injective : ∀ e e' t, s.traces.get? e = some t → s.traces.get? e' = some t → e = e'
  scripts : ∀ t script, s.scripts.get? t = some script →
    ∃ e, s.traces.get? e = some t ∧ registered e script.graph

namespace ScriptedDetector.Owned

variable {s : ScriptedDetector}

theorem empty (registered : EntryId → Graph → Prop) : Owned registered {} := by
  refine ⟨?_, ?_, ?_⟩ <;> simp

/-- A new trace belongs to no other entry. -/
theorem traceOf (h : s.Owned registered) (entry : EntryId) :
    (s.traceOf entry).2.Owned registered := by
  unfold ScriptedDetector.traceOf
  split
  next => exact h
  next hnone =>
    refine ⟨?_, ?_, ?_⟩
    · intro e t ht
      simp only [Table.get?_insert] at ht
      split at ht
      · obtain rfl := Option.some.inj ht
        exact Nat.le_refl _
      · exact Nat.le_succ_of_le (h.bounded e t ht)
    · intro e e' t ht ht'
      simp only [Table.get?_insert] at ht ht'
      -- the new trace has a higher number than all others
      split at ht <;> split at ht'
      · simp_all
      · obtain rfl := Option.some.inj ht
        exact absurd (h.bounded e' _ ht') (by simp)
      · obtain rfl := Option.some.inj ht'
        exact absurd (h.bounded e _ ht) (by simp)
      · exact h.injective e e' t ht ht'
    · intro t script hscript
      obtain ⟨e, he, hregistered⟩ := h.scripts t script hscript
      have hne : e ≠ entry := by
        rintro rfl
        simp [hnone] at he
      exact ⟨e, by simp [hne, he], hregistered⟩

/-- What is noted in a script does not change its graph. -/
theorem modify (h : s.Owned registered) (change : Script → Script)
    (hchange : ∀ script, (change script).graph = script.graph) (trace : TraceId) (marks : Nat) :
    Owned registered { s with scripts := s.scripts.modify trace change, marks } := by
  refine ⟨h.bounded, h.injective, fun t script hscript => ?_⟩
  simp only [Table.get?_modify] at hscript
  split at hscript
  · obtain ⟨script', hscript', rfl⟩ := Option.map_eq_some_iff.1 hscript
    rw [hchange]
    exact h.scripts t script' hscript'
  · exact h.scripts t script hscript

theorem mark (h : s.Owned registered) (entry : EntryId) : (s.mark entry).Owned registered :=
  (h.traceOf entry).modify (fun script => { script with candidate := true }) (fun _ => rfl) _ _

theorem probe (h : s.Owned registered) (trace : TraceId) : (s.probe trace).2.Owned registered := by
  unfold ScriptedDetector.probe
  split
  · exact h
  next script _ =>
    split
    · exact h.modify (fun s => { s with probes := script.probes + 1 }) (fun _ => rfl) _ _
    · exact h

/-- A registered graph belongs to the entry that it is registered for. -/
theorem register (h : s.Owned registered) {entry : EntryId} {graph : Graph}
    (hgraph : registered entry graph) (hotAfter : Nat) :
    (s.register entry graph hotAfter).2.Owned registered := by
  have h' := h.traceOf entry
  refine ⟨h'.bounded, h'.injective, fun t script hscript => ?_⟩
  simp only [ScriptedDetector.register, Table.get?_insert] at hscript
  split at hscript
  next ht =>
    obtain rfl := Option.some.inj hscript
    have hnames := Detector.names_traceOf (.scripted s) entry
    exact ⟨entry, ht ▸ hnames, hgraph⟩
  next => exact h'.scripts t script hscript

end ScriptedDetector.Owned

/-- The detector is scripted and hands out registered graphs. -/
def Detector.Owned (registered : EntryId → Graph → Prop) : Detector → Prop
  | .never => False
  | .scripted s => s.Owned registered

namespace Detector.Owned

variable {d : Detector} {e e' : EntryId} {t : TraceId} {graph : Graph}

/-- A trace belongs to one entry. -/
theorem eq_of_names (h : d.Owned registered) (he : d.Names e t) (he' : d.Names e' t) : e = e' := by
  cases d with
  | never => cases h
  | scripted s => exact ScriptedDetector.Owned.injective h e e' t he he'

/-- A graph that is held for an entry's trace is registered for the entry. -/
theorem of_holds (h : d.Owned registered) (he : d.Names e t) (hgraph : d.Holds t graph) :
    registered e graph := by
  cases d with
  | never => cases h
  | scripted s =>
    obtain ⟨script, hscript, rfl⟩ := Option.map_eq_some_iff.1 hgraph
    obtain ⟨e', he', hregistered⟩ := ScriptedDetector.Owned.scripts h t script hscript
    obtain rfl := ScriptedDetector.Owned.injective h e e' t he he'
    exact hregistered

theorem traceOf (h : d.Owned registered) (e : EntryId) : (d.traceOf e).2.Owned registered := by
  cases d with
  | never => cases h
  | scripted s => exact ScriptedDetector.Owned.traceOf h e

theorem mark (h : d.Owned registered) (e : EntryId) : (d.mark e).Owned registered := by
  cases d with
  | never => cases h
  | scripted s => exact ScriptedDetector.Owned.mark h e

theorem probe (h : d.Owned registered) (t : TraceId) : (d.probe t).2.Owned registered := by
  cases d with
  | never => cases h
  | scripted s => exact ScriptedDetector.Owned.probe h t

theorem register (h : d.Owned registered) (hgraph : registered e graph) (hotAfter : Nat) :
    (d.register e graph hotAfter).Owned registered := by
  cases d with
  | never => cases h
  | scripted s => exact ScriptedDetector.Owned.register h hgraph hotAfter

end Detector.Owned

/-- The unit was compiled for the entry, from a graph registered for it. -/
inductive CompiledUnit.MadeFor (p : Program) (registered : EntryId → Graph → Prop)
    (u : CompiledUnit) (e : EntryId) : Prop where
  | intro {body : Body} {graph : Graph} {kernel : Kernel}
      (hbody : p.entryBody? e.function e.revision = some body) (hgraph : registered e graph)
      (hkernel : u.Compiled kernel) (hshape : kernel.graph = graph.shape)
      (hscope : u.scope = body.scope) (hwidth : u.input.width = (p.body e.function).arity)

namespace Context

variable {p : Program} {c c' : Context}

/-- Entries are the program's, every trace belongs to one entry, and every cached unit was made for
the entry that owns its trace. -/
structure Traced (p : Program) (registered : EntryId → Graph → Prop) (c : Context) : Prop where
  entries : ∀ f entry, c.functions.find? f = some entry → entry.id.function = f ∧ p.Has entry
  detector : c.detector.Owned registered
  units : ∀ t u, c.units.get? t = some u →
    ∃ e, c.detector.Names e t ∧ u.MadeFor p registered e

theorem Fresh.traced (h : c.Fresh) : c.Traced p registered := by
  refine ⟨?_, ?_, ?_⟩
  · simp [h.functions, FunctionRegistry.find?, FunctionRegistry.get?]
  · rw [h.detector]
    exact ScriptedDetector.Owned.empty registered
  · simp [h.units]

/-- A detector takes over that knows the traces. -/
theorem Traced.of_detector (h : c.Traced p registered) (hfunctions : c'.functions = c.functions)
    (hunits : c'.units = c.units) (hdetector : c'.detector.Owned registered)
    (hnames : ∀ e t, c.detector.Names e t → c'.detector.Names e t) : c'.Traced p registered := by
  refine ⟨fun f entry => hfunctions ▸ h.entries f entry, hdetector, fun t u hu => ?_⟩
  obtain ⟨e, he, hmade⟩ := h.units t u (hunits ▸ hu)
  exact ⟨e, hnames e t he, hmade⟩

/-- The registry changes, and has no entries but the program's. -/
theorem Traced.of_functions (h : c.Traced p registered) {functions : FunctionRegistry}
    (hentries : ∀ f entry, functions.find? f = some entry →
      c.functions.find? f = some entry ∨ entry.id.function = f ∧ p.Has entry) :
    Traced p registered { c with functions } :=
  ⟨fun f entry hentry => (hentries f entry hentry).elim (h.entries f entry) id, h.detector, h.units⟩

/-- A unit that is compiled for an entry from a graph held for its trace is made for the entry. -/
theorem Traced.madeFor (h : c.Traced p registered) {f : Function} (hf : p.Knows f) {entry : Entry}
    {trace : TraceId} {graph : Graph} {input output : RowType} {kernel : KernelHandle}
    {compiler : Compiler} (hentry : c.functions.find? f.id = some entry)
    (hnames : c.detector.Names entry.id trace) (hholds : c.detector.Holds trace graph)
    (hwidth : input.width = f.arity)
    (hcompile : c.compiler.compile graph.shape input output entry.body.scope =
      .ok (kernel, compiler)) :
    CompiledUnit.MadeFor p registered
      { kernel, input, output, scope := entry.body.scope
        bindings := graph.shape.scopeBindings } entry.id := by
  obtain ⟨hid, hbody⟩ := h.entries _ _ hentry
  obtain ⟨k, hk, hcompiled⟩ := CompiledUnit.compiled_of_compile hcompile
  refine ⟨hbody, h.detector.of_holds hnames hholds, hcompiled, hk, rfl, ?_⟩
  rw [hid, ← hf]
  exact hwidth

theorem Traced.step (h : c.Traced p registered) (hs : Step p.Knows c c') :
    c'.Traced p registered := by
  cases hs with
  | @lookup f hf =>
    refine h.of_functions fun g entry hentry => ?_
    rcases FunctionRegistry.of_find?_lookup hentry with hentry | ⟨rfl, rfl⟩
    · exact Or.inl hentry
    · exact Or.inr ⟨rfl, congrArg some hf.symm⟩
  | @specialize f entry body hf hentry hbody =>
    refine h.of_functions fun g entry' hentry' => ?_
    rw [FunctionRegistry.find?_update, FunctionRegistry.update_fst hentry] at hentry'
    split at hentry'
    next hg =>
      obtain rfl := Option.some.inj hentry'
      obtain ⟨hid, hhas⟩ := h.entries _ _ hentry
      -- the new body is one specialization on from the old one, as the revisions are
      refine Or.inr ⟨hg.symm, ?_⟩
      rw [Program.Has, hid] at hhas
      simp [Program.Has, Program.entryBody?, hhas, hbody]
    next => exact Or.inl hentry'
  | tried | sample | candidate | deopt =>
    exact h.of_functions fun g entry hentry => Or.inl (by simpa using hentry)
  | mark => exact h.of_detector rfl rfl (h.detector.mark _) fun e t he => he.mark _
  | name => exact h.of_detector rfl rfl (h.detector.traceOf _) fun e t he => he.traceOf _
  | probe => exact h.of_detector rfl rfl (h.detector.probe _) fun e t he => he.probe _
  | install hf hentry hnames hholds hwidth hnone hcompile =>
    refine ⟨h.entries, h.detector, fun t u hu => ?_⟩
    simp only [UnitCache.get?_install, hnone, Option.getD_none] at hu
    split at hu
    next ht =>
      obtain rfl := Option.some.inj hu
      exact ⟨_, ht ▸ hnames, h.madeFor hf hentry hnames hholds hwidth hcompile⟩
    next => exact h.units t u hu
  | _ => exact ⟨h.entries, h.detector, h.units⟩

theorem Traced.request (h : c.Traced p registered) (hc : c.Sound p.Knows) {request : Request}
    (hasks : p.Asks request)
    (hgraph : ∀ e g hotAfter, request = .registerGraph e g hotAfter → registered e g) :
    (request.perform c).Traced p registered := by
  cases request with
  | operate op => exact (Operation.steps hasks hc).preserves Traced.step h
  | registerGraph entry graph hotAfter =>
    refine h.of_detector rfl rfl (h.detector.register (hgraph _ _ _ rfl) hotAfter) fun e t he => ?_
    exact he.register _ _ _
  | setDetector detector => cases hasks
  | _ => exact ⟨h.entries, h.detector, h.units⟩

end Context

end TieredVectors
