import TieredVectors.Proofs.Operator.Transparency

/-!
# One compilation per trace

Along a history of requests the caches only grow, and they stay in step with the compiler and the
detector: a graph is compiled only for a trace without a unit, and a unit that has been cached is
neither replaced nor dropped. `Context.one_unit_per_trace` puts together what is known of the units,
the executors and the traces after any history.
-/

namespace TieredVectors

variable {known : Function → Prop} {p : Program} {c c' : Context} {e : EntryId} {t : TraceId}
  {u : CompiledUnit}

namespace Context

/-- A unit that has been cached is kept. -/
theorem Step.unit_kept (h : Step known c c') (hu : c.units.get? t = some u) :
    c'.units.get? t = some u := by
  cases h with
  | install _ _ _ _ _ hnone _ =>
    -- a unit is installed only where there is none
    rw [UnitCache.get?_install, if_neg, hu]
    rintro rfl
    simp [hnone] at hu
  | _ => exact hu

theorem Steps.unit_kept (h : Steps known c c') (hu : c.units.get? t = some u) :
    c'.units.get? t = some u := by
  induction h with
  | refl => exact hu
  | tail _ hs ih => exact hs.unit_kept ih

theorem Steps.names (h : Steps known c c') (hnames : c.detector.Names e t) :
    c'.detector.Names e t := by
  induction h with
  | refl => exact hnames
  | tail _ hs ih => exact hs.names ih

/-- There are as many cached units as graphs have been compiled. -/
def Counted (c : Context) : Prop := c.compiler.compiled = c.units.size

theorem Counted.step (h : c.Counted) (hs : Step known c c') : c'.Counted := by
  cases hs with
  | @install _ _ trace _ _ _ _ _ _ _ _ _ _ hnone hcompile =>
    obtain ⟨k, -, hcompiled⟩ := bind_eq_ok.1 hcompile
    obtain ⟨-, rfl⟩ := Prod.mk.inj (pure_eq_ok.1 hcompiled)
    simp only [Counted, UnitCache.install, hnone]
    rw [Table.size_insert hnone, ← h]
  | _ => exact h

end Context

namespace Request

variable {request : Request}

theorem unit_kept (hc : c.Sound known) (huses : request.Uses known)
    (hu : c.units.get? t = some u) : (request.perform c).units.get? t = some u := by
  cases request with
  | operate op => exact Context.Steps.unit_kept (Operation.steps huses hc) hu
  | _ => exact hu

theorem counted (hc : c.Sound known) (huses : request.Uses known) (h : c.Counted) :
    (request.perform c).Counted := by
  cases request with
  | operate op => exact (Operation.steps huses hc).preserves Context.Counted.step h
  | _ => exact h

/-- An entry keeps its trace. -/
theorem names (hc : c.Sound p.Knows) (hasks : p.Asks request) (hnames : c.detector.Names e t) :
    (request.perform c).detector.Names e t := by
  cases request with
  | operate op => exact Context.Steps.names (Operation.steps hasks hc) hnames
  | registerGraph entry graph hotAfter => exact hnames.register entry graph hotAfter
  | setDetector detector => cases hasks
  | _ => exact hnames

end Request

namespace Context

variable {requests later : List Request}

/-- What every request of a history keeps, the history keeps. -/
theorem Fresh.preserves_after (h : c.Fresh) (inv : Context → Prop) (requests later : List Request)
    (hasks : ∀ request ∈ requests ++ later, p.Asks request)
    (hrequest : ∀ {c : Context}, ∀ request ∈ later, c.Sound p.Knows → p.Asks request → inv c →
      inv (request.perform c))
    (hinv : inv (c.after requests)) : inv (c.after (requests ++ later)) := by
  induction later using List.reverseRecOn with
  | nil => simpa using hinv
  | append_singleton later request ih =>
    rw [← List.append_assoc] at hasks ⊢
    rw [List.forall_mem_append] at hasks
    have hsound : (c.after (requests ++ later)).Sound p.Knows :=
      (h.reachable_after hasks.1).sound fun _ => Program.uses_of_asks
    rw [after_concat]
    refine hrequest request (by simp) hsound (hasks.2 request (by simp)) (ih hasks.1 ?_)
    exact fun request hmem => hrequest request (List.mem_append_left _ hmem)

theorem Fresh.counted_after (h : c.Fresh) (hcompiler : c.compiler.compiled = 0)
    (hasks : ∀ request ∈ requests, p.Asks request) : (c.after requests).Counted := by
  have hcounted : c.Counted := by rw [Counted, hcompiler, h.units]; rfl
  exact h.preserves_after Counted [] requests hasks
    (fun request _ hsound hask => request.counted hsound (Program.uses_of_asks hask)) hcounted

/-- After a history, the graphs that count are those registered along it. -/
theorem Fresh.traced_after (h : c.Fresh) (hasks : ∀ request ∈ requests, p.Asks request) :
    (c.after requests).Traced p fun e g => ∃ hotAfter, .registerGraph e g hotAfter ∈ requests := by
  refine h.preserves_after _ [] requests hasks (fun request hmem hsound hask ht => ?_) h.traced
  exact ht.request hsound hask fun e g hotAfter heq => ⟨hotAfter, heq ▸ hmem⟩

theorem Fresh.unit_kept_after (h : c.Fresh)
    (hasks : ∀ request ∈ requests ++ later, p.Asks request)
    (hu : (c.after requests).units.get? t = some u) :
    (c.after (requests ++ later)).units.get? t = some u :=
  h.preserves_after (fun c => c.units.get? t = some u) requests later hasks
    (fun request _ hsound hask => request.unit_kept hsound (Program.uses_of_asks hask)) hu

theorem Fresh.names_after (h : c.Fresh) (hasks : ∀ request ∈ requests ++ later, p.Asks request)
    (hnames : (c.after requests).detector.Names e t) :
    (c.after (requests ++ later)).detector.Names e t :=
  h.preserves_after (fun c => c.detector.Names e t) requests later hasks
    (fun request _ hsound hask => request.names hsound hask) hnames

/-- After any history of a program's requests on a fresh context whose compiler has not been used:
there are as many units as graphs have been compiled; a cached unit stays, whatever is asked for
later; an executor runs the unit that is cached for its trace; a trace belongs to one entry, which
keeps it; and the unit cached for a trace was compiled for the entry that owns the trace, from the
shape of a graph that was registered for the entry, with what the entry captures. -/
theorem one_unit_per_trace (h : c.Fresh) (hcompiler : c.compiler.compiled = 0)
    (requests later : List Request) (hasks : ∀ request ∈ requests ++ later, p.Asks request) :
    (c.after requests).compiler.compiled = (c.after requests).units.size ∧
    (∀ t u, (c.after requests).units.get? t = some u →
      (c.after (requests ++ later)).units.get? t = some u) ∧
    (∀ t e, (c.after requests).executors.get? t = some e →
      (c.after requests).units.get? t = some e.unit) ∧
    (∀ e e' t, (c.after requests).detector.Names e t → (c.after requests).detector.Names e' t →
      e = e') ∧
    (∀ e t, (c.after requests).detector.Names e t →
      (c.after (requests ++ later)).detector.Names e t) ∧
    ∀ t u, (c.after requests).units.get? t = some u → ∃ e body graph hotAfter kernel,
      (c.after requests).detector.Names e t ∧
      p.entryBody? e.function e.revision = some body ∧
      Request.registerGraph e graph hotAfter ∈ requests ∧
      Kernel.check graph.shape u.input u.output body.scope = .ok kernel ∧
      u.kernel.kernel? = some kernel ∧ u.scope = body.scope ∧
      u.bindings = graph.shape.scopeBindings := by
  have hasks' : ∀ request ∈ requests, p.Asks request := fun request hmem =>
    hasks request (List.mem_append_left _ hmem)
  have htraced := h.traced_after hasks'
  have hsound : (c.after requests).Sound p.Knows :=
    (h.reachable_after hasks').sound fun _ => Program.uses_of_asks
  refine ⟨h.counted_after hcompiler hasks', fun t u => h.unit_kept_after hasks,
    hsound.consistent.owner, fun e e' t => htraced.detector.eq_of_names,
    fun e t => h.names_after hasks, fun t u hu => ?_⟩
  obtain ⟨e, he, hbody, ⟨hotAfter, hmem⟩, ⟨hcode, hcheck, hbindings⟩, hshape, hscope, -⟩ :=
    htraced.units t u hu
  rw [hshape] at hbindings
  rw [hshape, hscope] at hcheck
  exact ⟨e, _, _, hotAfter, _, he, hbody, hmem, hcheck, hcode, hscope, hbindings⟩

/-- A graph is registered for `increment` and the function called until the graph is compiled. -/
def compilingHistory : List Request :=
  [.registerGraph Operator.increment.ownEntry.id Operator.incrementGraph 1,
    .operate (.map (.vector (.int [1, 2, 3])) Operator.increment [])]

/-- The graph is registered anew, and the function is called again, with another type too. -/
def laterHistory : List Request :=
  [.registerGraph Operator.increment.ownEntry.id Operator.incrementGraph 2,
    .operate (.map (.vector (.int [4, 5])) Operator.increment []),
    .operate (.map (.vector (.double [1, 2])) Operator.increment [])]

theorem one_unit_per_trace_increment :
    initial.Fresh ∧ initial.compiler.compiled = 0 ∧
      (∀ request ∈ compilingHistory ++ laterHistory, Operator.incrementProgram.Asks request) ∧
      (initial.after compilingHistory).compiler.compiled = 1 ∧
      ∃ u, (initial.after compilingHistory).units.get? ⟨1⟩ = some u ∧
        (initial.after (compilingHistory ++ laterHistory)).units.get? ⟨1⟩ = some u ∧
        ∃ e body graph hotAfter, (initial.after compilingHistory).detector.Names e ⟨1⟩ ∧
          Operator.incrementProgram.entryBody? e.function e.revision = some body ∧
          Request.registerGraph e graph hotAfter ∈ compilingHistory ∧ u.scope = body.scope := by
  have hasks : ∀ request ∈ compilingHistory ++ laterHistory,
      Operator.incrementProgram.Asks request := by
    simp [compilingHistory, laterHistory, Program.Asks, Operation.function?, Program.Knows,
      Operator.incrementProgram]
  obtain ⟨hcount, hkept, -, -, -, hmade⟩ :=
    one_unit_per_trace initial_fresh rfl compilingHistory laterHistory hasks
  obtain ⟨u, hu⟩ : ∃ u, (initial.after compilingHistory).units.get? ⟨1⟩ = some u := ⟨_, rfl⟩
  obtain ⟨e, body, graph, hotAfter, kernel, he, hbody, hmem, -, -, hscope, -⟩ := hmade _ u hu
  exact ⟨initial_fresh, rfl, hasks, hcount.trans rfl, u, hu, hkept _ u hu, e, body, graph, hotAfter,
    he, hbody, hmem, hscope⟩

end Context

end TieredVectors
