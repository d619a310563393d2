import TieredVectors.Proofs.Executor.Fleet
import TieredVectors.Proofs.Kernel.Units
import TieredVectors.Proofs.Operator.Steps

/-!
# Consistent contexts

What is kept from one call to the next fits together: every cached unit has been compiled for its
own types and scope, every executor runs the unit that is cached for its trace, and no two executors
share a buffer. Every step of an operator keeps a context consistent (`Context.Consistent.steps`),
whatever graphs are compiled and whatever becomes of the launches.
-/

namespace TieredVectors

/-- A graph that has been compiled gives a unit that holds its kernel. -/
theorem CompiledUnit.compiled_of_compile {compiler compiler' : Compiler} {graph : Graph}
    {input output : RowType} {scope : Scope} {kernel : KernelHandle}
    (h : compiler.compile graph input output scope = .ok (kernel, compiler')) :
    ∃ k, k.graph = graph ∧ CompiledUnit.Compiled
      { kernel, input, output, scope, bindings := graph.scopeBindings } k := by
  obtain ⟨k, hk, h⟩ := bind_eq_ok.1 h
  obtain ⟨rfl, -⟩ := Prod.mk.inj (pure_eq_ok.1 h)
  obtain ⟨rfl, -⟩ := Kernel.of_check hk
  exact ⟨k, rfl, rfl, hk, rfl⟩

namespace Context

variable {known : Function → Prop} {c c' : Context} {trace : TraceId} {unit : CompiledUnit}

/-- What is kept between calls fits together. -/
structure Consistent (c : Context) : Prop where
  units : ∀ t u, c.units.get? t = some u → ∃ k, u.Compiled k
  owner : ∀ t e, c.executors.get? t = some e → c.units.get? t = some e.unit
  scope : ∀ t e, c.executors.get? t = some e → e.scope = e.unit.boundScope
  ready : ∀ t e, c.executors.get? t = some e → e.Ready c.device
  apart : ∀ t t' e e', t ≠ t' → c.executors.get? t = some e → c.executors.get? t' = some e' →
    ∀ id ∈ e.ids, id ∉ e'.ids

/-- The executor of a trace runs the unit that is cached for the trace, and shares no buffer with
the others. -/
theorem Consistent.executorOf (h : c.Consistent) (hunit : c.units.get? trace = some unit) :
    (c.executorOf trace unit).unit = unit ∧
      (c.executorOf trace unit).scope = unit.boundScope ∧
      (c.executorOf trace unit).Ready c.device ∧
      ∀ t e, t ≠ trace → c.executors.get? t = some e →
        ∀ id ∈ e.ids, id ∉ (c.executorOf trace unit).ids := by
  unfold Context.executorOf
  cases he : c.executors.get? trace with
  | none =>
    refine ⟨rfl, rfl, Executor.ready_ofUnit unit c.device, fun t e _ _ id _ => ?_⟩
    simp [Executor.ofUnit, Executor.ids, Executor.buffers]
  | some e =>
    obtain rfl : e.unit = unit := Option.some.inj ((h.owner trace e he).symm.trans hunit)
    exact ⟨rfl, h.scope trace e he, h.ready trace e he,
      fun t e' ht he' => h.apart t trace e' e ht he' he⟩

/-- A unit that is installed takes the place of no other. -/
theorem Consistent.install (h : c.Consistent) {u : CompiledUnit} {k : Kernel} (hu : u.Compiled k)
    (compiler : Compiler) :
    Consistent { c with compiler, units := (c.units.install trace u).2 } where
  units t u' hget := by
    simp only [UnitCache.get?_install] at hget
    split at hget
    · obtain rfl := Option.some.inj hget
      -- a unit that is there already stays
      cases hkept : c.units.get? trace with
      | none => exact ⟨k, by simpa using hu⟩
      | some kept => exact h.units trace kept hkept
    · exact h.units t u' hget
  owner t e he := by
    have hkept := h.owner t e he
    simp only [UnitCache.get?_install]
    split
    next ht => rw [← ht, hkept, Option.getD_some]
    next => exact hkept
  scope := h.scope
  ready := h.ready
  apart := h.apart

theorem Consistent.fleet (h : c.Consistent) : Executor.Fleet c.executors c.device :=
  ⟨h.scope, h.ready, h.apart⟩

/-- An attempt changes the buffers of its own executor only. -/
theorem Consistent.launch (h : c.Consistent) (hunit : c.units.get? trace = some unit)
    (input : ColumnArray) :
    Consistent
      { c with
        executors := c.executors.insert trace
          ((c.executorOf trace unit).attempt c.device input).executor
        device := ((c.executorOf trace unit).attempt c.device input).device } := by
  obtain ⟨hown, hscope, hready, hothers⟩ := h.executorOf hunit
  obtain ⟨hevolves, hready'⟩ := Executor.attempt_evolves hready input
  have hbound : (c.executorOf trace unit).scope = (c.executorOf trace unit).unit.boundScope := by
    rw [hscope, hown]
  obtain ⟨hscopes, hreadies, haparts⟩ := h.fleet.evolve hothers hbound hevolves hready'
  refine ⟨h.units, fun t e he => ?_, hscopes, hreadies, haparts⟩
  rw [Table.get?_insert] at he
  split at he
  next ht =>
    obtain rfl := Option.some.inj he
    exact (ht ▸ hunit).trans (congrArg some (hevolves.unit.trans hown).symm)
  next => exact h.owner t e he

theorem Consistent.step (h : c.Consistent) (hs : Step known c c') : c'.Consistent := by
  cases hs with
  | install _ _ _ _ _ _ hcompile =>
    obtain ⟨k, -, hk⟩ := CompiledUnit.compiled_of_compile hcompile
    exact h.install hk _
  | launch input hunit => exact h.launch hunit input
  | _ => exact ⟨h.units, h.owner, h.scope, h.ready, h.apart⟩

/-- Operators keep a context consistent. -/
theorem Consistent.steps (h : c.Consistent) (hs : Steps known c c') : c'.Consistent :=
  hs.preserves Consistent.step h

end Context

end TieredVectors
