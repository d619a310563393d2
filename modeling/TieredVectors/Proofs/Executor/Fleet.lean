import TieredVectors.Proofs.Executor.Attempts

/-!
# Executors that share a device

Executors are kept in a table and take turns on one device. They form a fleet if each is ready and
no two of them hold the same buffer. Then whatever one of them does to its own buffers, and to
buffers that are new, leaves the others as they are.

* `Executor.Fleet.evolve` — the fleet stays one when one executor evolves;
* `Executor.Fleet.undisturbed` — the others find their buffers as they were.
-/

namespace TieredVectors.Executor

variable {d d' d'' : Device} {e e' : Executor}

/-! ## What an executor sees -/

/-- Whether the flag is raised is a matter of its buffer. -/
theorem flagRaised_congr
    (h : ∀ b, e.deopt = some b → d'.buffers.get? b.id = d.buffers.get? b.id) :
    e.flagRaised d' = e.flagRaised d := by
  unfold flagRaised
  cases hb : e.deopt with
  | none => simp only [flagBuffer, hb, bind, Except.bind]
  | some b =>
    have hread : d'.read b = d.read b := by rw [Device.read, Device.read, h b hb]
    simp only [flagBuffer_of_deopt hb, bind, Except.bind, hread]

/-- What is copied out is a matter of the output buffers. -/
theorem copyOut_congr
    (h : ∀ id ∈ e.outputs.map (·.id), d'.buffers.get? id = d.buffers.get? id) :
    e.copyOut d' = e.copyOut d := by
  have hreadAll (bs : List Buffer) (hbs : bs ⊆ e.outputs) :
      readAll d' e.length bs = readAll d e.length bs := by
    induction bs with
    | nil => rfl
    | cons b bs ih =>
      rw [List.cons_subset] at hbs
      have hread : d'.read b = d.read b := by
        rw [Device.read, Device.read, h b.id (List.mem_map_of_mem hbs.1)]
      rw [readAll, readAll, hread, ih hbs.2]
  rw [copyOut, copyOut, hreadAll e.outputs fun _ => id]

/-- The executor's buffers are as they were. -/
structure Undisturbed (e : Executor) (d d' : Device) : Prop where
  lastId_le : d.lastId ≤ d'.lastId
  frame : ∀ id ∈ e.ids, d'.buffers.get? id = d.buffers.get? id

namespace Undisturbed

theorem refl (e : Executor) (d : Device) : e.Undisturbed d d := ⟨Nat.le_refl _, fun _ _ => rfl⟩

theorem trans (h : e.Undisturbed d d') (h' : e.Undisturbed d' d'') : e.Undisturbed d d'' :=
  ⟨Nat.le_trans h.lastId_le h'.lastId_le, fun id hid => (h'.frame id hid).trans (h.frame id hid)⟩

theorem ready (h : e.Undisturbed d d') (hready : e.Ready d) : e.Ready d' :=
  hready.of_frame h.lastId_le h.frame

theorem read_eq (h : e.Undisturbed d d') {b : Buffer} (hb : b ∈ e.buffers) :
    d'.read b = d.read b := by
  rw [Device.read, Device.read, h.frame b.id (List.mem_map_of_mem hb)]

theorem readInputs_eq_ok (h : e.Undisturbed d d') {columns : List Column}
    (hread : e.inputs.mapM d.read = .ok columns) : e.inputs.mapM d'.read = .ok columns := by
  rw [mapM_eq_ok_iff] at hread ⊢
  rw [← hread]
  exact List.map_congr_left fun b hb => h.read_eq (by simp [buffers, hb])

theorem flagRaised_eq (h : e.Undisturbed d d') : e.flagRaised d' = e.flagRaised d :=
  flagRaised_congr fun b hb => h.frame b.id (flag_mem_ids hb)

theorem copyOut_eq (h : e.Undisturbed d d') : e.copyOut d' = e.copyOut d :=
  copyOut_congr fun id hid => h.frame id (e.outputs_subset hid)

end Undisturbed

/-! ## Taking turns -/

variable {κ : Type} [DecidableEq κ] {executors : Table κ Executor} {key : κ}

/-- The executors are ready, run with the bound scopes of their units, and share no buffers. -/
structure Fleet (executors : Table κ Executor) (d : Device) : Prop where
  scope : ∀ k e, executors.get? k = some e → e.scope = e.unit.boundScope
  ready : ∀ k e, executors.get? k = some e → e.Ready d
  apart : ∀ k k' e e', k ≠ k' → executors.get? k = some e → executors.get? k' = some e' →
    ∀ id ∈ e.ids, id ∉ e'.ids

/-- All executors but that of `key` hold other buffers than `e`. -/
def OthersApart (executors : Table κ Executor) (key : κ) (e : Executor) : Prop :=
  ∀ k f, k ≠ key → executors.get? k = some f → ∀ id ∈ f.ids, id ∉ e.ids

theorem Fleet.othersApart (h : Fleet executors d) (he : executors.get? key = some e) :
    OthersApart executors key e := fun k f hk hf => h.apart k key f e hk hf he

/-- An executor without buffers shares none. -/
theorem othersApart_ofUnit (executors : Table κ Executor) (key : κ) (unit : CompiledUnit) :
    OthersApart executors key (ofUnit unit) := fun k f _ _ id _ => by simp [ofUnit, ids, buffers]

/-- While one executor evolves, the others are undisturbed. -/
theorem Fleet.undisturbed (h : Fleet executors d) (hothers : OthersApart executors key e)
    (hevolves : Evolves e d e' d') {k : κ} {f : Executor} (hk : k ≠ key)
    (hf : executors.get? k = some f) : f.Undisturbed d d' :=
  ⟨hevolves.lastId_le, fun id hid =>
    hevolves.frame id ((h.ready k f hf).bounded id hid) (hothers k f hk hf id hid)⟩

/-- An executor that has evolved may take its place in the fleet. -/
theorem Fleet.evolve (h : Fleet executors d) (hothers : OthersApart executors key e)
    (hscope : e.scope = e.unit.boundScope) (hevolves : Evolves e d e' d') (hready : e'.Ready d') :
    Fleet (executors.insert key e') d' := by
  -- buffers that the executor has got since are new, so that no other one holds them
  have hothers' : OthersApart executors key e' := by
    intro k f hk hf id hid hmem
    rcases hevolves.ids id hmem with hmem | hnew
    · exact hothers k f hk hf id hid hmem
    · have := (h.ready k f hf).bounded id hid
      omega
  have hkept {k : κ} {f : Executor} (hf : (executors.insert key e').get? k = some f) :
      k = key ∧ f = e' ∨ k ≠ key ∧ executors.get? k = some f := by
    rw [Table.get?_insert] at hf
    split at hf
    next hk => exact .inl ⟨hk, (Option.some.inj hf).symm⟩
    next hk => exact .inr ⟨hk, hf⟩
  refine ⟨fun k f hf => ?_, fun k f hf => ?_, fun k k' f f' hne hf hf' id hid hid' => ?_⟩
  · rcases hkept hf with ⟨rfl, rfl⟩ | ⟨-, hf⟩
    · rw [hevolves.scope, hevolves.unit, hscope]
    · exact h.scope k f hf
  · rcases hkept hf with ⟨rfl, rfl⟩ | ⟨hk, hf⟩
    · exact hready
    · exact (h.undisturbed hothers hevolves hk hf).ready (h.ready k f hf)
  · rcases hkept hf with ⟨rfl, rfl⟩ | ⟨hk, hold⟩ <;> rcases hkept hf' with ⟨rfl, rfl⟩ | ⟨hk', hold'⟩
    · exact hne rfl
    · exact hothers' k' f' hk' hold' id hid' hid
    · exact hothers' k f hk hold id hid hid'
    · exact h.apart k k' f f' hne hold hold' id hid hid'

/-- An executor may leave the fleet, whatever has become of it. -/
theorem Fleet.erase (h : Fleet executors d) (hothers : OthersApart executors key e)
    (hevolves : Evolves e d e' d') : Fleet (executors.erase key) d' := by
  have hkept {k : κ} {f : Executor} (hf : (executors.erase key).get? k = some f) :
      k ≠ key ∧ executors.get? k = some f := by
    rw [Table.get?_erase] at hf
    split at hf
    next => cases hf
    next hk => exact ⟨hk, hf⟩
  refine ⟨fun k f hf => h.scope k f (hkept hf).2, fun k f hf => ?_, fun k k' f f' hne hf hf' =>
    h.apart k k' f f' hne (hkept hf).2 (hkept hf').2⟩
  exact (h.undisturbed hothers hevolves (hkept hf).1 (hkept hf).2).ready (h.ready k f (hkept hf).2)

/-- A fleet is a matter of which executors there are. -/
theorem Fleet.congr {executors' : Table κ Executor} (h : Fleet executors d)
    (hsame : ∀ k, executors'.get? k = executors.get? k) : Fleet executors' d := by
  refine ⟨fun k f hf => ?_, fun k f hf => ?_, fun k k' f f' hne hf hf' => ?_⟩
  · exact h.scope k f (hsame k ▸ hf)
  · exact h.ready k f (hsame k ▸ hf)
  · exact h.apart k k' f f' hne (hsame k ▸ hf) (hsame k' ▸ hf')

/-- What else changes about the device does not matter to a fleet. -/
theorem Fleet.of_buffers_eq (h : Fleet executors d) (hbuffers : d'.buffers = d.buffers)
    (hlast : d'.lastId = d.lastId) : Fleet executors d' :=
  ⟨h.scope, fun k f hf => (h.ready k f hf).of_frame (Nat.le_of_eq hlast.symm) fun _ _ => by
    rw [hbuffers], h.apart⟩

end TieredVectors.Executor
