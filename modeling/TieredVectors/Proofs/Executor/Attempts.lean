import TieredVectors.Executor.Basic
import TieredVectors.Proofs.Columns.Arrays
import TieredVectors.Proofs.Device.Launches

/-!
# Attempts on the device

An executor keeps its buffers from one attempt to the next, so what an attempt may do is said about
an executor and the device together.

* `Executor.Ready e d` — the buffers of `e` are its own and different, and once it has a flag its
  buffers fit its unit;
* `Executor.Evolves e d e' d'` — nothing happened but to buffers of `e` and to new ones;
* `Executor.attempt_evolves` — an attempt keeps an executor ready and evolves it, whatever becomes
  of the attempt;
* `Executor.attempt_error`, `Executor.attempt_some` — an attempt fails with device errors only, and
  its results are, row by row, those of the kernel.
-/

namespace TieredVectors

namespace Executor

variable {e e' e'' : Executor} {d d' d'' : Device}

/-- The numbers of the buffers that the executor holds. -/
def ids (e : Executor) : List BufferId := e.buffers.map (·.id)

/-- The buffers are different and have been made, and once there is a flag the buffers fit the
unit. -/
structure Ready (e : Executor) (d : Device) : Prop where
  nodup : e.ids.Nodup
  bounded : ∀ id ∈ e.ids, id.index ≤ d.lastId
  inputs : e.deopt.isSome → d.Holds e.inputs e.unit.input.kinds e.allocatedLength
  outputs : e.deopt.isSome → d.Holds e.outputs e.unit.output.kinds e.allocatedLength
  flag : ∀ b, e.deopt = some b → d.layout? b.id = some (.int, 1)

/-- Nothing happened but to the executor's buffers and to new ones. -/
structure Evolves (e : Executor) (d : Device) (e' : Executor) (d' : Device) : Prop where
  unit : e'.unit = e.unit
  scope : e'.scope = e.scope
  lastId_le : d.lastId ≤ d'.lastId
  forceDeopt : d'.forceDeopt = d.forceDeopt
  frame : ∀ id : BufferId, id.index ≤ d.lastId → id ∉ e.ids →
    d'.buffers.get? id = d.buffers.get? id
  ids : ∀ id ∈ e'.ids, id ∈ e.ids ∨ d.lastId < id.index

theorem Evolves.refl (e : Executor) (d : Device) : Evolves e d e d :=
  ⟨rfl, rfl, Nat.le_refl _, rfl, fun _ _ _ => rfl, fun _ => Or.inl⟩

theorem Evolves.trans (h : Evolves e d e' d') (h' : Evolves e' d' e'' d'') :
    Evolves e d e'' d'' where
  unit := h'.unit.trans h.unit
  scope := h'.scope.trans h.scope
  lastId_le := Nat.le_trans h.lastId_le h'.lastId_le
  forceDeopt := h'.forceDeopt.trans h.forceDeopt
  frame id hid hother := by
    rw [h'.frame id (Nat.le_trans hid h.lastId_le), h.frame id hid hother]
    intro hmem
    rcases h.ids id hmem with hmem | hnew
    · exact hother hmem
    · omega
  ids id hid := by
    rcases h'.ids id hid with hid | hnew
    · exact h.ids id hid
    · exact Or.inr (Nat.lt_of_le_of_lt h.lastId_le hnew)

/-- How many rows were copied in last does not matter to what is said here. -/
theorem Evolves.withLength (h : Evolves e d e' d') (n : Nat) :
    Evolves e d { e' with length := n } d' :=
  ⟨h.unit, h.scope, h.lastId_le, h.forceDeopt, h.frame, h.ids⟩

theorem Ready.withLength (h : e.Ready d) (n : Nat) : { e with length := n }.Ready d :=
  ⟨h.nodup, h.bounded, h.inputs, h.outputs, h.flag⟩

/-- A new executor has no buffers. -/
theorem ready_ofUnit (unit : CompiledUnit) (d : Device) : (ofUnit unit).Ready d := by
  refine ⟨?_, ?_, ?_, ?_, ?_⟩ <;> simp [ofUnit, ids, buffers]

/-- Requests that touch only the executor's own buffers keep it ready. -/
theorem Ready.touches {touched : List BufferId} (h : e.Ready d) (ht : Device.Touches touched d d') :
    e.Ready d' where
  nodup := h.nodup
  bounded id hid := by
    rw [ht.lastId]
    exact h.bounded id hid
  inputs hflag := (h.inputs hflag).of_layout fun b _ => ht.layout b.id
  outputs hflag := (h.outputs hflag).of_layout fun b _ => ht.layout b.id
  flag b hb := (ht.layout b.id).trans (h.flag b hb)

/-- What happens to other buffers does not matter to an executor. -/
theorem Ready.of_frame (h : e.Ready d) (hlast : d.lastId ≤ d'.lastId)
    (hframe : ∀ id ∈ e.ids, d'.buffers.get? id = d.buffers.get? id) : e.Ready d' := by
  have hlayout : ∀ b ∈ e.buffers, d'.layout? b.id = d.layout? b.id := fun b hb => by
    rw [Device.layout?, Device.layout?, hframe b.id (List.mem_map_of_mem hb)]
  refine ⟨h.nodup, fun id hid => Nat.le_trans (h.bounded id hid) hlast, ?_, ?_, ?_⟩
  · exact fun hflag => (h.inputs hflag).of_layout fun b hb => hlayout b (by simp [buffers, hb])
  · exact fun hflag => (h.outputs hflag).of_layout fun b hb => hlayout b (by simp [buffers, hb])
  · exact fun b hb => (hlayout b (by simp [buffers, hb])).trans (h.flag b hb)

theorem evolves_of_touches {touched : List BufferId} (ht : Device.Touches touched d d')
    (hsub : touched ⊆ e.ids) : Evolves e d e d' where
  unit := rfl
  scope := rfl
  lastId_le := Nat.le_of_eq ht.lastId.symm
  forceDeopt := ht.forceDeopt
  frame id _ hother := ht.frame id fun hmem => hother (hsub hmem)
  ids _ := Or.inl

/-! ## Preparing -/

/-- Giving all buffers back. -/
theorem release_evolves (e : Executor) (d : Device) :
    Evolves e d (e.release d).1 (e.release d).2 := by
  obtain ⟨hframe, hlast, hforce⟩ := Device.releaseAll_frame d e.buffers
  refine ⟨rfl, rfl, Nat.le_of_eq hlast.symm, hforce, fun id _ hother => hframe id hother, ?_⟩
  intro id hid
  simp [release, ids, buffers] at hid

/-- An executor that takes new buffers in place of its own. -/
theorem evolves_of_grows (hg : Device.Grows d d' e'.buffers)
    (hunit : e'.unit = e.unit) (hscope : e'.scope = e.scope) : Evolves e d e' d' where
  unit := hunit
  scope := hscope
  lastId_le := hg.lastId_le
  forceDeopt := hg.forceDeopt
  frame id hid _ := hg.frame id hid
  ids id hid := by
    obtain ⟨b, hb, rfl⟩ := List.mem_map.1 hid
    exact Or.inr (hg.fresh b hb).1

/-- Buffers that do not all fit are kept, but not used. -/
theorem ready_of_grows (hg : Device.Grows d d' e'.buffers) (hflag : e'.deopt = none) :
    e'.Ready d' := by
  refine ⟨hg.nodup, fun id hid => ?_, ?_, ?_, ?_⟩
  · obtain ⟨b, hb, rfl⟩ := List.mem_map.1 hid
    exact (hg.fresh b hb).2
  all_goals simp [hflag]

/-- An executor that has given its buffers back and found room for some of the new ones only. -/
theorem evolves_and_ready_of_grows (hg : Device.Grows (e.release d).2 d' e'.buffers)
    (hunit : e'.unit = e.unit) (hscope : e'.scope = e.scope) (hflag : e'.deopt = none) :
    Evolves e d e' d' ∧ e'.Ready d' :=
  ⟨(release_evolves e d).trans (evolves_of_grows hg hunit hscope), ready_of_grows hg hflag⟩

/-- Having buffers for `n` rows keeps an executor ready; if they all fit there is a flag and they
are made for `n` rows. -/
theorem prepare_eq (h : e.Ready d) {n : Nat} {r : Except DeviceError Unit}
    (hp : e.prepare d n = (r, e', d')) :
    Evolves e d e' d' ∧ e'.Ready d' ∧ (r = .ok () → e'.deopt.isSome ∧ e'.allocatedLength = n) := by
  rw [prepare] at hp
  split at hp
  next hkept =>
    obtain ⟨-, rfl, rfl⟩ := by simpa using hp
    rw [Bool.and_eq_true, beq_iff_eq] at hkept
    exact ⟨.refl e d, h, fun _ => hkept⟩
  next =>
    dsimp only at hp
    split at hp
    next err inputs d₂ hinputs =>
      obtain ⟨hin, -⟩ := Device.allocateAll_eq hinputs
      obtain ⟨rfl, rfl, rfl⟩ := by simpa using hp
      have hg : Device.Grows (e.release d).2 d₂ { (e.release d).1 with inputs }.buffers := by
        simpa [buffers, release] using hin
      obtain ⟨hevolves, hready⟩ := evolves_and_ready_of_grows hg rfl rfl rfl
      exact ⟨hevolves, hready, fun hok => by cases hok⟩
    next inputs d₂ hinputs =>
      obtain ⟨hin, hholdsIn⟩ := Device.allocateAll_eq hinputs
      split at hp
      next err outputs d₃ houtputs =>
        obtain ⟨hout, -⟩ := Device.allocateAll_eq houtputs
        obtain ⟨rfl, rfl, rfl⟩ := by simpa using hp
        have hg : Device.Grows (e.release d).2 d₃
            { (e.release d).1 with inputs, outputs }.buffers := by
          simpa [buffers, release] using hin.trans hout
        obtain ⟨hevolves, hready⟩ := evolves_and_ready_of_grows hg rfl rfl rfl
        exact ⟨hevolves, hready, fun hok => by cases hok⟩
      next outputs d₃ houtputs =>
        obtain ⟨hout, hholdsOut⟩ := Device.allocateAll_eq houtputs
        split at hp
        next err hflag =>
          obtain ⟨rfl, rfl, rfl⟩ := by simpa using hp
          have hg : Device.Grows (e.release d).2 d₃
              { (e.release d).1 with inputs, outputs }.buffers := by
            simpa [buffers, release] using hin.trans hout
          obtain ⟨hevolves, hready⟩ := evolves_and_ready_of_grows hg rfl rfl rfl
          exact ⟨hevolves, hready, fun hok => by cases hok⟩
        next b d₄ hflag =>
          obtain ⟨hb, hholdsFlag⟩ := Device.allocate_eq_ok hflag
          obtain ⟨-, rfl, rfl⟩ := by simpa using hp
          -- the buffers made first are still held when the last one has been made
          have hg := (hin.trans hout).trans hb
          have hin₃ := (hholdsIn rfl).grows (fun b hb => (hin.fresh b hb).2) (hout.trans hb)
          have hout₃ := (hholdsOut rfl).grows (fun b hb => (hout.fresh b hb).2) hb
          refine ⟨(release_evolves e d).trans (evolves_of_grows hg rfl rfl), ?_,
            fun _ => ⟨rfl, rfl⟩⟩
          refine ⟨hg.nodup, fun id hid => ?_, fun _ => hin₃, fun _ => hout₃, fun b' hb' => ?_⟩
          · obtain ⟨b', hb', rfl⟩ := List.mem_map.1 hid
            exact (hg.fresh b' hb').2
          · obtain rfl := Option.some.inj hb'
            exact List.head_eq_of_cons_eq hholdsFlag

/-! ## Copying in -/

theorem inputs_subset (e : Executor) : e.inputs.map (·.id) ⊆ e.ids := by
  intro id hid
  simp only [ids, buffers, List.map_append, List.mem_append]
  exact Or.inl (Or.inl hid)

theorem outputs_subset (e : Executor) : e.outputs.map (·.id) ⊆ e.ids := by
  intro id hid
  simp only [ids, buffers, List.map_append, List.mem_append]
  exact Or.inl (Or.inr hid)

theorem flag_mem_ids {b : Buffer} (h : e.deopt = some b) : b.id ∈ e.ids := by
  simp [ids, buffers, h]

/-- The inputs, the outputs and the flag of a ready executor are different buffers. -/
theorem Ready.nodup_parts (h : e.Ready d) {b : Buffer} (hb : e.deopt = some b) :
    (e.inputs.map (·.id)).Nodup ∧ (e.outputs.map (·.id) ++ [b.id]).Nodup ∧
      ∀ id ∈ e.inputs.map (·.id), id ∉ e.outputs.map (·.id) ++ [b.id] := by
  have hnodup := h.nodup
  rw [ids, buffers, hb, Option.toList_some, List.append_assoc, List.map_append, List.map_append,
    List.map_singleton, List.nodup_append] at hnodup
  exact ⟨hnodup.1, hnodup.2.1, fun id hid hmem => hnodup.2.2 id hid id hmem rfl⟩

/-- Buffers that are written to are among those that they are taken from. -/
theorem zip_ids_sublist (bs : List Buffer) (columns : List Column) :
    ((bs.zip columns).map (·.1.id)).Sublist (bs.map (·.id)) := by
  induction bs generalizing columns with
  | nil => simp
  | cons b bs ih =>
    cases columns with
    | nil => simp
    | cons c columns => simpa using ih columns

/-- Buffers that hold columns one by one are read as these. -/
theorem mapM_read_of_pairs {bs : List Buffer} {columns : List Column}
    (hlength : columns.length = bs.length)
    (h : ∀ p ∈ bs.zip columns, d.buffers.get? p.1.id = some p.2) :
    bs.mapM d.read = .ok columns := by
  rw [mapM_eq_ok_iff]
  induction bs generalizing columns with
  | nil =>
    obtain rfl := List.length_eq_zero_iff.1 hlength
    rfl
  | cons b bs ih =>
    cases columns with
    | nil => simp at hlength
    | cons c columns =>
      rw [List.map_cons, List.map_cons, List.cons.injEq]
      refine ⟨Device.read_eq_ok_iff.2 (h (b, c) List.mem_cons_self), ih (by simpa using hlength) ?_⟩
      exact fun p hp => h p (List.mem_cons_of_mem _ hp)

theorem flagBuffer_of_deopt {b : Buffer} (h : e.deopt = some b) : e.flagBuffer = .ok b := by
  simp [flagBuffer, h]

/-- Copying rows in keeps an executor ready. If the array has the input type of the unit it fails
with device errors only, and if it succeeds the inputs hold the columns. -/
theorem copyIn_eq (h : e.Ready d) {input : ColumnArray} {r : Except TierError Unit}
    (hc : e.copyIn d input = (r, e', d')) :
    Evolves e d e' d' ∧ e'.Ready d' ∧
      (∀ err, r = .error err → e.unit.input = input.type → ∃ de, err = .device de) ∧
      (r = .ok () → e'.deopt.isSome ∧ e'.allocatedLength = input.length ∧
        e'.length = input.length ∧
        (input.columns.length = e'.inputs.length →
          e'.inputs.mapM d'.read = .ok input.columns)) := by
  rw [copyIn] at hc
  split at hc
  next htype =>
    obtain ⟨rfl, rfl, rfl⟩ := by simpa using hc
    exact ⟨.refl e d, h, fun err _ heq => absurd heq htype, fun hok => by cases hok⟩
  next =>
    split at hc
    next err e₁ d₁ hp =>
      obtain ⟨hevolves, hready, -⟩ := prepare_eq h hp
      obtain ⟨rfl, rfl, rfl⟩ := by simpa using hc
      exact ⟨hevolves, hready, fun err' heq _ => ⟨_, (Except.error.inj heq).symm⟩,
        fun hok => by cases hok⟩
    next e₁ d₁ hp =>
      obtain ⟨hevolves, hready, hmade⟩ := prepare_eq h hp
      obtain ⟨hflag, hlength⟩ := hmade rfl
      have hwrites := Device.writeAll_touches d₁ (e₁.inputs.zip input.columns)
      have hown : (e₁.inputs.zip input.columns).map (·.1.id) ⊆ e₁.ids :=
        List.Subset.trans (zip_ids_sublist _ _).subset e₁.inputs_subset
      split at hc
      next err d₂ hw =>
        rw [hw] at hwrites
        obtain ⟨rfl, rfl, rfl⟩ := by simpa using hc
        exact ⟨hevolves.trans (evolves_of_touches hwrites hown), hready.touches hwrites,
          fun err' heq _ => ⟨_, (Except.error.inj heq).symm⟩, fun hok => by cases hok⟩
      next d₂ hw =>
        rw [hw] at hwrites
        have hevolves₂ := hevolves.trans (evolves_of_touches hwrites hown)
        have hready₂ := hready.touches hwrites
        obtain ⟨b, hb⟩ := Option.isSome_iff_exists.1 hflag
        obtain ⟨hnodup, -, hapart⟩ := hready₂.nodup_parts hb
        rw [flagBuffer_of_deopt hb] at hc
        dsimp only at hc
        split at hc
        next err hclear =>
          obtain ⟨rfl, rfl, rfl⟩ := by simpa using hc
          exact ⟨hevolves₂, hready₂, fun err' heq _ => ⟨_, (Except.error.inj heq).symm⟩,
            fun hok => by cases hok⟩
        next d₃ hclear =>
          obtain ⟨rfl, rfl, rfl⟩ := by simpa using hc
          have hclears := (Device.write_eq_ok hclear).1
          have hsub : [b.id] ⊆ e₁.ids := by simpa using flag_mem_ids hb
          refine ⟨(hevolves₂.trans (evolves_of_touches hclears hsub)).withLength _,
            (hready₂.touches hclears).withLength _, fun err' heq => (by cases heq),
            fun _ => ⟨hflag, hlength, rfl, fun hcols => ?_⟩⟩
          refine mapM_read_of_pairs hcols fun p hp => ?_
          -- clearing the flag leaves the inputs alone
          have hmem := (zip_ids_sublist _ _).subset (List.mem_map_of_mem hp)
          have hwritten := Device.writeAll_eq_ok ((zip_ids_sublist _ _).nodup hnodup) hw p hp
          rw [hclears.frame p.1.id, hwritten]
          exact fun heq => hapart p.1.id hmem (List.mem_append_right _ heq)

/-- Only arrays of the unit's input type are copied in. -/
theorem input_type_of_copyIn {input : ColumnArray} (hc : e.copyIn d input = (.ok (), e', d')) :
    e.unit.input = input.type := by
  rw [copyIn] at hc
  split at hc
  next => cases hc
  next htype => exact Decidable.not_not.1 htype

/-! ## Launching -/

/-- Launching touches the executor's own buffers. -/
theorem run_touches (e : Executor) (d : Device) :
    ∃ touched, touched ⊆ e.ids ∧ Device.Touches touched d (e.run d).2 := by
  cases hb : e.deopt with
  | none =>
    refine ⟨[], List.nil_subset _, ?_⟩
    rw [run, flagBuffer, hb]
  | some b =>
    refine ⟨e.outputs.map (·.id) ++ [b.id], ?_, ?_⟩
    · rw [List.append_subset]
      exact ⟨e.outputs_subset, by simpa using flag_mem_ids hb⟩
    · rw [run, flagBuffer_of_deopt hb]
      have hlaunch := d.launch_touches
        ⟨e.unit.kernel, e.inputs, e.outputs, b, e.scope, e.length⟩
      dsimp only
      split <;> rename_i heq <;> rw [heq] at hlaunch <;> exact hlaunch

/-- An attempt keeps an executor ready and evolves it, whatever becomes of it. -/
theorem attempt_evolves (h : e.Ready d) (input : ColumnArray) :
    Evolves e d (e.attempt d input).executor (e.attempt d input).device ∧
      (e.attempt d input).executor.Ready (e.attempt d input).device := by
  rcases hc : e.copyIn d input with ⟨r, e₁, d₁⟩
  obtain ⟨hevolves, hready, -, -⟩ := copyIn_eq h hc
  obtain ⟨touched, hown, htouch⟩ := e₁.run_touches d₁
  have hevolves' := hevolves.trans (evolves_of_touches htouch hown)
  have hready' := hready.touches htouch
  rw [attempt, hc]
  cases r with
  | error err => exact ⟨hevolves, hready⟩
  | ok u =>
    rcases hr : e₁.run d₁ with ⟨r', d₂⟩
    rw [hr] at hevolves' hready'
    cases r' with
    | error err => simpa [hr] using ⟨hevolves', hready'⟩
    | ok flag => simpa [hr] using ⟨hevolves', hready'⟩

/-! ## Copying out -/

/-- Held buffers are read as columns of their kinds and length. -/
theorem readAll_eq_ok {bs : List Buffer} {kinds : List Kind} {n : Nat} (h : d.Holds bs kinds n) :
    ∃ columns, readAll d n bs = .ok columns ∧ columns.map Column.kind = kinds ∧
      (∀ c ∈ columns, c.length = n) ∧
      ∀ (f : Nat) (b : Buffer), bs[f]? = some b →
        ∃ c, d.buffers.get? b.id = some c ∧ columns[f]? = some (c.take n) := by
  induction bs generalizing kinds with
  | nil =>
    obtain rfl := List.length_eq_zero_iff.1 h.length_eq.symm
    exact ⟨[], rfl, rfl, by simp, by simp⟩
  | cons b bs ih =>
    cases kinds with
    | nil => simpa using h.length_eq
    | cons k kinds =>
      rw [Device.Holds, List.map_cons, List.map_cons, List.cons.injEq] at h
      obtain ⟨hb, hrest⟩ := h
      obtain ⟨c, hc, hlayout⟩ := Option.map_eq_some_iff.1 hb
      rw [Prod.mk.injEq] at hlayout
      obtain ⟨columns, hread, hkinds, hlengths, hcells⟩ := ih hrest
      refine ⟨c.take n :: columns, ?_, ?_, ?_, fun f b' hb' => ?_⟩
      · rw [readAll, Device.read_eq_ok_iff.2 hc, hread]
        rfl
      · rw [List.map_cons, Column.kind_take, hlayout.1, hkinds]
      · rw [List.forall_mem_cons]
        exact ⟨by rw [Column.length_take, hlayout.2, Nat.min_self], hlengths⟩
      · cases f with
        | zero =>
          obtain rfl : b = b' := by simpa using hb'
          exact ⟨c, hc, rfl⟩
        | succ f => exact hcells f b' (by simpa using hb')

/-- An executor that is ready for the rows copied in last can copy its outputs out. -/
theorem copyOut_eq_ok (h : e.Ready d) (hflag : e.deopt.isSome)
    (hlength : e.allocatedLength = e.length) :
    ∃ a, e.copyOut d = .ok a ∧ a.WellFormed ∧ a.type = e.unit.output ∧ a.length = e.length ∧
      ∀ (f : Nat) (b : Buffer), e.outputs[f]? = some b →
        ∃ c, d.buffers.get? b.id = some c ∧ a.columns[f]? = some (c.take e.length) := by
  have hholds := h.outputs hflag
  rw [hlength] at hholds
  obtain ⟨columns, hread, hkinds, hlengths, hcells⟩ := readAll_eq_ok hholds
  refine ⟨{ type := e.unit.output, columns, length := e.length }, ?_, ⟨hkinds, hlengths⟩, rfl, rfl,
    hcells⟩
  rw [copyOut, hread]
  dsimp only
  rw [ColumnArray.make_eq_ok hkinds hlengths]

/-- The flag of a ready executor can be read. -/
theorem flagRaised_eq_ok (h : e.Ready d) {b : Buffer} (hb : e.deopt = some b) :
    ∃ c, d.buffers.get? b.id = some c ∧ e.flagRaised d = .ok (c.get? 0 != some (.int 0)) := by
  obtain ⟨c, hc, -⟩ := Option.map_eq_some_iff.1 (h.flag b hb)
  refine ⟨c, hc, ?_⟩
  rw [flagRaised, flagBuffer_of_deopt hb]
  simp [Device.read_eq_ok_iff.2 hc, bind, Except.bind, pure, Except.pure]

/-- An attempt with rows of the unit's input type fails with device errors only. -/
theorem attempt_error (h : e.Ready d) {input : ColumnArray} (htype : e.unit.input = input.type)
    {err : TierError} (herr : (e.attempt d input).result = .error err) :
    ∃ de, err = .device de := by
  rcases hc : e.copyIn d input with ⟨r, e₁, d₁⟩
  obtain ⟨-, hready, hdevice, hcopied⟩ := copyIn_eq h hc
  rw [attempt, hc] at herr
  cases r with
  | error err' => exact hdevice err (congrArg _ (Except.error.inj herr)) htype
  | ok u =>
    obtain ⟨hflag, halloc, hlength, -⟩ := hcopied rfl
    obtain ⟨b, hb⟩ := Option.isSome_iff_exists.1 hflag
    obtain ⟨touched, -, htouch⟩ := e₁.run_touches d₁
    rcases hr : e₁.run d₁ with ⟨r', d₂⟩
    rw [hr] at htouch
    simp only [hr] at herr
    cases r' with
    | error err' =>
      obtain rfl := Except.error.inj herr
      rw [run, flagBuffer_of_deopt hb] at hr
      dsimp only at hr
      split at hr
      · exact ⟨_, (Except.error.inj (Prod.mk.inj hr).1).symm⟩
      · cases hr
    | ok flag =>
      -- once the launch has succeeded there is nothing left to fail
      have hready₂ := hready.touches htouch
      obtain ⟨a, ha, -⟩ := copyOut_eq_ok hready₂ hflag (halloc.trans hlength.symm)
      obtain ⟨c, -, hraised⟩ := flagRaised_eq_ok hready₂ hb
      simp [collect, ha, hraised, bind, Except.bind, pure, Except.pure] at herr

/-- Each column copied out is what an output buffer held before the launch, with the cells of the
rows replaced. -/
theorem exists_setFrom_of_copyOut (h : e.Ready d) (h' : e.Ready d') (hflag : e.deopt.isSome)
    (hlength : e.allocatedLength = e.length) {rows : List (List Scalar)}
    (hstored : ∀ (f : Nat) (b : Buffer) (c : Column), e.outputs[f]? = some b →
      d.buffers.get? b.id = some c →
      ∃ c', d'.buffers.get? b.id = some c' ∧ c.setFrom 0 (rows.map (·[f]?)) = some c')
    {a : ColumnArray} (hout : e.copyOut d' = .ok a) {f : Nat} {c : Column}
    (hc : a.columns[f]? = some c) :
    ∃ c₀ c₁ : Column, c = c₁.take e.length ∧ c₀.setFrom 0 (rows.map (·[f]?)) = some c₁ := by
  obtain ⟨a', ha', hwf, htype, -, hcells⟩ := copyOut_eq_ok h' hflag hlength
  obtain rfl : a = a' := Except.ok.inj (hout.symm.trans ha')
  have hcolumns : a.columns.length = e.outputs.length := by
    rw [(h.outputs hflag).length_eq, ← htype, ← hwf.kinds, List.length_map]
  have hf : f < e.outputs.length := hcolumns ▸ (List.getElem?_eq_some_iff.1 hc).1
  have hbuffer : e.outputs[f]? = some _ := List.getElem?_eq_getElem hf
  obtain ⟨c₁, hc₁, htake⟩ := hcells f _ hbuffer
  obtain ⟨c₀, hc₀, -⟩ := (h.outputs hflag).exists_column hbuffer
  obtain ⟨c₂, hc₂, hfrom⟩ := hstored f _ c₀ hbuffer hc₀
  obtain rfl : c₁ = c₂ := Option.some.inj (hc₁.symm.trans hc₂)
  exact ⟨c₀, c₁, Option.some.inj (hc.symm.trans htake), hfrom⟩

/-- A launch that succeeds has computed rows from the columns that the inputs hold and put them into
the outputs, and the flag that can be read is the one that it gave. -/
theorem run_eq_ok (h : e.Ready d) {b : Buffer} (hb : e.deopt = some b) {kernel : Kernel}
    (hkernel : e.unit.kernel.kernel? = some kernel) {columns : List Column}
    (hinputs : e.inputs.mapM d.read = .ok columns) {flag : Int32}
    (hrun : e.run d = (.ok flag, d')) :
    ∃ rows stop, Launch.compute kernel e.scope columns e.length 0 e.length = .ok (rows, stop) ∧
      flag = Launch.flag d.forceDeopt stop ∧ e.flagRaised d' = .ok (flag != 0) ∧
      ∀ (f : Nat) (b : Buffer) (c : Column), e.outputs[f]? = some b →
        d.buffers.get? b.id = some c →
        ∃ c', d'.buffers.get? b.id = some c' ∧ c.setFrom 0 (rows.map (·[f]?)) = some c' := by
  obtain ⟨touched, -, htouch⟩ := e.run_touches d
  rw [hrun] at htouch
  obtain ⟨-, hnodup, -⟩ := h.nodup_parts hb
  have hlaunch : d.launch ⟨e.unit.kernel, e.inputs, e.outputs, b, e.scope, e.length⟩ =
      (.ok flag, d') := by
    rw [run, flagBuffer_of_deopt hb] at hrun
    dsimp only at hrun
    split at hrun <;> simp_all
  obtain ⟨columns', rows, stop, hread, hcompute, hflag, hstored, cflag, hcflag, hcell⟩ :=
    Device.launch_eq_ok hkernel hnodup hlaunch
  obtain rfl : columns = columns' := Except.ok.inj (hinputs.symm.trans hread)
  refine ⟨rows, stop, hcompute, hflag, ?_, hstored⟩
  obtain ⟨c, hc, hraised⟩ := flagRaised_eq_ok (h.touches htouch) hb
  obtain rfl : cflag = c := Option.some.inj (hcflag.symm.trans hc)
  have hbne : (some (Scalar.int flag) != some (.int 0)) = (flag != 0) := by
    rw [Bool.eq_iff_iff]
    simp
  rw [hraised, hcell, hbne]

/-- The results of a launch with a flag of zero are the kernel's results for the rows that the
inputs hold. -/
theorem copyOut_of_run (h : e.Ready d) {b : Buffer} (hb : e.deopt = some b)
    (hlength : e.allocatedLength = e.length) {kernel : Kernel}
    (hkernel : e.unit.kernel.kernel? = some kernel) {columns : List Column}
    (hinputs : e.inputs.mapM d.read = .ok columns) {flag : Int32}
    (hrun : e.run d = (.ok flag, d')) (hflag : e.flagRaised d' = .ok false) {a : ColumnArray}
    (hout : e.copyOut d' = .ok a) :
    d.forceDeopt = false ∧ (0 < e.length → ∀ c ∈ a.columns, c.Dense) ∧
      ∀ i < e.length, ∃ row out, columns.mapM (·.get? i) = some row ∧
        kernel.run row e.scope = .ok out ∧
        ∀ (f : Nat) (c : Column), a.columns[f]? = some c → c.get? i = out[f]? := by
  obtain ⟨touched, -, htouch⟩ := e.run_touches d
  rw [hrun] at htouch
  have hready' := h.touches htouch
  obtain ⟨rows, stop, hcompute, hflagEq, hraised, hstored⟩ := run_eq_ok h hb hkernel hinputs hrun
  have hzero : flag = 0 := by simpa [hflag] using hraised
  rw [hzero, eq_comm, Launch.flag_eq_zero_iff] at hflagEq
  obtain ⟨hforce, rfl⟩ := hflagEq
  have hcomputed := Launch.compute_eq_ok hcompute
  have hcount : rows.length = e.length := hcomputed.length_eq
  have hcolumn := fun (f : Nat) (c : Column) (hc : a.columns[f]? = some c) =>
    exists_setFrom_of_copyOut h hready' (by simp [hb]) hlength hstored hout hc
  refine ⟨hforce, fun hpos c hc => ?_, fun i hi => ?_⟩
  · obtain ⟨f, hf⟩ := List.mem_iff_getElem?.1 hc
    obtain ⟨c₀, c₁, rfl, hfrom⟩ := hcolumn f c hf
    refine Column.Dense.take ((Column.setFrom_eq_some hfrom).2.2.1 fun hnil => ?_) _
    rw [List.map_eq_nil_iff.1 hnil] at hcount
    exact absurd hpos (by simp [← hcount])
  · obtain ⟨out, hrow⟩ : ∃ out, rows[i]? = some out :=
      ⟨_, List.getElem?_eq_getElem (hcount.symm ▸ hi)⟩
    obtain ⟨row, hin, hout⟩ := hcomputed.results i out hrow
    rw [Nat.zero_add] at hin
    refine ⟨row, out, hin, hout, fun f c hf => ?_⟩
    obtain ⟨c₀, c₁, rfl, hfrom⟩ := hcolumn f c hf
    have hcell := (Column.setFrom_eq_some hfrom).2.2.2.2 i out[f]? (by simp [hrow])
    rwa [Column.get?_take hi, ← Nat.zero_add i]

/-- The results of an attempt are the kernel's results, row by row, and there are some only if the
flag is not raised. -/
theorem attempt_some (h : e.Ready d) {kernel : Kernel}
    (hkernel : e.unit.kernel.kernel? = some kernel) {input a : ColumnArray}
    (hcolumns : input.columns.length = e.unit.input.width)
    (hres : (e.attempt d input).result = .ok (some a)) :
    d.forceDeopt = false ∧ a.WellFormed ∧ a.type = e.unit.output ∧ a.length = input.length ∧
      (0 < input.length → ∀ c ∈ a.columns, c.Dense) ∧
      (e.attempt d input).executor.flagRaised (e.attempt d input).device = .ok false ∧
      ∀ i < input.length, ∃ row out, input.row? i = some row ∧ kernel.run row e.scope = .ok out ∧
        ∀ (f : Nat) (c : Column), a.columns[f]? = some c → c.get? i = out[f]? := by
  rcases hc : e.copyIn d input with ⟨r, e₁, d₁⟩
  obtain ⟨hevolves, hready, -, hcopied⟩ := copyIn_eq h hc
  rw [attempt, hc] at hres ⊢
  cases r with
  | error err => cases hres
  | ok u =>
    obtain ⟨hflag, halloc, hlength, hinputs⟩ := hcopied rfl
    obtain ⟨b, hb⟩ := Option.isSome_iff_exists.1 hflag
    obtain ⟨touched, -, htouch⟩ := e₁.run_touches d₁
    rcases hr : e₁.run d₁ with ⟨r', d₂⟩
    rw [hr] at htouch
    simp only [hr] at hres ⊢
    cases r' with
    | error err => cases hres
    | ok flag =>
      obtain ⟨a', ha, hres⟩ := bind_eq_ok.1 hres
      obtain ⟨raised, hraised, hres⟩ := bind_eq_ok.1 hres
      -- results are handed out only if the flag is read as not raised
      have hlow : raised = false ∧ a' = a := by
        have := pure_eq_ok.1 hres
        split at this <;> simp_all
      obtain ⟨rfl, rfl⟩ := hlow
      have hready₂ := hready.touches htouch
      obtain ⟨a'', ha'', hwf, htype, hlen, -⟩ :=
        copyOut_eq_ok hready₂ hflag (halloc.trans hlength.symm)
      obtain rfl : a' = a'' := Except.ok.inj (ha.symm.trans ha'')
      have hread := hinputs (by
        rw [hcolumns, (hready.inputs hflag).length_eq, hevolves.unit]
        rfl)
      obtain ⟨hforce, hdense, hrows⟩ := copyOut_of_run hready hb (halloc.trans hlength.symm)
        (by rw [hevolves.unit]; exact hkernel) hread hr hraised ha
      rw [hlength, hevolves.scope] at hrows
      rw [hlength] at hdense
      exact ⟨hevolves.forceDeopt ▸ hforce, hwf, htype.trans (congrArg _ hevolves.unit),
        hlen.trans hlength, hdense, hraised, hrows⟩

end Executor

end TieredVectors
