import TieredVectors.Proofs.Device.Granting
import TieredVectors.Proofs.Executor.Ownership
import TieredVectors.Proofs.Kernel.Mixtures

/-!
# Units that run

What can go wrong when a compiled unit is run on a device without a capacity. Rows of the unit's
input type can be copied in, and after a launch the results and the flag can be read. The launch
itself fails for one reason: a row has a result of other kinds than those of the output type.

* `Executor.Receptive e d` — the elements of the outputs and of the flag can be replaced;
* `Executor.Loaded e d rows` — rows have been copied in, and all is there for a launch;
* `Executor.Loaded.exists_run_iff`, `Executor.Loaded.bufferLayout_of_run` — which launches succeed,
  and what the others fail for;
* `Bench.Open` — the device has no capacity and all executors are receptive, which every request
  preserves;
* `Bench.compiled_unit_answers` — all this after any history. A unit whose captured lists are not
  mixed where they are read always runs, and `Bench.mixed_list_stops_run` shows one that does not.
-/

namespace TieredVectors

/-- The layouts of buffers that are held for the columns of an array. -/
theorem Device.Holds.layout_of_mem_zip {d : Device} {bs : List Buffer} {columns : List Column}
    {n : Nat} (h : d.Holds bs (columns.map Column.kind) n) (hlengths : ∀ c ∈ columns, c.length = n)
    {p : Buffer × Column} (hp : p ∈ bs.zip columns) :
    d.layout? p.1.id = some (p.2.kind, p.2.length) := by
  obtain ⟨f, hf⟩ := List.mem_iff_getElem?.1 hp
  obtain ⟨hb, hc⟩ := List.getElem?_zip_eq_some.1 hf
  obtain ⟨held, hheld, hkind, hlength⟩ := h.exists_column hb
  rw [List.getElem?_map, hc] at hkind
  rw [layout?, hheld, Option.map_some, hlength, hlengths p.2 (List.mem_of_getElem? hc),
    ← Option.some.inj hkind]

namespace Executor

variable {e e' : Executor} {d d' : Device} {b : Buffer} {input rows : ColumnArray}

/-! ## Executors that results can be stored for -/

/-- The elements of the outputs and of the flag can be replaced. -/
def Receptive (e : Executor) (d : Device) : Prop :=
  ∀ b ∈ e.outputs ++ e.deopt.toList, d.DenseAt b.id

theorem receptive_ofUnit (unit : CompiledUnit) (d : Device) : (ofUnit unit).Receptive d := by
  simp [Receptive, ofUnit]

theorem Receptive.of_frame (h : e.Receptive d)
    (hframe : ∀ b ∈ e.outputs ++ e.deopt.toList, d'.buffers.get? b.id = d.buffers.get? b.id) :
    e.Receptive d' := fun b hb => (h b hb).congr (hframe b hb)

theorem Receptive.undisturbed (h : e.Receptive d) (hquiet : e.Undisturbed d d') :
    e.Receptive d' := by
  refine h.of_frame fun b hb => hquiet.frame b.id (List.mem_map_of_mem ?_)
  rw [buffers, List.append_assoc]
  exact List.mem_append_right _ hb

/-- Without a capacity there is room for all buffers of an executor. -/
theorem Receptive.exists_prepare (h : e.Receptive d) (hcapacity : d.capacity = none) (n : Nat) :
    ∃ e' d', e.prepare d n = (.ok (), e', d') ∧ d'.capacity = none ∧ e'.Receptive d' := by
  rw [prepare]
  split
  next => exact ⟨e, d, rfl, hcapacity, h⟩
  next =>
    have hgiven : (e.release d).2.capacity = none :=
      (Device.capacity_releaseAll d e.buffers).trans hcapacity
    obtain ⟨inputs, d₁, hinputs, hcapacity₁⟩ :=
      Device.exists_allocateAll hgiven n e.unit.input.kinds
    obtain ⟨outputs, d₂, houtputs, hcapacity₂⟩ :=
      Device.exists_allocateAll hcapacity₁ n e.unit.output.kinds
    obtain ⟨b, d₃, hflag⟩ := Device.exists_allocate hcapacity₂ .int 1
    have hunit : (e.release d).1.unit = e.unit := rfl
    simp only [hunit, hinputs, houtputs, hflag]
    refine ⟨_, d₃, rfl, (Device.capacity_allocate hflag).trans hcapacity₂, ?_⟩
    -- the outputs are left alone while the flag is made
    refine List.forall_mem_append.2 ⟨fun b' hb' => ?_, ?_⟩
    · have hbound := ((Device.allocateAll_eq houtputs).1.fresh b' hb').2
      exact ((Device.allocateAll_makes houtputs).1.denseAt b' hb').congr
        ((Device.allocate_eq_ok hflag).1.frame b'.id hbound)
    · exact List.forall_mem_singleton.2 (Device.denseAt_of_allocate hflag)

/-- Writing rows into the inputs does not concern the outputs and the flag. -/
theorem Receptive.writeInputs (h : e.Receptive d) (hready : e.Ready d) (hb : e.deopt = some b)
    (columns : List Column) : e.Receptive (d.writeAll (e.inputs.zip columns)).2 := by
  obtain ⟨-, -, hapart⟩ := hready.nodup_parts hb
  have hwrites := d.writeAll_touches (e.inputs.zip columns)
  refine h.of_frame fun b' hb' => hwrites.frame b'.id fun hmem => ?_
  refine hapart b'.id ((zip_ids_sublist _ _).subset hmem) ?_
  rw [hb, Option.toList_some] at hb'
  simpa using List.mem_map_of_mem (f := Buffer.id) hb'

/-- Copying rows in, whether it succeeds or fails, keeps an executor receptive on a device without a
capacity. -/
theorem Receptive.copyIn (h : e.Receptive d) (hready : e.Ready d) (hcapacity : d.capacity = none)
    {r : Except TierError Unit} (hc : e.copyIn d input = (r, e', d')) :
    d'.capacity = none ∧ e'.Receptive d' := by
  rw [Executor.copyIn] at hc
  split at hc
  next =>
    obtain ⟨-, rfl, rfl⟩ := by simpa using hc
    exact ⟨hcapacity, h⟩
  next =>
    obtain ⟨e₁, d₁, hp, hcapacity₁, hreceptive₁⟩ := h.exists_prepare hcapacity input.length
    obtain ⟨-, hready₁, hmade⟩ := prepare_eq hready hp
    obtain ⟨b, hb⟩ := Option.isSome_iff_exists.1 (hmade rfl).1
    have hwrites := (d₁.writeAll_touches (e₁.inputs.zip input.columns)).capacity.trans hcapacity₁
    have hreceptive₂ := hreceptive₁.writeInputs hready₁ hb input.columns
    rw [hp] at hc
    dsimp only at hc
    split at hc
    next err d₂ hw =>
      rw [hw] at hwrites hreceptive₂
      obtain ⟨-, rfl, rfl⟩ := by simpa using hc
      exact ⟨hwrites, hreceptive₂⟩
    next d₂ hw =>
      rw [hw] at hwrites hreceptive₂
      rw [flagBuffer_of_deopt hb] at hc
      dsimp only at hc
      split at hc
      next =>
        obtain ⟨-, rfl, rfl⟩ := by simpa using hc
        exact ⟨hwrites, hreceptive₂⟩
      next d₃ hclear =>
        obtain ⟨-, rfl, rfl⟩ := by simpa using hc
        refine ⟨(Device.write_eq_ok hclear).1.capacity.trans hwrites, fun b' hb' => ?_⟩
        exact (hreceptive₂ b' hb').write (c := .int [0]) trivial hclear

/-! ## Rows on the device -/

/-- The rows have been copied in, and all is there for a launch. -/
structure Loaded (e : Executor) (d : Device) (rows : ColumnArray) : Prop where
  ready : e.Ready d
  receptive : e.Receptive d
  flag : e.deopt.isSome
  allocated : e.allocatedLength = rows.length
  length : e.length = rows.length
  inputs : e.inputs.mapM d.read = .ok rows.columns

theorem Loaded.undisturbed (h : e.Loaded d rows) (hquiet : e.Undisturbed d d') :
    e.Loaded d' rows :=
  { h with
    ready := hquiet.ready h.ready
    receptive := h.receptive.undisturbed hquiet
    inputs := hquiet.readInputs_eq_ok h.inputs }

/-- Without a capacity, rows of the unit's input type can be copied in. -/
theorem Receptive.exists_copyIn (h : e.Receptive d) (hready : e.Ready d)
    (hcapacity : d.capacity = none) (hrows : rows.WellFormed) (htype : e.unit.input = rows.type) :
    ∃ e' d', e.copyIn d rows = (.ok (), e', d') ∧ e'.Loaded d' rows := by
  obtain ⟨e₁, d₁, hp, -⟩ := h.exists_prepare hcapacity rows.length
  obtain ⟨hevolves, hready₁, hmade⟩ := prepare_eq hready hp
  obtain ⟨hflag, hallocated⟩ := hmade rfl
  obtain ⟨b, hb⟩ := Option.isSome_iff_exists.1 hflag
  have hinputs := hready₁.inputs hflag
  rw [hallocated, hevolves.unit, htype, ← hrows.kinds] at hinputs
  obtain ⟨d₂, hw⟩ := Device.exists_writeAll fun p hp => hinputs.layout_of_mem_zip hrows.lengths hp
  have hwrites := d₁.writeAll_touches (e₁.inputs.zip rows.columns)
  rw [hw] at hwrites
  obtain ⟨d₃, hclear⟩ : ∃ d₃, d₂.write b (.int [0]) = .ok d₃ :=
    Device.exists_write ((hwrites.layout b.id).trans (hready₁.flag b hb))
  have hcopied : e.copyIn d rows = (.ok (), { e₁ with length := rows.length }, d₃) := by
    rw [Executor.copyIn, if_neg (not_not_intro htype), hp]
    dsimp only
    rw [hw, flagBuffer_of_deopt hb]
    dsimp only
    rw [hclear]
  obtain ⟨-, hready', -, hok⟩ := copyIn_eq hready hcopied
  obtain ⟨-, -, -, hread⟩ := hok rfl
  refine ⟨_, d₃, hcopied, hready', (h.copyIn hready hcapacity hcopied).2, hflag, hallocated, rfl,
    hread ?_⟩
  simpa using hinputs.length_eq.symm

/-! ## Launching -/

/-- The launch that an executor asks for, with the buffer of its flag. -/
def launch (e : Executor) (flag : Buffer) : Launch where
  kernel := e.unit.kernel
  inputs := e.inputs
  outputs := e.outputs
  deopt := flag
  scope := e.scope
  length := e.length

/-- An executor with a flag hands its launch to the device. -/
theorem run_eq_launch (hb : e.deopt = some b) (d : Device) :
    e.run d = ((d.launch (e.launch b)).1.mapError .device, (d.launch (e.launch b)).2) := by
  rw [run, flagBuffer_of_deopt hb]
  dsimp only
  split
  next err d' hlaunch => rw [launch, hlaunch]; rfl
  next flag d' hlaunch => rw [launch, hlaunch]; rfl

theorem exists_run_iff_exists_launch (hb : e.deopt = some b) (d : Device) :
    (∃ flag, (e.run d).1 = .ok flag) ↔ ∃ flag, (d.launch (e.launch b)).1 = .ok flag := by
  rw [run_eq_launch hb]
  cases (d.launch (e.launch b)).1 <;> simp [Except.mapError]

/-- What can be replaced stays so whatever is launched. -/
theorem denseAt_run {id : BufferId} (h : d.DenseAt id) (e : Executor) : (e.run d).2.DenseAt id := by
  cases hb : e.deopt with
  | none => rwa [run, flagBuffer, hb]
  | some b =>
    rw [run_eq_launch hb]
    exact h.launch (e.launch b)

/-- The outputs take scalars of the kinds of the unit's output type. -/
theorem Receptive.takes_iff (h : e.Receptive d) (hready : e.Ready d) (hflag : e.deopt.isSome)
    {f i : Nat} {s : Scalar} (hb : e.outputs[f]? = some b) :
    d.Takes b i s ↔ i < e.allocatedLength ∧ e.unit.output.kinds[f]? = some s.kind := by
  obtain ⟨c, hc, hkind, hlength⟩ := (hready.outputs hflag).exists_column hb
  have hdense := h b (List.mem_append_left _ (List.mem_of_getElem? hb)) c hc
  rw [hkind, Option.some.injEq, ← hlength]
  constructor
  · rintro ⟨held, hheld, -, hi, hs⟩
    obtain rfl := Option.some.inj (hc.symm.trans hheld)
    exact ⟨hi, hs.symm⟩
  · rintro ⟨hi, hs⟩
    exact ⟨c, hc, hdense, hi, hs.symm⟩

/-- The flag takes a word. -/
theorem Receptive.takes_flag (h : e.Receptive d) (hready : e.Ready d) (hb : e.deopt = some b) :
    d.Takes b 0 (.int 0) := by
  obtain ⟨c, hc, hlayout⟩ := Option.map_eq_some_iff.1 (hready.flag b hb)
  obtain ⟨hkind, hlength⟩ := Prod.mk.inj hlayout
  refine ⟨c, hc, h b (List.mem_append_right _ (by simp [hb])) c hc, ?_, hkind.symm⟩
  exact Nat.lt_of_lt_of_eq Nat.one_pos hlength.symm

end Executor

/-- Row `i` has the result `out`, and each row before it has a result as well. -/
structure Kernel.Delivers (k : Kernel) (scope : Scope) (rows : ColumnArray) (i : Nat)
    (out : List Scalar) : Prop where
  lt : i < rows.length
  result : ∃ row, rows.row? i = some row ∧ k.run row scope = .ok out
  before : ∀ j < i, ∃ row out', rows.row? j = some row ∧ k.run row scope = .ok out'

/-- What is delivered is a matter of the results. -/
theorem Kernel.delivers_congr {k : Kernel} {scope scope' : Scope} {rows : ColumnArray} {i : Nat}
    {out : List Scalar} (h : ∀ row, k.run row scope = k.run row scope') :
    k.Delivers scope rows i out ↔ k.Delivers scope' rows i out := by
  constructor
  · rintro ⟨hlt, hresult, hbefore⟩
    simp only [h] at hresult hbefore
    exact ⟨hlt, hresult, hbefore⟩
  · rintro ⟨hlt, hresult, hbefore⟩
    simp only [← h] at hresult hbefore
    exact ⟨hlt, hresult, hbefore⟩

namespace Executor

variable {e : Executor} {d : Device} {b : Buffer} {rows : ColumnArray} {k : Kernel} {n : Nat}

/-- What is delivered for the rows copied in are the results up to where the launch stops. -/
theorem Loaded.delivers_iff (h : e.Loaded d rows) (hstops : (e.launch b).StopsAt k d n) {i : Nat}
    {out : List Scalar} :
    k.Delivers e.scope rows i out ↔ i < n ∧ (e.launch b).outcome? k d i = some (.ok out) := by
  have houtcome {j : Nat} {r : Except GiveUp (List Scalar)} :
      (e.launch b).outcome? k d j = some r ↔
        ∃ row, rows.row? j = some row ∧ k.run row e.scope = r :=
    Launch.outcome?_eq_some_iff h.inputs
  constructor
  · intro hdelivers
    have hi : i < (e.launch b).length := Nat.lt_of_lt_of_eq hdelivers.lt h.length.symm
    refine ⟨Nat.lt_of_not_le fun hle => ?_, houtcome.2 hdelivers.result⟩
    -- the row at which the launch stops would have a result, and none
    obtain ⟨reason, hreason⟩ := hstops.givenUp (Nat.lt_of_le_of_lt hle hi)
    obtain ⟨row, out', hrow, hrun⟩ : ∃ row out', rows.row? n = some row ∧
        k.run row e.scope = .ok out' := by
      rcases Nat.lt_or_eq_of_le hle with hlt | rfl
      · exact hdelivers.before n hlt
      · obtain ⟨row, hrow, hrun⟩ := hdelivers.result
        exact ⟨row, out, hrow, hrun⟩
    rw [houtcome.2 ⟨row, hrow, hrun⟩] at hreason
    cases hreason
  · rintro ⟨hi, hout⟩
    refine ⟨?_, houtcome.1 hout, fun j hj => ?_⟩
    · rw [← h.length]
      exact Nat.lt_of_lt_of_le hi hstops.le
    · obtain ⟨out', hout'⟩ := hstops.results j (Nat.lt_trans hj hi)
      obtain ⟨row, hrow, hrun⟩ := houtcome.1 hout'
      exact ⟨row, out', hrow, hrun⟩

/-- A launch over rows that have been copied in stops somewhere. -/
theorem Loaded.exists_stopsAt (h : e.Loaded d rows) (hrows : rows.WellFormed) (k : Kernel)
    (b : Buffer) : ∃ n, (e.launch b).StopsAt k d n := by
  refine Launch.exists_stopsAt fun i hi => ?_
  obtain ⟨row, hrow, -⟩ := hrows.exists_row (i := i) (Nat.lt_of_lt_of_eq hi h.length)
  exact ⟨_, (Launch.outcome?_eq_some_iff h.inputs).2 ⟨row, hrow, rfl⟩⟩

/-- A launch over rows that have been copied in succeeds iff what is delivered is of the kinds of
the output type. -/
theorem Loaded.exists_run_iff (h : e.Loaded d rows) (hrows : rows.WellFormed)
    (hkernel : e.unit.kernel.kernel? = some k)
    (hwidth : ∀ row out, k.run row e.scope = .ok out → out.length = e.unit.output.width) :
    (∃ flag, (e.run d).1 = .ok flag) ↔
      ∀ i out, k.Delivers e.scope rows i out → out.map Scalar.kind = e.unit.output.kinds := by
  obtain ⟨b, hb⟩ := Option.isSome_iff_exists.1 h.flag
  obtain ⟨n, hstops⟩ := h.exists_stopsAt hrows k b
  have htakes {f i : Nat} {b : Buffer} {s : Scalar} (hb : e.outputs[f]? = some b) :=
    h.receptive.takes_iff (i := i) (s := s) h.ready h.flag hb
  rw [exists_run_iff_exists_launch hb, Device.exists_launch_iff hkernel]
  constructor
  · rintro ⟨-, ⟨m, hstops', hplaces⟩, -⟩ i out hdelivers
    obtain ⟨hi, hout⟩ := (h.delivers_iff hstops').1 hdelivers
    obtain ⟨row, -, hrun⟩ := hdelivers.result
    have hlength := hwidth row out hrun
    -- field by field: each has a place in its output
    refine List.ext_getElem? fun f => ?_
    rw [List.getElem?_map]
    cases hb : e.outputs[f]? with
    | some b =>
      obtain ⟨s, hs, hplace⟩ := hplaces i hi out hout f b hb
      rw [hs, Option.map_some, ((htakes hb).1 hplace).2]
    | none =>
      have hle := List.getElem?_eq_none_iff.1 hb
      rw [(h.ready.outputs h.flag).length_eq] at hle
      have hle' : out.length ≤ f := Nat.le_trans (Nat.le_of_eq hlength) hle
      rw [List.getElem?_eq_none hle, List.getElem?_eq_none hle', Option.map_none]
  · intro hkinds
    refine ⟨Device.exists_read_iff.1 ⟨_, h.inputs⟩, ⟨n, hstops, fun i hi out hout f b hb => ?_⟩,
      h.receptive.takes_flag h.ready hb⟩
    have htyped := hkinds i out ((h.delivers_iff hstops).2 ⟨hi, hout⟩)
    -- there is a field for each output
    obtain ⟨c, -, hkind, -⟩ := (h.ready.outputs h.flag).exists_column hb
    rw [← htyped, List.getElem?_map, Option.map_eq_some_iff] at hkind
    obtain ⟨s, hs, -⟩ := hkind
    refine ⟨s, hs, (htakes hb).2 ⟨?_, ?_⟩⟩
    · rw [h.allocated, ← h.length]
      exact Nat.lt_of_lt_of_le hi hstops.le
    · rw [← htyped, List.getElem?_map, hs, Option.map_some]

/-- The same for an executor of a compiled unit, in terms of the scope that was captured. -/
theorem Loaded.exists_run_iff_of_compiled (h : e.Loaded d rows) (hrows : rows.WellFormed)
    (hcompiled : e.unit.Compiled k) (hscope : e.scope = e.unit.boundScope) :
    (∃ flag, (e.run d).1 = .ok flag) ↔
      ∀ i out, k.Delivers e.unit.scope rows i out → out.map Scalar.kind = e.unit.output.kinds := by
  have hrun (row : List Scalar) : k.run row e.scope = k.run row e.unit.scope :=
    hscope ▸ hcompiled.run_boundScope row
  rw [h.exists_run_iff hrows hcompiled.1 fun row out => hcompiled.length_of_run]
  simp only [Kernel.delivers_congr hrun]

/-- A launch over rows that read no captured list where it is mixed succeeds. -/
theorem Loaded.exists_run_of_not_readsMixed (h : e.Loaded d rows) (hrows : rows.WellFormed)
    (hcompiled : e.unit.Compiled k) (hscope : e.scope = e.unit.boundScope)
    (htype : rows.type = e.unit.input)
    (hmixed : ∀ i row, i < rows.length → rows.row? i = some row →
      ¬ k.ReadsMixed row e.unit.scope) : ∃ flag, (e.run d).1 = .ok flag := by
  refine (h.exists_run_iff_of_compiled hrows hcompiled hscope).2 fun i out hdelivers => ?_
  obtain ⟨row, hrow, hrun⟩ := hdelivers.result
  obtain ⟨row', hrow', hkinds⟩ := hrows.exists_row hdelivers.lt
  obtain rfl : row = row' := Option.some.inj (hrow.symm.trans hrow')
  exact Kernel.kinds_of_run hcompiled.2.1 (htype ▸ hkinds) (hmixed i row hdelivers.lt hrow) hrun

/-- A launch over rows that have been copied in fails only for a result that does not go into its
buffer. -/
theorem Loaded.bufferLayout_of_run (h : e.Loaded d rows) (hrows : rows.WellFormed)
    (hkernel : e.unit.kernel.kernel? = some k) {err : TierError} (herr : (e.run d).1 = .error err) :
    ∃ id expected found, err = .device (.bufferLayout id expected found) := by
  obtain ⟨b, hb⟩ := Option.isSome_iff_exists.1 h.flag
  obtain ⟨n, hstops⟩ := h.exists_stopsAt hrows k b
  rw [run_eq_launch hb] at herr
  cases hlaunch : (d.launch (e.launch b)).1 with
  | ok flag =>
    rw [hlaunch] at herr
    cases herr
  | error failure =>
    rw [hlaunch] at herr
    obtain rfl : TierError.device failure = err := Except.error.inj herr
    have houtputs : ∀ b ∈ (e.launch b).outputs, b.id ∈ d.buffers.keys := by
      intro b hb
      obtain ⟨f, hf⟩ := List.getElem?_of_mem hb
      obtain ⟨c, hc, -⟩ := (h.ready.outputs h.flag).exists_column hf
      exact Table.mem_keys_iff.2 ⟨c, hc⟩
    obtain ⟨id, expected, found, rfl⟩ := Device.bufferLayout_of_launch hkernel h.inputs hstops
      houtputs (h.receptive.takes_flag h.ready hb) hlaunch
    exact ⟨id, expected, found, rfl⟩

/-- Once a launch has been asked for, the results and the flag can be read. -/
theorem Loaded.exists_results (h : e.Loaded d rows) :
    (∃ a, e.copyOut (e.run d).2 = .ok a) ∧ ∃ raised, e.flagRaised (e.run d).2 = .ok raised := by
  obtain ⟨b, hb⟩ := Option.isSome_iff_exists.1 h.flag
  obtain ⟨touched, -, htouch⟩ := e.run_touches d
  have hready := h.ready.touches htouch
  obtain ⟨a, ha, -⟩ := copyOut_eq_ok hready h.flag (h.allocated.trans h.length.symm)
  obtain ⟨c, -, hraised⟩ := flagRaised_eq_ok hready hb
  exact ⟨⟨a, ha⟩, _, hraised⟩

end Executor

/-! ## On a bench -/

namespace Bench

variable {b : Bench}

/-- The device has no capacity, and the executors are a fleet of receptive ones. -/
structure Open (b : Bench) : Prop where
  fleet : b.Fleet
  capacity : b.device.capacity = none
  receptive : ∀ n e, b.executors.get? n = some e → e.Receptive b.device

theorem open_of_device {device : Device} (h : device.capacity = none) : Open { device } := by
  refine ⟨fleet_of_device device, h, fun n e he => ?_⟩
  have hnone : (∅ : Table Nat Executor).get? n ≠ some e := by simp
  exact absurd he hnone

/-- While one executor evolves, the others stay receptive. -/
theorem Open.receptive_of_evolves (h : b.Open) {n k : Nat} {e e' f : Executor} {d' : Device}
    (he : b.executors.get? n = some e) (hevolves : e.Evolves b.device e' d') (hk : k ≠ n)
    (hf : b.executors.get? k = some f) : f.Receptive d' :=
  (h.receptive k f hf).undisturbed
    (h.fleet.undisturbed (h.fleet.othersApart he) hevolves hk hf)

theorem Open.perform (h : b.Open) (request : Request) : (request.perform b).Open := by
  have hfleet := (request.change h.fleet).fleet h.fleet
  cases request with
  | make n unit =>
    rw [Request.perform] at hfleet ⊢
    split
    · exact h
    next hnew =>
      rw [if_neg hnew] at hfleet
      refine ⟨hfleet, h.capacity, fun k f hf => ?_⟩
      rw [Table.get?_insert] at hf
      split at hf
      next =>
        obtain rfl := Option.some.inj hf
        exact Executor.receptive_ofUnit unit b.device
      next => exact h.receptive k f hf
  | copyIn n input =>
    cases he : b.executors.get? n with
    | none => simpa [Request.perform, he] using h
    | some e =>
      rcases hc : e.copyIn b.device input with ⟨r, e', d'⟩
      simp only [Request.perform, he, hc] at hfleet ⊢
      have hready := h.fleet.ready n e he
      obtain ⟨hcapacity, hreceptive⟩ := (h.receptive n e he).copyIn hready h.capacity hc
      obtain ⟨hevolves, -⟩ := Executor.copyIn_eq hready hc
      refine ⟨hfleet, hcapacity, fun k f hf => ?_⟩
      rw [Table.get?_insert] at hf
      split at hf
      next =>
        obtain rfl := Option.some.inj hf
        exact hreceptive
      next hk => exact h.receptive_of_evolves he hevolves hk hf
  | run n =>
    cases he : b.executors.get? n with
    | none => simpa [Request.perform, he] using h
    | some e =>
      simp only [Request.perform, he] at hfleet ⊢
      obtain ⟨touched, -, htouch⟩ := e.run_touches b.device
      exact ⟨hfleet, htouch.capacity.trans h.capacity, fun k f hf b' hb' =>
        Executor.denseAt_run (h.receptive k f hf b' hb') e⟩
  | copyOut n => exact h
  | readFlag n => exact h
  | drop n =>
    cases he : b.executors.get? n with
    | none => simpa [Request.perform, he] using h
    | some e =>
      simp only [Request.perform, he] at hfleet ⊢
      refine ⟨hfleet, (Device.capacity_releaseAll b.device e.buffers).trans h.capacity,
        fun k f hf => ?_⟩
      rw [Table.get?_erase] at hf
      split at hf
      next => cases hf
      next hk => exact h.receptive_of_evolves he (e.release_evolves b.device) hk hf
  | setForceDeopt force => exact ⟨hfleet, h.capacity, h.receptive⟩

theorem Open.after (h : b.Open) (requests : List Request) : (b.after requests).Open := by
  induction requests generalizing b with
  | nil => exact h
  | cons request requests ih => exact ih (h.perform request)

variable {n : Nat} {e : Executor} {rows : ColumnArray}

/-- On an open bench rows of the unit's input type can be copied in. -/
theorem Open.exists_loaded (h : b.Open) (he : b.executors.get? n = some e) (hrows : rows.WellFormed)
    (htype : e.unit.input = rows.type) :
    (Request.copyIn n rows).answer b = some (.done (.ok ())) ∧
      ∃ e', ((Request.copyIn n rows).perform b).executors.get? n = some e' ∧
        e'.unit = e.unit ∧ e'.scope = e.scope ∧
        e'.Loaded ((Request.copyIn n rows).perform b).device rows := by
  have hready := h.fleet.ready n e he
  obtain ⟨e', d', hc, hloaded⟩ :=
    (h.receptive n e he).exists_copyIn hready h.capacity hrows htype
  obtain ⟨hevolves, -⟩ := Executor.copyIn_eq hready hc
  have hperform : (Request.copyIn n rows).perform b =
      { device := d', executors := b.executors.insert n e' } := by
    simp only [Request.perform, he, hc]
  rw [hperform]
  exact ⟨by simp only [Request.answer, he, hc, Option.map_some], e', by simp, hevolves.unit,
    hevolves.scope, hloaded⟩

/-- After a launch, whatever has become of it, the results and the flag can be read; others may
make their requests first. -/
theorem Fleet.exists_results (h : b.Fleet) (he : b.executors.get? n = some e)
    (hloaded : e.Loaded b.device rows) {later : List Request}
    (hlater : ∀ request ∈ later, request.executor? ≠ some n) :
    (∃ a, (Request.copyOut n).answer (((Request.run n).perform b).after later) =
        some (.rows (.ok a))) ∧
      ∃ raised, (Request.readFlag n).answer (((Request.run n).perform b).after later) =
        some (.flag (.ok raised)) := by
  have hfleet := ((Request.run n).change h).fleet h
  have hrun : (Request.run n).perform b = { b with device := (e.run b.device).2 } := by
    simp only [Request.perform, he]
  rw [hrun] at hfleet ⊢
  obtain ⟨he', hquiet⟩ := hfleet.undisturbed_after hlater e he
  obtain ⟨⟨a, ha⟩, raised, hraised⟩ := hloaded.exists_results
  refine ⟨⟨a, ?_⟩, raised, ?_⟩
  · simp only [Request.answer, he', Option.map_some, hquiet.copyOut_eq, ha]
  · simp only [Request.answer, he', Option.map_some, hquiet.flagRaised_eq, hraised]

/-- What a compiled unit answers on a device without a capacity, whatever has happened before and
whatever others ask for in between. Rows of its input type can be copied in, and after the launch
the results and the flag can be read. The launch succeeds iff all results up to the first row that
is given up are of the kinds of the output type, and else fails for the layout of a buffer. It
succeeds in particular if no row reads a captured list where it is mixed. -/
theorem compiled_unit_answers {c c' : Compiler} {g : Graph} {input output : RowType} {scope : Scope}
    {handle : KernelHandle} (hcompile : c.compile g.shape input output scope = .ok (handle, c'))
    {device : Device} (hcapacity : device.capacity = none) (earlier meanwhile later : List Request)
    {n : Nat} {e : Executor} (he : (after { device } earlier).executors.get? n = some e)
    (hunit : e.unit =
      { kernel := handle, input, output, scope, bindings := g.shape.scopeBindings })
    {rows : ColumnArray} (hrows : rows.WellFormed) (htype : rows.type = input)
    (hmeanwhile : ∀ request ∈ meanwhile, request.executor? ≠ some n)
    (hlater : ∀ request ∈ later, request.executor? ≠ some n) :
    ∃ k, handle.kernel? = some k ∧
      (Request.copyIn n rows).answer (after { device } earlier) = some (.done (.ok ())) ∧
      (∃ r, (Request.run n).answer
          (after { device } (earlier ++ .copyIn n rows :: meanwhile)) = some (.done r) ∧
        (r = .ok () ↔
          ∀ i out, k.Delivers scope rows i out → out.map Scalar.kind = output.kinds) ∧
        (∀ err, r = .error err →
          ∃ id expected found, err = .device (.bufferLayout id expected found)) ∧
        ((∀ i row, i < rows.length → rows.row? i = some row → ¬ k.ReadsMixed row scope) →
          r = .ok ())) ∧
      (∃ a, (Request.copyOut n).answer
          (after { device } (earlier ++ .copyIn n rows :: meanwhile ++ .run n :: later)) =
            some (.rows (.ok a))) ∧
      ∃ raised, (Request.readFlag n).answer
          (after { device } (earlier ++ .copyIn n rows :: meanwhile ++ .run n :: later)) =
            some (.flag (.ok raised)) := by
  obtain ⟨k, hcheck, hhandle⟩ := bind_eq_ok.1 hcompile
  obtain ⟨rfl, -⟩ := Prod.mk.inj (pure_eq_ok.1 hhandle)
  simp only [after_append, after_cons]
  have hopen := (open_of_device hcapacity).after earlier
  generalize after { device } earlier = b at he hopen ⊢
  obtain ⟨hcopied, e₁, he₁, hunit₁, hscope₁, hloaded₁⟩ :=
    hopen.exists_loaded he hrows (by rw [hunit, htype])
  have hopen₁ := hopen.perform (.copyIn n rows)
  generalize (Request.copyIn n rows).perform b = b₁ at he₁ hloaded₁ hopen₁ ⊢
  -- until the launch the others do not disturb the executor
  obtain ⟨he₂, hquiet⟩ := hopen₁.fleet.undisturbed_after hmeanwhile e₁ he₁
  have hloaded := hloaded₁.undisturbed hquiet
  have hopen₂ := hopen₁.after meanwhile
  generalize b₁.after meanwhile = b₂ at he₂ hloaded hopen₂ ⊢
  have hcompiled : e₁.unit.Compiled k := by
    rw [hunit₁, hunit]
    obtain ⟨hgraph, -⟩ := Kernel.of_check hcheck
    exact ⟨rfl, by rwa [hgraph], by rw [hgraph]⟩
  have hscope : e₁.scope = e₁.unit.boundScope := by
    rw [hscope₁, hunit₁, hopen.fleet.scope n e he]
  have htype₁ : rows.type = e₁.unit.input := by rw [hunit₁, hunit, htype]
  have hruns := hloaded.exists_run_iff_of_compiled hrows hcompiled hscope
  have hmixed := hloaded.exists_run_of_not_readsMixed hrows hcompiled hscope htype₁
  rw [hunit₁, hunit] at hruns hmixed
  have hok : (fun _ => ()) <$> (e₁.run b₂.device).1 = .ok () ↔
      ∃ flag, (e₁.run b₂.device).1 = .ok flag := by
    simp [map_eq_ok]
  refine ⟨k, rfl, hcopied, ⟨_, ?_, hok.trans hruns, fun err herr => ?_, fun h => hok.2 (hmixed h)⟩,
    hopen₂.fleet.exists_results he₂ hloaded hlater⟩
  · simp only [Request.answer, he₂, Option.map_some]
  · exact hloaded.bufferLayout_of_run hrows hcompiled.1 (map_eq_error.1 herr)

/-- The item of a captured list at an index. -/
def itemAt : Graph where
  nodes := [.param 0, .element 0 0]
  outputs := [1]
  anchors := []

/-- A captured list of a word and a truth value. -/
def mixedList : Scope := [.list [.int 5, .bool true]]

/-- The kernel of `itemAt` for indices of items that are words. -/
def itemAtKernel : Kernel where
  graph := itemAt
  input := .scalar .int
  output := .scalar .int
  kinds := #[some .int, some .int]

/-- The unit of `itemAt` for the mixed list. -/
def itemOfMixedList : CompiledUnit where
  kernel := { id := ⟨1⟩, code := .host itemAtKernel }
  input := .scalar .int
  output := .scalar .int
  scope := mixedList
  bindings := itemAt.shape.scopeBindings

/-- Only the items that are words are read; the last row reads past the list and is given up. -/
theorem compiled_unit_answers_itemAt :
    Compiler.compile {} itemAt.shape (.scalar .int) (.scalar .int) mixedList =
        .ok (itemOfMixedList.kernel, { compiled := 1 }) ∧
      (Request.copyIn 0 (words [0, 0, 2])).answer
        (after { device := {} } [.make 0 itemOfMixedList, .make 1 doubling]) =
          some (.done (.ok ())) ∧
      (Request.run 0).answer (after { device := {} } ([.make 0 itemOfMixedList, .make 1 doubling] ++
        .copyIn 0 (words [0, 0, 2]) :: [.copyIn 1 (words [7]), .run 1])) =
          some (.done (.ok ())) := by
  have hcompile : Compiler.compile {} itemAt.shape (.scalar .int) (.scalar .int) mixedList =
      .ok (itemOfMixedList.kernel, { compiled := 1 }) := rfl
  obtain ⟨e, he, hunit⟩ : ∃ e, (after { device := {} }
      [.make 0 itemOfMixedList, .make 1 doubling]).executors.get? 0 = some e ∧
        e.unit = itemOfMixedList := ⟨_, rfl, rfl⟩
  have hrows : (words [0, 0, 2]).WellFormed := ⟨rfl, by simp [words, Column.length]⟩
  obtain ⟨k, hk, hcopied, ⟨r, hr, -, -, hmixed⟩, -⟩ := compiled_unit_answers hcompile rfl
    [.make 0 itemOfMixedList, .make 1 doubling] [.copyIn 1 (words [7]), .run 1] [] he hunit hrows
    rfl (by simp [Request.executor?]) (by simp)
  obtain rfl : itemAtKernel = k := Option.some.inj hk
  -- reading the first item is not reading where the list is mixed
  have hfirst : ¬ itemAtKernel.ReadsMixed [.int 0] mixedList := by
    rintro ⟨values, id, index, slot, w, hvalues, hnode, hindex, items, first, item, hlist, hfirst,
      hitem, hne⟩
    obtain rfl := Except.ok.inj hvalues
    obtain ⟨rfl, rfl⟩ : 0 = slot ∧ 0 = index := by
      rcases id with _ | _ | id
      · cases hnode
      · simpa [itemAtKernel, itemAt] using hnode
      · cases hnode
    obtain rfl : 0 = w := Scalar.int.inj (Except.ok.inj hindex)
    obtain rfl : [.int 5, .bool true] = items := Value.list.inj (Option.some.inj hlist)
    exact hne (congrArg Scalar.kind (Option.some.inj (hitem.symm.trans hfirst)))
  have hpast : ¬ itemAtKernel.ReadsMixed [.int 2] mixedList := by
    rintro ⟨values, id, index, slot, w, hvalues, -⟩
    cases hvalues
  refine ⟨hcompile, hcopied, ?_⟩
  rw [hr, hmixed fun i row hi hrow => ?_]
  have hi : i < 3 := hi
  obtain rfl | rfl | rfl : i = 0 ∨ i = 1 ∨ i = 2 := by omega
  · exact Option.some.inj hrow ▸ hfirst
  · exact Option.some.inj hrow ▸ hfirst
  · exact Option.some.inj hrow ▸ hpast

/-- The unit of `itemAt` has been compiled, but its launch fails at the item that is no word. -/
theorem mixed_list_stops_run :
    Compiler.compile {} itemAt.shape (.scalar .int) (.scalar .int) mixedList =
        .ok (itemOfMixedList.kernel, { compiled := 1 }) ∧
      (words [0, 1]).WellFormed ∧
      ∃ expected found, (Request.run 0).answer
          (after { device := {} } [.make 0 itemOfMixedList, .copyIn 0 (words [0, 1])]) =
        some (.done (.error (.device (.bufferLayout 2 expected found)))) :=
  ⟨rfl, ⟨rfl, by simp [words, Column.length]⟩, _, _, rfl⟩

end Bench

end TieredVectors
