import TieredVectors.Proofs.Device.Alike
import TieredVectors.Proofs.Executor.Fleet

/-!
# Attempts with sequences

An executor copies a sequence to the device as it is, and the kernel then reads the words that it
stands for. So an attempt with sequences goes as one with their words written out.

* `Executor.prepare_agree`, `Executor.copyIn_agree`, `Executor.run_agree` — the steps of an attempt
  on devices that agree on the outputs of the executor;
* `Executor.attempt_agree` — the attempt gives the same results and the same flag, and leaves the
  executor and the outputs the same;
* `Executor.FleetAlike.attempt` — so it does where executors share a device, and they can go on.
-/

namespace TieredVectors

variable {d d' d₁ : Device} {ids : List BufferId}

namespace Device

/-- Devices that are alike agree on buffers that hold no sequences. -/
theorem Alike.agree (h : d.Alike d')
    (hdense : ∀ id ∈ ids, ∀ c, d.buffers.get? id = some c → c.Dense)
    (hdense' : ∀ id ∈ ids, ∀ c, d'.buffers.get? id = some c → c.Dense) : Agree ids d d' := by
  refine ⟨h, fun id hid => ?_⟩
  have hget : (d.buffers.get? id).map Column.dense = (d'.buffers.get? id).map Column.dense := by
    rw [← Table.get?_mapValues, ← Table.get?_mapValues]
    exact congrArg (fun d : Device => d.buffers.get? id) h
  have hself {x : Option Column} (hx : ∀ c, x = some c → c.Dense) : x.map Column.dense = x := by
    cases x with
    | none => rfl
    | some c => exact congrArg some (Column.dense_eq_self (hx c rfl))
  rw [hself (hdense id hid), hself (hdense' id hid)] at hget
  exact hget.symm

/-- What is not touched is still shared. -/
theorem Agree.of_touches {ids₁ ids₁' : List BufferId} {d₁' : Device} (h : Agree ids d d')
    (halike : d₁.Alike d₁') (ht : Touches ids₁ d d₁) (ht' : Touches ids₁' d' d₁')
    (hapart : ∀ id ∈ ids, id ∉ ids₁ ∧ id ∉ ids₁') : Agree ids d₁ d₁' := by
  refine ⟨halike, fun id hid => ?_⟩
  rw [ht.frame id (hapart id hid).1, ht'.frame id (hapart id hid).2]
  exact h.shared id hid

/-- Writing one column to both devices makes them agree on its buffer. -/
theorem Agree.write (h : Agree ids d d') (b : Buffer) (c : Column) :
    Matches (Agree (b.id :: ids)) (d.write b c) (d'.write b c) := by
  rcases h.alike.write b (c := c) rfl with ⟨e, he, he'⟩ | ⟨d₁, d₁', hd₁, hd₁', halike⟩
  · rw [he, he']
    exact matches_error _ e
  · rw [hd₁, hd₁']
    obtain ⟨ht, hc⟩ := write_eq_ok hd₁
    obtain ⟨ht', hc'⟩ := write_eq_ok hd₁'
    refine matches_ok ⟨halike, fun id hid => ?_⟩
    by_cases hb : id = b.id
    · rw [hb, hc, hc']
    · have hother : id ∉ [b.id] := by simpa using hb
      rw [ht.frame id hother, ht'.frame id hother]
      exact h.shared id ((List.mem_cons.1 hid).resolve_left hb)

/-- New buffers hold zeros. -/
theorem allocateAll_blank {n : Nat} {kinds : List Kind} {r : Except DeviceError Unit}
    {bs : List Buffer} (h : d.allocateAll n kinds = (r, bs, d₁)) :
    ∀ b ∈ bs, ∃ k, d₁.buffers.get? b.id = some (Column.blank k n) := by
  induction kinds generalizing d r bs with
  | nil =>
    obtain ⟨-, rfl, -⟩ := by simpa [allocateAll] using h
    exact fun b hb => absurd hb List.not_mem_nil
  | cons k kinds ih =>
    rw [allocateAll] at h
    split at h
    next =>
      obtain ⟨-, rfl, -⟩ := by simpa using h
      exact fun b hb => absurd hb List.not_mem_nil
    next b₀ d₀ hb₀ =>
      rcases hrest : d₀.allocateAll n kinds with ⟨r', bs', d₂⟩
      rw [hrest] at h
      obtain ⟨rfl, rfl, rfl⟩ := by simpa using h
      intro b hb
      rcases List.mem_cons.1 hb with rfl | hb
      · -- the buffers made after it leave it as it is
        have hgrows := (allocateAll_eq hrest).1
        have hfresh := (allocate_eq_ok hb₀).1.fresh b List.mem_cons_self
        rw [hgrows.frame b.id hfresh.2]
        refine ⟨k, ?_⟩
        simp only [allocate] at hb₀
        split at hb₀
        next =>
          obtain ⟨rfl, rfl⟩ := by simpa using hb₀
          simp
        next => cases hb₀
      · exact ih hrest b hb

end Device

namespace Executor

variable {e e₁ : Executor} {a a' : ColumnArray}

/-! ## Preparing -/

theorem release_dense (e : Executor) (d : Device) :
    e.release d.dense = ((e.release d).1, (e.release d).2.dense) := by
  rw [release, release, Device.releaseAll_dense]

theorem prepare_dense (e : Executor) (d : Device) (n : Nat) :
    e.prepare d.dense n =
      ((e.prepare d n).1, (e.prepare d n).2.1, (e.prepare d n).2.2.dense) := by
  rw [prepare, prepare, release_dense]
  split
  · rfl
  · dsimp only
    rw [Device.allocateAll_dense]
    rcases (e.release d).2.allocateAll n (e.release d).1.unit.input.kinds with ⟨_ | _, inputs, d₁⟩
    · rfl
    · dsimp only
      rw [Device.allocateAll_dense]
      rcases d₁.allocateAll n (e.release d).1.unit.output.kinds with ⟨_ | _, outputs, d₂⟩
      · rfl
      · dsimp only
        rw [Device.allocate_dense]
        rcases d₂.allocate .int 1 with _ | ⟨b, d₃⟩ <;> rfl

/-- Unless the executor keeps its buffers, its outputs hold zeros. -/
theorem outputs_blank_of_prepare {n : Nat} (hnew : ¬ (e.deopt.isSome && e.allocatedLength == n))
    {r : Except DeviceError Unit} (hp : e.prepare d n = (r, e₁, d₁)) :
    ∀ id ∈ e₁.outputs.map (·.id), ∃ k, d₁.buffers.get? id = some (Column.blank k n) := by
  intro id hid
  obtain ⟨b, hb, rfl⟩ := List.mem_map.1 hid
  rw [prepare, if_neg hnew] at hp
  dsimp only at hp
  split at hp
  next =>
    obtain ⟨-, rfl, -⟩ := by simpa using hp
    cases hb
  next =>
    split at hp
    next houtputs =>
      obtain ⟨-, rfl, rfl⟩ := by simpa using hp
      exact Device.allocateAll_blank houtputs b hb
    next houtputs =>
      split at hp
      next =>
        obtain ⟨-, rfl, rfl⟩ := by simpa using hp
        exact Device.allocateAll_blank houtputs b hb
      next hflag =>
        obtain ⟨-, rfl, rfl⟩ := by simpa using hp
        -- the flag is made last, and the outputs stay as they are
        rw [(Device.allocate_eq_ok hflag).1.frame b.id]
        · exact Device.allocateAll_blank houtputs b hb
        · exact ((Device.allocateAll_eq houtputs).1.fresh b hb).2

theorem prepare_agree (h : Device.Agree (e.outputs.map (·.id)) d d') {n : Nat}
    {r : Except DeviceError Unit} (hp : e.prepare d n = (r, e₁, d₁)) :
    ∃ d₁', e.prepare d' n = (r, e₁, d₁') ∧ Device.Agree (e₁.outputs.map (·.id)) d₁ d₁' := by
  rcases hp' : e.prepare d' n with ⟨r', e₁', d₁'⟩
  have hdense := e.prepare_dense d n
  rw [show d.dense = d'.dense from h.alike, prepare_dense, hp, hp'] at hdense
  obtain ⟨rfl, rfl, halike⟩ := by simpa using hdense
  refine ⟨d₁', rfl, ?_⟩
  by_cases hkept : e.deopt.isSome && e.allocatedLength == n
  · rw [prepare, if_pos hkept] at hp hp'
    obtain ⟨-, rfl, rfl⟩ := by simpa using hp
    obtain ⟨-, -, rfl⟩ := by simpa using hp'
    exact h
  · have hblank {d : Device} {id : BufferId}
        (hid : ∃ k, d.buffers.get? id = some (Column.blank k n)) (c : Column)
        (hc : d.buffers.get? id = some c) : c.Dense := by
      obtain ⟨k, hk⟩ := hid
      obtain rfl := Option.some.inj (hk.symm.trans hc)
      rw [← Column.dense_blank]
      exact Column.dense_dense _
    apply Device.Alike.agree halike.symm
    · exact fun id hid => hblank (outputs_blank_of_prepare hkept hp id hid)
    · exact fun id hid => hblank (outputs_blank_of_prepare hkept hp' id hid)

/-! ## Copying in and launching -/

/-- Rows with sequences are copied in as rows with their words are. If that succeeds the devices
agree on the flag as well. -/
theorem copyIn_agree (hready : e.Ready d) (h : Device.Agree (e.outputs.map (·.id)) d d')
    (ha : a.dense = a'.dense) {r : Except TierError Unit} (hc : e.copyIn d a = (r, e₁, d₁)) :
    ∃ d₁', e.copyIn d' a' = (r, e₁, d₁') ∧ Device.Agree (e₁.outputs.map (·.id)) d₁ d₁' ∧
      (r = .ok () → ∀ b, e₁.deopt = some b →
        Device.Agree (b.id :: e₁.outputs.map (·.id)) d₁ d₁') := by
  obtain ⟨htype, hcolumns, hlength⟩ := ColumnArray.dense_eq_dense_iff.1 ha
  rw [copyIn] at hc ⊢
  rw [← htype, ← hlength]
  by_cases hfit : e.unit.input ≠ a.type
  · rw [if_pos hfit] at hc ⊢
    obtain ⟨rfl, rfl, rfl⟩ := by simpa using hc
    exact ⟨d', rfl, h, fun hok => by cases hok⟩
  · rw [if_neg hfit] at hc ⊢
    rcases hp : e.prepare d a.length with ⟨r₂, e₂, d₂⟩
    obtain ⟨hevolves, hready₂, hmade⟩ := prepare_eq hready hp
    obtain ⟨d₂', hp', h₂⟩ := prepare_agree h hp
    rw [hp] at hc
    rw [hp']
    cases r₂ with
    | error err =>
      obtain ⟨rfl, rfl, rfl⟩ := by simpa using hc
      exact ⟨d₂', rfl, h₂, fun hok => by cases hok⟩
    | ok u =>
      dsimp only at hc ⊢
      obtain ⟨b, hb⟩ := Option.isSome_iff_exists.1 (hmade rfl).1
      obtain ⟨-, -, hapart⟩ := hready₂.nodup_parts hb
      -- the inputs are written, in one form or the other, and the outputs are other buffers
      obtain ⟨hsame, halike⟩ := h₂.alike.writeAll e₂.inputs hcolumns
      have h₃ : Device.Agree (e₂.outputs.map (·.id)) (d₂.writeAll (e₂.inputs.zip a.columns)).2
          (d₂'.writeAll (e₂.inputs.zip a'.columns)).2 := by
        refine h₂.of_touches halike (Device.writeAll_touches _ _) (Device.writeAll_touches _ _) ?_
        intro id hid
        have hnot (columns : List Column) : id ∉ (e₂.inputs.zip columns).map (·.1.id) := fun hmem =>
          hapart id ((zip_ids_sublist _ _).subset hmem) (List.mem_append_left _ hid)
        exact ⟨hnot a.columns, hnot a'.columns⟩
      rcases hw : d₂.writeAll (e₂.inputs.zip a.columns) with ⟨r₃, d₃⟩
      rcases hw' : d₂'.writeAll (e₂.inputs.zip a'.columns) with ⟨r₃', d₃'⟩
      rw [hw, hw'] at hsame h₃
      obtain rfl : r₃ = r₃' := hsame
      rw [hw] at hc
      cases r₃ with
      | error err =>
        obtain ⟨rfl, rfl, rfl⟩ := by simpa using hc
        exact ⟨d₃', rfl, h₃, fun hok => by cases hok⟩
      | ok u =>
        rw [flagBuffer_of_deopt hb] at hc ⊢
        dsimp only at hc ⊢
        rcases h₃.write b (.int [0]) with ⟨err, he, he'⟩ | ⟨d₄, d₄', hd₄, hd₄', h₄⟩
        · rw [he] at hc
          obtain ⟨rfl, rfl, rfl⟩ := by simpa using hc
          exact ⟨d₃', by rw [he'], h₃, fun hok => by cases hok⟩
        · rw [hd₄] at hc
          obtain ⟨rfl, rfl, rfl⟩ := by simpa using hc
          refine ⟨d₄', by rw [hd₄'], h₄.mono (List.subset_cons_self _ _), fun _ b' hb' => ?_⟩
          obtain rfl : b = b' := Option.some.inj (hb.symm.trans hb')
          exact h₄

theorem run_agree {b : Buffer} (hb : e.deopt = some b)
    (h : Device.Agree (b.id :: e.outputs.map (·.id)) d d') :
    (e.run d).1 = (e.run d').1 ∧
      Device.Agree (b.id :: e.outputs.map (·.id)) (e.run d).2 (e.run d').2 := by
  have hlaunch := h.launch (l := ⟨e.unit.kernel, e.inputs, e.outputs, b, e.scope, e.length⟩)
    (List.subset_cons_self _ _) List.mem_cons_self
  rw [run, run, flagBuffer_of_deopt hb]
  dsimp only
  rcases hl : d.launch ⟨e.unit.kernel, e.inputs, e.outputs, b, e.scope, e.length⟩ with ⟨r, d₁⟩
  rcases hl' : d'.launch ⟨e.unit.kernel, e.inputs, e.outputs, b, e.scope, e.length⟩ with ⟨r', d₁'⟩
  rw [hl, hl'] at hlaunch
  obtain ⟨hsame, hagree⟩ := hlaunch
  obtain rfl : r = r' := hsame
  cases r <;> exact ⟨rfl, hagree⟩

/-! ## Attempts -/

/-- An attempt with sequences goes as one with their words. -/
theorem attempt_agree (hready : e.Ready d) (h : Device.Agree (e.outputs.map (·.id)) d d')
    (ha : a.dense = a'.dense) :
    ∃ device, e.attempt d' a' = { e.attempt d a with device } ∧
      Device.Agree ((e.attempt d a).executor.outputs.map (·.id)) (e.attempt d a).device device := by
  rcases hc : e.copyIn d a with ⟨r, e₁, d₁⟩
  obtain ⟨-, -, -, hcopied⟩ := copyIn_eq hready hc
  obtain ⟨d₁', hc', h₁, hflag⟩ := copyIn_agree hready h ha hc
  rw [attempt, attempt, hc, hc']
  cases r with
  | error err => exact ⟨d₁', rfl, h₁⟩
  | ok u =>
    obtain ⟨b, hb⟩ := Option.isSome_iff_exists.1 (hcopied rfl).1
    obtain ⟨hsame, h₂⟩ := run_agree hb (hflag rfl b hb)
    rcases hr : e₁.run d₁ with ⟨r₂, d₂⟩
    rcases hr' : e₁.run d₁' with ⟨r₂', d₂'⟩
    rw [hr, hr'] at hsame h₂
    obtain rfl : r₂ = r₂' := hsame
    simp only [hr, hr']
    have h₂' := h₂.mono (List.subset_cons_self _ _)
    cases r₂ with
    | error err => exact ⟨d₂', rfl, h₂'⟩
    | ok flag =>
      -- what is collected lies in the outputs and the flag
      have hout : e₁.copyOut d₂' = e₁.copyOut d₂ := copyOut_congr h₂'.shared
      have hraised : e₁.flagRaised d₂' = e₁.flagRaised d₂ := flagRaised_congr fun b' hb' => by
        obtain rfl : b = b' := Option.some.inj (hb.symm.trans hb')
        exact h₂.shared b.id List.mem_cons_self
      have hcollect : e₁.collect d₂' = e₁.collect d₂ := by rw [collect, collect, hout, hraised]
      exact ⟨d₂', by simp only [hcollect], h₂'⟩

/-! ## Executors that share a device -/

/-- Whether an executor is ready is a matter of kinds and lengths. -/
theorem Ready.alike (hready : e.Ready d) (h : d.Alike d') : e.Ready d' := by
  have hlayout (id : BufferId) : d'.layout? id = d.layout? id := by
    rw [← d.layout?_dense, ← d'.layout?_dense, show d.dense = d'.dense from h]
  have hlast : d'.lastId = d.lastId := by
    have : d.dense.lastId = d'.dense.lastId := congrArg Device.lastId h
    exact this.symm
  refine ⟨hready.nodup, fun id hid => ?_, ?_, ?_, fun b hb => ?_⟩
  · rw [hlast]
    exact hready.bounded id hid
  · exact fun hflag => (hready.inputs hflag).of_layout fun b _ => hlayout b.id
  · exact fun hflag => (hready.outputs hflag).of_layout fun b _ => hlayout b.id
  · rw [hlayout]
    exact hready.flag b hb

variable {κ : Type} [DecidableEq κ] {executors : Table κ Executor}

/-- The executors form a fleet on devices that are alike and agree on all outputs. -/
structure FleetAlike (executors : Table κ Executor) (d d' : Device) : Prop where
  fleet : Fleet executors d
  alike : d.Alike d'
  outputs : ∀ k e, executors.get? k = some e → Device.Agree (e.outputs.map (·.id)) d d'

/-- The next attempt, with an executor of the fleet or a new one, goes the same way on both devices,
and leaves them ready for another. -/
theorem FleetAlike.attempt (h : FleetAlike executors d d') (key : κ) (unit : CompiledUnit)
    (ha : a.dense = a'.dense) (he : (executors.get? key).getD (.ofUnit unit) = e) :
    ∃ device, e.attempt d' a' = { e.attempt d a with device } ∧
      FleetAlike (executors.insert key (e.attempt d a).executor) (e.attempt d a).device device := by
  have hexecutor : e.Ready d ∧ e.scope = e.unit.boundScope ∧ OthersApart executors key e ∧
      Device.Agree (e.outputs.map (·.id)) d d' := by
    cases hget : executors.get? key with
    | none =>
      rw [hget] at he
      obtain rfl : ofUnit unit = e := he
      exact ⟨ready_ofUnit unit d, rfl, othersApart_ofUnit executors key unit, h.alike, by
        simp [ofUnit]⟩
    | some e₀ =>
      rw [hget] at he
      obtain rfl : e₀ = e := he
      exact ⟨h.fleet.ready key e₀ hget, h.fleet.scope key e₀ hget, h.fleet.othersApart hget,
        h.outputs key e₀ hget⟩
  obtain ⟨hready, hscope, hothers, hagree⟩ := hexecutor
  obtain ⟨device, hattempt, hagree'⟩ := attempt_agree hready hagree ha
  obtain ⟨hevolves, hready'⟩ := attempt_evolves hready a
  obtain ⟨hevolves', -⟩ := attempt_evolves (hready.alike h.alike) a'
  rw [hattempt] at hevolves'
  have hfleet' : Fleet executors d' :=
    ⟨h.fleet.scope, fun k f hf => (h.fleet.ready k f hf).alike h.alike, h.fleet.apart⟩
  refine ⟨device, hattempt, h.fleet.evolve hothers hscope hevolves hready', hagree'.alike, ?_⟩
  intro k f hf
  rw [Table.get?_insert] at hf
  split at hf
  next =>
    obtain rfl := Option.some.inj hf
    exact hagree'
  next hk =>
    -- the other executors find their outputs on both devices as they were
    refine ⟨hagree'.alike, fun id hid => ?_⟩
    have hid' := f.outputs_subset hid
    rw [(h.fleet.undisturbed hothers hevolves hk hf).frame id hid',
      (hfleet'.undisturbed hothers hevolves' hk hf).frame id hid']
    exact (h.outputs k f hf).shared id hid

end Executor

end TieredVectors
