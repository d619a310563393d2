import TieredVectors.Proofs.Device.Granting
import TieredVectors.Proofs.Executor.Ownership

/-!
# Copies for which there is no memory

An executor makes a buffer for each field of its input and of its output, and then one for the
flag. Any of these may be the first that does not fit, and the executor keeps those made before it.

* `Executor.prepare_of_outOfMemory` — a copy runs out of memory while it makes its buffers, and
  nowhere else;
* `Executor.shortage_keeps_earlier_buffers` — who holds the memory after a copy that failed.
-/

namespace TieredVectors

namespace Device

variable {d : Device} {b : Buffer}

/-- A request to write never runs out of memory. -/
theorem write_ne_outOfMemory {c : Column} {requested available : Nat} :
    d.write b c ≠ .error (.outOfMemory requested available) := by
  intro h
  simp only [write, read] at h
  cases hb : d.buffers.get? b.id with
  | none => simp [hb, bind, Except.bind] at h
  | some held =>
    simp only [hb, bind, Except.bind] at h
    split at h <;> cases h

theorem writeAll_ne_outOfMemory {pairs : List (Buffer × Column)} {requested available : Nat} :
    (d.writeAll pairs).1 ≠ .error (.outOfMemory requested available) := by
  induction pairs generalizing d with
  | nil => simp [writeAll]
  | cons p pairs ih =>
    rw [writeAll]
    split
    next err hwrite =>
      intro heq
      obtain rfl : err = .outOfMemory requested available := Except.error.inj heq
      exact write_ne_outOfMemory hwrite
    next d₁ _ => exact ih

end Device

namespace Executor

variable {e e' : Executor} {d d' : Device} {n : Nat}

/-- A copy runs out of memory while it makes its buffers. -/
theorem prepare_of_outOfMemory {input : ColumnArray} {requested available : Nat}
    (h : (e.copyIn d input).1 = .error (.device (.outOfMemory requested available))) :
    e.prepare d input.length = (.error (.outOfMemory requested available),
      (e.copyIn d input).2.1, (e.copyIn d input).2.2) := by
  rw [copyIn] at h ⊢
  split at h
  next => cases h
  next htype =>
    rw [if_neg htype]
    split at h
    next err e₁ d₁ hp =>
      obtain rfl : err = _ := TierError.device.inj (Except.error.inj h)
      rw [hp]
    next e₁ d₁ hp =>
      split at h
      next err d₂ hw =>
        obtain rfl : err = _ := TierError.device.inj (Except.error.inj h)
        exact absurd (congrArg Prod.fst hw) Device.writeAll_ne_outOfMemory
      next d₂ hw =>
        split at h
        next err hflag =>
          rw [flagBuffer] at hflag
          split at hflag
          · cases hflag
          · obtain rfl := Except.error.inj hflag
            cases h
        next flag hflag =>
          split at h
          next err hwrite =>
            obtain rfl : err = _ := TierError.device.inj (Except.error.inj h)
            exact absurd hwrite Device.write_ne_outOfMemory
          next => cases h

/-- What an executor is left with when there is no memory for its buffers. Take any device, of any
capacity and after any requests, any executor and any rows to copy in, and let the copy run out of
memory. The others' part of the device is what is left of it once the executor has given its old
buffers back.

* The executor holds the buffers that it needs for the rows up to the first that does not fit, and
  no flag: these are live, next to those of the others, which hold what they held.
* The bytes in use are those of the others and of these buffers. The error names the bytes of the
  buffer that does not fit and what is left of the capacity.
* The executor holds nothing iff the very first buffer does not fit.
* Nothing is lost. When the executor goes, the live buffers and the bytes in use are those of the
  others again; and when it copies in other rows, the live buffers are those of the others and those
  that it then holds. -/
theorem shortage_keeps_earlier_buffers (capacity : Option Nat) (requests : List Device.Request)
    (e : Executor) (input : ColumnArray) (requested available : Nat) :
    let d := Device.after { capacity } requests
    let others := (e.release d).2
    let e' := (e.copyIn d input).2.1
    let d' := (e.copyIn d input).2.2
    (e.copyIn d input).1 = .error (.device (.outOfMemory requested available)) →
    (∃ kind n rest, e.demands input.length = e'.buffers.map Buffer.layout ++ (kind, n) :: rest ∧
      requested = kind.byteSize * n) ∧
    e'.deopt = none ∧
    (d'.buffers.keys = d.buffers.keys.filter (· ∉ e.ids) ++ e'.ids ∧
      ∀ id ∈ others.buffers.keys, d'.buffers.get? id = d.buffers.get? id) ∧
    d'.used = others.used + Device.bytesOf (e'.buffers.map Buffer.layout) ∧
    (∃ limit ∈ capacity, d'.used ≤ limit ∧ limit < d'.used + requested ∧
      available = limit - d'.used) ∧
    (e'.ids = [] ↔
      ∃ first ∈ (e.demands input.length).head?, ¬ others.Fits (Device.bytesOf [first])) ∧
    ((e'.release d').2.buffers.keys = others.buffers.keys ∧
      (e'.release d').2.used = others.used) ∧
    ∀ next id, id ∈ (e'.copyIn d' next).2.2.buffers.keys ↔
      id ∈ others.buffers.keys ∨ id ∈ (e'.copyIn d' next).2.1.ids := by
  intro d others e' d' hfailed
  have hbalanced : d.Balanced := (Device.Balanced.ofCapacity capacity).after requests
  have hothers : others.Balanced := hbalanced.releaseAll e.buffers
  have hcapacity : others.capacity = capacity :=
    (Device.capacity_releaseAll d e.buffers).trans (Device.capacity_after { capacity } requests)
  obtain ⟨hok, -, -⟩ | ⟨hmakes, hok | ⟨err, kind, n, rest, hr, hflag, hdemands, hfull⟩⟩ :=
    prepare_cases (prepare_of_outOfMemory hfailed)
  · cases hok
  · cases hok.1
  obtain rfl := Except.error.inj hr
  obtain ⟨hbalanced', hkeys⟩ := hmakes.keys hothers
  obtain ⟨limit, hlimit, hlt, herr⟩ := Device.allocate_eq_error hfull
  obtain ⟨rfl, rfl⟩ := DeviceError.outOfMemory.inj herr
  have hroom : ¬ d'.Fits (Device.bytesOf [(kind, n)]) := fun hfits =>
    absurd (hfits limit hlimit) (Nat.not_le.2 hlt)
  have hlive : others.buffers.keys = d.buffers.keys.filter (· ∉ e.ids) :=
    Device.keys_releaseAll d e.buffers
  have hback := hmakes.releaseAll hothers
  refine ⟨⟨kind, n, rest, hdemands, rfl⟩, hflag, ⟨hlive ▸ hkeys, fun id hid => ?_⟩, hmakes.used,
    ⟨limit, ?_, hbalanced'.within limit hlimit, hlt, rfl⟩, ?_, hback, fun next id => ?_⟩
  · -- the others' buffers are not among those given back, and have numbers that had been given
    have hother : id ∉ e.buffers.map (·.id) := (Device.mem_keys_releaseAll.1 hid).2
    exact (hmakes.grows.frame id (hothers.numbered id hid)).trans
      ((Device.releaseAll_frame d e.buffers).1 id hother)
  · rwa [hmakes.capacity, hcapacity] at hlimit
  · rw [hdemands, ← hmakes.eq_nil_iff hroom rest, ids, List.map_eq_nil_iff]
  · have hown : ∀ id ∈ e'.ids, id ∈ d'.buffers.keys := by
      intro id hid
      rw [hkeys]
      exact List.mem_append_right _ hid
    rw [(copyIn_exchanges hbalanced' hown next).live, ← hback.1]
    exact or_congr_left Device.mem_keys_releaseAll.symm

/-- Somebody's buffer, and three for words. -/
def foreignThenWords : List Device.Request :=
  [.allocate .double 2, .allocate .int 1, .allocate .int 1, .allocate .int 1]

/-- An executor that holds the three buffers for words, for one row. -/
def doublingOneRow : Executor :=
  { ofUnit Bench.doubling with
    inputs := [⟨⟨2⟩, .int, 1⟩]
    outputs := [⟨⟨3⟩, .int, 1⟩]
    deopt := some ⟨⟨4⟩, .int, 1⟩
    allocatedLength := 1 }

theorem shortage_keeps_earlier_buffers_doubling :
    let d := Device.after { capacity := some 40 } foreignThenWords
    let e' := (doublingOneRow.copyIn d (Bench.words [1, 2, 3, 4])).2.1
    let d' := (doublingOneRow.copyIn d (Bench.words [1, 2, 3, 4])).2.2
    (doublingOneRow.copyIn d (Bench.words [1, 2, 3, 4])).1 =
        .error (.device (.outOfMemory 16 8)) ∧
      d.buffers.keys = [⟨1⟩, ⟨2⟩, ⟨3⟩, ⟨4⟩] ∧ d'.buffers.keys = [⟨1⟩] ++ e'.ids ∧ e'.ids ≠ [] ∧
      d'.used = 16 + 16 ∧ (e'.release d').2.used = 16 := by
  intro d e' d'
  have hfailed : (doublingOneRow.copyIn d (Bench.words [1, 2, 3, 4])).1 =
      .error (.device (.outOfMemory 16 8)) := rfl
  obtain ⟨-, -, ⟨hkeys, -⟩, hused, -, hnone, ⟨-, hback⟩, -⟩ :=
    shortage_keeps_earlier_buffers (some 40) foreignThenWords doublingOneRow
      (Bench.words [1, 2, 3, 4]) 16 8 hfailed
  refine ⟨hfailed, rfl, hkeys, fun hempty => ?_, hused, hback⟩
  obtain ⟨first, ⟨rfl⟩, hfull⟩ := hnone.1 hempty
  exact hfull (by decide)

/-- The first buffer fits and the second does not: the copy fails and the first stays live, although
nobody else has any. -/
theorem failed_copy_holds_buffer :
    let d : Device := { capacity := some 12 }
    let e := ofUnit Bench.doubling
    let d' := (e.copyIn d (Bench.words [1, 2])).2.2
    (e.copyIn d (Bench.words [1, 2])).1 = .error (.device (.outOfMemory 8 4)) ∧
      (e.copyIn d (Bench.words [1, 2])).2.1.ids = [⟨1⟩] ∧ d'.liveBuffers = 1 ∧ d'.used = 8 ∧
      (e.release d).2.liveBuffers = 0 ∧ (e.release d).2.used = 0 :=
  ⟨rfl, rfl, rfl, rfl, rfl, rfl⟩

end Executor

end TieredVectors
