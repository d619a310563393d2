import TieredVectors.Proofs.Device.Effects
import TieredVectors.Proofs.Device.Making

/-!
# Requests that are granted

When a device makes buffers, takes columns and carries out launches.

* `Device.exists_allocateAll` — without a capacity, buffers can always be made;
* `Device.exists_writeAll` — columns that are laid out like their buffers can be written;
* `Device.DenseAt d id` — what the buffer holds keeps its elements one by one, so that they can be
  replaced. New buffers are so, and launches leave them so, whether they succeed or fail;
* `Launch.exists_stopsAt` — a launch over rows that are there stops somewhere;
* `Device.bufferLayout_of_launch` — if its buffers are live, all that a launch can fail for is a
  result that does not go into its buffer.
-/

namespace TieredVectors

namespace Device

variable {d d' : Device} {b : Buffer} {c : Column} {id : BufferId} {n : Nat}

/-! ## Making buffers -/

theorem exists_allocate (h : d.capacity = none) (kind : Kind) (n : Nat) :
    ∃ b d', d.allocate kind n = .ok (b, d') := by
  cases hmade : d.allocate kind n with
  | ok made => exact ⟨made.1, made.2, rfl⟩
  | error e =>
    obtain ⟨limit, hlimit, -⟩ := exists_allocate_error_iff.1 ⟨e, hmade⟩
    rw [h] at hlimit
    cases hlimit

theorem capacity_allocate {kind : Kind} (h : d.allocate kind n = .ok (b, d')) :
    d'.capacity = d.capacity :=
  (Change.make h).capacity_eq

/-- Without a capacity there is room for all buffers. -/
theorem exists_allocateAll (h : d.capacity = none) (n : Nat) (kinds : List Kind) :
    ∃ bs d', d.allocateAll n kinds = (.ok (), bs, d') ∧ d'.capacity = none := by
  induction kinds generalizing d with
  | nil => exact ⟨[], d, rfl, h⟩
  | cons kind kinds ih =>
    obtain ⟨b, d₁, hmade⟩ := exists_allocate h kind n
    obtain ⟨bs, d', hrest, hcapacity⟩ := ih ((capacity_allocate hmade).trans h)
    exact ⟨b :: bs, d', by rw [allocateAll, hmade]; simp only [hrest], hcapacity⟩

theorem capacity_releaseAll (d : Device) (bs : List Buffer) :
    (d.releaseAll bs).capacity = d.capacity := by
  induction bs generalizing d with
  | nil => rfl
  | cons b bs ih => exact (ih (d.release b)).trans (Change.giveBack b rfl).capacity_eq

theorem Touches.capacity {ids : List BufferId} (h : Touches ids d d') : d'.capacity = d.capacity :=
  h.change.capacity_eq

/-! ## Writing -/

/-- A column of the kind and the length of a live buffer can be written to it. -/
theorem exists_write (h : d.layout? b.id = some (c.kind, c.length)) :
    ∃ d', d.write b c = .ok d' := by
  obtain ⟨held, hheld, hlayout⟩ := Option.map_eq_some_iff.1 h
  have hfit := Prod.mk.inj hlayout
  refine ⟨{ d with
    buffers := d.buffers.modify b.id fun _ => c
    bytesWritten := d.bytesWritten + c.transferSize }, ?_⟩
  exact bind_eq_ok.2 ⟨held, read_eq_ok_iff.2 hheld, if_pos hfit⟩

theorem exists_writeAll {pairs : List (Buffer × Column)}
    (h : ∀ p ∈ pairs, d.layout? p.1.id = some (p.2.kind, p.2.length)) :
    ∃ d', d.writeAll pairs = (.ok (), d') := by
  induction pairs generalizing d with
  | nil => exact ⟨d, rfl⟩
  | cons p pairs ih =>
    obtain ⟨d₁, hwrite⟩ := exists_write (h p List.mem_cons_self)
    -- writing changes no layout
    have hlayout := (write_eq_ok hwrite).1.layout
    obtain ⟨d', hrest⟩ := ih fun q hq =>
      (hlayout q.1.id).trans (h q (List.mem_cons_of_mem _ hq))
    exact ⟨d', by rw [writeAll, hwrite]; exact hrest⟩

/-! ## Buffers whose elements can be replaced -/

/-- What the buffer holds, if it is live, keeps its elements one by one. -/
def DenseAt (d : Device) (id : BufferId) : Prop := ∀ c, d.buffers.get? id = some c → c.Dense

theorem DenseAt.congr (h : d.DenseAt id) (hsame : d'.buffers.get? id = d.buffers.get? id) :
    d'.DenseAt id := fun c hc => h c (hsame ▸ hc)

theorem DenseAt.of_get? (h : d.buffers.get? id = some c) (hc : c.Dense) : d.DenseAt id := by
  intro c' hc'
  obtain rfl := Option.some.inj (h.symm.trans hc')
  exact hc

theorem denseAt_of_allocate {kind : Kind} (h : d.allocate kind n = .ok (b, d')) :
    d'.DenseAt b.id := by
  obtain ⟨-, rfl, rfl⟩ := of_allocate h
  refine .of_get? (c := Column.blank kind n) ((Table.get?_insert ..).trans (if_pos rfl)) ?_
  cases kind <;> trivial

theorem Makes.denseAt {bs : List Buffer} (h : Makes d bs d') : ∀ b ∈ bs, d'.DenseAt b.id := by
  induction h with
  | nil d => exact List.forall_mem_nil _
  | cons first rest ih =>
    -- the first buffer is left alone while the others are made
    have hbound := ((allocate_eq_ok first).1.fresh _ List.mem_cons_self).2
    exact List.forall_mem_cons.2
      ⟨(denseAt_of_allocate first).congr (rest.grows.frame _ hbound), ih⟩

theorem DenseAt.write (h : d.DenseAt id) (hc : c.Dense) (hwrite : d.write b c = .ok d') :
    d'.DenseAt id := by
  obtain ⟨htouches, hheld⟩ := write_eq_ok hwrite
  by_cases hid : id = b.id
  · exact .of_get? (hid ▸ hheld) hc
  · exact h.congr (htouches.frame id (by simpa using hid))

theorem DenseAt.store (h : d.DenseAt id) {s : Launch.Store} (hstore : d.store n s = .ok d') :
    d'.DenseAt id := by
  obtain ⟨htouches, held, c, -, hset, hc⟩ := store_eq_ok hstore
  by_cases hid : id = s.buffer.id
  · obtain ⟨v, -, hset⟩ := Option.bind_eq_some_iff.1 hset
    exact .of_get? (hid ▸ hc) (Column.set?_eq_some hset).2.2.1
  · exact h.congr (htouches.frame id (by simpa using hid))

/-- Storing leaves the elements replaceable, up to where it fails. -/
theorem DenseAt.storeAll (h : d.DenseAt id) (n : Nat) (stores : List Launch.Store) :
    (d.storeAll n stores).2.DenseAt id := by
  induction stores generalizing d with
  | nil => exact h
  | cons s stores ih =>
    rw [Device.storeAll]
    split
    next => exact h
    next d₁ hstore => exact ih (h.store hstore)

theorem DenseAt.raise (h : d.DenseAt id) {flag : Int32} (hraise : d.raise b flag = .ok d') :
    d'.DenseAt id := by
  obtain ⟨htouches, held, c, -, hset, hc⟩ := raise_eq_ok hraise
  by_cases hid : id = b.id
  · exact .of_get? (hid ▸ hc) (Column.set?_eq_some hset).2.2.1
  · exact h.congr (htouches.frame id (by simpa using hid))

/-- A launch leaves the elements replaceable, whether it succeeds or fails. -/
theorem DenseAt.launch (h : d.DenseAt id) (l : Launch) : (d.launch l).2.DenseAt id := by
  have hcounted : DenseAt { d with launches := d.launches + 1 } id := h
  rw [Device.launch]
  split
  next => exact h
  next kernel _ =>
    dsimp only
    split
    next => exact hcounted
    next rows stop _ =>
      have hstored := hcounted.storeAll l.length (Launch.stores l.outputs 0 rows)
      split
      next e d₁ hstores => rwa [hstores] at hstored
      next d₁ hstores =>
        rw [hstores] at hstored
        split
        next => exact hstored
        next d₂ hraise => exact hstored.raise hraise

end Device

/-! ## What a launch can fail for -/

/-- A launch over rows that are there stops somewhere. -/
theorem Launch.exists_stopsAt {l : Launch} {kernel : Kernel} {d : Device}
    (h : ∀ i < l.length, ∃ r, l.outcome? kernel d i = some r) : ∃ n, l.StopsAt kernel d n := by
  -- on how many rows have been looked at: they all have results, or one of them is the first that
  -- has none
  have hsome : ∀ m ≤ l.length, (∀ i < m, ∃ out, l.outcome? kernel d i = some (.ok out)) ∨
      ∃ n, l.StopsAt kernel d n := by
    intro m
    induction m with
    | zero => exact fun _ => .inl fun i hi => absurd hi (Nat.not_lt_zero i)
    | succ m ih =>
      intro hm
      rcases ih (Nat.le_of_succ_le hm) with hresults | hstops
      · obtain ⟨r, hr⟩ := h m hm
        cases r with
        | ok out => exact .inl (Nat.forall_lt_succ_right.2 ⟨hresults, out, hr⟩)
        | error reason => exact .inr ⟨m, Nat.le_of_succ_le hm, hresults, fun _ => ⟨reason, hr⟩⟩
      · exact .inr hstops
  rcases hsome l.length (Nat.le_refl _) with hresults | hstops
  · exact ⟨l.length, Nat.le_refl _, hresults, fun hlt => absurd hlt (Nat.lt_irrefl _)⟩
  · exact hstops

namespace Device

variable {d d' : Device} {err : DeviceError} {n : Nat}

/-- A scalar that is not stored into a live buffer does not go there. -/
theorem bufferLayout_of_store {s : Launch.Store} (hlive : s.buffer.id ∈ d.buffers.keys)
    (h : d.store n s = .error err) :
    ∃ id expected found, err = .bufferLayout id expected found := by
  obtain ⟨held, hheld⟩ := Table.mem_keys_iff.1 hlive
  rw [store, read_eq_ok_iff.2 hheld] at h
  simp only [bind, Except.bind] at h
  split at h
  next => cases h
  next => exact ⟨_, _, _, (Except.error.inj h).symm⟩

theorem bufferLayout_of_storeAll {stores : List Launch.Store}
    (hlive : ∀ s ∈ stores, s.buffer.id ∈ d.buffers.keys)
    (h : d.storeAll n stores = (.error err, d')) :
    ∃ id expected found, err = .bufferLayout id expected found := by
  induction stores generalizing d with
  | nil => cases h
  | cons s stores ih =>
    rw [List.forall_mem_cons] at hlive
    rw [storeAll] at h
    split at h
    next e hstore =>
      obtain rfl : e = err := Except.error.inj (Prod.mk.inj h).1
      exact bufferLayout_of_store hlive.1 hstore
    next d₁ hstore =>
      -- the buffers are still live
      refine ih (fun t ht => ?_) h
      rw [(store_eq_ok hstore).1.keys]
      exact hlive.2 t ht

/-- If the rows are there, the outputs are live and the flag has a place, all that a launch can fail
for is a field of a result that does not go into its buffer. -/
theorem bufferLayout_of_launch {l : Launch} {kernel : Kernel}
    (hkernel : l.kernel.kernel? = some kernel) {columns : List Column}
    (hread : l.inputs.mapM d.read = .ok columns) (hstops : l.StopsAt kernel d n)
    (houtputs : ∀ b ∈ l.outputs, b.id ∈ d.buffers.keys) (hflag : d.Takes l.deopt 0 (.int 0))
    (h : (d.launch l).1 = .error err) :
    ∃ id expected found, err = .bufferLayout id expected found := by
  obtain ⟨rows, stop, hcompute, -⟩ := hstops.exists_compute hread
  rcases hstore : storeAll { d with launches := d.launches + 1 } l.length
    (Launch.stores l.outputs 0 rows) with ⟨r, d₁⟩
  cases r with
  | ok u =>
    obtain ⟨d₂, hraise⟩ := exists_raise_iff.2 ((takes_iff_of_storeAll hstore).2 hflag)
    have hlaunch := (launch_eq_ok_iff hkernel).2
      ⟨columns, rows, stop, d₁, hread, hcompute, hstore, rfl, hraise⟩
    rw [hlaunch] at h
    cases h
  | error e =>
    have hcomputed : (do
        let columns ← l.inputs.mapM (read { d with launches := d.launches + 1 })
        Launch.compute kernel l.scope columns l.length 0 l.length) = .ok (rows, stop) :=
      bind_eq_ok.2 ⟨columns, hread, hcompute⟩
    obtain rfl : e = err := by
      rw [launch, hkernel] at h
      simp only [hcomputed, hstore] at h
      exact Except.error.inj h
    refine bufferLayout_of_storeAll (fun s hs => ?_) hstore
    obtain ⟨-, k, -, b, -, hb, rfl⟩ := Launch.mem_stores_iff.1 hs
    exact houtputs b (List.mem_of_getElem? hb)

end Device

end TieredVectors
