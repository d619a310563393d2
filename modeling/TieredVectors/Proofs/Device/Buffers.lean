import TieredVectors.Device.Launch
import TieredVectors.Proofs.Columns.Column

/-!
# Buffers of a device

What the requests to a device do to its buffers.

* `Device.Touches ids d d'` — only buffers among `ids` differ, every buffer keeps its kind and
  length, and none is made or given back. Writing and storing do no more, whether they succeed or
  fail.
* `Device.Holds d bs kinds n` — the buffers `bs` are live, of the given kinds and of length `n`.
* `Device.Grows d d' bs` — the buffers `bs` are new, and all buffers there were are as they were.
* `Device.storeAll_stores` — after the output rows have been stored, each output buffer holds the
  column it held with the cells of the rows replaced.
-/

namespace TieredVectors

namespace Device

variable {d d' d'' : Device} {b : Buffer} {c : Column} {ids ids' : List BufferId}

theorem read_eq_ok_iff : d.read b = .ok c ↔ d.buffers.get? b.id = some c := by
  unfold read
  split <;> simp_all

/-! ## What a request may touch -/

/-- The kind and the length of a live buffer. -/
def layout? (d : Device) (id : BufferId) : Option (Kind × Nat) :=
  (d.buffers.get? id).map fun c => (c.kind, c.length)

/-- The bytes taken up, the bytes there are, and how often a buffer has been made. -/
def books (d : Device) : Nat × Option Nat × Nat := (d.used, d.capacity, d.allocations)

/-- Only buffers among `ids` differ, every buffer keeps its kind and length, and none is made or
given back. -/
structure Touches (ids : List BufferId) (d d' : Device) : Prop where
  frame : ∀ id, id ∉ ids → d'.buffers.get? id = d.buffers.get? id
  layout : ∀ id, d'.layout? id = d.layout? id
  lastId : d'.lastId = d.lastId
  forceDeopt : d'.forceDeopt = d.forceDeopt
  keys : d'.buffers.keys = d.buffers.keys
  books : d'.books = d.books

namespace Touches

@[refl]
theorem refl (ids : List BufferId) (d : Device) : Touches ids d d :=
  ⟨fun _ _ => rfl, fun _ => rfl, rfl, rfl, rfl, rfl⟩

theorem trans (h : Touches ids d d') (h' : Touches ids d' d'') : Touches ids d d'' where
  frame id hid := (h'.frame id hid).trans (h.frame id hid)
  layout id := (h'.layout id).trans (h.layout id)
  lastId := h'.lastId.trans h.lastId
  forceDeopt := h'.forceDeopt.trans h.forceDeopt
  keys := h'.keys.trans h.keys
  books := h'.books.trans h.books

theorem mono (h : Touches ids d d') (hsub : ids ⊆ ids') : Touches ids' d d' :=
  { h with frame := fun id hid => h.frame id fun hmem => hid (hsub hmem) }

end Touches

/-- Replacing what one buffer holds by a column of the same kind and length touches that buffer. -/
theorem touches_modify {id : BufferId} {held : Column} (hheld : d.buffers.get? id = some held)
    (hkind : c.kind = held.kind) (hlength : c.length = held.length)
    (hbuffers : d'.buffers = d.buffers.modify id fun _ => c) (hlast : d'.lastId = d.lastId)
    (hforce : d'.forceDeopt = d.forceDeopt) (hbooks : d'.books = d.books) : Touches [id] d d' where
  frame id' hid' := by
    rw [hbuffers, Table.get?_modify, if_neg (by simpa using hid')]
  layout id' := by
    rw [layout?, layout?, hbuffers, Table.get?_modify]
    split
    next hid => simp [hid, hheld, hkind, hlength]
    next => rfl
  lastId := hlast
  forceDeopt := hforce
  keys := by rw [hbuffers, Table.keys_modify]
  books := hbooks

/-! ## Writing -/

/-- A column that has been written is what the buffer holds, and has the kind and the length of what
it held before. -/
theorem write_eq_ok (h : d.write b c = .ok d') :
    Touches [b.id] d d' ∧ d'.buffers.get? b.id = some c := by
  obtain ⟨held, hread, hrest⟩ := bind_eq_ok.1 h
  rw [read_eq_ok_iff] at hread
  split at hrest
  next hfit =>
    obtain rfl := pure_eq_ok.1 hrest
    exact ⟨touches_modify hread hfit.1.symm hfit.2.symm rfl rfl rfl rfl, by simp [hread]⟩
  next => cases hrest

/-- Writing columns touches the buffers that they are written to. -/
theorem writeAll_touches (d : Device) (pairs : List (Buffer × Column)) :
    Touches (pairs.map (·.1.id)) d (d.writeAll pairs).2 := by
  induction pairs generalizing d with
  | nil => exact .refl _ d
  | cons p rest ih =>
    rw [writeAll]
    split
    next => exact .refl _ d
    next d' hwrite =>
      refine ((write_eq_ok hwrite).1.mono ?_).trans ((ih d').mono ?_)
      · simp
      · exact List.subset_cons_self _ _

/-- Columns that have been written to different buffers are what these hold. -/
theorem writeAll_eq_ok {pairs : List (Buffer × Column)}
    (hnodup : (pairs.map (·.1.id)).Nodup) (h : d.writeAll pairs = (.ok (), d')) :
    ∀ p ∈ pairs, d'.buffers.get? p.1.id = some p.2 := by
  induction pairs generalizing d with
  | nil => simp
  | cons p rest ih =>
    rw [writeAll] at h
    split at h
    next => cases h
    next d₁ hwrite =>
      rw [List.map_cons, List.nodup_cons] at hnodup
      intro q hq
      rcases List.mem_cons.1 hq with rfl | hq
      · -- the later columns go to other buffers
        have hrest := writeAll_touches d₁ rest
        rw [h] at hrest
        rw [hrest.frame _ hnodup.1]
        exact (write_eq_ok hwrite).2
      · exact ih hnodup.2 h q hq

/-! ## Storing -/

variable {n : Nat} {s : Launch.Store} {stores stores' : List Launch.Store}

/-- A scalar that has been stored has replaced a cell of what the buffer held. -/
theorem store_eq_ok (h : d.store n s = .ok d') :
    Touches [s.buffer.id] d d' ∧ ∃ held c, d.buffers.get? s.buffer.id = some held ∧
      (s.value >>= held.set? s.row) = some c ∧ d'.buffers.get? s.buffer.id = some c := by
  obtain ⟨held, hread, hrest⟩ := bind_eq_ok.1 h
  rw [read_eq_ok_iff] at hread
  split at hrest
  next c hc =>
    obtain rfl := pure_eq_ok.1 hrest
    obtain ⟨v, -, hset⟩ := Option.bind_eq_some_iff.1 hc
    obtain ⟨-, -, -, hkind, hlength, -⟩ := Column.set?_eq_some hset
    exact ⟨touches_modify hread hkind hlength rfl rfl rfl rfl, held, c, hread, hc, by simp [hread]⟩
  next => cases hrest

/-- Storing scalars touches the buffers that they go to. -/
theorem storeAll_touches (d : Device) (n : Nat) (stores : List Launch.Store) :
    Touches (stores.map (·.buffer.id)) d (d.storeAll n stores).2 := by
  induction stores generalizing d with
  | nil => exact .refl _ d
  | cons s rest ih =>
    rw [storeAll]
    split
    next => exact .refl _ d
    next d' hstore =>
      refine ((store_eq_ok hstore).1.mono ?_).trans ((ih d').mono ?_)
      · simp
      · exact List.subset_cons_self _ _

/-- Storing some scalars and then others. -/
theorem storeAll_append (h : d.storeAll n (stores ++ stores') = (.ok (), d')) :
    ∃ d₁, d.storeAll n stores = (.ok (), d₁) ∧ d₁.storeAll n stores' = (.ok (), d') := by
  induction stores generalizing d with
  | nil => exact ⟨d, rfl, h⟩
  | cons s rest ih =>
    rw [List.cons_append, storeAll] at h
    split at h
    next => cases h
    next d₁ hstore =>
      obtain ⟨d₂, hrest, hlast⟩ := ih h
      exact ⟨d₂, by rw [storeAll, hstore]; exact hrest, hlast⟩

/-- Scalars that have been stored into different buffers have replaced a cell in each. -/
theorem storeAll_eq_ok (hnodup : (stores.map (·.buffer.id)).Nodup)
    (h : d.storeAll n stores = (.ok (), d')) :
    ∀ s ∈ stores, ∃ held c, d.buffers.get? s.buffer.id = some held ∧
      (s.value >>= held.set? s.row) = some c ∧ d'.buffers.get? s.buffer.id = some c := by
  induction stores generalizing d with
  | nil => simp
  | cons s rest ih =>
    rw [storeAll] at h
    split at h
    next => cases h
    next d₁ hstore =>
      rw [List.map_cons, List.nodup_cons] at hnodup
      obtain ⟨htouch, held, c, hheld, hset, hc⟩ := store_eq_ok hstore
      intro t ht
      rcases List.mem_cons.1 ht with rfl | ht
      · have hrest := storeAll_touches d₁ n rest
        rw [h] at hrest
        exact ⟨held, c, hheld, hset, (hrest.frame _ hnodup.1).trans hc⟩
      · -- the first store went to another buffer
        have hother : t.buffer.id ∉ [s.buffer.id] := by
          rw [List.mem_singleton]
          rintro heq
          exact hnodup.1 (heq ▸ List.mem_map_of_mem ht)
        have := ih hnodup.2 h t ht
        rwa [htouch.frame _ hother] at this

/-- The buffers that the stores of output rows go to. -/
theorem stores_subset (outputs : List Buffer) (i : Nat) (rows : List (List Scalar)) :
    (Launch.stores outputs i rows).map (·.buffer.id) ⊆ outputs.map (·.id) := by
  induction rows generalizing i with
  | nil => simp [Launch.stores]
  | cons row rest ih =>
    rw [Launch.stores, List.map_append, List.append_subset]
    refine ⟨fun id hid => ?_, ih (i + 1)⟩
    rw [List.map_map, List.mem_map] at hid
    obtain ⟨⟨b, f⟩, hb, rfl⟩ := hid
    exact List.mem_map_of_mem (List.fst_mem_of_mem_zipIdx hb)

/-- The stores of one output row. -/
theorem map_buffer_stores (outputs : List Buffer) (i : Nat) (row : List Scalar) :
    (outputs.zipIdx.map fun (b, field) => (⟨b, i, row[field]?⟩ : Launch.Store)).map (·.buffer.id) =
      outputs.map (·.id) := by
  rw [List.map_map, ← List.zipIdx_map_fst 0 outputs, List.map_map, List.zipIdx_map_fst]
  rfl

/-- After output rows have been stored, each output buffer holds what it held with the cells of the
rows replaced. -/
theorem storeAll_stores {outputs : List Buffer} (hnodup : (outputs.map (·.id)).Nodup) {i : Nat}
    {rows : List (List Scalar)} (h : d.storeAll n (Launch.stores outputs i rows) = (.ok (), d'))
    {f : Nat} (hb : outputs[f]? = some b) (hc : d.buffers.get? b.id = some c) :
    ∃ c', d'.buffers.get? b.id = some c' ∧ c.setFrom i (rows.map (·[f]?)) = some c' := by
  -- on the rows: the stores of one row go to different buffers, so each replaces one cell
  induction rows generalizing d i c with
  | nil =>
    obtain rfl : d = d' := by simpa [Launch.stores, storeAll] using h
    exact ⟨c, hc, rfl⟩
  | cons row rest ih =>
    obtain ⟨d₁, hrow, hrest⟩ := storeAll_append h
    have hmem : (⟨b, i, row[f]?⟩ : Launch.Store) ∈
        outputs.zipIdx.map fun (b, field) => ⟨b, i, row[field]?⟩ :=
      List.mem_map.2 ⟨(b, f), List.mk_mem_zipIdx_iff_getElem?.2 hb, rfl⟩
    obtain ⟨held, c₁, hheld, hset, hc₁⟩ :=
      storeAll_eq_ok (by rwa [map_buffer_stores]) hrow _ hmem
    obtain rfl : c = held := Option.some.inj (hc.symm.trans hheld)
    obtain ⟨c', hc', hfrom⟩ := ih hrest hc₁
    exact ⟨c', hc', by rw [List.map_cons, Column.setFrom, hset]; exact hfrom⟩

/-- A flag that has been raised has replaced the first cell of what its buffer held. -/
theorem raise_eq_ok {flag : Int32} (h : d.raise b flag = .ok d') :
    Touches [b.id] d d' ∧ ∃ held c, d.buffers.get? b.id = some held ∧
      held.set? 0 (.int flag) = some c ∧ d'.buffers.get? b.id = some c := by
  obtain ⟨held, hread, hrest⟩ := bind_eq_ok.1 h
  rw [read_eq_ok_iff] at hread
  split at hrest
  next c hset =>
    obtain rfl := pure_eq_ok.1 hrest
    obtain ⟨-, -, -, hkind, hlength, -⟩ := Column.set?_eq_some hset
    exact ⟨touches_modify hread hkind hlength rfl rfl rfl rfl, held, c, hread, hset,
      by simp [hread]⟩
  next => cases hrest

/-! ## Allocating and giving back -/

/-- The buffers are live, of the given kinds and of length `n`. -/
def Holds (d : Device) (bs : List Buffer) (kinds : List Kind) (n : Nat) : Prop :=
  bs.map (d.layout? ·.id) = kinds.map fun k => some (k, n)

/-- Buffers are held as long as their kinds and lengths stay. -/
theorem Holds.of_layout {bs : List Buffer} {kinds : List Kind} (h : d.Holds bs kinds n)
    (hsame : ∀ b ∈ bs, d'.layout? b.id = d.layout? b.id) : d'.Holds bs kinds n :=
  (List.map_congr_left hsame).trans h

theorem Holds.length_eq {bs : List Buffer} {kinds : List Kind} (h : d.Holds bs kinds n) :
    bs.length = kinds.length := by
  simpa using congrArg List.length h

/-- What a held buffer holds. -/
theorem Holds.exists_column {bs : List Buffer} {kinds : List Kind} (h : d.Holds bs kinds n)
    {f : Nat} (hb : bs[f]? = some b) :
    ∃ c, d.buffers.get? b.id = some c ∧ kinds[f]? = some c.kind ∧ c.length = n := by
  have hf : (bs.map (d.layout? ·.id))[f]? = (kinds.map fun k => some (k, n))[f]? := by rw [h]
  rw [List.getElem?_map, hb, List.getElem?_map, Option.map_some] at hf
  cases hk : kinds[f]? with
  | none => simp [hk] at hf
  | some k =>
    rw [hk, Option.map_some, Option.some.injEq, layout?, Option.map_eq_some_iff] at hf
    obtain ⟨c, hc, heq⟩ := hf
    rw [Prod.mk.injEq] at heq
    exact ⟨c, hc, by rw [heq.1], heq.2⟩

/-- The buffers `bs` are new, and all buffers there were are as they were. -/
structure Grows (d d' : Device) (bs : List Buffer) : Prop where
  lastId_le : d.lastId ≤ d'.lastId
  forceDeopt : d'.forceDeopt = d.forceDeopt
  frame : ∀ id : BufferId, id.index ≤ d.lastId → d'.buffers.get? id = d.buffers.get? id
  fresh : ∀ b ∈ bs, d.lastId < b.id.index ∧ b.id.index ≤ d'.lastId
  nodup : (bs.map (·.id)).Nodup

theorem Grows.refl (d : Device) : Grows d d [] :=
  ⟨Nat.le_refl _, rfl, fun _ _ => rfl, by simp, by simp⟩

/-- New buffers and then more of them. -/
theorem Grows.trans {bs bs' : List Buffer} (h : Grows d d' bs) (h' : Grows d' d'' bs') :
    Grows d d'' (bs ++ bs') where
  lastId_le := Nat.le_trans h.lastId_le h'.lastId_le
  forceDeopt := h'.forceDeopt.trans h.forceDeopt
  frame id hid := (h'.frame id (Nat.le_trans hid h.lastId_le)).trans (h.frame id hid)
  fresh b hb := by
    have h₁ := h.lastId_le
    have h₂ := h'.lastId_le
    rcases List.mem_append.1 hb with hb | hb
    · have := h.fresh b hb
      omega
    · have := h'.fresh b hb
      omega
  nodup := by
    rw [List.map_append, List.nodup_append]
    refine ⟨h.nodup, h'.nodup, fun id hid id' hid' heq => ?_⟩
    obtain ⟨b, hb, rfl⟩ := List.mem_map.1 hid
    obtain ⟨b', hb', rfl⟩ := List.mem_map.1 hid'
    -- the later buffers have higher numbers
    have hle := (h.fresh b hb).2
    have hlt := (h'.fresh b' hb').1
    rw [heq] at hle
    omega

/-- Buffers that are made stay held when more are made. -/
theorem Holds.grows {bs bs' : List Buffer} {kinds : List Kind} (h : d.Holds bs kinds n)
    (hlast : ∀ b ∈ bs, b.id.index ≤ d.lastId) (hg : Grows d d' bs') : d'.Holds bs kinds n :=
  h.of_layout fun b hb => by rw [layout?, layout?, hg.frame b.id (hlast b hb)]

/-- A new buffer. -/
theorem allocate_eq_ok {kind : Kind} (h : d.allocate kind n = .ok (b, d')) :
    Grows d d' [b] ∧ d'.Holds [b] [kind] n := by
  simp only [allocate] at h
  split at h
  next =>
    obtain ⟨rfl, rfl⟩ := Prod.mk.inj (Except.ok.inj h)
    refine ⟨⟨Nat.le_succ _, rfl, fun id hid => ?_, by simp, by simp⟩, ?_⟩
    · have hne : id ≠ ⟨d.lastId + 1⟩ := by
        rintro rfl
        exact absurd hid (by simp)
      simp [hne]
    · cases kind <;> simp [Holds, layout?, Column.blank, Column.kind, Column.length]
  next => cases h

/-- New buffers, up to the first that does not fit. -/
theorem allocateAll_eq {kinds : List Kind} {r : Except DeviceError Unit} {bs : List Buffer}
    (h : d.allocateAll n kinds = (r, bs, d')) :
    Grows d d' bs ∧ (r = .ok () → d'.Holds bs kinds n) := by
  induction kinds generalizing d bs with
  | nil =>
    obtain ⟨-, rfl, rfl⟩ : r = .ok () ∧ bs = [] ∧ d = d' := by simpa [allocateAll, eq_comm] using h
    exact ⟨.refl d, fun _ => rfl⟩
  | cons k ks ih =>
    rw [allocateAll] at h
    split at h
    next =>
      obtain ⟨rfl, rfl, rfl⟩ : r = .error _ ∧ bs = [] ∧ d = d' := by simpa [eq_comm] using h
      exact ⟨.refl d, fun hok => by cases hok⟩
    next b d₁ halloc =>
      obtain ⟨hgrows, hheld⟩ := allocate_eq_ok halloc
      rcases hrest : d₁.allocateAll n ks with ⟨r', bs', d₂⟩
      rw [hrest] at h
      obtain ⟨rfl, rfl, rfl⟩ : r = r' ∧ bs = b :: bs' ∧ d₂ = d' := by simpa [eq_comm] using h
      obtain ⟨hgrows', hheld'⟩ := ih hrest
      refine ⟨hgrows.trans hgrows', fun hok => ?_⟩
      -- the first buffer is still held when the others have been made
      have hfirst := hheld.grows (fun b hb => (hgrows.fresh b hb).2) hgrows'
      rw [Holds, List.map_cons, List.map_cons, List.cons.injEq]
      exact ⟨List.head_eq_of_cons_eq hfirst, hheld' hok⟩

/-- Giving a buffer back leaves all others as they were. -/
theorem release_frame (d : Device) (b : Buffer) :
    (∀ id, id ≠ b.id → (d.release b).buffers.get? id = d.buffers.get? id) ∧
      (d.release b).lastId = d.lastId ∧ (d.release b).forceDeopt = d.forceDeopt := by
  unfold release
  split
  · exact ⟨fun id hid => by simp [hid], rfl, rfl⟩
  · exact ⟨fun _ _ => rfl, rfl, rfl⟩

/-- Giving buffers back leaves all others as they were. -/
theorem releaseAll_frame (d : Device) (bs : List Buffer) :
    (∀ id ∉ bs.map (·.id), (d.releaseAll bs).buffers.get? id = d.buffers.get? id) ∧
      (d.releaseAll bs).lastId = d.lastId ∧ (d.releaseAll bs).forceDeopt = d.forceDeopt := by
  induction bs generalizing d with
  | nil => exact ⟨fun _ _ => rfl, rfl, rfl⟩
  | cons b rest ih =>
    obtain ⟨hone, hlast₁, hforce₁⟩ := d.release_frame b
    obtain ⟨hframe, hlast, hforce⟩ := ih (d.release b)
    refine ⟨fun id hid => ?_, hlast.trans hlast₁, hforce.trans hforce₁⟩
    rw [List.map_cons, List.mem_cons, not_or] at hid
    exact (hframe id hid.2).trans (hone id hid.1)

end Device

end TieredVectors
