import TieredVectors.Proofs.Device.Launches
import TieredVectors.Proofs.Tables

/-!
# The memory of a device

A device counts the bytes that its buffers take up. What a buffer gives back when it is released is
worked out from what it holds at that time, which may have been written to since it was made, and
handles may be stale, carry any kind and length, and be released twice. The count is right all the
same:

* `Device.Change` — all that a request can do: make a buffer, give one back, or neither;
* `Device.Balanced` — the count is the bytes of all live buffers and within the capacity, which
  every change preserves (`Device.Change.balanced`);
* `Device.Change.layout_cases` — a buffer keeps its kind and length until it is given back, and its
  number is not used again;
* `Device.memory_accounted` — all of this after any requests to a new device.
-/

namespace TieredVectors

namespace Device

variable {d d' : Device} {b : Buffer} {c : Column} {kind : Kind} {n : Nat}

/-- The bytes that the live buffers take up. -/
def footprint (d : Device) : Nat := d.buffers.total Column.byteSize

/-- Live buffers have numbers that have been given, and the count of bytes is right and within the
capacity. -/
structure Balanced (d : Device) : Prop where
  numbered : ∀ id ∈ d.buffers.keys, id.index ≤ d.lastId
  used : d.used = d.footprint
  within : ∀ limit ∈ d.capacity, d.used ≤ limit

theorem Balanced.ofCapacity (capacity : Option Nat) : Balanced { capacity } := by
  refine ⟨fun id hid => ?_, rfl, fun limit _ => Nat.zero_le limit⟩
  cases hid

/-- The number of the next buffer is not in use. -/
theorem Balanced.get?_next (h : d.Balanced) : d.buffers.get? ⟨d.lastId + 1⟩ = none := by
  refine Table.get?_eq_none_iff.2 fun hmem => ?_
  have hle : d.lastId + 1 ≤ d.lastId := h.numbered _ hmem
  omega

/-! ## Making a buffer and giving one back -/

/-- What it takes to make a buffer, and what the device is then. -/
theorem of_allocate (h : d.allocate kind n = .ok (b, d')) :
    d.Fits (kind.byteSize * n) ∧ b = ⟨⟨d.lastId + 1⟩, kind, n⟩ ∧
      d' = { d with
        buffers := d.buffers.insert ⟨d.lastId + 1⟩ (Column.blank kind n)
        lastId := d.lastId + 1
        used := d.used + kind.byteSize * n
        allocations := d.allocations + 1 } := by
  simp only [allocate] at h
  split at h
  next hfits =>
    obtain ⟨hb, hd⟩ := Prod.mk.inj (Except.ok.inj h)
    exact ⟨hfits, hb.symm, hd.symm⟩
  next => cases h

/-- A buffer cannot be made iff its bytes would go beyond the capacity. -/
theorem exists_allocate_error_iff :
    (∃ e, d.allocate kind n = .error e) ↔
      ∃ limit ∈ d.capacity, limit < d.used + kind.byteSize * n := by
  by_cases hfits : d.Fits (kind.byteSize * n)
  · refine iff_of_false ?_ ?_
    · rintro ⟨e, he⟩
      simp only [allocate, if_pos hfits] at he
      cases he
    · rintro ⟨limit, hlimit, hlt⟩
      exact absurd (hfits limit hlimit) (Nat.not_le.2 hlt)
  · refine iff_of_true ⟨_, by simp only [allocate, if_neg hfits]; rfl⟩ ?_
    simpa [Fits] using hfits

/-- A new buffer has the kind and the length of its handle. -/
theorem layout?_allocate (h : d.allocate kind n = .ok (b, d')) (id : BufferId) :
    d'.layout? id = if id = b.id then some (b.kind, b.length) else d.layout? id := by
  obtain ⟨-, rfl, rfl⟩ := of_allocate h
  simp only [layout?, Table.get?_insert]
  split
  · cases kind <;> simp [Column.blank, Column.kind, Column.length]
  · rfl

/-- The bytes of a buffer are a matter of its kind and length. -/
theorem byteSize_eq_layout (d : Device) (id : BufferId) :
    (d.buffers.get? id).map Column.byteSize = (d.layout? id).map fun l => l.1.byteSize * l.2 := by
  rw [layout?, Option.map_map]
  rfl

theorem byteSize_blank (kind : Kind) (n : Nat) :
    (Column.blank kind n).byteSize = kind.byteSize * n := by
  cases kind <;> simp [Column.byteSize, Column.blank, Column.kind, Column.length]

/-- A new buffer comes after those there are. -/
theorem Balanced.keys_allocate (h : d.Balanced) (hmade : d.allocate kind n = .ok (b, d')) :
    d'.buffers.keys = d.buffers.keys ++ [b.id] := by
  obtain ⟨-, rfl, rfl⟩ := of_allocate hmade
  exact Table.keys_insert h.get?_next _

theorem Balanced.allocate (h : d.Balanced) (hmade : d.allocate kind n = .ok (b, d')) :
    d'.Balanced := by
  have hkeys := h.keys_allocate hmade
  obtain ⟨hfits, rfl, rfl⟩ := of_allocate hmade
  refine ⟨fun id hid => ?_, ?_, hfits⟩
  · rw [hkeys, List.mem_append, List.mem_singleton] at hid
    rcases hid with hid | rfl
    · exact Nat.le_succ_of_le (h.numbered id hid)
    · exact Nat.le_refl _
  · show d.used + kind.byteSize * n = Table.total _ _
    rw [Table.total_insert h.get?_next, byteSize_blank, h.used]
    rfl

/-- What a live buffer gives back was counted; the rest of the count is that of the others. -/
theorem Balanced.used_release (h : d.Balanced) (hread : d.read b = .ok c) :
    (d.release b).used + c.byteSize = d.used ∧ (d.release b).used = (d.release b).footprint := by
  have hheld : d.buffers.get? b.id = some c := read_eq_ok_iff.1 hread
  have htotal : (d.buffers.erase b.id).total Column.byteSize + c.byteSize = d.footprint :=
    Table.total_erase hheld
  have hrelease : d.release b =
      { d with buffers := d.buffers.erase b.id, used := d.used - c.byteSize } := by
    simp [release, hheld]
  rw [hrelease, h.used, ← htotal]
  -- nothing is cut off: the buffer's bytes are part of the count
  refine ⟨?_, ?_⟩
  · dsimp only
    omega
  · exact Nat.add_sub_cancel _ _

theorem release_of_not_live (h : d.buffers.get? b.id = none) : d.release b = d := by
  simp [release, h]

theorem keys_release (d : Device) (b : Buffer) :
    (d.release b).buffers.keys = d.buffers.keys.filter (decide <| · ≠ b.id) := by
  cases hb : d.buffers.get? b.id with
  | none =>
    rw [release_of_not_live hb, List.filter_eq_self.2]
    intro id hid
    refine decide_eq_true ?_
    rintro rfl
    exact Table.get?_eq_none_iff.1 hb hid
  | some c =>
    rw [← Table.keys_erase]
    simp [release, hb]

theorem Balanced.release (h : d.Balanced) (b : Buffer) : (d.release b).Balanced := by
  cases hb : d.buffers.get? b.id with
  | none =>
    rw [release_of_not_live hb]
    exact h
  | some c =>
    obtain ⟨hsum, hused⟩ := h.used_release (read_eq_ok_iff.2 hb)
    have hlast : (d.release b).lastId = d.lastId := (d.release_frame b).2.1
    have hcapacity : (d.release b).capacity = d.capacity := by simp [Device.release, hb]
    refine ⟨fun id hid => ?_, hused, fun limit hlimit => ?_⟩
    · rw [keys_release] at hid
      rw [hlast]
      exact h.numbered id (List.mem_of_mem_filter hid)
    · have hle := h.within limit (hcapacity ▸ hlimit)
      omega

/-! ## What a request can do -/

/-- What can be asked of a device. Handles may be any, whether or not they come from this device. -/
inductive Request where
  | allocate (kind : Kind) (length : Nat)
  | write (buffer : Buffer) (data : Column)
  | launch (launch : Launch)
  | read (buffer : Buffer)
  | release (buffer : Buffer)
  /-- Have the device give up every launch, or no longer. -/
  | setForceDeopt (force : Bool)

namespace Request

/-- The device after a request. -/
def perform (d : Device) : Request → Device
  | allocate kind length =>
    match d.allocate kind length with
    | .ok (_, d) => d
    | .error _ => d
  | write buffer data =>
    match d.write buffer data with
    | .ok d => d
    | .error _ => d
  | launch l => (d.launch l).2
  | read _ => d
  | release buffer => d.release buffer
  | setForceDeopt force => { d with forceDeopt := force }

/-- The handle that a request gives out, if it makes a buffer. -/
def issued? (d : Device) : Request → Option Buffer
  | allocate kind length => (d.allocate kind length).toOption.map Prod.fst
  | _ => none

end Request

/-- All that a request can do to a device, with the handle that it gives out. -/
inductive Change (d d' : Device) : Option Buffer → Prop where
  /-- Buffers may hold something else, but of the same kind and length. -/
  | keep (hkeys : d'.buffers.keys = d.buffers.keys) (hlayout : ∀ id, d'.layout? id = d.layout? id)
      (hlast : d'.lastId = d.lastId) (hbooks : d'.books = d.books) : Change d d' none
  | make {b : Buffer} {kind : Kind} {n : Nat} (h : d.allocate kind n = .ok (b, d')) :
      Change d d' (some b)
  | giveBack (b : Buffer) (h : d' = d.release b) : Change d d' none

theorem Touches.change {ids : List BufferId} (h : Touches ids d d') : Change d d' none :=
  .keep h.keys h.layout h.lastId h.books

theorem Request.change (d : Device) (request : Request) :
    Change d (request.perform d) (request.issued? d) := by
  have hsame : Change d d none := .keep rfl (fun _ => rfl) rfl rfl
  cases request with
  | allocate kind n =>
    rw [perform, issued?]
    cases h : d.allocate kind n with
    | error e => exact hsame
    | ok made => exact .make h
  | write b data =>
    rw [perform]
    cases h : d.write b data with
    | error e => exact hsame
    | ok d' => exact (write_eq_ok h).1.change
  | launch l => exact (d.launch_touches l).change
  | read b => exact hsame
  | release b => exact .giveBack b rfl
  | setForceDeopt force => exact .keep rfl (fun _ => rfl) rfl rfl

namespace Change

variable {issued : Option Buffer}

/-- Every change keeps the count right. -/
theorem balanced (hchange : Change d d' issued) (h : d.Balanced) : d'.Balanced := by
  cases hchange with
  | keep hkeys hlayout hlast hbooks =>
    have hused : d'.used = d.used := congrArg Prod.fst hbooks
    have hcapacity : d'.capacity = d.capacity := congrArg (·.2.1) hbooks
    refine ⟨fun id hid => ?_, ?_, fun limit hlimit => ?_⟩
    · rw [hlast]
      exact h.numbered id (hkeys ▸ hid)
    · have hsizes (id : BufferId) : (d'.buffers.get? id).map Column.byteSize =
          (d.buffers.get? id).map Column.byteSize := by
        rw [byteSize_eq_layout, byteSize_eq_layout, hlayout]
      rw [hused, h.used]
      exact (Table.total_congr hkeys hsizes).symm
    · rw [hused]
      exact h.within limit (hcapacity ▸ hlimit)
  | make hmade => exact h.allocate hmade
  | giveBack b hd =>
    rw [hd]
    exact h.release b

theorem capacity_eq (hchange : Change d d' issued) : d'.capacity = d.capacity := by
  cases hchange with
  | keep _ _ _ hbooks => exact congrArg (·.2.1) hbooks
  | make hmade =>
    obtain ⟨-, -, rfl⟩ := of_allocate hmade
    rfl
  | giveBack b hd =>
    rw [hd, release]
    split <;> rfl

/-- Numbers are given in order: a new one is the next after all that have been given. -/
theorem lastId_cases (hchange : Change d d' issued) :
    issued = none ∧ d'.lastId = d.lastId ∨
      ∃ b, issued = some b ∧ b.id.index = d.lastId + 1 ∧ d'.lastId = d.lastId + 1 := by
  cases hchange with
  | keep _ _ hlast _ => exact .inl ⟨rfl, hlast⟩
  | make hmade =>
    obtain ⟨-, rfl, rfl⟩ := of_allocate hmade
    exact .inr ⟨_, rfl, rfl, rfl⟩
  | giveBack b hd =>
    rw [hd]
    exact .inl ⟨rfl, (d.release_frame b).2.1⟩

theorem lastId_le (hchange : Change d d' issued) : d.lastId ≤ d'.lastId := by
  obtain ⟨-, hlast⟩ | ⟨b, -, -, hlast⟩ := hchange.lastId_cases <;> omega

/-- A buffer keeps its kind and length until it is given back, and a buffer that has been given back
does not come to life again. -/
theorem layout_cases (hchange : Change d d' issued) {id : BufferId} (hid : id.index ≤ d.lastId) :
    d'.layout? id = d.layout? id ∨ d'.layout? id = none := by
  cases hchange with
  | keep _ hlayout _ _ => exact .inl (hlayout id)
  | make hmade =>
    have hlayout := layout?_allocate hmade id
    obtain ⟨-, rfl, -⟩ := of_allocate hmade
    -- the new buffer has a number that had not been given
    rw [if_neg] at hlayout
    · exact .inl hlayout
    · rintro rfl
      exact absurd hid (Nat.not_succ_le_self _)
  | giveBack b hd =>
    subst hd
    by_cases hb : id = b.id
    · have hgone : id ∉ (d.release b).buffers.keys := by simp [keys_release, hb]
      exact .inr (by rw [layout?, Table.get?_eq_none_iff.2 hgone]; rfl)
    · exact .inl (by rw [layout?, layout?, (d.release_frame b).1 id hb])

end Change

/-! ## Histories of requests -/

/-- The device after a history of requests, oldest first. -/
def after (d : Device) (requests : List Request) : Device := requests.foldl Request.perform d

/-- The handles that a history of requests gives out, oldest first. -/
def issued (d : Device) : List Request → List Buffer
  | [] => []
  | request :: later => (request.issued? d).toList ++ (request.perform d).issued later

theorem after_cons (d : Device) (request : Request) (later : List Request) :
    d.after (request :: later) = (request.perform d).after later :=
  rfl

theorem Balanced.after (h : d.Balanced) (requests : List Request) :
    (d.after requests).Balanced := by
  induction requests generalizing d with
  | nil => exact h
  | cons request later ih => exact ih ((request.change d).balanced h)

theorem capacity_after (d : Device) (requests : List Request) :
    (d.after requests).capacity = d.capacity := by
  induction requests generalizing d with
  | nil => rfl
  | cons request later ih => rw [after_cons, ih, (request.change d).capacity_eq]

/-- As long as a buffer is live it has the kind and the length that it had, and its number is not
given to another one. -/
theorem layout_after (d : Device) (requests : List Request) {id : BufferId}
    (hid : id.index ≤ d.lastId) :
    (d.after requests).layout? id = d.layout? id ∨ (d.after requests).layout? id = none := by
  induction requests generalizing d with
  | nil => exact .inl rfl
  | cons request later ih =>
    have hchange := request.change d
    rw [after_cons]
    rcases ih (request.perform d) (Nat.le_trans hid hchange.lastId_le) with hsame | hgone
    · rw [hsame]
      exact hchange.layout_cases hid
    · exact .inr hgone

/-- Handles are given out with numbers beyond all that have been given. -/
theorem lastId_lt_of_mem_issued {requests : List Request} (hb : b ∈ d.issued requests) :
    d.lastId < b.id.index := by
  induction requests generalizing d with
  | nil => cases hb
  | cons request later ih =>
    have hchange := request.change d
    rw [issued, List.mem_append, Option.mem_toList] at hb
    rcases hb with hb | hb
    · obtain ⟨hnone, -⟩ | ⟨b', hb', hindex, -⟩ := hchange.lastId_cases
      · rw [hnone] at hb
        cases hb
      · obtain rfl : b' = b := Option.some.inj (hb'.symm.trans hb)
        omega
    · exact Nat.lt_of_le_of_lt hchange.lastId_le (ih hb)

/-- The numbers of the handles that are given out go up. -/
theorem pairwise_issued (d : Device) (requests : List Request) :
    (d.issued requests).Pairwise fun b b' => b.id.index < b'.id.index := by
  induction requests generalizing d with
  | nil => exact .nil
  | cons request later ih =>
    rw [issued, List.pairwise_append]
    refine ⟨?_, ih _, fun b hb b' hb' => ?_⟩
    · cases request.issued? d <;> simp
    · obtain ⟨hnone, -⟩ | ⟨b₁, hb₁, hindex, hlast⟩ := (request.change d).lastId_cases
      · simp [hnone] at hb
      · obtain rfl : b = b₁ := by simpa [hb₁] using hb
        have hlater := lastId_lt_of_mem_issued hb'
        omega

/-- The buffer of a handle has the kind and the length of the handle, for as long as it is live. -/
theorem layout_of_mem_issued {requests : List Request} (hb : b ∈ d.issued requests) :
    (d.after requests).layout? b.id = some (b.kind, b.length) ∨
      (d.after requests).layout? b.id = none := by
  induction requests generalizing d with
  | nil => cases hb
  | cons request later ih =>
    have hchange := request.change d
    rw [issued, List.mem_append, Option.mem_toList] at hb
    rw [after_cons]
    rcases hb with hb | hb
    · rw [hb] at hchange
      cases hchange with
      | make hmade =>
        have hlayout := layout?_allocate hmade b.id
        rw [if_pos rfl] at hlayout
        have hindex : b.id.index ≤ (request.perform d).lastId := by
          obtain ⟨-, rfl, hd⟩ := of_allocate hmade
          exact Nat.le_of_eq (by rw [hd])
        rw [← hlayout]
        exact layout_after _ later hindex
    · exact ih hb

/-- The memory of a device is accounted for. Take any requests to a new device, with any handles.

* The count of bytes is that of the live buffers together, and within the capacity.
* A buffer cannot be made just if its bytes would go beyond the capacity.
* What is refused, making a buffer or writing to one, changes nothing.
* The numbers of the buffers go up, so that none is given twice.
* A buffer has the kind and the length with which it was made for as long as it is live, and once it
  has been given back it does not come to life again, whatever else is requested.
* The bytes of a buffer that is released are taken off the count in full. -/
theorem memory_accounted (capacity : Option Nat) (requests : List Request) :
    let d := after { capacity } requests
    (d.used = d.footprint ∧ ∀ limit ∈ capacity, d.used ≤ limit) ∧
    (∀ kind n, (∃ e, d.allocate kind n = .error e) ↔
      ∃ limit ∈ capacity, limit < d.used + kind.byteSize * n) ∧
    (∀ kind n e, d.allocate kind n = .error e → (Request.allocate kind n).perform d = d) ∧
    (∀ b data e, d.write b data = .error e → (Request.write b data).perform d = d) ∧
    ((issued { capacity } requests).Pairwise fun b b' => b.id.index < b'.id.index) ∧
    (∀ b ∈ issued { capacity } requests,
      d.layout? b.id = some (b.kind, b.length) ∨ d.layout? b.id = none) ∧
    (∀ later id, id.index ≤ d.lastId →
      (d.after later).layout? id = d.layout? id ∨ (d.after later).layout? id = none) ∧
    ∀ b c, d.read b = .ok c → (d.release b).used + c.byteSize = d.used := by
  intro d
  have hcapacity : d.capacity = capacity := capacity_after { capacity } requests
  have hbalanced : d.Balanced := (Balanced.ofCapacity capacity).after requests
  refine ⟨⟨hbalanced.used, fun limit hlimit => hbalanced.within limit (hcapacity ▸ hlimit)⟩, ?_, ?_,
    ?_, pairwise_issued _ requests, fun b hb => layout_of_mem_issued hb,
    fun later id hid => layout_after d later hid, fun b c hread => (hbalanced.used_release hread).1⟩
  · intro kind n
    rw [exists_allocate_error_iff, hcapacity]
  · intro kind n e he
    simp only [Request.perform, he]
  · intro b data e he
    simp only [Request.perform, he]

/-- A sequence written over words, a buffer released twice under handles that are not its own, and
requests that do not fit or go to a buffer that is gone. -/
def strayHandles : List Request :=
  [.allocate .int 4, .allocate .double 2, .write ⟨⟨1⟩, .int, 4⟩ (.sequence (.inclusive 1 4)),
    .allocate .double 9, .release ⟨⟨1⟩, .boolean, 7⟩, .release ⟨⟨1⟩, .int, 4⟩,
    .write ⟨⟨1⟩, .int, 4⟩ (.int [1, 2, 3, 4]), .allocate .boolean 3]

theorem memory_accounted_strayHandles :
    (after { capacity := some 64 } strayHandles).used = 19 ∧
      (after { capacity := some 64 } strayHandles).footprint = 19 ∧
      (issued { capacity := some 64 } strayHandles).map (·.id.index) = [1, 2, 3] ∧
      ∃ e, (after { capacity := some 64 } strayHandles).allocate .int 12 = .error e := by
  obtain ⟨⟨hused, -⟩, hfull, -⟩ := memory_accounted (some 64) strayHandles
  have hcount : (after { capacity := some 64 } strayHandles).used = 19 := rfl
  refine ⟨hcount, hused.symm.trans hcount, rfl, (hfull .int 12).2 ⟨64, rfl, ?_⟩⟩
  rw [hcount]
  decide

end Device

end TieredVectors
