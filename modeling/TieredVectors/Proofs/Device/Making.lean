import TieredVectors.Proofs.Device.Accounting

/-!
# Making buffers one after the other

Buffers are made in order, up to the first that does not fit, and given back in any order.

* `Device.Makes d bs d'` — the buffers `bs` are made, one after the other;
* `Device.Makes.keys`, `Device.Makes.used` — which buffers are live then, and how many bytes are in
  use;
* `Device.Makes.releaseAll` — once they are given back, the live buffers and the bytes in use are
  those from before;
* `Device.allocateAll_makes` — which buffers have been made when one does not fit.
-/

namespace TieredVectors

/-- The kind and the length with which a buffer was made. -/
def Buffer.layout (b : Buffer) : Kind × Nat := (b.kind, b.length)

namespace Device

variable {d d' d'' : Device} {b : Buffer} {bs bs' : List Buffer} {n : Nat}

/-- The bytes that buffers of the given kinds and lengths take up. -/
def bytesOf : List (Kind × Nat) → Nat
  | [] => 0
  | l :: layouts => l.1.byteSize * l.2 + bytesOf layouts

/-- The buffers are made, one after the other. -/
inductive Makes : Device → List Buffer → Device → Prop where
  | nil (d : Device) : Makes d [] d
  | cons {d d₁ d' : Device} {b : Buffer} {bs : List Buffer}
      (first : d.allocate b.kind b.length = .ok (b, d₁)) (rest : Makes d₁ bs d') :
      Makes d (b :: bs) d'

namespace Makes

theorem append (h : Makes d bs d') (h' : Makes d' bs' d'') : Makes d (bs ++ bs') d'' := by
  induction h with
  | nil d => exact h'
  | cons first _ ih => exact .cons first (ih h')

/-- One buffer that is made. -/
theorem one {kind : Kind} (h : d.allocate kind n = .ok (b, d')) :
    Makes d [b] d' ∧ b.layout = (kind, n) := by
  have hb := (of_allocate h).2.1
  subst hb
  exact ⟨.cons h (.nil d'), rfl⟩

theorem grows (h : Makes d bs d') : Grows d d' bs := by
  induction h with
  | nil d => exact .refl d
  | cons first _ ih => exact (allocate_eq_ok first).1.trans ih

theorem capacity (h : Makes d bs d') : d'.capacity = d.capacity := by
  induction h with
  | nil d => rfl
  | cons first _ ih => exact ih.trans (Change.make first).capacity_eq

/-- New buffers come after those there are. -/
theorem keys (h : Makes d bs d') (hd : d.Balanced) :
    d'.Balanced ∧ d'.buffers.keys = d.buffers.keys ++ bs.map (·.id) := by
  induction h with
  | nil d => exact ⟨hd, by simp⟩
  | cons first _ ih =>
    obtain ⟨hbalanced, hkeys⟩ := ih (hd.allocate first)
    refine ⟨hbalanced, ?_⟩
    rw [hkeys, hd.keys_allocate first, List.map_cons, List.append_assoc, List.singleton_append]

theorem used (h : Makes d bs d') : d'.used = d.used + bytesOf (bs.map Buffer.layout) := by
  induction h with
  | nil d => rfl
  | cons first _ ih =>
    obtain ⟨-, -, rfl⟩ := of_allocate first
    rw [ih, List.map_cons, bytesOf, ← Nat.add_assoc]
    rfl

/-- Where a further buffer does not fit, none has been made iff the first does not fit. -/
theorem eq_nil_iff (h : Makes d bs d') {l : Kind × Nat} (hfull : ¬ d'.Fits (bytesOf [l]))
    (rest : List (Kind × Nat)) :
    bs = [] ↔ ∃ first ∈ (bs.map Buffer.layout ++ l :: rest).head?, ¬ d.Fits (bytesOf [first]) := by
  cases h with
  | nil => exact iff_of_true rfl ⟨l, rfl, hfull⟩
  | cons first _ =>
    refine iff_of_false (List.cons_ne_nil _ _) ?_
    rintro ⟨_, ⟨rfl⟩, hnone⟩
    exact hnone (of_allocate first).1

end Makes

/-! ## Giving buffers back -/

theorem Balanced.releaseAll (h : d.Balanced) (bs : List Buffer) : (d.releaseAll bs).Balanced := by
  induction bs generalizing d with
  | nil => exact h
  | cons b bs ih => exact ih (h.release b)

theorem keys_releaseAll (d : Device) (bs : List Buffer) :
    (d.releaseAll bs).buffers.keys = d.buffers.keys.filter (· ∉ bs.map (·.id)) := by
  induction bs generalizing d with
  | nil => simp [releaseAll]
  | cons b bs ih =>
    have hrest : (d.releaseAll (b :: bs)).buffers.keys =
        (d.release b).buffers.keys.filter (· ∉ bs.map (·.id)) := ih (d.release b)
    rw [hrest, keys_release, List.filter_filter]
    refine List.filter_congr fun id _ => ?_
    rw [List.map_cons, ← Bool.decide_and, decide_eq_decide, List.mem_cons, not_or, and_comm]

/-- Buffers that have been given back are no longer live, and all others are. -/
theorem mem_keys_releaseAll {id : BufferId} :
    id ∈ (d.releaseAll bs).buffers.keys ↔ id ∈ d.buffers.keys ∧ id ∉ bs.map (·.id) := by
  rw [keys_releaseAll, List.mem_filter, decide_eq_true_eq]

/-- Once new buffers are given back, the live buffers and the bytes in use are those from before. -/
theorem Makes.releaseAll (h : Makes d bs d') (hd : d.Balanced) :
    (d'.releaseAll bs).buffers.keys = d.buffers.keys ∧ (d'.releaseAll bs).used = d.used := by
  obtain ⟨hbalanced, hkeys⟩ := h.keys hd
  -- the new buffers have numbers that had not been given
  have hnew : ∀ id ∈ d.buffers.keys, id ∉ bs.map (·.id) := by
    intro id hid hmem
    obtain ⟨b, hb, rfl⟩ := List.mem_map.1 hmem
    have hlt := (h.grows.fresh b hb).1
    have hle := hd.numbered _ hid
    omega
  have hlive : (d'.releaseAll bs).buffers.keys = d.buffers.keys := by
    rw [keys_releaseAll, hkeys, List.filter_append,
      List.filter_eq_self.2 fun id hid => decide_eq_true (hnew id hid),
      List.filter_eq_nil_iff.2 fun id hid => by simpa using hid, List.append_nil]
  refine ⟨hlive, ?_⟩
  rw [(hbalanced.releaseAll bs).used, hd.used]
  refine Table.total_congr hlive fun id => ?_
  by_cases hid : id ∈ d.buffers.keys
  · rw [(releaseAll_frame d' bs).1 id (hnew id hid), h.grows.frame id (hd.numbered id hid)]
  · rw [Table.get?_eq_none_iff.2 hid, Table.get?_eq_none_iff.2 (hlive ▸ hid)]

/-! ## Buffers that do not fit -/

/-- What a device says when there is no room for a buffer. -/
theorem allocate_eq_error {kind : Kind} {err : DeviceError} (h : d.allocate kind n = .error err) :
    ∃ limit ∈ d.capacity, limit < d.used + kind.byteSize * n ∧
      err = .outOfMemory (kind.byteSize * n) (limit - d.used) := by
  obtain ⟨limit, hlimit, hlt⟩ := exists_allocate_error_iff.1 ⟨err, h⟩
  have hcapacity : d.capacity = some limit := hlimit
  have hfull : ¬ d.Fits (kind.byteSize * n) := fun hfits =>
    absurd (hfits limit hlimit) (Nat.not_le.2 hlt)
  refine ⟨limit, hlimit, hlt, ?_⟩
  rw [allocate, if_neg hfull, hcapacity] at h
  exact (Except.error.inj h).symm

/-- Buffers are made up to the first that does not fit. -/
theorem allocateAll_makes {kinds : List Kind} {r : Except DeviceError Unit}
    (h : d.allocateAll n kinds = (r, bs, d')) :
    Makes d bs d' ∧
      (r = .ok () → kinds.map (·, n) = bs.map Buffer.layout) ∧
      ∀ err, r = .error err → ∃ kind rest,
        kinds.map (·, n) = bs.map Buffer.layout ++ (kind, n) :: rest ∧
          d'.allocate kind n = .error err := by
  induction kinds generalizing d bs with
  | nil =>
    obtain ⟨rfl, rfl, rfl⟩ : r = .ok () ∧ bs = [] ∧ d = d' := by
      simpa [allocateAll, eq_comm] using h
    exact ⟨.nil d, fun _ => rfl, fun err herr => by cases herr⟩
  | cons k ks ih =>
    rw [allocateAll] at h
    split at h
    next err hfull =>
      obtain ⟨rfl, rfl, rfl⟩ : r = .error err ∧ bs = [] ∧ d = d' := by simpa [eq_comm] using h
      refine ⟨.nil d, fun hok => (by cases hok), fun err' herr => ?_⟩
      obtain rfl := Except.error.inj herr
      exact ⟨k, ks.map (·, n), rfl, hfull⟩
    next b d₁ hfirst =>
      rcases hrest : d₁.allocateAll n ks with ⟨r', bs', d₂⟩
      rw [hrest] at h
      obtain ⟨rfl, rfl, rfl⟩ : r = r' ∧ bs = b :: bs' ∧ d₂ = d' := by simpa [eq_comm] using h
      obtain ⟨hmakes, hall, hsome⟩ := ih hrest
      obtain ⟨hone, hlayout⟩ := Makes.one hfirst
      refine ⟨hone.append hmakes, fun hok => ?_, fun err herr => ?_⟩
      · rw [List.map_cons, List.map_cons, hlayout, hall hok]
      · obtain ⟨kind, rest, hsplit, hfull⟩ := hsome err herr
        exact ⟨kind, rest, by rw [List.map_cons, List.map_cons, hlayout, hsplit]; rfl, hfull⟩

end Device

end TieredVectors
