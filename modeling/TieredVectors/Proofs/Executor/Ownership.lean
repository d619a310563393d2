import Mathlib.Data.List.Nodup
import TieredVectors.Proofs.Device.Making
import TieredVectors.Proofs.Executor.Histories

/-!
# Who holds the buffers of a device

An executor gives its buffers back before it makes others, keeps those that it got when the rest do
not fit, and gives all of them back when it goes. On a bench, where nobody else makes buffers, none
is ever lost:

* `Executor.prepare_cases` — what can come of having buffers for a number of rows;
* `Executor.Exchanges e d e' d'` — the live buffers are those there were, but for those of `e`, and
  those of `e'`; so it is for whatever an executor does;
* `Bench.Owned` — the live buffers are those that the executors hold, which every request preserves;
* `Bench.buffers_owned` — this after any history, with what an executor holds once rows have been
  copied in.
-/

namespace TieredVectors

/-! ## What an executor takes and gives -/

namespace Executor

variable {e e' e'' : Executor} {d d' d'' : Device}

/-- The live buffers are those there were, but for those of `e`, and those of `e'`; and the device's
count of bytes is right. -/
structure Exchanges (e : Executor) (d : Device) (e' : Executor) (d' : Device) : Prop where
  balanced : d'.Balanced
  live : ∀ id, id ∈ d'.buffers.keys ↔ id ∈ d.buffers.keys ∧ id ∉ e.ids ∨ id ∈ e'.ids

/-- Where no buffer is made or given back, an executor that holds live buffers keeps them. -/
theorem exchanges_of_keys_eq (hown : ∀ id ∈ e.ids, id ∈ d.buffers.keys) (hbalanced : d'.Balanced)
    (hkeys : d'.buffers.keys = d.buffers.keys) : Exchanges e d e d' := by
  refine ⟨hbalanced, fun id => ?_⟩
  rw [hkeys]
  by_cases hid : id ∈ e.ids
  · simp [hid, hown id hid]
  · simp [hid]

/-- A further request that makes no buffer and gives none back. -/
theorem Exchanges.touches (h : Exchanges e d e' d') {touched : List BufferId}
    (ht : Device.Touches touched d' d'') : Exchanges e d e' d'' :=
  ⟨ht.change.balanced h.balanced, fun id => by rw [ht.keys]; exact h.live id⟩

theorem Exchanges.withLength (h : Exchanges e d e' d') (n : Nat) :
    Exchanges e d { e' with length := n } d' :=
  ⟨h.balanced, h.live⟩

theorem release_exchanges (h : d.Balanced) : Exchanges e d (e.release d).1 (e.release d).2 := by
  refine ⟨h.releaseAll e.buffers, fun id => ?_⟩
  have hnone : id ∉ (e.release d).1.ids := by simp [release, ids, buffers]
  rw [or_iff_left hnone]
  exact Device.mem_keys_releaseAll

/-- An executor that has given its buffers back and holds what has been made since. -/
theorem exchanges_of_made (hbalanced : d'.Balanced)
    (hkeys : d'.buffers.keys = (e.release d).2.buffers.keys ++ e'.ids) : Exchanges e d e' d' := by
  refine ⟨hbalanced, fun id => ?_⟩
  rw [hkeys, List.mem_append]
  exact or_congr_left Device.mem_keys_releaseAll

/-- The kinds and lengths of the buffers that the executor needs for `n` rows, in the order in which
they are made. -/
def demands (e : Executor) (n : Nat) : List (Kind × Nat) :=
  e.unit.input.kinds.map (·, n) ++ e.unit.output.kinds.map (·, n) ++ [(.int, 1)]

/-- All that having buffers can come to: those there are will do, or they are given back and new
ones are made, either all that are needed or those up to the first that does not fit. -/
theorem prepare_cases {n : Nat} {r : Except DeviceError Unit} (h : e.prepare d n = (r, e', d')) :
    (r = .ok () ∧ e' = e ∧ d' = d) ∨
      Device.Makes (e.release d).2 e'.buffers d' ∧
        (r = .ok () ∧ e.demands n = e'.buffers.map Buffer.layout ∨
          ∃ err kind m rest, r = .error err ∧ e'.deopt = none ∧
            e.demands n = e'.buffers.map Buffer.layout ++ (kind, m) :: rest ∧
            d'.allocate kind m = .error err) := by
  rw [prepare] at h
  split at h
  next =>
    obtain ⟨rfl, rfl, rfl⟩ := by simpa using h
    exact .inl ⟨rfl, rfl, rfl⟩
  next =>
    refine .inr ?_
    dsimp only at h
    -- the inputs, the outputs and the flag, each of which may be the first that does not fit
    split at h
    next err inputs d₁ hinputs =>
      obtain ⟨hmakes, -, hfull⟩ := Device.allocateAll_makes hinputs
      obtain ⟨kind, rest, hinput, hfull⟩ := hfull err rfl
      obtain ⟨rfl, rfl, rfl⟩ := by simpa using h
      refine ⟨by simpa [buffers, release] using hmakes, .inr ⟨err, kind, n,
        rest ++ e.unit.output.kinds.map (·, n) ++ [(.int, 1)], rfl, rfl, ?_, hfull⟩⟩
      simp [demands, show e.unit.input.kinds.map (·, n) = _ from hinput, buffers, release]
    next inputs d₁ hinputs =>
      obtain ⟨hmakes₁, hinput, -⟩ := Device.allocateAll_makes hinputs
      have hinput : e.unit.input.kinds.map (·, n) = _ := hinput rfl
      split at h
      next err outputs d₂ houtputs =>
        obtain ⟨hmakes₂, -, hfull⟩ := Device.allocateAll_makes houtputs
        obtain ⟨kind, rest, houtput, hfull⟩ := hfull err rfl
        obtain ⟨rfl, rfl, rfl⟩ := by simpa using h
        refine ⟨by simpa [buffers, release] using hmakes₁.append hmakes₂, .inr ⟨err, kind, n,
          rest ++ [(.int, 1)], rfl, rfl, ?_, hfull⟩⟩
        simp [demands, hinput, show e.unit.output.kinds.map (·, n) = _ from houtput, buffers,
          release]
      next outputs d₂ houtputs =>
        obtain ⟨hmakes₂, houtput, -⟩ := Device.allocateAll_makes houtputs
        have houtput : e.unit.output.kinds.map (·, n) = _ := houtput rfl
        have hmakes := hmakes₁.append hmakes₂
        split at h
        next err hfull =>
          obtain ⟨rfl, rfl, rfl⟩ := by simpa using h
          refine ⟨by simpa [buffers, release] using hmakes, .inr ⟨err, .int, 1, [], rfl, rfl, ?_,
            hfull⟩⟩
          simp [demands, hinput, houtput, buffers, release]
        next b d₃ hflag =>
          obtain ⟨hmakes₃, hlayout⟩ := Device.Makes.one hflag
          obtain ⟨rfl, rfl, rfl⟩ := by simpa using h
          refine ⟨by simpa [buffers, release] using hmakes.append hmakes₃, .inl ⟨rfl, ?_⟩⟩
          simp [demands, hinput, houtput, buffers, hlayout]

/-- Having buffers exchanges the old ones for the new, however many of these fit. -/
theorem prepare_exchanges (h : d.Balanced) (hown : ∀ id ∈ e.ids, id ∈ d.buffers.keys) {n : Nat}
    {r : Except DeviceError Unit} (hp : e.prepare d n = (r, e', d')) : Exchanges e d e' d' := by
  rcases prepare_cases hp with ⟨-, rfl, rfl⟩ | ⟨hmakes, -⟩
  · exact exchanges_of_keys_eq hown h rfl
  · have hgiven : (e.release d).2.Balanced := (release_exchanges h).balanced
    obtain ⟨hbalanced, hkeys⟩ := hmakes.keys hgiven
    exact exchanges_of_made hbalanced hkeys

/-- What is left to do when there are buffers makes no others. -/
theorem copyIn_cases (e : Executor) (d : Device) (input : ColumnArray) :
    e.copyIn d input = ((e.copyIn d input).1, e, d) ∨
      ∃ r e₁ d₁ touched n, e.prepare d input.length = (r, e₁, d₁) ∧
        (e.copyIn d input).2.1 = { e₁ with length := n } ∧
        Device.Touches touched d₁ (e.copyIn d input).2.2 := by
  rw [copyIn]
  split
  next => exact .inl rfl
  next =>
    refine .inr ?_
    split
    next err e₁ d₁ hp => exact ⟨_, e₁, d₁, [], e₁.length, hp, rfl, .refl _ _⟩
    next e₁ d₁ hp =>
      have hwrites := Device.writeAll_touches d₁ (e₁.inputs.zip input.columns)
      split
      next err d₂ hw =>
        rw [hw] at hwrites
        exact ⟨_, e₁, d₁, _, e₁.length, hp, rfl, hwrites⟩
      next d₂ hw =>
        rw [hw] at hwrites
        split
        next => exact ⟨_, e₁, d₁, _, e₁.length, hp, rfl, hwrites⟩
        next flag _ =>
          split
          next => exact ⟨_, e₁, d₁, _, e₁.length, hp, rfl, hwrites⟩
          next d₃ hclear =>
            have hclears := (Device.write_eq_ok hclear).1
            exact ⟨_, e₁, d₁, _, input.length, hp, rfl,
              (hwrites.mono (List.subset_append_left _ _)).trans
                (hclears.mono (List.subset_append_right _ _))⟩

/-- Copying rows in exchanges the old buffers for the new, whether it succeeds or fails. -/
theorem copyIn_exchanges (h : d.Balanced) (hown : ∀ id ∈ e.ids, id ∈ d.buffers.keys)
    (input : ColumnArray) :
    Exchanges e d (e.copyIn d input).2.1 (e.copyIn d input).2.2 := by
  rcases e.copyIn_cases d input with hsame | ⟨r, e₁, d₁, touched, n, hp, he, htouch⟩
  · rw [hsame]
    exact exchanges_of_keys_eq hown h rfl
  · rw [he]
    exact ((prepare_exchanges h hown hp).touches htouch).withLength n

/-- Buffers that are there for as many rows are used again. -/
theorem copyIn_keeps_buffers {b : Buffer} (hb : e.deopt = some b) {input : ColumnArray}
    (hlength : e.allocatedLength = input.length) :
    ∃ touched, Device.Touches touched d (e.copyIn d input).2.2 := by
  rcases e.copyIn_cases d input with hsame | ⟨r, e₁, d₁, touched, n, hp, -, htouch⟩
  · rw [hsame]
    exact ⟨[], .refl _ d⟩
  · have hkept : e.prepare d input.length = (.ok (), e, d) := by simp [prepare, hb, hlength]
    obtain ⟨-, -, rfl⟩ : .ok () = r ∧ e = e₁ ∧ d = d₁ := by simpa [hkept] using hp
    exact ⟨touched, htouch⟩

/-- An executor with a flag holds a buffer for each field of its rows and the flag. -/
theorem Ready.length_ids (h : e.Ready d) {b : Buffer} (hb : e.deopt = some b) :
    e.ids.length = e.unit.input.width + e.unit.output.width + 1 := by
  have hflag : e.deopt.isSome := by simp [hb]
  simp only [ids, buffers, List.length_map, List.length_append, hb, Option.toList_some,
    List.length_singleton, (h.inputs hflag).length_eq, (h.outputs hflag).length_eq, RowType.width]

end Executor

/-! ## On a bench -/

namespace Bench

variable {b b' : Bench} {n : Nat}

/-- The numbers of the buffers that an executor holds; none if there is no such executor. -/
def holding (b : Bench) (n : Nat) : List BufferId := ((b.executors.get? n).map Executor.ids).getD []

theorem mem_holding_iff {id : BufferId} :
    id ∈ b.holding n ↔ ∃ e, b.executors.get? n = some e ∧ id ∈ e.ids := by
  cases h : b.executors.get? n <;> simp [holding, h]

theorem holding_of_get? {e : Executor} (h : b.executors.get? n = some e) : b.holding n = e.ids := by
  simp [holding, h]

/-- The live buffers are those that the executors hold. -/
structure Owned (b : Bench) : Prop where
  fleet : b.Fleet
  balanced : b.device.Balanced
  live : ∀ id, id ∈ b.device.buffers.keys ↔ ∃ n, id ∈ b.holding n

/-- The executor of number `n` takes buffers for others, and the other executors keep theirs. -/
structure Trades (n : Nat) (b b' : Bench) : Prop where
  others : ∀ k, k ≠ n → b'.holding k = b.holding k
  balanced : b'.device.Balanced
  live : ∀ id, id ∈ b'.device.buffers.keys ↔
    id ∈ b.device.buffers.keys ∧ id ∉ b.holding n ∨ id ∈ b'.holding n

/-- What makes no buffer and gives none back. -/
theorem Owned.trades_of_keys_eq (h : b.Owned) (n : Nat) (hholding : ∀ k, b'.holding k = b.holding k)
    (hbalanced : b'.device.Balanced) (hkeys : b'.device.buffers.keys = b.device.buffers.keys) :
    Trades n b b' := by
  refine ⟨fun k _ => hholding k, hbalanced, fun id => ?_⟩
  rw [hkeys, hholding]
  by_cases hid : id ∈ b.holding n
  · simp [hid, (h.live id).2 ⟨n, hid⟩]
  · simp [hid]

/-- An executor that exchanges buffers. -/
theorem trades_of_exchanges {e e' : Executor} (he : b.executors.get? n = some e)
    (he' : b'.holding n = e'.ids) (hothers : ∀ k, k ≠ n → b'.executors.get? k = b.executors.get? k)
    (hexchanges : e.Exchanges b.device e' b'.device) : Trades n b b' := by
  refine ⟨fun k hk => by rw [holding, holding, hothers k hk], hexchanges.balanced, fun id => ?_⟩
  rw [he', holding_of_get? he]
  exact hexchanges.live id

/-- Every request has one executor at most exchange its buffers. -/
theorem Request.trades (h : b.Owned) (request : Request) :
    ∃ n, Trades n b (request.perform b) := by
  have hsame : Trades 0 b b := h.trades_of_keys_eq 0 (fun _ => rfl) h.balanced rfl
  have hown {n : Nat} {e : Executor} (he : b.executors.get? n = some e) :
      ∀ id ∈ e.ids, id ∈ b.device.buffers.keys := by
    intro id hid
    exact (h.live id).2 ⟨n, mem_holding_iff.2 ⟨e, he, hid⟩⟩
  cases request with
  | make n unit =>
    rw [perform]
    split
    · exact ⟨0, hsame⟩
    next hnew =>
      -- the new executor holds nothing yet
      refine ⟨n, h.trades_of_keys_eq n (fun k => ?_) h.balanced rfl⟩
      rw [holding, holding, Table.get?_insert]
      split
      next hk =>
        have hnone : b.executors.get? k = none := by
          rw [hk, ← Option.not_isSome_iff_eq_none]
          exact hnew
        simp [hnone, Executor.ofUnit, Executor.ids, Executor.buffers]
      next => rfl
  | copyIn n input =>
    rw [perform]
    split
    next => exact ⟨0, hsame⟩
    next e he =>
      refine ⟨n, trades_of_exchanges he ?_ (fun k hk => ?_)
        (Executor.copyIn_exchanges h.balanced (hown he) input)⟩
      · exact holding_of_get? (by simp)
      · simp [hk]
  | run n =>
    rw [perform]
    split
    next => exact ⟨0, hsame⟩
    next e he =>
      obtain ⟨touched, -, htouch⟩ := e.run_touches b.device
      have hbalanced := htouch.change.balanced h.balanced
      exact ⟨n, h.trades_of_keys_eq n (fun _ => rfl) hbalanced htouch.keys⟩
  | copyOut n => exact ⟨0, hsame⟩
  | readFlag n => exact ⟨0, hsame⟩
  | drop n =>
    rw [perform]
    split
    next => exact ⟨0, hsame⟩
    next e he =>
      refine ⟨n, trades_of_exchanges he ?_ (fun k hk => ?_)
        (Executor.release_exchanges h.balanced)⟩
      · simp [holding, Executor.release, Executor.ids, Executor.buffers]
      · simp [hk]
  | setForceDeopt force =>
    have hchange := (Device.Request.setForceDeopt force).change b.device
    exact ⟨0, h.trades_of_keys_eq 0 (fun _ => rfl) (hchange.balanced h.balanced) rfl⟩

/-- No two executors hold the same buffer. -/
theorem Owned.apart (h : b.Owned) {k : Nat} (hk : k ≠ n) {id : BufferId} (hid : id ∈ b.holding k) :
    id ∉ b.holding n := by
  intro hmem
  obtain ⟨e, he, hid⟩ := mem_holding_iff.1 hid
  obtain ⟨e', he', hid'⟩ := mem_holding_iff.1 hmem
  exact h.fleet.apart k n e e' hk he he' id hid hid'

theorem Owned.perform (h : b.Owned) (request : Request) : (request.perform b).Owned := by
  obtain ⟨n, htrades⟩ := request.trades h
  refine ⟨(request.change h.fleet).fleet h.fleet, htrades.balanced, fun id => ?_⟩
  rw [htrades.live, h.live]
  constructor
  · rintro (⟨⟨k, hk⟩, hother⟩ | hid)
    · refine ⟨k, ?_⟩
      rwa [htrades.others k (by rintro rfl; exact hother hk)]
    · exact ⟨n, hid⟩
  · rintro ⟨k, hid⟩
    by_cases hk : k = n
    · exact .inr (hk ▸ hid)
    · rw [htrades.others k hk] at hid
      exact .inl ⟨⟨k, hid⟩, h.apart hk hid⟩

theorem Owned.after (h : b.Owned) (requests : List Request) : (b.after requests).Owned := by
  induction requests generalizing b with
  | nil => exact h
  | cons request requests ih => exact ih (h.perform request)

/-- Nobody holds a buffer of a new device. -/
theorem owned_of_capacity (capacity : Option Nat) : Owned { device := { capacity } } :=
  ⟨fleet_of_device _, .ofCapacity capacity, fun id =>
    iff_of_false (fun hid => by cases hid) fun ⟨n, hid⟩ => by cases hid⟩

/-- The live buffers, in some order, are those of one executor after the other, each once. -/
theorem Owned.perm (h : b.Owned) :
    (b.executors.values.flatMap Executor.ids).Nodup ∧
      b.device.buffers.keys.Perm (b.executors.values.flatMap Executor.ids) := by
  have hnodup : (b.executors.values.flatMap Executor.ids).Nodup := by
    rw [List.nodup_flatMap]
    refine ⟨fun e he => ?_, Table.pairwise_values fun k k' e e' hne he he' => ?_⟩
    · obtain ⟨k, hk⟩ := Table.mem_values_iff.1 he
      exact (h.fleet.ready k e hk).nodup
    · exact fun id hid hid' => h.fleet.apart k k' e e' hne he he' id hid hid'
  refine ⟨hnodup, (List.perm_ext_iff_of_nodup b.device.buffers.nodup hnodup).2 fun id => ?_⟩
  show id ∈ b.device.buffers.keys ↔ _
  rw [h.live, List.mem_flatMap]
  simp only [mem_holding_iff, Table.mem_values_iff]
  constructor
  · rintro ⟨n, e, he, hid⟩
    exact ⟨e, ⟨n, he⟩, hid⟩
  · rintro ⟨e, ⟨n, he⟩, hid⟩
    exact ⟨n, e, he, hid⟩

/-- Whether a request may change which buffers an executor holds. -/
def Request.Reshapes (n : Nat) : Request → Prop
  | copyIn m _ | drop m => m = n
  | make _ _ | run _ | copyOut _ | readFlag _ | setForceDeopt _ => False

/-- An executor stays as it is until rows are copied in or it is dropped. -/
theorem Request.get?_perform {request : Request} (hrequest : ¬ request.Reshapes n) {e : Executor}
    (he : b.executors.get? n = some e) : (request.perform b).executors.get? n = some e := by
  cases request with
  | make m unit =>
    rw [perform]
    split
    next => exact he
    next hnew =>
      have hne : n ≠ m := by
        rintro rfl
        exact hnew (by simp [Table.contains, he])
      simp [hne, he]
  | copyIn m input =>
    have hne : n ≠ m := fun heq => hrequest heq.symm
    rw [perform]
    split <;> simp [hne, he]
  | run m =>
    rw [perform]
    split <;> exact he
  | copyOut m => exact he
  | readFlag m => exact he
  | drop m =>
    have hne : n ≠ m := fun heq => hrequest heq.symm
    rw [perform]
    split <;> simp [hne, he]
  | setForceDeopt force => exact he

theorem get?_after {requests : List Request}
    (hrequests : ∀ request ∈ requests, ¬ request.Reshapes n) {e : Executor}
    (he : b.executors.get? n = some e) :
    (b.after requests).executors.get? n = some e := by
  induction requests generalizing b with
  | nil => exact he
  | cons request requests ih =>
    rw [List.forall_mem_cons] at hrequests
    exact ih hrequests.2 (Request.get?_perform hrequests.1 he)

/-- Once rows have been copied in there is a flag, and the buffers are made for that many rows. -/
theorem Fleet.copied (h : b.Fleet) {input : ColumnArray}
    (hcopied : (Request.copyIn n input).answer b = some (.done (.ok ()))) :
    ∃ e flag, ((Request.copyIn n input).perform b).executors.get? n = some e ∧
      e.deopt = some flag ∧ e.allocatedLength = input.length := by
  obtain ⟨e, he, hanswer⟩ := Option.map_eq_some_iff.1 hcopied
  rcases hc : e.copyIn b.device input with ⟨r, e₁, d₁⟩
  obtain rfl : r = .ok () := by simpa [hc] using hanswer
  obtain ⟨-, -, -, hok⟩ := Executor.copyIn_eq (h.ready n e he) hc
  obtain ⟨hflag, hlength, -⟩ := hok rfl
  obtain ⟨flag, hflag⟩ := Option.isSome_iff_exists.1 hflag
  exact ⟨e₁, flag, by simp [Request.perform, he, hc], hflag, hlength⟩

/-- Buffers are owned by executors. Take any history of a bench with a new device.

* The live buffers are those of one executor after the other, and no buffer is held twice.
* Once rows have been copied in, and until that is tried again or the executor is dropped, the
  executor holds a buffer for each field of the input and of the output, made for that many rows,
  and the flag; and when as many rows are copied in next, no buffer is made.
* When there is no executor left there is no live buffer, and no byte is counted as used. -/
theorem buffers_owned (capacity : Option Nat) (history : List Request) :
    let b := after { device := { capacity } } history
    ((b.executors.values.flatMap Executor.ids).Nodup ∧
      b.device.buffers.keys.Perm (b.executors.values.flatMap Executor.ids)) ∧
    (∀ n input later, (Request.copyIn n input).answer b = some (.done (.ok ())) →
      (∀ request ∈ later, ¬ request.Reshapes n) →
      let b' := b.after (.copyIn n input :: later)
      ∃ e flag, b'.executors.get? n = some e ∧
        e.ids.length = e.unit.input.width + e.unit.output.width + 1 ∧
        b'.device.Holds e.inputs e.unit.input.kinds input.length ∧
        b'.device.Holds e.outputs e.unit.output.kinds input.length ∧
        e.deopt = some flag ∧ b'.device.layout? flag.id = some (.int, 1) ∧
        ∀ next : ColumnArray, next.length = input.length →
          let b'' := (Request.copyIn n next).perform b'
          b''.device.allocations = b'.device.allocations ∧
            b''.device.buffers.keys = b'.device.buffers.keys) ∧
    (b.executors.isEmpty → b.device.liveBuffers = 0 ∧ b.device.used = 0) := by
  intro b
  have howned : b.Owned := (owned_of_capacity capacity).after history
  refine ⟨howned.perm, fun n input later hcopied hlater => ?_, fun hempty => ?_⟩
  · intro b'
    have howned' : b'.Owned := howned.after (.copyIn n input :: later)
    obtain ⟨e, flag, he, hflag, hlength⟩ := howned.fleet.copied hcopied
    have he' : b'.executors.get? n = some e := get?_after hlater he
    have hready := howned'.fleet.ready n e he'
    have hsome : e.deopt.isSome := by simp [hflag]
    refine ⟨e, flag, he', hready.length_ids hflag, hlength ▸ hready.inputs hsome,
      hlength ▸ hready.outputs hsome, hflag, hready.flag flag hflag, fun next hnext => ?_⟩
    intro b''
    have hdevice : b''.device = (e.copyIn b'.device next).2.2 := by
      simp [b'', Request.perform, he']
    -- the buffers that are there are written to
    obtain ⟨touched, htouch⟩ :=
      Executor.copyIn_keeps_buffers (d := b'.device) hflag (hlength.trans hnext.symm)
    rw [hdevice]
    exact ⟨congrArg (·.2.2) htouch.books, htouch.keys⟩
  · have hentries : b.executors.entries = [] := List.isEmpty_iff.1 hempty
    have hnone : b.executors.values = [] := by simp [Table.values, hentries]
    have hkeys : b.device.buffers.keys = [] := by simpa [hnone] using howned.perm.2
    have hbuffers : b.device.buffers.entries = [] := List.map_eq_nil_iff.1 hkeys
    refine ⟨?_, ?_⟩
    · simp [Device.liveBuffers, Table.size, hbuffers]
    · rw [howned.balanced.used]
      simp [Device.footprint, Table.total, Table.values, hbuffers]

/-- Rows for which there is room for one of the three buffers, and rows of another executor. -/
def crowdedHistory : List Request :=
  [.make 0 doubling, .make 1 doubling, .copyIn 0 (words (List.replicate 12 1))]

theorem buffers_owned_crowded :
    (Request.copyIn 1 (words [5, 6])).answer
        (after { device := { capacity := some 68 } } crowdedHistory) = some (.done (.ok ())) ∧
      ((after { device := { capacity := some 68 } } crowdedHistory).device.liveBuffers = 1) ∧
      (∃ e, (after { device := { capacity := some 68 } } (crowdedHistory ++
          [.copyIn 1 (words [5, 6]), .run 1, .drop 0])).executors.get? 1 = some e ∧
        e.ids.length = 3) ∧
      (after { device := { capacity := some 68 } } (crowdedHistory ++
        [.copyIn 1 (words [5, 6]), .run 1, .drop 0, .drop 1])).device.used = 0 := by
  have hcopied : (Request.copyIn 1 (words [5, 6])).answer
      (after { device := { capacity := some 68 } } crowdedHistory) = some (.done (.ok ())) := rfl
  obtain ⟨-, hheld, -⟩ := buffers_owned (some 68) crowdedHistory
  obtain ⟨e, flag, he, hlength, -⟩ :=
    hheld 1 _ [.run 1, .drop 0] hcopied (by simp [Request.Reshapes])
  obtain ⟨-, -, hleft⟩ := buffers_owned (some 68) (crowdedHistory ++
    [.copyIn 1 (words [5, 6]), .run 1, .drop 0, .drop 1])
  have hunit : (after { device := { capacity := some 68 } } (crowdedHistory ++
      [.copyIn 1 (words [5, 6]), .run 1, .drop 0])).executors.get? 1 = some e := he
  refine ⟨hcopied, rfl, ⟨e, hunit, ?_⟩, (hleft rfl).2⟩
  obtain ⟨e', he', hwidth⟩ : ∃ e', (after { device := { capacity := some 68 } } (crowdedHistory ++
      [.copyIn 1 (words [5, 6]), .run 1, .drop 0])).executors.get? 1 = some e' ∧
      e'.unit = doubling := ⟨_, rfl, rfl⟩
  obtain rfl : e = e' := Option.some.inj (hunit.symm.trans he')
  rw [hlength, hwidth]
  rfl

end Bench

end TieredVectors
