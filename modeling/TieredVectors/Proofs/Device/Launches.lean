import TieredVectors.Proofs.Device.Buffers

/-!
# Launches

What a launch computes, stores and says.

* `Launch.Computed` — the rows computed are the kernel's results for the first rows of the input, up
  to one that is given up or up to as many as asked for (`Launch.compute_eq_ok`);
* `Launch.exists_giveUp_iff` — a row is given up iff the computation stops;
* `Launch.flag_eq_zero_iff` — the flag is zero iff no row was given up and the device does not force
  it;
* `Device.launch_touches`, `Device.launch_eq_ok` — a launch touches the outputs and the flag, and if
  it succeeds they hold the rows computed and the flag.
-/

namespace TieredVectors

namespace Launch

variable {kernel : Kernel} {scope : Scope} {columns : List Column} {length i count : Nat}
  {rows : List (List Scalar)} {stop : Option Nat}

/-- What has been computed from position `i` on: the kernel's results for the first rows, up to one
that is given up or up to as many as asked for, and the position of the one given up. -/
structure Computed (kernel : Kernel) (scope : Scope) (columns : List Column) (i count : Nat)
    (rows : List (List Scalar)) (stop : Option Nat) : Prop where
  length_le : rows.length ≤ count
  results : ∀ j out, rows[j]? = some out →
    ∃ row, columns.mapM (·.get? (i + j)) = some row ∧ kernel.run row scope = .ok out
  givenUp : rows.length < count →
    ∃ row reason, columns.mapM (·.get? (i + rows.length)) = some row ∧
      kernel.run row scope = .error reason
  stop_eq : stop = if rows.length < count then some (i + rows.length) else none

/-- If no row is given up there are results for all. -/
theorem Computed.length_eq (h : Computed kernel scope columns i count rows none) :
    rows.length = count := by
  have hstop := h.stop_eq
  split at hstop
  next => cases hstop
  next hlt => exact Nat.le_antisymm h.length_le (Nat.not_lt.1 hlt)

theorem compute_eq_ok (h : compute kernel scope columns length i count = .ok (rows, stop)) :
    Computed kernel scope columns i count rows stop := by
  induction count generalizing i rows stop with
  | zero =>
    obtain ⟨rfl, rfl⟩ := Prod.mk.inj (Except.ok.inj h)
    exact ⟨Nat.le_refl 0, by simp, fun hlt => absurd hlt (Nat.lt_irrefl 0), rfl⟩
  | succ count ih =>
    rw [compute] at h
    split at h
    next => cases h
    next row hrow =>
      split at h
      next reason hreason =>
        obtain ⟨rfl, rfl⟩ := Prod.mk.inj (Except.ok.inj h)
        exact ⟨Nat.zero_le _, by simp, fun _ => ⟨row, reason, hrow, hreason⟩,
          (if_pos (Nat.succ_pos count)).symm⟩
      next out hout =>
        obtain ⟨⟨outs, stop'⟩, hrest, hpure⟩ := bind_eq_ok.1 h
        obtain ⟨rfl, rfl⟩ := Prod.mk.inj (pure_eq_ok.1 hpure)
        obtain ⟨hle, hresults, hgivenUp, rfl⟩ := ih hrest
        -- the later rows are counted from the next position
        have hnext : ∀ j, i + 1 + j = i + (j + 1) := fun j => by omega
        simp only [hnext] at hresults hgivenUp ⊢
        refine ⟨Nat.succ_le_succ hle, fun j out' hj => ?_, fun hlt => ?_, ?_⟩
        · cases j with
          | zero =>
            obtain rfl : out = out' := by simpa using hj
            exact ⟨row, hrow, hout⟩
          | succ j => exact hresults j out' (by simpa using hj)
        · exact hgivenUp (Nat.lt_of_succ_lt_succ hlt)
        · simp only [List.length_cons, Nat.add_lt_add_iff_right]

/-- A row is given up iff the computation stops. -/
theorem exists_giveUp_iff
    (h : compute kernel scope columns length 0 count = .ok (rows, stop)) :
    (∃ i row reason, i < count ∧ columns.mapM (·.get? i) = some row ∧
      kernel.run row scope = .error reason) ↔ stop ≠ none := by
  have hcomputed := compute_eq_ok h
  constructor
  · rintro ⟨i, row, reason, hi, hrow, hreason⟩ rfl
    -- if it had not stopped there would be a result for that row
    obtain ⟨row', hrow', hout⟩ :=
      hcomputed.results i _ (List.getElem?_eq_getElem (hcomputed.length_eq.symm ▸ hi))
    rw [Nat.zero_add, hrow] at hrow'
    obtain rfl := Option.some.inj hrow'
    rw [hreason] at hout
    cases hout
  · intro hstop
    rw [hcomputed.stop_eq] at hstop
    split at hstop
    next hlt =>
      obtain ⟨row, reason, hrow, hreason⟩ := hcomputed.givenUp hlt
      rw [Nat.zero_add] at hrow
      exact ⟨rows.length, row, reason, hlt, hrow, hreason⟩
    next => exact absurd rfl hstop

/-- The flag is zero iff no row was given up and the device does not force it. -/
theorem flag_eq_zero_iff {force : Bool} {stop : Option Nat} :
    flag force stop = 0 ↔ force = false ∧ stop = none := by
  cases stop with
  | none => cases force <;> simp [flag]
  | some i =>
    -- rows are counted from one, and a count beyond all words is flagged by another number
    refine iff_of_false (fun h => ?_) (by simp)
    rw [flag] at h
    cases hw : Word.ofInt? (i + 1) with
    | none =>
      rw [hw] at h
      exact absurd h (by decide)
    | some w =>
      rw [hw, Option.getD_some] at h
      have hval := Word.ofInt?_eq_some_iff.1 hw
      rw [h] at hval
      have : (0 : Int32).toInt = 0 := by decide
      omega

end Launch

namespace Device

variable {d d' : Device} {l : Launch}

/-- A launch touches the outputs and the flag. -/
theorem launch_touches (d : Device) (l : Launch) :
    Touches (l.outputs.map (·.id) ++ [l.deopt.id]) d (d.launch l).2 := by
  have hcount : Touches (l.outputs.map (·.id) ++ [l.deopt.id]) d
      { d with launches := d.launches + 1 } :=
    ⟨fun _ _ => rfl, fun _ => rfl, rfl, rfl, rfl, rfl⟩
  rw [launch]
  split
  next => exact .refl _ d
  next kernel hkernel =>
    dsimp only
    split
    next => exact hcount
    next rows stop hrows =>
      have hstore := storeAll_touches { d with launches := d.launches + 1 } l.length
        (Launch.stores l.outputs 0 rows)
      have hstore' := hstore.mono (List.Subset.trans (stores_subset l.outputs 0 rows)
        (List.subset_append_left _ [l.deopt.id]))
      split
      next d₁ hd₁ =>
        rw [hd₁] at hstore'
        exact hcount.trans hstore'
      next d₁ hd₁ =>
        rw [hd₁] at hstore'
        split
        next => exact hcount.trans hstore'
        next d₂ hraise =>
          have hflag := (raise_eq_ok hraise).1.mono
            (List.subset_append_right (l.outputs.map (·.id)) _)
          exact (hcount.trans hstore').trans hflag

/-- The steps of a launch that succeeds. -/
theorem launch_eq_ok_iff {kernel : Kernel} (hkernel : l.kernel.kernel? = some kernel)
    {flag : Int32} :
    d.launch l = (.ok flag, d') ↔ ∃ columns rows stop d₁,
      l.inputs.mapM d.read = .ok columns ∧
      Launch.compute kernel l.scope columns l.length 0 l.length = .ok (rows, stop) ∧
      storeAll { d with launches := d.launches + 1 } l.length (Launch.stores l.outputs 0 rows) =
        (.ok (), d₁) ∧
      flag = Launch.flag d₁.forceDeopt stop ∧ d₁.raise l.deopt flag = .ok d' := by
  rw [launch, hkernel]
  dsimp only
  constructor
  · intro h
    split at h
    next => cases h
    next rows stop hcomputed =>
      obtain ⟨columns, hread, hcompute⟩ := bind_eq_ok.1 hcomputed
      split at h
      next => cases h
      next d₁ hstore =>
        split at h
        next => cases h
        next d₂ hraise =>
          obtain ⟨hflag, rfl⟩ := Prod.mk.inj h
          rw [Except.ok.inj hflag] at hraise
          exact ⟨columns, rows, stop, d₁, hread, hcompute, hstore, (Except.ok.inj hflag).symm,
            hraise⟩
  · rintro ⟨columns, rows, stop, d₁, hread, hcompute, hstore, rfl, hraise⟩
    rw [show l.inputs.mapM (read { d with launches := d.launches + 1 }) = .ok columns from hread]
    rw [show (Except.ok columns >>= fun columns =>
      Launch.compute kernel l.scope columns l.length 0 l.length) = .ok (rows, stop) from hcompute]
    dsimp only
    rw [hstore]
    dsimp only
    rw [hraise]

/-- A launch that succeeds has computed rows from what the inputs hold, has put them into the
outputs and has put the flag that says how it went into its buffer. -/
theorem launch_eq_ok {kernel : Kernel} (hkernel : l.kernel.kernel? = some kernel)
    (hnodup : (l.outputs.map (·.id) ++ [l.deopt.id]).Nodup) {flag : Int32}
    (h : d.launch l = (.ok flag, d')) :
    ∃ columns rows stop, l.inputs.mapM d.read = .ok columns ∧
      Launch.compute kernel l.scope columns l.length 0 l.length = .ok (rows, stop) ∧
      flag = Launch.flag d.forceDeopt stop ∧
      (∀ (f : Nat) (b : Buffer) (c : Column), l.outputs[f]? = some b →
        d.buffers.get? b.id = some c →
        ∃ c', d'.buffers.get? b.id = some c' ∧ c.setFrom 0 (rows.map (·[f]?)) = some c') ∧
      ∃ c, d'.buffers.get? l.deopt.id = some c ∧ c.get? 0 = some (.int flag) := by
  obtain ⟨columns, rows, stop, d₁, hread, hcompute, hstore, hflag, hraise⟩ :=
    (launch_eq_ok_iff hkernel).1 h
  obtain ⟨htouch, held, c, -, hset, hc⟩ := raise_eq_ok hraise
  have hcell : c.get? 0 = some (.int flag) := by
    obtain ⟨-, -, -, -, -, hcells⟩ := Column.set?_eq_some hset
    rw [hcells, if_pos rfl]
  have htouch₁ := storeAll_touches { d with launches := d.launches + 1 } l.length
    (Launch.stores l.outputs 0 rows)
  rw [hstore] at htouch₁
  rw [List.nodup_append] at hnodup
  refine ⟨columns, rows, stop, hread, hcompute, ?_, fun f b c hb hc => ?_, c, hc, hcell⟩
  · rw [hflag, htouch₁.forceDeopt]
  · obtain ⟨c', hc', hfrom⟩ := storeAll_stores hnodup.1 hstore hb hc
    refine ⟨c', ?_, hfrom⟩
    -- the flag does not stand in an output
    have hout : b.id ∈ l.outputs.map (·.id) := List.mem_map_of_mem (List.mem_of_getElem? hb)
    rw [htouch.frame b.id fun hmem => hnodup.2.2 b.id hout _ hmem rfl, hc']

end Device

/-- A kernel that doubles words. -/
def Kernel.doublingWords : Kernel where
  graph := { nodes := [.param 0, .binary .add 0 0], outputs := [1], anchors := [] }
  input := .scalar .int
  output := .scalar .int
  kinds := #[some .int, some .int]

end TieredVectors
