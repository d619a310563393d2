import TieredVectors.Proofs.Device.Launches

/-!
# The effects of a launch

What a device holds after a launch, cell by cell, in terms of what it held before. Rows are read
before anything is written, so the inputs may be outputs as well, or the flag's buffer.

* `Launch.outcome?` — what the kernel makes of a row that the inputs hold;
* `Launch.StopsAt l kernel d n` — row `n` is the first one that is given up, or `n` rows were asked
  for and none is; `Launch.stopsAt_of_compute` and `Launch.StopsAt.exists_compute` say that this is
  what the computation finds out;
* `Device.Takes d b i s` — a scalar can be put into a buffer at a position. Storing keeps this
  (`Device.takes_iff_of_store`), so it can be said of all stores beforehand
  (`Device.exists_storeAll_iff`);
* `Device.exists_launch_iff` — which launches succeed.

`Device.launch_effects` is the specification.
-/

namespace TieredVectors

namespace Device

/-- The element at a position of what a buffer holds. -/
def cell? (d : Device) (b : Buffer) (i : Nat) : Option Scalar := d.buffers.get? b.id >>= (·.get? i)

/-- The elements at a position of what several buffers hold. -/
def row? (d : Device) (bs : List Buffer) (i : Nat) : Option (List Scalar) := bs.mapM (d.cell? · i)

variable {d d' : Device} {b : Buffer}

theorem cell?_of_get? {c : Column} (h : d.buffers.get? b.id = some c) (i : Nat) :
    d.cell? b i = c.get? i := by
  rw [cell?, h]
  rfl

/-- A buffer that is not live has no cells, and gets none while no buffer is made. -/
theorem cell?_of_layout (h : d.buffers.get? b.id = none)
    (hlayout : d'.layout? b.id = d.layout? b.id) (i : Nat) : d'.cell? b i = d.cell? b i := by
  have h' : d'.buffers.get? b.id = none := by
    rwa [layout?, layout?, h, Option.map_none, Option.map_eq_none_iff] at hlayout
  rw [cell?, cell?, h, h']

/-- The rows of the columns that have been read are those that the buffers hold. -/
theorem row?_of_read {bs : List Buffer} {columns : List Column}
    (h : bs.mapM d.read = .ok columns) (i : Nat) : d.row? bs i = columns.mapM (·.get? i) := by
  induction bs generalizing columns with
  | nil =>
    obtain rfl := pure_eq_ok.1 h
    rfl
  | cons b bs ih =>
    rw [List.mapM_cons] at h
    obtain ⟨c, hc, h⟩ := bind_eq_ok.1 h
    obtain ⟨cs, hcs, h⟩ := bind_eq_ok.1 h
    obtain rfl := pure_eq_ok.1 h
    rw [row?, List.mapM_cons, List.mapM_cons, cell?_of_get? (read_eq_ok_iff.1 hc)]
    rw [← ih hcs, row?]

/-- Buffers can be read iff they are live. -/
theorem exists_read_iff {bs : List Buffer} :
    (∃ columns, bs.mapM d.read = .ok columns) ↔ ∀ b ∈ bs, ∃ c, d.buffers.get? b.id = some c := by
  induction bs with
  | nil => exact iff_of_true ⟨[], rfl⟩ (List.forall_mem_nil _)
  | cons b bs ih =>
    rw [List.forall_mem_cons, ← ih, List.mapM_cons]
    constructor
    · rintro ⟨columns, h⟩
      obtain ⟨c, hc, h⟩ := bind_eq_ok.1 h
      obtain ⟨cs, hcs, -⟩ := bind_eq_ok.1 h
      exact ⟨⟨c, read_eq_ok_iff.1 hc⟩, cs, hcs⟩
    · rintro ⟨⟨c, hc⟩, cs, hcs⟩
      exact ⟨c :: cs, bind_eq_ok.2 ⟨c, read_eq_ok_iff.2 hc, bind_eq_ok.2 ⟨cs, hcs, rfl⟩⟩⟩

end Device

/-! ## Where the computation stops -/

namespace Launch

variable {kernel : Kernel} {scope : Scope} {columns : List Column} {length i count n : Nat}
  {rows : List (List Scalar)} {stop : Option Nat} {l : Launch} {d : Device}

/-- Rows that have results, up to one that is given up or up to the last, can be computed. -/
theorem exists_compute (hn : n ≤ count)
    (hresults : ∀ j < n, ∃ row out, columns.mapM (·.get? (i + j)) = some row ∧
      kernel.run row scope = .ok out)
    (hgivenUp : n < count → ∃ row reason, columns.mapM (·.get? (i + n)) = some row ∧
      kernel.run row scope = .error reason) :
    ∃ rows stop, compute kernel scope columns length i count = .ok (rows, stop) ∧
      rows.length = n := by
  -- on the number of rows asked for; the first of them is given up iff `n` is zero
  induction count generalizing i n with
  | zero => exact ⟨[], none, rfl, (Nat.le_zero.1 hn).symm⟩
  | succ count ih =>
    cases n with
    | zero =>
      obtain ⟨row, reason, hrow, hrun⟩ := hgivenUp (Nat.succ_pos count)
      rw [Nat.add_zero] at hrow
      refine ⟨[], some i, ?_, rfl⟩
      rw [compute, hrow]
      dsimp only
      rw [hrun]
    | succ n =>
      obtain ⟨row, out, hrow, hrun⟩ := hresults 0 (Nat.succ_pos n)
      rw [Nat.add_zero] at hrow
      have hnext : ∀ j, i + 1 + j = i + (j + 1) := fun j => by omega
      obtain ⟨rows, stop, hrest, hlength⟩ := ih (Nat.le_of_succ_le_succ hn)
        (fun j hj => by rw [hnext]; exact hresults (j + 1) (Nat.succ_lt_succ hj))
        (fun hlt => by rw [hnext]; exact hgivenUp (Nat.succ_lt_succ hlt))
      refine ⟨out :: rows, stop, ?_, by rw [List.length_cons, hlength]⟩
      rw [compute, hrow]
      dsimp only
      rw [hrun]
      exact bind_eq_ok.2 ⟨(rows, stop), hrest, rfl⟩

/-- What the kernel makes of a row of the inputs, if there is such a row. -/
def outcome? (l : Launch) (kernel : Kernel) (d : Device) (i : Nat) :
    Option (Except GiveUp (List Scalar)) :=
  (d.row? l.inputs i).map (kernel.run · l.scope)

/-- Row `n` is the first that is given up, or `n` rows are asked for and none is. -/
structure StopsAt (l : Launch) (kernel : Kernel) (d : Device) (n : Nat) : Prop where
  le : n ≤ l.length
  results : ∀ i < n, ∃ out, l.outcome? kernel d i = some (.ok out)
  givenUp : n < l.length → ∃ reason, l.outcome? kernel d n = some (.error reason)

theorem outcome?_eq_some_iff (hread : l.inputs.mapM d.read = .ok columns)
    {r : Except GiveUp (List Scalar)} :
    l.outcome? kernel d i = some r ↔
      ∃ row, columns.mapM (·.get? i) = some row ∧ kernel.run row l.scope = r := by
  rw [outcome?, Device.row?_of_read hread, Option.map_eq_some_iff]

/-- The computation gives the results of the rows up to the one at which the launch stops. -/
theorem stopsAt_of_compute (hread : l.inputs.mapM d.read = .ok columns)
    (h : compute kernel l.scope columns l.length 0 l.length = .ok (rows, stop)) :
    l.StopsAt kernel d rows.length ∧
      (∀ i < rows.length, ∀ out, l.outcome? kernel d i = some (.ok out) ↔ rows[i]? = some out) ∧
      stop = if rows.length < l.length then some rows.length else none := by
  have hcomputed := compute_eq_ok h
  have hgivenUp := hcomputed.givenUp
  have hstop := hcomputed.stop_eq
  rw [Nat.zero_add] at hgivenUp hstop
  have houtcome : ∀ i out, rows[i]? = some out → l.outcome? kernel d i = some (.ok out) := by
    intro i out hout
    obtain ⟨row, hrow, hrun⟩ := hcomputed.results i out hout
    rw [Nat.zero_add] at hrow
    exact (outcome?_eq_some_iff hread).2 ⟨row, hrow, hrun⟩
  refine ⟨⟨hcomputed.length_le, fun i hi => ?_, fun hlt => ?_⟩, fun i hi out => ?_, hstop⟩
  · exact ⟨_, houtcome i _ (List.getElem?_eq_getElem hi)⟩
  · obtain ⟨row, reason, hrow, hrun⟩ := hgivenUp hlt
    exact ⟨reason, (outcome?_eq_some_iff hread).2 ⟨row, hrow, hrun⟩⟩
  · -- a row has one outcome, and the computation has found it
    refine ⟨fun hout => ?_, houtcome i out⟩
    have hsome := List.getElem?_eq_getElem hi
    rw [houtcome i _ hsome] at hout
    rw [hsome, Except.ok.inj (Option.some.inj hout)]

/-- If the launch stops somewhere, the rows up to there can be computed. -/
theorem StopsAt.exists_compute (h : l.StopsAt kernel d n)
    (hread : l.inputs.mapM d.read = .ok columns) :
    ∃ rows stop, compute kernel l.scope columns l.length 0 l.length = .ok (rows, stop) ∧
      rows.length = n := by
  refine Launch.exists_compute h.le (fun j hj => ?_) fun hlt => ?_
  · obtain ⟨out, hout⟩ := h.results j hj
    obtain ⟨row, hrow, hrun⟩ := (outcome?_eq_some_iff hread).1 hout
    exact ⟨row, out, by rwa [Nat.zero_add], hrun⟩
  · obtain ⟨reason, hreason⟩ := h.givenUp hlt
    obtain ⟨row, hrow, hrun⟩ := (outcome?_eq_some_iff hread).1 hreason
    exact ⟨row, reason, by rwa [Nat.zero_add], hrun⟩

/-- A launch stops at one row only. -/
theorem StopsAt.unique {m : Nat} (h : l.StopsAt kernel d n) (h' : l.StopsAt kernel d m) :
    n = m := by
  -- at the earlier of two such rows there would be a result, and none
  have hclash : ∀ {n m : Nat}, l.StopsAt kernel d n → l.StopsAt kernel d m → ¬ n < m := by
    intro n m h h' hlt
    obtain ⟨out, hout⟩ := h'.results n hlt
    obtain ⟨reason, hreason⟩ := h.givenUp (Nat.lt_of_lt_of_le hlt h'.le)
    rw [hout] at hreason
    cases hreason
  exact Nat.le_antisymm (Nat.not_lt.1 (hclash h' h)) (Nat.not_lt.1 (hclash h h'))

/-- The number that the flag stands for. -/
theorem toInt_flag (force : Bool) (n length : Nat) :
    (flag force (if n < length then some n else none)).toInt =
      if n < length then min ((n : Int) + 1) Int32.maxValue.toInt else if force then 1 else 0 := by
  split
  next =>
    have hmax : Int32.maxValue.toInt = 2147483647 := by decide
    rw [flag, hmax]
    cases hw : Word.ofInt? (n + 1) with
    | some w =>
      -- the count is a word, so it is at most the greatest
      have hval := Word.ofInt?_eq_some_iff.1 hw
      have hfits := Word.fits_toInt w
      rw [Option.getD_some, hval, Int.min_eq_left]
      exact Int.le_of_lt_add_one (hval ▸ hfits.2)
    | none =>
      rw [Word.ofInt?] at hw
      split at hw
      next => cases hw
      next hfits =>
        -- the count is positive, so it is too great to be a word
        rw [Option.getD_none, hmax, Int.min_eq_right]
        rw [Word.Fits] at hfits
        omega
  next => cases force <;> rfl

/-- The stores of output rows: one for each row and each output. -/
theorem mem_stores_iff {outputs : List Buffer} {s : Store} :
    s ∈ stores outputs i rows ↔ ∃ (j k : Nat) (row : List Scalar) (b : Buffer),
      rows[j]? = some row ∧ outputs[k]? = some b ∧ s = ⟨b, i + j, row[k]?⟩ := by
  induction rows generalizing i with
  | nil => simp [stores]
  | cons row rest ih =>
    rw [stores, List.mem_append, ih, List.mem_map]
    constructor
    · rintro (⟨⟨b, k⟩, hb, rfl⟩ | ⟨j, k, row', b, hrow', hb, rfl⟩)
      · exact ⟨0, k, row, b, rfl, List.mk_mem_zipIdx_iff_getElem?.1 hb, rfl⟩
      · exact ⟨j + 1, k, row', b, hrow', hb, by rw [show i + 1 + j = i + (j + 1) by omega]⟩
    · rintro ⟨j, k, row', b, hrow', hb, rfl⟩
      cases j with
      | zero =>
        obtain rfl : row = row' := by simpa using hrow'
        exact .inl ⟨(b, k), List.mk_mem_zipIdx_iff_getElem?.2 hb, rfl⟩
      | succ j =>
        refine .inr ⟨j, k, row', b, by simpa using hrow', hb, ?_⟩
        rw [show i + 1 + j = i + (j + 1) by omega]

end Launch

namespace Device

/-! ## What can be stored -/

variable {d d' : Device} {b : Buffer} {i n : Nat} {v : Scalar} {s : Launch.Store}
  {stores : List Launch.Store}

/-- A scalar can be put into a buffer at a position: the buffer is live and long enough, is of the
scalar's kind, and keeps its elements one by one. -/
def Takes (d : Device) (b : Buffer) (i : Nat) (v : Scalar) : Prop :=
  ∃ held, d.buffers.get? b.id = some held ∧ held.Dense ∧ i < held.length ∧ v.kind = held.kind

theorem exists_store_iff :
    (∃ d', d.store n s = .ok d') ↔ ∃ v, s.value = some v ∧ d.Takes s.buffer s.row v := by
  constructor
  · rintro ⟨d', h⟩
    obtain ⟨-, held, c, hheld, hset, -⟩ := store_eq_ok h
    obtain ⟨v, hv, hset⟩ := Option.bind_eq_some_iff.1 hset
    exact ⟨v, hv, held, hheld, Column.exists_set?_iff.1 ⟨c, hset⟩⟩
  · rintro ⟨v, hv, held, hheld, hplace⟩
    obtain ⟨c, hset⟩ := Column.exists_set?_iff.2 hplace
    refine ⟨{ d with buffers := d.buffers.modify s.buffer.id fun _ => c },
      bind_eq_ok.2 ⟨held, read_eq_ok_iff.2 hheld, ?_⟩⟩
    rw [hv, Option.bind_eq_bind, Option.bind_some, hset]
    rfl

/-- Storing a scalar does not change what can be stored. -/
theorem takes_iff_of_store (h : d.store n s = .ok d') : d'.Takes b i v ↔ d.Takes b i v := by
  obtain ⟨htouch, held, c, hheld, hset, hc⟩ := store_eq_ok h
  by_cases hid : b.id = s.buffer.id
  · -- what the buffer held and what it holds are alike
    obtain ⟨w, -, hset⟩ := Option.bind_eq_some_iff.1 hset
    obtain ⟨hdense, -⟩ := Column.exists_set?_iff.1 ⟨c, hset⟩
    obtain ⟨-, -, hdense', hkind, hlength, -⟩ := Column.set?_eq_some hset
    simp only [Takes, hid, hheld, hc, Option.some.injEq, exists_eq_left', hdense, hdense', hkind,
      hlength]
  · rw [Takes, Takes, htouch.frame b.id (by simpa using hid)]

/-- Scalars can be stored iff there is a place for each of them beforehand. -/
theorem exists_storeAll_iff :
    (∃ d', d.storeAll n stores = (.ok (), d')) ↔
      ∀ s ∈ stores, ∃ v, s.value = some v ∧ d.Takes s.buffer s.row v := by
  -- the later scalars have a place after the first store iff they have one before it
  induction stores generalizing d with
  | nil => exact iff_of_true ⟨d, rfl⟩ (List.forall_mem_nil _)
  | cons s rest ih =>
    rw [List.forall_mem_cons, ← exists_store_iff (n := n), storeAll]
    constructor
    · rintro ⟨d', h⟩
      split at h
      next => cases h
      next d₁ hstore =>
        refine ⟨⟨d₁, hstore⟩, fun t ht => ?_⟩
        obtain ⟨v, hv, htakes⟩ := ih.1 ⟨d', h⟩ t ht
        exact ⟨v, hv, (takes_iff_of_store hstore).1 htakes⟩
    · rintro ⟨⟨d₁, hstore⟩, hrest⟩
      rw [hstore]
      refine ih.2 fun t ht => ?_
      obtain ⟨v, hv, htakes⟩ := hrest t ht
      exact ⟨v, hv, (takes_iff_of_store hstore).2 htakes⟩

/-- Storing scalars does not change what can be stored. -/
theorem takes_iff_of_storeAll (h : d.storeAll n stores = (.ok (), d')) :
    d'.Takes b i v ↔ d.Takes b i v := by
  induction stores generalizing d with
  | nil =>
    obtain rfl : d = d' := congrArg Prod.snd h
    rfl
  | cons s rest ih =>
    rw [storeAll] at h
    split at h
    next => cases h
    next d₁ hstore => exact (ih h).trans (takes_iff_of_store hstore)

/-- A flag, whatever it is, can be raised iff its buffer takes a word. -/
theorem exists_raise_iff {flag : Int32} :
    (∃ d', d.raise b flag = .ok d') ↔ d.Takes b 0 (.int 0) := by
  constructor
  · rintro ⟨d', h⟩
    obtain ⟨-, held, c, hheld, hset, -⟩ := raise_eq_ok h
    have hplace := (Column.exists_set?_iff (s := .int flag)).1 ⟨c, hset⟩
    exact ⟨held, hheld, hplace⟩
  · rintro ⟨held, hheld, hplace⟩
    obtain ⟨c, hset⟩ := (Column.exists_set?_iff (s := .int flag)).2 hplace
    refine ⟨{ d with buffers := d.buffers.modify b.id fun _ => c },
      bind_eq_ok.2 ⟨held, read_eq_ok_iff.2 hheld, ?_⟩⟩
    rw [hset]
    rfl

/-- A flag that has been raised replaces the first word of its buffer only. -/
theorem cell?_of_raise {flag : Int32} (h : d.raise b flag = .ok d') (i : Nat) :
    d'.cell? b i = if i = 0 then some (.int flag) else d.cell? b i := by
  obtain ⟨-, held, c, hheld, hset, hc⟩ := raise_eq_ok h
  obtain ⟨-, -, -, -, -, hcells⟩ := Column.set?_eq_some hset
  rw [cell?_of_get? hheld, cell?_of_get? hc, hcells]

/-! ## Launches -/

variable {l : Launch} {kernel : Kernel}

/-- A launch succeeds iff the inputs are live, there are rows up to the one at which it stops, there
is a place for each field of their results, and there is one for the flag. -/
theorem exists_launch_iff (hkernel : l.kernel.kernel? = some kernel) :
    (∃ flag, (d.launch l).1 = .ok flag) ↔
      (∀ b ∈ l.inputs, ∃ c, d.buffers.get? b.id = some c) ∧
      (∃ n, l.StopsAt kernel d n ∧
        ∀ i < n, ∀ out, l.outcome? kernel d i = some (.ok out) →
          ∀ (k : Nat) (b : Buffer), l.outputs[k]? = some b →
            ∃ s, out[k]? = some s ∧ d.Takes b i s) ∧
      d.Takes l.deopt 0 (.int 0) := by
  rw [← exists_read_iff]
  constructor
  · rintro ⟨flag, hflag⟩
    have hlaunch : d.launch l = (.ok flag, (d.launch l).2) := Prod.ext hflag rfl
    obtain ⟨columns, rows, stop, d₁, hread, hcompute, hstore, -, hraise⟩ :=
      (launch_eq_ok_iff hkernel).1 hlaunch
    obtain ⟨hstops, hrows, -⟩ := Launch.stopsAt_of_compute hread hcompute
    refine ⟨⟨columns, hread⟩, ⟨rows.length, hstops, fun i hi out hout k b hb => ?_⟩, ?_⟩
    · have hmem : (⟨b, i, out[k]?⟩ : Launch.Store) ∈ Launch.stores l.outputs 0 rows :=
        Launch.mem_stores_iff.2 ⟨i, k, out, b, (hrows i hi out).1 hout, hb, by rw [Nat.zero_add]⟩
      exact exists_storeAll_iff.1 ⟨d₁, hstore⟩ _ hmem
    · exact (takes_iff_of_storeAll hstore).1 (exists_raise_iff.1 ⟨_, hraise⟩)
  · rintro ⟨⟨columns, hread⟩, ⟨n, hstops, hplaces⟩, hflag⟩
    obtain ⟨rows, stop, hcompute, rfl⟩ := hstops.exists_compute hread
    obtain ⟨-, hrows, -⟩ := Launch.stopsAt_of_compute hread hcompute
    obtain ⟨d₁, hstore⟩ : ∃ d₁, storeAll { d with launches := d.launches + 1 } l.length
        (Launch.stores l.outputs 0 rows) = (.ok (), d₁) := by
      refine exists_storeAll_iff.2 fun s hs => ?_
      obtain ⟨j, k, out, b, hout, hb, rfl⟩ := Launch.mem_stores_iff.1 hs
      have hj := (List.getElem?_eq_some_iff.1 hout).1
      rw [Nat.zero_add]
      exact hplaces j hj out ((hrows j hj out).2 hout) k b hb
    obtain ⟨d₂, hraise⟩ := exists_raise_iff.2 ((takes_iff_of_storeAll hstore).2 hflag)
    exact ⟨_, congrArg Prod.fst ((launch_eq_ok_iff hkernel).2
      ⟨columns, rows, stop, d₁, hread, hcompute, hstore, rfl, hraise⟩)⟩

/-- What the outputs hold after a launch that succeeds. -/
theorem cell?_of_launch (hkernel : l.kernel.kernel? = some kernel)
    (hnodup : (l.outputs.map (·.id) ++ [l.deopt.id]).Nodup) {flag : Int32}
    (h : (d.launch l).1 = .ok flag) :
    ∃ n, l.StopsAt kernel d n ∧
      (∀ i < n, ∀ out, l.outcome? kernel d i = some (.ok out) →
        ∀ (k : Nat) (b : Buffer), l.outputs[k]? = some b →
          ∃ s, out[k]? = some s ∧ (d.launch l).2.cell? b i = some s) ∧
      (∀ b ∈ l.outputs, ∀ i, n ≤ i → (d.launch l).2.cell? b i = d.cell? b i) ∧
      flag = Launch.flag d.forceDeopt (if n < l.length then some n else none) := by
  have hlaunch : d.launch l = (.ok flag, (d.launch l).2) := Prod.ext h rfl
  obtain ⟨columns, rows, stop, hread, hcompute, hflag, hcolumns, -⟩ :=
    launch_eq_ok hkernel hnodup hlaunch
  obtain ⟨hstops, hrows, rfl⟩ := Launch.stopsAt_of_compute hread hcompute
  obtain ⟨-, ⟨n, hstops', hplaces⟩, -⟩ := (exists_launch_iff hkernel).1 ⟨flag, h⟩
  obtain rfl := hstops.unique hstops'
  refine ⟨rows.length, hstops, fun i hi out hout k b hb => ?_, fun b hb i hi => ?_, hflag⟩
  · -- the output is live, since the field has been stored
    obtain ⟨s, hs, c, hc, -⟩ := hplaces i hi out hout k b hb
    obtain ⟨c', hc', hfrom⟩ := hcolumns k b c hb hc
    obtain ⟨-, -, -, -, hcells⟩ := Column.setFrom_eq_some hfrom
    refine ⟨s, hs, ?_⟩
    rw [cell?_of_get? hc', ← Nat.zero_add i]
    refine hcells i (some s) ?_
    rw [List.getElem?_map, (hrows i hi out).1 hout, Option.map_some, hs]
  · -- if no row has been stored the output need not be live
    obtain ⟨k, hb⟩ := List.getElem?_of_mem hb
    cases hc : d.buffers.get? b.id with
    | none => exact cell?_of_layout hc ((launch_touches d l).layout b.id) i
    | some c =>
      obtain ⟨c', hc', hfrom⟩ := hcolumns k b c hb hc
      rw [cell?_of_get? hc, cell?_of_get? hc']
      exact Column.get?_setFrom_of_le hfrom (by rwa [Nat.zero_add, List.length_map])

/-- What the buffer of the flag holds after a launch that succeeds. -/
theorem cell?_deopt_of_launch (hkernel : l.kernel.kernel? = some kernel)
    (hnodup : (l.outputs.map (·.id) ++ [l.deopt.id]).Nodup) {flag : Int32}
    (h : (d.launch l).1 = .ok flag) (i : Nat) :
    (d.launch l).2.cell? l.deopt i = if i = 0 then some (.int flag) else d.cell? l.deopt i := by
  have hlaunch : d.launch l = (.ok flag, (d.launch l).2) := Prod.ext h rfl
  obtain ⟨-, rows, -, d₁, -, -, hstore, -, hraise⟩ := (launch_eq_ok_iff hkernel).1 hlaunch
  have htouch := (storeAll_touches { d with launches := d.launches + 1 } l.length
    (Launch.stores l.outputs 0 rows)).mono (stores_subset l.outputs 0 rows)
  rw [hstore] at htouch
  -- the flag's buffer is no output
  have hout : l.deopt.id ∉ l.outputs.map (·.id) := fun hmem =>
    (List.nodup_append.1 hnodup).2.2 _ hmem _ (List.mem_singleton_self _) rfl
  have hheld : d₁.buffers.get? l.deopt.id = d.buffers.get? l.deopt.id := htouch.frame _ hout
  rw [cell?_of_raise hraise, cell?, cell?, hheld]

/-- What a launch does.

* Whether it succeeds or fails, no buffer is made or given back, each keeps its kind and length, and
  only the outputs and the flag's buffer can change.
* It succeeds iff the inputs are live, the rows up to the one at which it stops are there, and all
  results and the flag have a place.
* If it succeeds, and the outputs and the flag's buffer are different, the cells of the outputs
  before the row at which it stops are the fields of the kernel's results for the rows that the
  inputs held before the launch, and their other cells are as they were. The first cell of the
  flag's buffer counts the rows up to the one given up, as far as a word reaches; if none is, it is
  one or zero, as the device forces it or not. -/
theorem launch_effects :
    (∀ (d : Device) (l : Launch),
      (d.launch l).2.buffers.keys = d.buffers.keys ∧
      (∀ id, (d.launch l).2.layout? id = d.layout? id) ∧
      ∀ id, id ∉ l.outputs.map (·.id) → id ≠ l.deopt.id →
        (d.launch l).2.buffers.get? id = d.buffers.get? id) ∧
    ∀ (d : Device) (l : Launch) (kernel : Kernel), l.kernel.kernel? = some kernel →
      ((∃ flag, (d.launch l).1 = .ok flag) ↔
        (∀ b ∈ l.inputs, ∃ c, d.buffers.get? b.id = some c) ∧
        (∃ n, l.StopsAt kernel d n ∧
          ∀ i < n, ∀ out, l.outcome? kernel d i = some (.ok out) →
            ∀ (k : Nat) (b : Buffer), l.outputs[k]? = some b →
              ∃ s, out[k]? = some s ∧ d.Takes b i s) ∧
        d.Takes l.deopt 0 (.int 0)) ∧
      ∀ flag, (d.launch l).1 = .ok flag → (l.outputs.map (·.id) ++ [l.deopt.id]).Nodup →
        ∃ n, l.StopsAt kernel d n ∧
          (∀ i < n, ∀ out, l.outcome? kernel d i = some (.ok out) →
            ∀ (k : Nat) (b : Buffer), l.outputs[k]? = some b →
              ∃ s, out[k]? = some s ∧ (d.launch l).2.cell? b i = some s) ∧
          (∀ b ∈ l.outputs, ∀ i, n ≤ i → (d.launch l).2.cell? b i = d.cell? b i) ∧
          (∀ i, (d.launch l).2.cell? l.deopt i =
            if i = 0 then some (.int flag) else d.cell? l.deopt i) ∧
          flag.toInt = if n < l.length then min ((n : Int) + 1) Int32.maxValue.toInt
            else if d.forceDeopt then 1 else 0 := by
  refine ⟨fun d l => ?_, fun d l kernel hkernel =>
    ⟨exists_launch_iff hkernel, fun flag hflag hnodup => ?_⟩⟩
  · have htouch := launch_touches d l
    refine ⟨htouch.keys, htouch.layout, fun id hout hdeopt => htouch.frame id fun hmem => ?_⟩
    rcases List.mem_append.1 hmem with hmem | hmem
    · exact hout hmem
    · exact hdeopt (List.mem_singleton.1 hmem)
  · obtain ⟨n, hstops, hbefore, hafter, rfl⟩ := cell?_of_launch hkernel hnodup hflag
    exact ⟨n, hstops, hbefore, hafter, cell?_deopt_of_launch hkernel hnodup hflag,
      Launch.toInt_flag d.forceDeopt n l.length⟩

/-- A buffer of three words, the second of which cannot be doubled, and one for the flag. -/
def threeWords : Device where
  buffers := ⟨[(⟨1⟩, .int [3, 2000000000, 5]), (⟨2⟩, .int [0])], by decide⟩
  lastId := 2
  used := 16
  allocations := 2

/-- The doubling of the words, in the buffer that they are in. -/
def doublingInPlace : Launch where
  kernel := ⟨⟨1⟩, .host Kernel.doublingWords⟩
  inputs := [⟨⟨1⟩, .int, 3⟩]
  outputs := [⟨⟨1⟩, .int, 3⟩]
  deopt := ⟨⟨2⟩, .int, 1⟩
  scope := []
  length := 3

/-- The word before the one that cannot be doubled is doubled in its place. -/
theorem launch_effects_doubling :
    doublingInPlace.StopsAt Kernel.doublingWords threeWords 1 ∧
      (∃ flag, (threeWords.launch doublingInPlace).1 = .ok flag ∧ flag.toInt = 2 ∧
        (threeWords.launch doublingInPlace).2.cell? doublingInPlace.deopt 0 = some (.int flag)) ∧
      (threeWords.launch doublingInPlace).2.cell? ⟨⟨1⟩, .int, 3⟩ 0 = some (.int 6) ∧
      (threeWords.launch doublingInPlace).2.cell? ⟨⟨1⟩, .int, 3⟩ 2 = some (.int 5) := by
  have hfirst : doublingInPlace.outcome? Kernel.doublingWords threeWords 0 =
      some (.ok [.int 6]) := rfl
  have hstops : doublingInPlace.StopsAt Kernel.doublingWords threeWords 1 := by
    refine ⟨by decide, fun i hi => ?_, fun _ => ⟨.overflow, rfl⟩⟩
    obtain rfl : i = 0 := Nat.lt_one_iff.1 hi
    exact ⟨_, hfirst⟩
  obtain ⟨flag, hflag⟩ : ∃ flag, (threeWords.launch doublingInPlace).1 = .ok flag := ⟨2, rfl⟩
  obtain ⟨n, hstops', hbefore, hafter, hdeopt, hvalue⟩ :=
    (launch_effects.2 threeWords doublingInPlace Kernel.doublingWords rfl).2 flag hflag (by decide)
  obtain rfl := hstops.unique hstops'
  refine ⟨hstops, ⟨flag, hflag, hvalue, hdeopt 0⟩, ?_, ?_⟩
  · obtain ⟨s, hs, hcell⟩ := hbefore 0 (by decide) _ hfirst 0 _ rfl
    rw [hcell, ← hs]
    rfl
  · exact hafter _ List.mem_cons_self 2 (by decide)

end Device

end TieredVectors
