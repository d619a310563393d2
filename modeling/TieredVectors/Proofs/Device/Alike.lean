import TieredVectors.Proofs.Columns.Dense
import TieredVectors.Proofs.Device.Launches
import TieredVectors.Proofs.Tables

/-!
# Devices that hold the same elements

A sequence is written to a device as a sequence, in the same few bytes however long it is. Nothing
else tells two devices apart that were given the same elements in different forms.

* `Device.Alike d d'` — the buffers hold the same elements, and all else is the same but for the
  bytes written. Making buffers, giving them back and writing to them keep devices alike.
* `Device.Agree ids d d'` — besides, the buffers `ids` hold the very same columns. This is what a
  launch needs of its outputs, since the words of a sequence cannot be replaced:
  `Device.Agree.launch` says that it then goes the same way on both devices.
-/

namespace TieredVectors

/-- The rows computed do not depend on the form of the columns. -/
theorem Launch.compute_dense (kernel : Kernel) (scope : Scope) (columns : List Column)
    (length i count : Nat) :
    compute kernel scope (columns.map Column.dense) length i count =
      compute kernel scope columns length i count := by
  induction count generalizing i with
  | zero => rfl
  | succ count ih =>
    have hrow : (columns.map Column.dense).mapM (·.get? i) = columns.mapM (·.get? i) := by
      simp only [List.mapM_map, Function.comp_def, Column.get?_dense]
    rw [compute, compute, hrow, ih]

namespace Device

variable {d d' : Device} {b : Buffer} {c c' : Column} {ids : List BufferId}

/-- The device with all sequences written out, and without the count of bytes written. -/
def dense (d : Device) : Device :=
  { d with buffers := d.buffers.mapValues Column.dense, bytesWritten := 0 }

/-- The buffers hold the same elements, and all else is the same but for the bytes written. -/
def Alike (d d' : Device) : Prop := d.dense = d'.dense

theorem read_dense (d : Device) (b : Buffer) : d.dense.read b = (d.read b).map Column.dense := by
  simp only [read, dense, Table.get?_mapValues]
  cases d.buffers.get? b.id <;> rfl

theorem layout?_dense (d : Device) (id : BufferId) : d.dense.layout? id = d.layout? id := by
  simp only [layout?, dense, Table.get?_mapValues, Option.map_map, Function.comp_def,
    Column.kind_dense, Column.length_dense]

/-! ## Making buffers and giving them back -/

theorem allocate_dense (d : Device) (kind : Kind) (n : Nat) :
    d.dense.allocate kind n = (d.allocate kind n).map fun made => (made.1, made.2.dense) := by
  by_cases hfits : d.Fits (kind.byteSize * n)
  · have hfits' : d.dense.Fits (kind.byteSize * n) := hfits
    rw [allocate, allocate, if_pos hfits, if_pos hfits']
    simp only [Except.map, dense, Table.mapValues_insert, Column.dense_blank]
  · have hfits' : ¬ d.dense.Fits (kind.byteSize * n) := hfits
    simp only [allocate, if_neg hfits, if_neg hfits', Except.map]
    rfl

theorem allocateAll_dense (d : Device) (n : Nat) (kinds : List Kind) :
    d.dense.allocateAll n kinds = ((d.allocateAll n kinds).1, (d.allocateAll n kinds).2.1,
      (d.allocateAll n kinds).2.2.dense) := by
  induction kinds generalizing d with
  | nil => rfl
  | cons k ks ih =>
    rw [allocateAll, allocateAll, allocate_dense]
    cases d.allocate k n with
    | error e => rfl
    | ok made => simp only [Except.map, ih]

theorem release_dense (d : Device) (b : Buffer) : (d.release b).dense = d.dense.release b := by
  have hget : d.dense.buffers.get? b.id = (d.buffers.get? b.id).map Column.dense :=
    Table.get?_mapValues _ _ _
  cases hb : d.buffers.get? b.id with
  | none =>
    rw [hb] at hget
    simp only [release, hb, hget, Option.map_none]
  | some c =>
    have hsize : c.dense.byteSize = c.byteSize := by
      rw [Column.byteSize, Column.byteSize, Column.kind_dense, Column.length_dense]
    rw [hb] at hget
    simp only [release, hb, hget, Option.map_some, hsize]
    simp only [dense, Table.mapValues_erase]

theorem releaseAll_dense (d : Device) (bs : List Buffer) :
    (d.releaseAll bs).dense = d.dense.releaseAll bs := by
  induction bs generalizing d with
  | nil => rfl
  | cons b bs ih =>
    show ((d.release b).releaseAll bs).dense = (d.dense.release b).releaseAll bs
    rw [ih, release_dense]

/-! ## Writing -/

theorem dense_modify (d : Device) (id : BufferId) (c : Column) (bytes : Nat) :
    dense { d with buffers := d.buffers.modify id fun _ => c, bytesWritten := bytes } =
      { d.dense with buffers := d.dense.buffers.modify id fun _ => c.dense } := by
  have hmodify : (d.buffers.modify id fun _ => c).mapValues Column.dense =
      (d.buffers.mapValues Column.dense).modify id fun _ => c.dense := by
    apply Table.mapValues_modify
    intro _
    rfl
  simp only [dense, hmodify]

theorem Alike.read (h : d.Alike d') (b : Buffer) :
    Matches (fun c c' => c.dense = c'.dense) (d.read b) (d'.read b) := by
  apply matches_of_map_eq
  rw [← read_dense, ← read_dense]
  exact congrArg (Device.read · b) h

/-- A column may be written in either form. -/
theorem Alike.write (h : d.Alike d') (b : Buffer) (hc : c.dense = c'.dense) :
    Matches Alike (d.write b c) (d'.write b c') := by
  have hlayout {x y : Column} (hxy : x.dense = y.dense) :
      x.kind = y.kind ∧ x.length = y.length := by
    rw [← x.kind_dense, ← x.length_dense, hxy, y.kind_dense, y.length_dense]
    exact ⟨rfl, rfl⟩
  rcases h.read b with ⟨e, he, he'⟩ | ⟨held, held', hheld, hheld', hsame⟩
  · rw [Device.write, Device.write, he, he']
    exact matches_error _ e
  · obtain ⟨hkind, hlength⟩ := hlayout hc
    obtain ⟨hkind', hlength'⟩ := hlayout hsame
    rw [Device.write, Device.write, hheld, hheld']
    show Matches Alike (ite _ _ _) (ite _ _ _)
    simp only [Column.layoutText, hkind, hlength, hkind', hlength']
    split
    · refine matches_ok ?_
      rw [Alike, dense_modify, dense_modify, hc, show d.dense = d'.dense from h]
    · exact matches_error _ _

theorem Alike.writeAll (h : d.Alike d') (bs : List Buffer) {cs cs' : List Column}
    (hcs : cs.map Column.dense = cs'.map Column.dense) :
    (d.writeAll (bs.zip cs)).1 = (d'.writeAll (bs.zip cs')).1 ∧
      (d.writeAll (bs.zip cs)).2.Alike (d'.writeAll (bs.zip cs')).2 := by
  induction bs generalizing d d' cs cs' with
  | nil => exact ⟨rfl, h⟩
  | cons b bs ih =>
    cases cs with
    | nil =>
      obtain rfl : cs' = [] := by simpa using hcs.symm
      exact ⟨rfl, h⟩
    | cons c cs =>
      obtain ⟨c', cs', rfl, hc, hrest⟩ := List.map_eq_cons_iff.1 hcs.symm
      rw [List.zip_cons_cons, List.zip_cons_cons, Device.writeAll, Device.writeAll]
      rcases h.write b hc.symm with ⟨e, he, he'⟩ | ⟨d₁, d₁', hd₁, hd₁', h₁⟩
      · rw [he, he']
        exact ⟨rfl, h⟩
      · rw [hd₁, hd₁']
        exact ih h₁ hrest.symm

/-! ## Launching -/

/-- The devices are alike, and the given buffers hold the very same columns. -/
structure Agree (ids : List BufferId) (d d' : Device) : Prop where
  alike : d.Alike d'
  shared : ∀ id ∈ ids, d'.buffers.get? id = d.buffers.get? id

namespace Agree

theorem read_eq (h : Agree ids d d') (hb : b.id ∈ ids) : d'.read b = d.read b := by
  rw [Device.read, Device.read, h.shared b.id hb]

theorem mono {ids' : List BufferId} (h : Agree ids d d') (hsub : ids' ⊆ ids) : Agree ids' d d' :=
  ⟨h.alike, fun id hid => h.shared id (hsub hid)⟩

/-- The same column put into a buffer of both devices. -/
theorem modify (h : Agree ids d d') (id : BufferId) (c : Column) :
    Agree ids { d with buffers := d.buffers.modify id fun _ => c }
      { d' with buffers := d'.buffers.modify id fun _ => c } := by
  refine ⟨?_, fun id' hid' => ?_⟩
  · show dense _ = dense _
    rw [dense_modify d id c d.bytesWritten, dense_modify d' id c d'.bytesWritten,
      show d.dense = d'.dense from h.alike]
  · simp only [Table.get?_modify, h.shared id' hid']

theorem store (h : Agree ids d d') (n : Nat) {s : Launch.Store} (hs : s.buffer.id ∈ ids) :
    Matches (Agree ids) (d.store n s) (d'.store n s) := by
  rw [Device.store, Device.store, h.read_eq hs]
  cases d.read s.buffer with
  | error e => exact matches_error _ e
  | ok held =>
    show Matches (Agree ids) _ _
    simp only [bind, Except.bind]
    split
    · exact matches_ok (h.modify _ _)
    · exact matches_error _ _

theorem storeAll (h : Agree ids d d') (n : Nat) {stores : List Launch.Store}
    (hstores : stores.map (·.buffer.id) ⊆ ids) :
    (d.storeAll n stores).1 = (d'.storeAll n stores).1 ∧
      Agree ids (d.storeAll n stores).2 (d'.storeAll n stores).2 := by
  induction stores generalizing d d' with
  | nil => exact ⟨rfl, h⟩
  | cons s rest ih =>
    rw [List.map_cons, List.cons_subset] at hstores
    rw [Device.storeAll, Device.storeAll]
    rcases h.store n hstores.1 with ⟨e, he, he'⟩ | ⟨d₁, d₁', hd₁, hd₁', h₁⟩
    · rw [he, he']
      exact ⟨rfl, h⟩
    · rw [hd₁, hd₁']
      exact ih h₁ hstores.2

theorem raise (h : Agree ids d d') (hb : b.id ∈ ids) (flag : Int32) :
    Matches (Agree ids) (d.raise b flag) (d'.raise b flag) := by
  rw [Device.raise, Device.raise, h.read_eq hb]
  cases d.read b with
  | error e => exact matches_error _ e
  | ok held =>
    show Matches (Agree ids) _ _
    simp only [bind, Except.bind]
    split
    · exact matches_ok (h.modify _ _)
    · exact matches_error _ _

/-- What is computed from the inputs does not depend on their form. -/
theorem compute_eq (h : d.Alike d') (bs : List Buffer) (kernel : Kernel) (scope : Scope) (n : Nat) :
    (bs.mapM d.read >>= fun cs => Launch.compute kernel scope cs n 0 n) =
      bs.mapM d'.read >>= fun cs => Launch.compute kernel scope cs n 0 n := by
  have hread (d : Device) :
      bs.mapM d.dense.read = (bs.mapM d.read).map (List.map Column.dense) := by
    induction bs with
    | nil => rfl
    | cons b bs ih =>
      rw [List.mapM_cons, List.mapM_cons, ih, read_dense]
      cases d.read b with
      | error e => rfl
      | ok c => cases bs.mapM d.read <;> rfl
  have hdense (d : Device) : (bs.mapM d.dense.read >>= fun cs =>
      Launch.compute kernel scope cs n 0 n) =
      bs.mapM d.read >>= fun cs => Launch.compute kernel scope cs n 0 n := by
    rw [hread]
    cases bs.mapM d.read with
    | error e => rfl
    | ok cs => exact Launch.compute_dense kernel scope cs n 0 n
  rw [← hdense d, ← hdense d', show d.dense = d'.dense from h]

/-- A launch goes the same way on devices that agree on its outputs and its flag. -/
theorem launch (h : Agree ids d d') {l : Launch} (houtputs : l.outputs.map (·.id) ⊆ ids)
    (hflag : l.deopt.id ∈ ids) :
    (d.launch l).1 = (d'.launch l).1 ∧ Agree ids (d.launch l).2 (d'.launch l).2 := by
  rw [Device.launch, Device.launch]
  cases l.kernel.kernel? with
  | none => exact ⟨rfl, h⟩
  | some kernel =>
    dsimp only
    -- a launch is counted before anything else is done
    have hcounted : Agree ids { d with launches := d.launches + 1 }
        { d' with launches := d'.launches + 1 } := by
      refine ⟨?_, h.shared⟩
      show { d.dense with launches := d.dense.launches + 1 } =
        { d'.dense with launches := d'.dense.launches + 1 }
      rw [show d.dense = d'.dense from h.alike]
    rw [compute_eq hcounted.alike]
    generalize { d with launches := d.launches + 1 } = d₁ at hcounted
    generalize { d' with launches := d'.launches + 1 } = d₁' at hcounted
    cases l.inputs.mapM d₁'.read >>= fun cs =>
        Launch.compute kernel l.scope cs l.length 0 l.length with
    | error e => exact ⟨rfl, hcounted⟩
    | ok computed =>
      obtain ⟨rows, stop⟩ := computed
      -- rows are stored into outputs only, so that what is replaced is the same on both devices
      have hids := List.Subset.trans (stores_subset l.outputs 0 rows) houtputs
      obtain ⟨hsame, hstored⟩ := hcounted.storeAll l.length hids
      dsimp only
      rcases hs : d₁.storeAll l.length (Launch.stores l.outputs 0 rows) with ⟨r, d₂⟩
      rcases hs' : d₁'.storeAll l.length (Launch.stores l.outputs 0 rows) with ⟨r', d₂'⟩
      rw [hs, hs'] at hsame hstored
      obtain rfl : r = r' := hsame
      cases r with
      | error e => exact ⟨rfl, hstored⟩
      | ok u =>
        have hforce : d₂.dense.forceDeopt = d₂'.dense.forceDeopt :=
          congrArg Device.forceDeopt hstored.alike
        change d₂.forceDeopt = d₂'.forceDeopt at hforce
        dsimp only at hstored ⊢
        rw [hforce]
        rcases hstored.raise hflag (Launch.flag d₂'.forceDeopt stop) with
          ⟨e, he, he'⟩ | ⟨d₃, d₃', hd₃, hd₃', h₃⟩
        · rw [he, he']
          exact ⟨rfl, hstored⟩
        · rw [hd₃, hd₃']
          exact ⟨rfl, h₃⟩

end Agree

end Device

end TieredVectors
