import TieredVectors.Columns.Marshal
import TieredVectors.Proofs.Columns.Column

/-!
# Arrays row by row

What makes columns an array, and what its rows are.
-/

namespace TieredVectors

namespace ColumnArray

theorem checkKinds_eq_ok (columns : List Column) :
    checkKinds columns (columns.map Column.kind) = .ok () := by
  induction columns with
  | nil => rfl
  | cons c cs ih => simpa [checkKinds] using ih

theorem checkLengths_eq_ok {n : Nat} {columns : List Column} (h : ∀ c ∈ columns, c.length = n)
    (position : Nat) : checkLengths n position columns = .ok () := by
  induction columns generalizing position with
  | nil => rfl
  | cons c cs ih =>
    rw [List.forall_mem_cons] at h
    rw [checkLengths, if_pos h.1, ih h.2]

/-- Columns of the kinds of a type and of one length make an array. -/
theorem make_eq_ok {type : RowType} {columns : List Column} {n : Nat}
    (hkinds : columns.map Column.kind = type.kinds) (hlengths : ∀ c ∈ columns, c.length = n) :
    make type columns = .ok { type, columns, length := n } := by
  have hwidth : columns.length = type.width := by rw [RowType.width, ← hkinds, List.length_map]
  have hhead : (columns.head?.map Column.length).getD 0 = n := by
    cases columns with
    -- a row type has a field, so that there is a column to take the length from
    | nil =>
      have := type.one_le_width
      simp [← hwidth] at this
    | cons c cs => simpa using hlengths c List.mem_cons_self
  have htail := fun position => checkLengths_eq_ok (n := n)
    (fun c hc => hlengths c (List.mem_of_mem_tail hc)) position
  rw [make, if_neg (Decidable.not_not.2 hwidth), ← hkinds, checkKinds_eq_ok]
  simp only [hhead, htail, bind, Except.bind, pure, Except.pure]

/-- A row of an array is the list of its cells. -/
theorem row?_eq_some_iff {a : ColumnArray} {i : Nat} {row : List Scalar} :
    a.row? i = some row ↔ a.columns.map (·.get? i) = row.map some :=
  mapM_eq_some_iff

/-- Fields that are the cells of the columns, one by one, make a row. -/
theorem row?_eq_some_of_cells {a : ColumnArray} {i : Nat} {row : List Scalar}
    (hlength : a.columns.length = row.length)
    (hcells : ∀ (f : Nat) (c : Column), a.columns[f]? = some c → c.get? i = row[f]?) :
    a.row? i = some row := by
  refine row?_eq_some_iff.2 (List.ext_getElem (by simpa using hlength) fun f hf hf' => ?_)
  simp only [List.length_map] at hf hf'
  simpa [hf'] using hcells f a.columns[f] (List.getElem?_eq_getElem hf)

/-- Columns that are long enough have a cell each, of their kinds. -/
theorem exists_cells {columns : List Column} {n i : Nat} (h : ∀ c ∈ columns, c.length = n)
    (hi : i < n) :
    ∃ row : List Scalar, columns.map (·.get? i) = row.map some ∧
      row.map Scalar.kind = columns.map Column.kind := by
  induction columns with
  | nil => exact ⟨[], rfl, rfl⟩
  | cons c cs ih =>
    rw [List.forall_mem_cons] at h
    obtain ⟨row, hrow, hkinds⟩ := ih h.2
    obtain ⟨s, hs⟩ := Option.isSome_iff_exists.1 (Column.isSome_get?_iff.2 (h.1 ▸ hi))
    refine ⟨s :: row, ?_, ?_⟩
    · rw [List.map_cons, List.map_cons, hs, hrow]
    · rw [List.map_cons, List.map_cons, Column.kind_of_get? hs, hkinds]

/-- An array has as many rows as its length says, and they are of its type. -/
theorem WellFormed.exists_row {a : ColumnArray} (h : a.WellFormed) {i : Nat} (hi : i < a.length) :
    ∃ row, a.row? i = some row ∧ row.map Scalar.kind = a.type.kinds := by
  obtain ⟨row, hrow, hkinds⟩ := exists_cells h.lengths hi
  exact ⟨row, row?_eq_some_iff.2 hrow, hkinds.trans h.kinds⟩

end ColumnArray

end TieredVectors
