import Mathlib.Data.List.Basic
import TieredVectors.Columns.Marshal
import TieredVectors.Proofs.Columns.Arrays

/-!
# Sequences written out

A sequence and the words that it stands for have the same elements. `dense` puts the words in place
of the sequence, in a column, a vector or an array, and keeps all that can be seen of these element
by element: kinds, lengths, cells, rows and values. Marshaling vectors with their sequences written
out gives the same columns with their sequences written out (`ColumnArray.ofVectors_dense`).
-/

namespace TieredVectors

namespace Sequence

theorem toList_eq_map (s : Sequence) :
    s.toList = (List.range s.length).map fun i : Nat =>
      Int32.ofInt (s.start.toInt + s.stride.toInt * (i : Int)) := by
  rw [toList, ← List.filterMap_eq_map]
  apply List.filterMap_congr
  intro i hi
  rw [get?_eq, if_pos (List.mem_range.1 hi)]
  rfl

@[simp]
theorem length_toList (s : Sequence) : s.toList.length = s.length := by
  rw [toList_eq_map, List.length_map, List.length_range]

@[simp]
theorem getElem?_toList (s : Sequence) (i : Nat) : s.toList[i]? = s.get? i := by
  rw [toList_eq_map, List.getElem?_map, get?_eq]
  split
  next hi => simp [hi]
  next hi => simp [Nat.not_lt.1 hi]

end Sequence

namespace Column

variable {c : Column}

/-- The column with its words written out if it is a sequence. -/
def dense : Column → Column
  | .sequence s => .int s.toList
  | c => c

theorem dense_dense (c : Column) : c.dense.Dense := by
  cases c <;> trivial

theorem dense_eq_self (h : c.Dense) : c.dense = c := by
  cases c with
  | sequence s => cases h
  | _ => rfl

theorem dense_blank (kind : Kind) (n : Nat) : (blank kind n).dense = blank kind n := by
  cases kind <;> rfl

@[simp]
theorem kind_dense (c : Column) : c.dense.kind = c.kind := by
  cases c <;> rfl

@[simp]
theorem length_dense (c : Column) : c.dense.length = c.length := by
  cases c with
  | sequence s => exact s.length_toList
  | _ => rfl

@[simp]
theorem get?_dense (c : Column) (i : Nat) : c.dense.get? i = c.get? i := by
  cases c with
  | sequence s => exact congrArg (Option.map _) (s.getElem?_toList i)
  | _ => rfl

end Column

namespace DataVector

variable {v : DataVector}

/-- The vector with its words written out if it is a sequence. -/
def dense : DataVector → DataVector
  | .sequence s => .int s.toList
  | v => v

@[simp]
theorem length_dense (v : DataVector) : v.dense.length = v.length := by
  cases v with
  | sequence s => exact s.length_toList
  | _ => rfl

@[simp]
theorem get?_dense (v : DataVector) (i : Nat) : v.dense.get? i = v.get? i := by
  cases v with
  | sequence s => exact congrArg (Option.map _) (s.getElem?_toList i)
  | _ => rfl

/-- The elements of vectors at one index. -/
theorem filterMap_get?_congr {vs vs' : List DataVector} (h : vs.map dense = vs'.map dense)
    (i : Nat) : vs.filterMap (·.get? i) = vs'.filterMap (·.get? i) := by
  have hdense (vs : List DataVector) :
      (vs.map dense).filterMap (·.get? i) = vs.filterMap (·.get? i) := by
    rw [List.filterMap_map]
    exact List.filterMap_congr fun v _ => v.get?_dense i
  rw [← hdense vs, h, hdense]

@[simp]
theorem inferKind_dense (v : DataVector) : v.dense.inferKind = v.inferKind := by
  cases v <;> rfl

end DataVector

/-- Writing a column out and making a vector of it go together. -/
theorem Column.toVector_dense (c : Column) : c.dense.toVector = c.toVector.dense := by
  cases c <;> rfl

namespace ColumnArray

variable {a : ColumnArray}

/-- The array with its columns written out. -/
def dense (a : ColumnArray) : ColumnArray := { a with columns := a.columns.map Column.dense }

theorem dense_eq_dense_iff {a' : ColumnArray} :
    a.dense = a'.dense ↔ a.type = a'.type ∧
      a.columns.map Column.dense = a'.columns.map Column.dense ∧ a.length = a'.length := by
  rw [dense, dense, mk.injEq]

theorem dense_eq_self (h : ∀ c ∈ a.columns, c.Dense) : a.dense = a := by
  have hcolumns : a.columns.map Column.dense = a.columns :=
    (List.map_congr_left fun c hc => Column.dense_eq_self (h c hc)).trans (List.map_id _)
  rw [dense, hcolumns]

@[simp]
theorem row?_dense (a : ColumnArray) (i : Nat) : a.dense.row? i = a.row? i := by
  simp only [row?, dense, List.mapM_map, Function.comp_def, Column.get?_dense]

@[simp]
theorem value?_dense (a : ColumnArray) (i : Nat) : a.dense.value? i = a.value? i := by
  rw [value?, row?_dense]
  rfl

theorem WellFormed.dense (h : a.WellFormed) : a.dense.WellFormed := by
  refine ⟨?_, fun c hc => ?_⟩
  · show (a.columns.map Column.dense).map Column.kind = a.type.kinds
    rw [List.map_map, ← h.kinds]
    exact List.map_congr_left fun c _ => c.kind_dense
  · obtain ⟨c₀, hc₀, rfl⟩ := List.mem_map.1 hc
    exact c₀.length_dense.trans (h.lengths c₀ hc₀)

theorem toVector_dense (a : ColumnArray) : a.dense.toVector = a.toVector.dense := by
  have hvalues : (List.range a.length).filterMap a.dense.value? =
      (List.range a.length).filterMap a.value? :=
    List.filterMap_congr fun i _ => a.value?_dense i
  obtain ⟨type, columns, length⟩ := a
  cases type with
  | tuple kinds h => exact congrArg DataVector.list hvalues
  | scalar k =>
    cases columns with
    | nil => exact congrArg DataVector.list hvalues
    | cons c cs => exact c.toVector_dense

end ColumnArray

/-! ## Marshaling -/

theorem DataVector.inferRows_dense (primary : DataVector) (companions : List DataVector) :
    primary.dense.inferRows (companions.map dense) = primary.inferRows companions := by
  simp only [inferRows, inferType, inferKind_dense, List.mapM_cons, List.mapM_map,
    Function.comp_def, List.length_map, List.isEmpty_map]

theorem Column.ofVector_dense (kind : Kind) (v : DataVector) :
    ofVector kind v.dense = (ofVector kind v).map Column.dense := by
  cases v <;> cases kind <;> rfl

namespace ColumnArray

theorem columnsOf_dense (n position : Nat) (vs : List DataVector) (kinds : List Kind) :
    columnsOf n position (vs.map DataVector.dense) kinds =
      (columnsOf n position vs kinds).map (List.map Column.dense) := by
  induction vs generalizing position kinds with
  | nil => rfl
  | cons v vs ih =>
    cases kinds with
    | nil => rfl
    | cons k ks =>
      rw [List.map_cons, columnsOf, columnsOf, DataVector.length_dense, Column.ofVector_dense, ih]
      split
      · rfl
      · cases Column.ofVector k v with
        | error e => rfl
        | ok c => cases columnsOf n (position + 1) vs ks <;> rfl

theorem ofVectors_dense (type : RowType) (primary : DataVector) (companions : List DataVector) :
    ofVectors type primary.dense (companions.map DataVector.dense) =
      (ofVectors type primary companions).map dense := by
  have hcolumns := columnsOf_dense primary.length 0 (primary :: companions) type.kinds
  rw [List.map_cons] at hcolumns
  simp only [ofVectors, List.length_map, DataVector.length_dense, hcolumns]
  by_cases harity : maxArity < 1 + companions.length
  · rw [if_pos harity, if_pos harity]
    rfl
  · rw [if_neg harity, if_neg harity]
    by_cases hwidth : type.width ≠ 1 + companions.length
    · rw [if_pos hwidth, if_pos hwidth]
      rfl
    · rw [if_neg hwidth, if_neg hwidth]
      cases columnsOf primary.length 0 (primary :: companions) type.kinds <;> rfl

end ColumnArray

end TieredVectors
