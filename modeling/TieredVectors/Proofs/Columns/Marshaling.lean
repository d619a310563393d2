import TieredVectors.Operator.Zipped
import TieredVectors.Proofs.Columns.Arrays
import TieredVectors.Proofs.Except

/-!
# Marshaling vectors

The columns of a vector and its companions hold their elements: row by row, they are the arguments
of the calls (`Zipped.rows_of_marshal`). Vectors that have been zipped fail to be marshaled only if
their elements have no row type (`Zipped.marshal_cases`).
-/

namespace TieredVectors

/-- A vector whose elements are of one kind is a column of that kind, element by element. -/
theorem Column.ofVector_inferKind {v : DataVector} {kind : Kind} (h : v.inferKind = .ok kind) :
    ∃ c, Column.ofVector kind v = .ok c ∧ c.kind = kind ∧ c.length = v.length ∧
      ∀ i, v.get? i = (c.get? i).map Value.ofScalar := by
  cases v <;> cases h <;>
    exact ⟨_, rfl, rfl, rfl, fun i => by
      simp only [DataVector.get?, Column.get?, Option.map_map]
      rfl⟩

/-- Vectors of one length whose elements are of the given kinds are columns, one by one. -/
theorem ColumnArray.columnsOf_eq_ok {vs : List DataVector} {kinds : List Kind} {n : Nat}
    (hkinds : vs.map DataVector.inferKind = kinds.map .ok) (hlengths : ∀ v ∈ vs, v.length = n)
    (position : Nat) :
    ∃ cs, columnsOf n position vs kinds = .ok cs ∧ cs.map Column.kind = kinds ∧
      (∀ c ∈ cs, c.length = n) ∧
      ∀ i, vs.map (·.get? i) = cs.map fun c => (c.get? i).map Value.ofScalar := by
  induction vs generalizing kinds position with
  | nil =>
    obtain rfl : kinds = [] := by simpa using hkinds
    exact ⟨[], rfl, rfl, by simp, fun _ => rfl⟩
  | cons v vs ih =>
    cases kinds with
    | nil => cases hkinds
    | cons kind kinds =>
      obtain ⟨hkind, hrest⟩ := List.cons.inj hkinds
      rw [List.forall_mem_cons] at hlengths
      obtain ⟨c, hc, rfl, hlength, hcells⟩ := Column.ofVector_inferKind hkind
      obtain ⟨cs, hcs, rfl, hlengths', hrows⟩ := ih hrest hlengths.2 (position + 1)
      refine ⟨c :: cs, ?_, rfl, ?_, fun i => ?_⟩
      · simp [columnsOf, hlengths.1, hc, hcs, bind, Except.bind, pure, Except.pure]
      · exact List.forall_mem_cons.2 ⟨hlength.trans hlengths.1, hlengths'⟩
      · rw [List.map_cons, List.map_cons, hcells i, hrows i]

namespace DataVector

variable {primary : DataVector} {companions : List DataVector}

theorem isSome_get?_iff {v : DataVector} {i : Nat} : (v.get? i).isSome ↔ i < v.length := by
  cases v <;> simp [get?, length, Sequence.get?_eq]

/-- The kinds of the fields are those of the vectors. -/
theorem kinds_of_inferRows {type : RowType} (h : primary.inferRows companions = .ok type) :
    (primary :: companions).map inferKind = type.kinds.map .ok := by
  unfold inferRows at h
  split at h
  · cases h
  split at h
  next hempty =>
    obtain rfl := List.isEmpty_iff.1 hempty
    obtain ⟨kind, hkind, rfl⟩ := map_eq_ok.1 h
    simpa [RowType.kinds] using hkind
  next =>
    obtain ⟨kinds, hkinds, h⟩ := bind_eq_ok.1 h
    rw [RowType.ofFields] at h
    split at h
    · cases h
    split at h
    · obtain rfl := Except.ok.inj h
      exact mapM_eq_ok_iff.1 hkinds
    · cases h

/-- A vector lacks a kind only if its elements have none in common. -/
theorem inferKind_error {v : DataVector} {e : TypeError} (h : v.inferKind = .error e) :
    e.isRecoverable := by
  cases v <;> cases h
  rfl

/-- Vectors that fit into a row lack a row type only if one of them has elements without a kind. -/
theorem inferRows_error (harity : 1 + companions.length ≤ maxArity) {e : TypeError}
    (h : primary.inferRows companions = .error e) : e.isRecoverable := by
  rw [inferRows, if_neg (Nat.not_lt.2 harity)] at h
  split at h
  next => exact inferKind_error (map_eq_error.1 h)
  next hempty =>
    rcases bind_eq_error.1 h with h | ⟨kinds, hkinds, h⟩
    · obtain ⟨v, -, hv⟩ := exists_of_mapM_eq_error h
      exact inferKind_error hv
    · -- neither too many fields nor too few
      have hlength : kinds.length = 1 + companions.length := by
        have := congrArg List.length (mapM_eq_ok_iff.1 hkinds)
        simpa [Nat.add_comm] using this.symm
      have htuple : IsTupleArity kinds.length := by
        have := List.length_pos_iff.2 (mt List.isEmpty_iff.2 hempty)
        exact ⟨by omega, by omega⟩
      rw [RowType.ofFields, if_neg (Nat.not_lt.2 htuple.2), dif_pos htuple] at h
      cases h

end DataVector

namespace Zipped

variable {z : Zipped} {a : ColumnArray}

/-- No element is missing at an index that the vector reaches. -/
theorem map_some_arguments (z : Zipped) {i : Nat} (hi : i < z.length) :
    (z.arguments i).map some = (z.primary :: z.companions).map fun v => v.get? i := by
  have hsome : ∀ v ∈ z.primary :: z.companions, (v.get? i).isSome := by
    refine List.forall_mem_cons.2 ⟨DataVector.isSome_get?_iff.2 hi, fun v hv => ?_⟩
    rw [DataVector.isSome_get?_iff, z.length_eq v hv]
    exact hi
  rw [arguments]
  -- nothing sets the vector apart from its companions here
  generalize z.primary :: z.companions = vs at hsome
  induction vs with
  | nil => rfl
  | cons v vs ih =>
    rw [List.forall_mem_cons] at hsome
    obtain ⟨x, hx⟩ := Option.isSome_iff_exists.1 hsome.1
    simp only [List.filterMap_cons, List.map_cons, hx, ih hsome.2]

/-- The array holds the elements: its rows are the arguments of the calls. -/
structure Rows (z : Zipped) (a : ColumnArray) : Prop where
  wellFormed : a.WellFormed
  width : a.type.width = 1 + z.companions.length
  length : a.length = z.length
  arguments : ∀ i row, a.row? i = some row → z.arguments i = row.map Value.ofScalar

/-- Vectors with a row type have columns, which hold their elements. -/
theorem exists_ofVectors {type : RowType} (h : z.primary.inferRows z.companions = .ok type) :
    ∃ a, ColumnArray.ofVectors type z.primary z.companions = .ok a ∧ a.type = type ∧ z.Rows a := by
  have hkinds := DataVector.kinds_of_inferRows h
  have hwidth : type.width = 1 + z.companions.length := by
    have := congrArg List.length hkinds
    simpa [RowType.width, Nat.add_comm] using this.symm
  have hlengths : ∀ v ∈ z.primary :: z.companions, v.length = z.length :=
    List.forall_mem_cons.2 ⟨rfl, z.length_eq⟩
  obtain ⟨cs, hcs, hk, hl, hrows⟩ := ColumnArray.columnsOf_eq_ok hkinds hlengths 0
  refine ⟨⟨type, cs, z.length⟩, ?_, rfl, ⟨hk, hl⟩, hwidth, rfl, fun i row hrow => ?_⟩
  · have hcs' : ColumnArray.columnsOf z.primary.length 0 (z.primary :: z.companions) type.kinds =
        .ok cs := hcs
    rw [ColumnArray.ofVectors, if_neg (Nat.not_lt.2 z.arity_le),
      if_neg (Decidable.not_not.2 hwidth), hcs']
    rfl
  · have hcells := ColumnArray.row?_eq_some_iff.1 hrow
    -- a row has a cell of every column, so no argument is missing
    have hboxed : (z.primary :: z.companions).map (·.get? i) =
        (row.map Value.ofScalar).map some := by
      calc (z.primary :: z.companions).map (·.get? i)
        _ = (cs.map (·.get? i)).map (·.map Value.ofScalar) := by rw [hrows i, List.map_map]; rfl
        _ = (row.map Value.ofScalar).map some := by rw [hcells, List.map_map, List.map_map]; rfl
    calc z.arguments i
      _ = ((z.primary :: z.companions).map (·.get? i)).filterMap id := by
        rw [List.filterMap_map]; rfl
      _ = row.map Value.ofScalar := by rw [hboxed, List.filterMap_map]; simp

/-- The columns of vectors hold their elements. -/
theorem rows_of_marshal (h : z.primary.marshal z.companions = .ok a) : z.Rows a := by
  obtain ⟨type, htype, ha⟩ := bind_eq_ok.1 h
  obtain ⟨a', ha', -, hrows⟩ := exists_ofVectors htype
  obtain rfl := Except.ok.inj (ha'.symm.trans ha)
  exact hrows

/-- The columns of vectors, if there are any, have one field for each argument. -/
theorem layout_of_marshal (h : (z.primary.marshal z.companions).toOption = some a) :
    a.WellFormed ∧ a.type.width = 1 + z.companions.length :=
  have hrows := rows_of_marshal (toOption_eq_some_iff.1 h)
  ⟨hrows.wellFormed, hrows.width⟩

/-- Marshaling fails only where the elements have no row type. -/
theorem marshal_cases (z : Zipped) :
    (∃ type a, z.primary.inferRows z.companions = .ok type ∧
      ColumnArray.ofVectors type z.primary z.companions = .ok a ∧
      z.primary.marshal z.companions = .ok a) ∨
    ∃ e, z.primary.inferRows z.companions = .error e ∧ e.isRecoverable ∧
      z.primary.marshal z.companions = .error e := by
  cases htype : z.primary.inferRows z.companions with
  | ok type =>
    obtain ⟨a, ha, -⟩ := exists_ofVectors htype
    exact Or.inl ⟨type, a, rfl, ha, bind_eq_ok.2 ⟨type, htype, ha⟩⟩
  | error e =>
    exact Or.inr ⟨e, rfl, DataVector.inferRows_error z.arity_le htype,
      bind_eq_error.2 (.inl htype)⟩

end Zipped

end TieredVectors
