import TieredVectors.Operator.Interpreter
import TieredVectors.Proofs.Columns.RoundTrips

/-!
# One result under two types

A result is made a vector of the type that is expected of it, or else of its own type. For a single
result `DataVector.ofResults_singleton_eq_iff` tells for which expected types that makes no
difference (`Value.SameUnder`).
-/

namespace TieredVectors

namespace Value

/-- A vector of the value alone is the same under the expected type as under the value's own: the
types are equal, a double is expected to be a word, or the value is a tuple that does not fit. A
value without a type stays as it is in any case. -/
def SameUnder (v : Value) (expected : RowType) : Prop :=
  match v.inferOutput with
  | .error _ => True
  | .ok (.scalar kind) => expected = .scalar kind ∨ expected = .scalar .int ∧ kind = .double
  | .ok (.tuple kinds arity) =>
    expected = .tuple kinds arity ∨ ∃ e, DataVector.ofValues expected [v] = .error e

/-- Two to four scalars in a list have the type of these scalars. -/
theorem inferOutput_of_scalars {row : List Scalar} {kinds : List Kind}
    (h : IsTupleArity kinds.length) (hkinds : row.map Scalar.kind = kinds) :
    (list (row.map ofScalar)).inferOutput = .ok (.tuple kinds h) := by
  subst hkinds
  rw [List.length_map] at h
  have hitems : (row.map ofScalar).mapM inferKind = .ok (row.map Scalar.kind) := by
    rw [mapM_eq_ok_iff, List.map_map, List.map_map]
    refine List.map_congr_left fun s _ => ?_
    simp [inferKind]
  obtain ⟨htwo, hfour⟩ := h
  have hofFields : RowType.ofFields (row.map Scalar.kind) =
      .ok (.tuple (row.map Scalar.kind) (by rw [List.length_map]; exact ⟨htwo, hfour⟩)) := by
    rw [RowType.ofFields, if_neg (by rw [List.length_map]; omega), dif_pos]
  simp only [inferOutput, List.length_map]
  rw [if_neg (by omega), if_neg (by omega), hitems]
  exact hofFields

theorem widenRow_own {row : List Scalar} (h : IsTupleArity (row.map Scalar.kind).length) :
    (list (row.map ofScalar)).widenRow (.tuple (row.map Scalar.kind) h) =
      list (row.map ofScalar) := by
  have hfield (s : Scalar) : (ofScalar s).widen s.kind = ofScalar s := by cases s <;> rfl
  simp only [widenRow, List.zipWith_map, List.zipWith_self, hfield]

end Value

namespace ColumnArray

variable {type : RowType} {v : Value} {a : ColumnArray}

theorem type_of_ofValues {values : List Value} (h : ofValues type values = .ok a) :
    a.type = type := by
  obtain ⟨rows, -, h⟩ := bind_eq_ok.1 h
  obtain ⟨cs, -, h⟩ := bind_eq_ok.1 h
  rw [← pure_eq_ok.1 h]

/-- A value that fits a tuple type is a list of scalars. -/
theorem exists_scalars_of_ofValues {kinds : List Kind} {harity : IsTupleArity kinds.length}
    (h : ofValues (.tuple kinds harity) [v] = .ok a) :
    ∃ row : List Scalar, v = .list (row.map Value.ofScalar) ∧ row.length = kinds.length := by
  obtain ⟨rows, hrows, -⟩ := bind_eq_ok.1 h
  obtain ⟨row, hrow, -⟩ := bind_eq_ok.1 hrows
  obtain ⟨hboxed, hwidth⟩ := boxRow?_of_unboxRow hrow
  exact ⟨row, (Option.some.inj hboxed).symm, hwidth⟩

/-- A value that fits a tuple type is widened, and stays as it is only if the type is its own. -/
theorem toVector_of_ofValues_tuple {kinds : List Kind} {harity : IsTupleArity kinds.length}
    (h : ofValues (.tuple kinds harity) [v] = .ok a) :
    a.toVector = .list [v.widenRow (.tuple kinds harity)] ∧
      (v.widenRow (.tuple kinds harity) = v ↔ v.inferOutput = .ok (.tuple kinds harity)) := by
  have htype := type_of_ofValues h
  obtain ⟨hwf, hlength, hvalue⟩ := value?_of_ofValues h
  obtain ⟨row, rfl, hrow⟩ := exists_scalars_of_ofValues h
  have hfirst : a.value? 0 =
      some ((Value.list (row.map Value.ofScalar)).widenRow (.tuple kinds harity)) := hvalue 0
  refine ⟨?_, fun hwiden => ?_, fun hown => ?_⟩
  · rw [toVector, htype, hlength]
    simp [List.range_succ, hfirst]
  · -- the only row of the array has the kinds of the type
    rw [hwiden, value?, htype] at hfirst
    obtain ⟨row', hrow', hboxed⟩ := Option.bind_eq_some_iff.1 hfirst
    obtain ⟨row'', hrow'', hkinds⟩ := hwf.exists_row (i := 0) (by rw [hlength]; exact Nat.one_pos)
    obtain rfl := Option.some.inj (hrow'.symm.trans hrow'')
    rw [htype] at hkinds
    obtain hlist := Option.some.inj hboxed
    rw [← hlist]
    exact Value.inferOutput_of_scalars harity hkinds
  · have hkinds : row.map Scalar.kind = kinds := by
      have harity' : IsTupleArity (row.map Scalar.kind).length := by
        rw [List.length_map, hrow]
        exact harity
      have hinfer := Value.inferOutput_of_scalars harity' rfl
      rw [hown] at hinfer
      exact (RowType.tuple.inj (Except.ok.inj hinfer)).symm
    subst hkinds
    exact Value.widenRow_own harity

end ColumnArray

namespace DataVector

variable {v : Value} {type : RowType} {items : List Value}

/-- What fits no type becomes a list, whichever type is expected. -/
theorem ofResults_of_misfit (h : ∀ type, ∃ e, ofValues type [v] = .error e) (expected : RowType) :
    (ofResults [v] (some expected)).1 = .list [v] := by
  obtain ⟨e, he⟩ := h expected
  obtain ⟨e', he'⟩ := h (.scalar .double)
  simp only [ofResults, he, he']
  split <;> rfl

/-- No list fits a scalar type, so that there it stays a list. -/
theorem ofValues_scalar_list (kind : Kind) (items : List Value) :
    ∃ e, ofValues (.scalar kind) [.list items] = .error e :=
  ⟨_, rfl⟩

/-- A list stays as it is under its own type, and under any that it does not fit. -/
theorem ofResults_list_eq_iff :
    (ofResults [.list items] (some type)).1 = .list [.list items] ↔
      (Value.list items).inferOutput = .ok type ∨
        ∃ e, ofValues type [.list items] = .error e := by
  cases type with
  | scalar kind =>
    have hlist : (ofResults [.list items] (some (.scalar kind))).1 = .list [.list items] := by
      cases kind <;> rfl
    exact iff_of_true hlist (.inr (ofValues_scalar_list kind items))
  | tuple kinds harity =>
    cases ha : ColumnArray.ofValues (.tuple kinds harity) [.list items] with
    | error e =>
      have herror : ofValues (.tuple kinds harity) [.list items] = .error e := by
        rw [ofValues, ha]
        rfl
      refine iff_of_true ?_ (.inr ⟨e, herror⟩)
      rw [ofResults, herror]
      rfl
    | ok a =>
      have hok : ofValues (.tuple kinds harity) [.list items] = .ok a.toVector := by
        rw [ofValues, ha]
        rfl
      obtain ⟨hvector, hwiden⟩ := ColumnArray.toVector_of_ofValues_tuple ha
      rw [ofResults, hok]
      simp only [hvector, list.injEq, List.cons.injEq, and_true, hwiden, reduceCtorEq, exists_false,
        or_false]

/-- A list has a tuple type or none. -/
theorem inferOutput_list_cases (items : List Value) :
    (∃ kinds harity, (Value.list items).inferOutput = .ok (.tuple kinds harity)) ∨
      ∃ e, (Value.list items).inferOutput = .error e := by
  cases h : (Value.list items).inferOutput with
  | error e => exact .inr ⟨e, rfl⟩
  | ok type =>
    cases type with
    | tuple kinds harity => exact .inl ⟨kinds, harity, rfl⟩
    | scalar kind =>
      simp only [Value.inferOutput] at h
      split at h
      · cases h
      · split at h
        · cases h
        · obtain ⟨fields, -, h⟩ := bind_eq_ok.1 h
          unfold RowType.ofFields at h
          split at h
          · cases h
          · split at h <;> cases h

/-- Where a list has no type, it fits none. -/
theorem ofValues_of_inferOutput_error {e : TypeError}
    (h : (Value.list items).inferOutput = .error e) (type : RowType) :
    ∃ e, ofValues type [.list items] = .error e := by
  cases type with
  | scalar kind => exact ofValues_scalar_list kind items
  | tuple kinds harity =>
    cases ha : ColumnArray.ofValues (.tuple kinds harity) [.list items] with
    | error e' =>
      refine ⟨e', ?_⟩
      rw [ofValues, ha]
      rfl
    | ok a =>
      obtain ⟨row, hrow, hlength⟩ := ColumnArray.exists_scalars_of_ofValues ha
      have harity' : IsTupleArity (row.map Scalar.kind).length := by
        rw [List.length_map, hlength]
        exact harity
      rw [hrow, Value.inferOutput_of_scalars harity' rfl] at h
      cases h

/-- A scalar becomes what it is under its own type, and a double does where words are expected. -/
theorem ofResults_scalar_eq_iff (s : Scalar) (expected : RowType) :
    (ofResults [.ofScalar s] (some expected)).1 =
        (ofResults [.ofScalar s] (some (.scalar s.kind))).1 ↔
      expected = .scalar s.kind ∨ expected = .scalar .int ∧ s.kind = .double := by
  cases expected with
  | tuple kinds harity =>
    refine iff_of_false (fun h => ?_) (by simp)
    cases s <;> cases h
  | scalar kind =>
    -- a word is widened where doubles are expected; elsewhere other kinds become lists
    cases s <;> cases kind <;>
      first
      | exact iff_of_true rfl (by simp [Scalar.kind])
      | exact iff_of_false (fun h => by cases h) (by simp [Scalar.kind])

/-- Whether the type that is expected of a single result makes a difference. -/
theorem ofResults_singleton_eq_iff (v : Value) (expected : RowType) :
    (ofResults [v] (some expected)).1 = (ofResults [v] v.inferOutput.toOption).1 ↔
      v.SameUnder expected := by
  cases v with
  | list items =>
    rcases inferOutput_list_cases items with ⟨kinds, harity, hown⟩ | ⟨e, hown⟩
    · have hself : (ofResults [.list items] (some (.tuple kinds harity))).1 = .list [.list items] :=
        ofResults_list_eq_iff.2 (.inl hown)
      simp only [hown, Except.toOption, hself, Value.SameUnder]
      rw [ofResults_list_eq_iff, hown, Except.ok.injEq, eq_comm]
    · simp only [hown, Except.toOption, Value.SameUnder, iff_true]
      exact ofResults_of_misfit (ofValues_of_inferOutput_error hown) expected
  | null =>
    exact iff_of_true (ofResults_of_misfit (fun type => by cases type <;> exact ⟨_, rfl⟩) _) trivial
  | str text =>
    exact iff_of_true (ofResults_of_misfit (fun type => by cases type <;> exact ⟨_, rfl⟩) _) trivial
  | int w => exact ofResults_scalar_eq_iff (.int w) expected
  | double x => exact ofResults_scalar_eq_iff (.double x) expected
  | bool b => exact ofResults_scalar_eq_iff (.bool b) expected

end DataVector

end TieredVectors
