import Mathlib.Data.List.Forall2
import TieredVectors.Proofs.Columns.RoundTrips

/-!
# The layout of arrays

Arrays are made of vectors, of boxed values or of columns, and only the last way checks the columns
that it puts together. All three make well-formed arrays all the same.

* `ColumnArray.exists_ofVectors_iff` — which vectors can become an array of a given type;
* `ColumnArray.row?_of_ofVectors` — its rows are the elements, widened where doubles are wanted;
* `ColumnArray.transpose_eq_mapM` — the columns of boxed values are read field by field, and no
  field is missing (`ColumnArray.exists_fields`);
* `ColumnArray.Made.wellFormed` — kinds and lengths are right, however the array was made.

`ColumnArray.made_as_laid_out` is all of this together.
-/

namespace TieredVectors

/-! ## Vectors -/

/-- The elements of a vector can stand in a column of the given kind: they are of that kind, or they
are words and doubles are wanted. -/
def DataVector.Fills (v : DataVector) (kind : Kind) : Prop :=
  v.inferKind = .ok kind ∨ (v.inferKind = .ok .int ∧ kind = .double)

namespace Column

variable {v : DataVector} {kind : Kind} {c : Column}

theorem exists_ofVector_iff : (∃ c, ofVector kind v = .ok c) ↔ v.Fills kind := by
  cases v <;> cases kind <;> simp [ofVector, DataVector.Fills, DataVector.inferKind]

/-- The column of a vector has its elements, widened where doubles are wanted. -/
theorem of_ofVector (h : ofVector kind v = .ok c) :
    c.kind = kind ∧ c.length = v.length ∧
      ∀ i, (c.get? i).map Value.ofScalar = (v.get? i).map (·.widen kind) := by
  cases v <;> cases kind <;> cases h <;>
    refine ⟨rfl, by simp [length, DataVector.length], fun i => ?_⟩ <;>
    simp only [get?, DataVector.get?, List.getElem?_map, Sequence.getElem?_toList,
      Option.map_map] <;> rfl

end Column

namespace ColumnArray

variable {type : RowType} {primary : DataVector} {companions vs : List DataVector}
  {kinds : List Kind} {n position : Nat} {cs : List Column} {a : ColumnArray}

theorem exists_columnsOf_iff (position : Nat) (hwidth : vs.length = kinds.length) :
    (∃ cs, columnsOf n position vs kinds = .ok cs) ↔
      (∀ v ∈ vs, v.length = n) ∧ List.Forall₂ DataVector.Fills vs kinds := by
  induction vs generalizing kinds position with
  | nil =>
    obtain rfl : kinds = [] := by simpa using hwidth.symm
    exact iff_of_true ⟨[], rfl⟩ ⟨List.forall_mem_nil _, .nil⟩
  | cons v vs ih =>
    cases kinds with
    | nil => cases hwidth
    | cons kind kinds =>
      rw [columnsOf, List.forall_mem_cons, List.forall₂_cons]
      split
      next hlength => exact iff_of_false (by simp) fun h => hlength h.1.1
      next hlength =>
        have hrest := ih (position + 1) (Nat.succ.inj hwidth)
        rw [← Column.exists_ofVector_iff]
        constructor
        · rintro ⟨cs, hcs⟩
          obtain ⟨c, hc, hcs⟩ := bind_eq_ok.1 hcs
          obtain ⟨cs', hcs', -⟩ := bind_eq_ok.1 hcs
          obtain ⟨hlengths, hfills⟩ := hrest.1 ⟨cs', hcs'⟩
          exact ⟨⟨Decidable.not_not.1 hlength, hlengths⟩, ⟨c, hc⟩, hfills⟩
        · rintro ⟨⟨-, hlengths⟩, ⟨c, hc⟩, hfills⟩
          obtain ⟨cs, hcs⟩ := hrest.2 ⟨hlengths, hfills⟩
          exact ⟨c :: cs, bind_eq_ok.2 ⟨c, hc, bind_eq_ok.2 ⟨cs, hcs, rfl⟩⟩⟩

/-- The columns of vectors have their elements, widened where doubles are wanted. -/
theorem of_columnsOf (hwidth : vs.length = kinds.length)
    (h : columnsOf n position vs kinds = .ok cs) :
    cs.map Column.kind = kinds ∧ (∀ c ∈ cs, c.length = n) ∧
      ∀ i, cs.map (fun c => (c.get? i).map Value.ofScalar) =
        List.zipWith (fun v kind => (v.get? i).map (·.widen kind)) vs kinds := by
  induction vs generalizing kinds position cs with
  | nil =>
    obtain rfl : kinds = [] := by simpa using hwidth.symm
    cases h
    exact ⟨rfl, List.forall_mem_nil _, fun _ => rfl⟩
  | cons v vs ih =>
    cases kinds with
    | nil => cases hwidth
    | cons kind kinds =>
      rw [columnsOf] at h
      split at h
      next => cases h
      next hlength =>
        obtain ⟨c, hc, h⟩ := bind_eq_ok.1 h
        obtain ⟨cs', hcs', h⟩ := bind_eq_ok.1 h
        obtain rfl := pure_eq_ok.1 h
        obtain ⟨hkind, hlength', hcells⟩ := Column.of_ofVector hc
        obtain ⟨hkinds, hlengths, hrows⟩ := ih (Nat.succ.inj hwidth) hcs'
        refine ⟨by rw [List.map_cons, hkind, hkinds], ?_, fun i => ?_⟩
        · exact List.forall_mem_cons.2
            ⟨hlength'.trans (Decidable.not_not.1 hlength), hlengths⟩
        · rw [List.map_cons, List.zipWith_cons_cons, hcells i, hrows i]

theorem ofVectors_eq_ok_iff :
    ofVectors type primary companions = .ok a ↔
      1 + companions.length ≤ maxArity ∧ type.width = 1 + companions.length ∧
      ∃ cs, columnsOf primary.length 0 (primary :: companions) type.kinds = .ok cs ∧
        a = { type, columns := cs, length := primary.length } := by
  rw [ofVectors]
  by_cases harity : maxArity < 1 + companions.length
  · rw [if_pos harity]
    exact iff_of_false throw_ne_ok fun h => Nat.not_le.2 harity h.1
  · rw [if_neg harity]
    by_cases hwidth : type.width ≠ 1 + companions.length
    · rw [if_pos hwidth]
      exact iff_of_false throw_ne_ok fun h => hwidth h.2.1
    · rw [if_neg hwidth]
      constructor
      · intro h
        obtain ⟨cs, hcs, h⟩ := bind_eq_ok.1 h
        exact ⟨Nat.not_lt.1 harity, Decidable.not_not.1 hwidth, cs, hcs, (pure_eq_ok.1 h).symm⟩
      · rintro ⟨-, -, cs, hcs, rfl⟩
        exact bind_eq_ok.2 ⟨cs, hcs, rfl⟩

/-- Which vectors can become an array of a given type. -/
theorem exists_ofVectors_iff :
    (∃ a, ofVectors type primary companions = .ok a) ↔
      1 + companions.length ≤ maxArity ∧ 1 + companions.length = type.width ∧
      (∀ v ∈ companions, v.length = primary.length) ∧
      List.Forall₂ DataVector.Fills (primary :: companions) type.kinds := by
  -- the primary vector has its own length, so only the companions' lengths say anything
  simp only [ofVectors_eq_ok_iff]
  constructor
  · rintro ⟨a, harity, hwidth, cs, hcs, -⟩
    have hlength : (primary :: companions).length = type.kinds.length := by
      rw [List.length_cons, Nat.add_comm]
      exact hwidth.symm
    obtain ⟨hlengths, hfills⟩ := (exists_columnsOf_iff 0 hlength).1 ⟨cs, hcs⟩
    exact ⟨harity, hwidth.symm, (List.forall_mem_cons.1 hlengths).2, hfills⟩
  · rintro ⟨harity, hwidth, hlengths, hfills⟩
    obtain ⟨cs, hcs⟩ := (exists_columnsOf_iff 0 hfills.length_eq).2
      ⟨List.forall_mem_cons.2 ⟨rfl, hlengths⟩, hfills⟩
    exact ⟨_, harity, hwidth.symm, cs, hcs, rfl⟩

/-- The rows of an array made of vectors are their elements, widened where doubles are wanted. -/
theorem row?_of_ofVectors (h : ofVectors type primary companions = .ok a) :
    a.type = type ∧ a.WellFormed ∧ a.length = primary.length ∧
      ∀ i < a.length, ∃ items row, (primary :: companions).map (·.get? i) = items.map some ∧
        a.row? i = some row ∧
        row.map Value.ofScalar = List.zipWith Value.widen items type.kinds := by
  obtain ⟨harity, hwidth, hlengths, hfills⟩ := exists_ofVectors_iff.1 ⟨a, h⟩
  obtain ⟨-, -, cs, hcs, rfl⟩ := ofVectors_eq_ok_iff.1 h
  obtain ⟨hkinds, hlengths', hcells⟩ := of_columnsOf hfills.length_eq hcs
  have hwell : WellFormed ⟨type, cs, primary.length⟩ := ⟨hkinds, hlengths'⟩
  refine ⟨rfl, hwell, rfl, fun i hi => ?_⟩
  let z : Zipped := ⟨primary, companions, harity, hlengths⟩
  have hitems := z.map_some_arguments hi
  obtain ⟨row, hrow, -⟩ := hwell.exists_row hi
  refine ⟨z.arguments i, row, hitems.symm, hrow, ?_⟩
  -- cell by cell: no cell and no element is missing
  have hboxed : (row.map Value.ofScalar).map some =
      (List.zipWith Value.widen (z.arguments i) type.kinds).map some := by
    calc (row.map Value.ofScalar).map some
      _ = (row.map some).map (·.map Value.ofScalar) := by rw [List.map_map, List.map_map]; rfl
      _ = (cs.map (·.get? i)).map (·.map Value.ofScalar) := by rw [row?_eq_some_iff.1 hrow]
      _ = List.zipWith (fun v kind => (v.get? i).map (·.widen kind)) (primary :: companions)
          type.kinds := by rw [List.map_map]; exact hcells i
      _ = List.zipWith (fun v kind => v.map (·.widen kind)) ((z.arguments i).map some)
          type.kinds := by rw [hitems, List.zipWith_map_left]
      _ = (List.zipWith Value.widen (z.arguments i) type.kinds).map some := by
        rw [List.zipWith_map_left, List.map_zipWith]; rfl
  exact List.map_injective_iff.2 (fun _ _ => Option.some.inj) hboxed

/-! ## Columns -/

theorem of_checkKinds (hwidth : cs.length = kinds.length) (h : checkKinds cs kinds = .ok ()) :
    cs.map Column.kind = kinds := by
  induction cs generalizing kinds with
  | nil => simpa using hwidth.symm
  | cons c cs ih =>
    cases kinds with
    | nil => cases hwidth
    | cons kind kinds =>
      rw [checkKinds] at h
      split at h
      next hkind => rw [List.map_cons, hkind, ih (Nat.succ.inj hwidth) h]
      next => cases h

theorem of_checkLengths (h : checkLengths n position cs = .ok ()) : ∀ c ∈ cs, c.length = n := by
  induction cs generalizing position with
  | nil => exact List.forall_mem_nil _
  | cons c cs ih =>
    rw [checkLengths] at h
    split at h
    next hlength => exact List.forall_mem_cons.2 ⟨hlength, ih h⟩
    next => cases h

/-- An array that columns have been accepted for is well formed. -/
theorem of_make (h : make type cs = .ok a) : a.type = type ∧ a.WellFormed := by
  rw [make] at h
  split at h
  next => cases h
  next hwidth =>
    obtain ⟨⟨⟩, hkinds, h⟩ := bind_eq_ok.1 h
    obtain ⟨⟨⟩, hlengths, h⟩ := bind_eq_ok.1 h
    obtain rfl := pure_eq_ok.1 h
    refine ⟨rfl, of_checkKinds (Decidable.not_not.1 hwidth) hkinds, ?_⟩
    -- the first column has the length of the array by definition
    cases cs with
    | nil => exact List.forall_mem_nil _
    | cons c cs => exact List.forall_mem_cons.2 ⟨rfl, of_checkLengths hlengths⟩

/-! ## Boxed values -/

variable {rows : List (List Scalar)} {values : List Value}

/-- Fields that all rows have can be read off each of them. -/
theorem exists_fields {f : Nat} (h : ∀ row ∈ rows, f < row.length) :
    rows.map (·[f]?) = (rows.filterMap (·[f]?)).map some := by
  induction rows with
  | nil => rfl
  | cons row rows ih =>
    rw [List.forall_mem_cons] at h
    rw [List.map_cons, ih h.2, List.filterMap_cons, List.getElem?_eq_getElem h.1, List.map_cons]

/-- The columns of rows are those of their fields, position by position. -/
theorem transpose_eq_mapM (kinds : List Kind) (rows : List (List Scalar)) (first : Nat) :
    transpose kinds (rows.map (·.drop first)) =
      (kinds.zipIdx first).mapM fun p => Column.ofScalars p.1 (rows.filterMap (·[p.2]?)) := by
  -- on the kinds; when a kind's turn comes, the fields before it have been dropped from all rows
  induction kinds generalizing first with
  | nil => rfl
  | cons kind kinds ih =>
    have hheads : (rows.map (·.drop first)).filterMap List.head? = rows.filterMap (·[first]?) := by
      rw [List.filterMap_map]
      exact List.filterMap_congr fun row _ => List.head?_drop
    have htails : (rows.map (·.drop first)).map List.tail = rows.map (·.drop (first + 1)) := by
      rw [List.map_map]
      exact List.map_congr_left fun row _ => List.tail_drop
    rw [transpose, hheads, htails, ih, List.zipIdx_cons, List.mapM_cons]

/-- The fields of boxed values are all there, and the array of the values is made of them. -/
theorem ofValues_of_unboxRows (h : unboxRows type 0 values = .ok rows) :
    (∀ f < type.width, rows.map (·[f]?) = (rows.filterMap (·[f]?)).map some) ∧
      ofValues type values = (fun columns => ⟨type, columns, values.length⟩) <$>
        type.kinds.zipIdx.mapM fun p => Column.ofScalars p.1 (rows.filterMap (·[p.2]?)) := by
  obtain ⟨-, hwidths⟩ := boxRow?_of_unboxRows h
  refine ⟨fun f hf => exists_fields fun row hrow => hwidths row hrow ▸ hf, ?_⟩
  have htranspose := transpose_eq_mapM type.kinds rows 0
  simp only [List.drop_zero, List.map_id'] at htranspose
  rw [ofValues, h, ← htranspose, map_eq_pure_bind]
  rfl

/-! ## However an array is made -/

/-- An array of the given type that has been made of vectors, of boxed values or of columns. -/
inductive Made (type : RowType) (a : ColumnArray) : Prop
  | ofVectors {primary : DataVector} {companions : List DataVector} :
      ofVectors type primary companions = .ok a → Made type a
  | ofValues {values : List Value} : ofValues type values = .ok a → Made type a
  | ofColumns {columns : List Column} : make type columns = .ok a → Made type a

theorem Made.wellFormed (h : Made type a) : a.type = type ∧ a.WellFormed := by
  cases h with
  | ofVectors h =>
    obtain ⟨htype, hwell, -⟩ := row?_of_ofVectors h
    exact ⟨htype, hwell⟩
  | ofValues h =>
    refine ⟨?_, (value?_of_ofValues h).1⟩
    obtain ⟨rows, -, h⟩ := bind_eq_ok.1 h
    obtain ⟨cs, -, h⟩ := bind_eq_ok.1 h
    rw [← pure_eq_ok.1 h]
  | ofColumns h => exact of_make h

/-- There are as many rows as the length says. -/
theorem WellFormed.isSome_row?_iff (h : a.WellFormed) {i : Nat} :
    (a.row? i).isSome ↔ i < a.length := by
  constructor
  · intro hsome
    by_contra hi
    rw [h.row?_eq_none (Nat.not_lt.1 hi)] at hsome
    cases hsome
  · intro hi
    obtain ⟨row, hrow, -⟩ := h.exists_row hi
    rw [hrow]
    rfl

/-- Arrays are laid out as their type says, and have the data that they were made of.

* Vectors become an array iff they are no more than four and as many as the type has fields, are all
  of one length, and each has elements of the kind of its column, or words where that is one of
  doubles.
* Whether it was made of vectors, of boxed values or of columns, an array has one column for each
  field, of the field's kind and of the array's length, and has a row at an index iff that is less
  than its length.
* The rows of an array made of vectors are their elements at one index, words made doubles where the
  column is one of doubles.
* Every field that is read to make columns of boxed values is there. -/
theorem made_as_laid_out :
    (∀ (type : RowType) (primary : DataVector) (companions : List DataVector),
      (∃ a, ofVectors type primary companions = .ok a) ↔
        1 + companions.length ≤ maxArity ∧ 1 + companions.length = type.width ∧
        (∀ v ∈ companions, v.length = primary.length) ∧
        List.Forall₂ DataVector.Fills (primary :: companions) type.kinds) ∧
    (∀ (type : RowType) (a : ColumnArray), Made type a →
      a.type = type ∧ a.columns.length = type.width ∧
        (∀ f : Nat, a.columns[f]?.map Column.kind = type.kinds[f]?) ∧
        (∀ c ∈ a.columns, c.length = a.length) ∧
        ∀ i, (a.row? i).isSome ↔ i < a.length) ∧
    (∀ (type : RowType) (primary : DataVector) (companions : List DataVector) (a : ColumnArray),
      ofVectors type primary companions = .ok a →
        a.length = primary.length ∧
        ∀ i < a.length, ∃ items row, (primary :: companions).map (·.get? i) = items.map some ∧
          a.row? i = some row ∧
          row.map Value.ofScalar = List.zipWith Value.widen items type.kinds) ∧
    ∀ (type : RowType) (values : List Value) (rows : List (List Scalar)),
      unboxRows type 0 values = .ok rows →
      ∃ fields : Nat → List Scalar,
        (∀ f < type.width, rows.map (·[f]?) = (fields f).map some) ∧
        ofValues type values = (fun columns => ⟨type, columns, values.length⟩) <$>
          type.kinds.zipIdx.mapM fun p => Column.ofScalars p.1 (fields p.2) := by
  refine ⟨fun type primary companions => exists_ofVectors_iff, fun type a ha => ?_,
    fun type primary companions a ha => (row?_of_ofVectors ha).2.2,
    fun type values rows hrows => ⟨fun f => rows.filterMap (·[f]?), ofValues_of_unboxRows hrows⟩⟩
  obtain ⟨rfl, hwell⟩ := ha.wellFormed
  refine ⟨rfl, ?_, fun f => ?_, hwell.lengths, fun i => hwell.isSome_row?_iff⟩
  · rw [RowType.width, ← hwell.kinds, List.length_map]
  · rw [← hwell.kinds, List.getElem?_map]

/-- Rows of a double and a word. -/
def doubleAndWord : RowType := .tuple [.double, .int] (by decide)

/-- A sequence that becomes doubles, with words beside it, and a boxed row of two words. -/
theorem made_as_laid_out_one_to_three :
    (∃ a, ofVectors doubleAndWord (.range 1 3) [.int [7, 8, 9]] = .ok a ∧ a.columns.length = 2 ∧
      (a.row? 2).isSome ∧ ¬ (a.row? 3).isSome ∧
      ∃ row, a.row? 1 = some row ∧
        row.map Value.ofScalar = [.double (Double.ofWord 2), .int 8]) ∧
    ∃ fields : Nat → List Scalar, [[Scalar.int 4, .int 5]].map (·[1]?) = (fields 1).map some := by
  obtain ⟨hvectors, hmade, hrows, hvalues⟩ := made_as_laid_out
  constructor
  · have hfills : List.Forall₂ DataVector.Fills [.range 1 3, .int [7, 8, 9]] doubleAndWord.kinds :=
      .cons (.inr ⟨rfl, rfl⟩) (.cons (.inl rfl) .nil)
    obtain ⟨a, ha⟩ := (hvectors doubleAndWord (.range 1 3) [.int [7, 8, 9]]).2
      ⟨by decide, rfl, by simp; rfl, hfills⟩
    obtain ⟨-, hcolumns, -, -, hreach⟩ := hmade doubleAndWord a (.ofVectors ha)
    obtain ⟨hlength, hrow⟩ := hrows doubleAndWord _ _ a ha
    replace hlength : a.length = 3 := hlength
    obtain ⟨items, row, hitems, hrow, hboxed⟩ := hrow 1 (by rw [hlength]; decide)
    refine ⟨a, ha, hcolumns, (hreach 2).2 (by rw [hlength]; decide),
      fun h => absurd ((hreach 3).1 h) (by rw [hlength]; decide), row, hrow, hboxed.trans ?_⟩
    obtain rfl : items = [.int 2, .int 8] :=
      List.map_injective_iff.2 (fun _ _ => Option.some.inj) hitems.symm
    rfl
  · obtain ⟨fields, hfields, -⟩ := hvalues doubleAndWord [.list [.int 4, .int 5]] _ rfl
    exact ⟨fields, hfields 1 (by decide)⟩

end ColumnArray

end TieredVectors
