import TieredVectors.Proofs.Columns.Dense
import TieredVectors.Proofs.Columns.Marshaling
import TieredVectors.Proofs.Columns.Results

/-!
# To columns and back

Vectors become columns and columns vectors, and so do boxed values.

* `DataVector.materialize_ofVectors` — a vector comes back as it was;
* `Zipped.materialize_ofVectors` — a vector with companions comes back as the list of the rows;
* `ColumnArray.value?_of_ofValues` — boxed values come back one by one, with words made doubles
  where the column is one of doubles;
* `ColumnArray.WellFormed.ofValues_values` — the boxed rows of an array make up the array with its
  sequences written out.

`ColumnArray.round_trips` is all of this together.
-/

namespace TieredVectors

/-! ## Vectors -/

/-- An array can be read back under its own type, and gives the same vector however this is done. -/
theorem ColumnArray.exists_materialize (a : ColumnArray) (m : Materialization) :
    ∃ r, a.materialize a.type m = .ok r ∧ r.vector = a.toVector := by
  rw [materialize, toVectorOf, if_pos rfl]
  exact ⟨_, rfl, rfl⟩

/-- A vector that has become a column comes back as it was, a sequence as a sequence. -/
theorem Column.toVector_of_ofVector {v : DataVector} {kind : Kind} {c : Column}
    (h : v.inferKind = .ok kind) (hc : Column.ofVector kind v = .ok c) : c.toVector = v := by
  cases v <;> cases h <;> cases hc <;> rfl

namespace DataVector

variable {v primary : DataVector} {companions : List DataVector}

/-- A list, whose elements may be of any type. -/
def IsList : DataVector → Prop
  | .list _ => True
  | _ => False

theorem exists_inferKind (h : ¬ v.IsList) : ∃ kind, v.inferKind = .ok kind := by
  cases v with
  | list items => exact absurd trivial h
  | _ => exact ⟨_, rfl⟩

theorem exists_kinds {vs : List DataVector} (h : ∀ v ∈ vs, ¬ v.IsList) :
    ∃ kinds : List Kind, vs.map inferKind = kinds.map .ok := by
  induction vs with
  | nil => exact ⟨[], rfl⟩
  | cons v vs ih =>
    rw [List.forall_mem_cons] at h
    obtain ⟨kind, hkind⟩ := exists_inferKind h.1
    obtain ⟨kinds, hkinds⟩ := ih h.2
    exact ⟨kind :: kinds, by rw [List.map_cons, List.map_cons, hkind, hkinds]⟩

/-- Vectors that are no lists have a row type: that of their elements, or a tuple. -/
theorem exists_inferRows (hkinds : ∀ v ∈ primary :: companions, ¬ v.IsList)
    (harity : 1 + companions.length ≤ maxArity) :
    ∃ type, primary.inferRows companions = .ok type ∧
      (type.isTuple = true ↔ companions ≠ []) := by
  cases companions with
  | nil =>
    obtain ⟨kind, hkind⟩ := exists_inferKind (hkinds primary List.mem_cons_self)
    refine ⟨.scalar kind, ?_, by simp [RowType.isTuple]⟩
    simp [inferRows, inferType, hkind, maxArity, Except.map]
  | cons w ws =>
    obtain ⟨kinds, hmap⟩ := exists_kinds hkinds
    have hlength : kinds.length = ws.length + 2 := by simpa using (congrArg List.length hmap).symm
    have harity' : IsTupleArity kinds.length := by
      rw [List.length_cons] at harity
      exact ⟨by omega, by omega⟩
    refine ⟨.tuple kinds harity', ?_, by simp [RowType.isTuple]⟩
    rw [inferRows, if_neg (Nat.not_lt.2 harity), mapM_eq_ok_iff.2 hmap]
    show RowType.ofFields kinds = _
    rw [RowType.ofFields, if_neg (Nat.not_lt.2 harity'.2), dif_pos harity']

/-- A vector without companions comes back as it was. -/
theorem materialize_ofVectors (h : ¬ v.IsList) (m : Materialization) :
    ∃ type a r, v.inferRows [] = .ok type ∧ ColumnArray.ofVectors type v [] = .ok a ∧
      a.materialize type m = .ok r ∧ r.vector = v := by
  obtain ⟨kind, hkind⟩ := exists_inferKind h
  obtain ⟨c, hc, -⟩ := Column.ofVector_inferKind hkind
  obtain ⟨r, hr, hvector⟩ := ColumnArray.exists_materialize ⟨.scalar kind, [c], v.length⟩ m
  refine ⟨.scalar kind, ⟨.scalar kind, [c], v.length⟩, r, ?_, ?_, hr,
    hvector.trans (Column.toVector_of_ofVector hkind hc)⟩
  · simp [inferRows, inferType, hkind, maxArity, Except.map]
  · simp [ColumnArray.ofVectors, ColumnArray.columnsOf, RowType.width, RowType.kinds, maxArity, hc,
      bind, Except.bind, pure, Except.pure]

end DataVector

/-- Rows of tuples come back as the list of these, each with the elements of one index. -/
theorem Zipped.materialize_ofVectors (z : Zipped)
    (hkinds : ∀ v ∈ z.primary :: z.companions, ¬ v.IsList) (hmore : z.companions ≠ [])
    (m : Materialization) :
    ∃ type a r rows, z.primary.inferRows z.companions = .ok type ∧
      ColumnArray.ofVectors type z.primary z.companions = .ok a ∧
      a.materialize type m = .ok r ∧ r.vector = .list rows ∧ rows.length = z.length ∧
      ∀ i < z.length, rows[i]? = some (.list (z.arguments i)) := by
  obtain ⟨type, htype, htuple⟩ := DataVector.exists_inferRows hkinds z.arity_le
  obtain ⟨a, ha, rfl, hrows⟩ := z.exists_ofVectors htype
  have hvalue : ∀ i < z.length, a.value? i = some (.list (z.arguments i)) := by
    intro i hi
    obtain ⟨row, hrow, -⟩ := hrows.wellFormed.exists_row (hrows.length ▸ hi)
    rw [ColumnArray.value?, hrow, hrows.arguments i row hrow]
    cases hcase : a.type with
    | scalar kind => simp [hcase, RowType.isTuple, hmore] at htuple
    | tuple kinds harity => rfl
  have hlist : (List.range a.length).filterMap a.value? =
      (List.range z.length).map fun i => .list (z.arguments i) := by
    rw [hrows.length, ← List.filterMap_eq_map]
    exact List.filterMap_congr fun i hi => hvalue i (List.mem_range.1 hi)
  obtain ⟨r, hr, hvector⟩ := a.exists_materialize m
  refine ⟨a.type, a, r, (List.range z.length).map fun i => .list (z.arguments i), htype, ha, hr, ?_,
    by simp, fun i hi => by simp [hi]⟩
  rw [hvector, ← hlist, ColumnArray.toVector]
  cases hcase : a.type with
  | scalar kind => simp [hcase, RowType.isTuple, hmore] at htuple
  | tuple kinds harity => rfl

/-! ## Boxed values -/

namespace Value

/-- An integer made a double where a double is wanted; every other value as it is. -/
def widen (v : Value) (kind : Kind) : Value :=
  match v, kind with
  | .int w, .double => .double (Double.ofWord w)
  | v, _ => v

/-- A boxed row with integers made doubles in the fields that are doubles. -/
def widenRow (type : RowType) (v : Value) : Value :=
  match type, v with
  | .scalar kind, v => v.widen kind
  | .tuple kinds _, .list items => .list (List.zipWith widen items kinds)
  | .tuple _ _, v => v

theorem ofScalar_widen (s : Scalar) (kind : Kind) :
    ofScalar (s.widen kind) = (ofScalar s).widen kind := by
  cases s <;> cases kind <;> rfl

theorem ofScalar_of_scalar? {v : Value} {s : Scalar} (h : v.scalar? = some s) : ofScalar s = v := by
  cases v <;> cases h <;> rfl

end Value

namespace Column

variable {kind : Kind} {c : Column} {scalars : List Scalar}

theorem map_unbox_of_unboxFrom {α : Type} {unbox : Scalar → Option α} {expected : String}
    {index : Nat} {xs : List α} (h : unboxFrom unbox expected index scalars = .ok xs) :
    scalars.map unbox = xs.map some := by
  induction scalars generalizing index xs with
  | nil =>
    cases h
    rfl
  | cons s rest ih =>
    rw [unboxFrom] at h
    split at h
    next x hx =>
      obtain ⟨ys, hys, rfl⟩ := map_eq_ok.1 h
      rw [List.map_cons, List.map_cons, hx, ih hys]
    next => cases h

/-- The cells of a column are the scalars that it was made of, widened. -/
theorem get?_of_ofScalars (h : ofScalars kind scalars = .ok c) (i : Nat) :
    c.get? i = scalars[i]?.map (·.widen kind) := by
  -- what is unboxed is the scalar, whatever kind is wanted
  have hcell {α : Type} {unbox : Scalar → Option α} {box : α → Scalar} {xs : List α}
      (hxs : scalars.map unbox = xs.map some)
      (hbox : ∀ s x, unbox s = some x → box x = s.widen kind) :
      xs[i]?.map box = scalars[i]?.map (·.widen kind) := by
    have hi : scalars[i]?.map unbox = xs[i]?.map some := by
      rw [← List.getElem?_map, hxs, List.getElem?_map]
    cases hs : scalars[i]? with
    | none => cases hx : xs[i]? <;> simp_all
    | some s =>
      cases hx : xs[i]? with
      | none => simp [hs, hx] at hi
      | some x =>
        rw [hs, hx, Option.map_some, Option.map_some, Option.some.injEq] at hi
        exact congrArg some (hbox s x hi)
  cases kind <;> obtain ⟨xs, hxs, rfl⟩ := map_eq_ok.1 h <;>
    refine hcell (map_unbox_of_unboxFrom hxs) fun s x hx => ?_ <;> cases s <;> cases hx <;> rfl

/-- One scalar of the wanted kind. -/
theorem ofScalars_singleton (s : Scalar) : ofScalars s.kind [s] = .ok (single s) := by
  cases s <;> rfl

end Column

namespace ColumnArray

variable {type : RowType} {kinds : List Kind} {rows : List (List Scalar)} {cs : List Column}
  {vs : List Value} {a : ColumnArray}

/-- Rows that have a field each are first fields and what is left. -/
theorem exists_heads {n : Nat} (h : ∀ row ∈ rows, row.length = n + 1) :
    ∃ pairs : List (Scalar × List Scalar), rows = pairs.map fun p => p.1 :: p.2 := by
  induction rows with
  | nil => exact ⟨[], rfl⟩
  | cons row rows ih =>
    rw [List.forall_mem_cons] at h
    obtain ⟨pairs, rfl⟩ := ih h.2
    cases row with
    | nil => cases h.1
    | cons s row => exact ⟨(s, row) :: pairs, rfl⟩

/-- The columns of rows have the fields of the rows as their cells, widened. -/
theorem cells_of_transpose (h : transpose kinds rows = .ok cs)
    (hwidth : ∀ row ∈ rows, row.length = kinds.length) :
    (∀ c ∈ cs, c.length = rows.length) ∧ ∀ (i : Nat) (row : List Scalar), rows[i]? = some row →
      cs.map (·.get? i) = (List.zipWith Scalar.widen row kinds).map some := by
  induction kinds generalizing rows cs with
  | nil =>
    cases h
    exact ⟨by simp, fun i row _ => by simp⟩
  | cons kind kinds ih =>
    obtain ⟨c, hc, h⟩ := bind_eq_ok.1 h
    obtain ⟨cs', hcs', h⟩ := bind_eq_ok.1 h
    obtain rfl := pure_eq_ok.1 h
    obtain ⟨pairs, rfl⟩ := exists_heads hwidth
    have hheads : (pairs.map fun p => p.1 :: p.2).filterMap List.head? = pairs.map Prod.fst := by
      rw [List.filterMap_map, ← List.filterMap_eq_map]
      rfl
    have htails : (pairs.map fun p => p.1 :: p.2).map List.tail = pairs.map Prod.snd := by
      rw [List.map_map]
      rfl
    rw [hheads] at hc
    rw [htails] at hcs'
    obtain ⟨hlengths, hcells⟩ := ih hcs' fun row hrow => by
      obtain ⟨p, hp, rfl⟩ := List.mem_map.1 hrow
      simpa using hwidth _ (List.mem_map_of_mem hp)
    refine ⟨List.forall_mem_cons.2 ⟨?_, fun c' hc' => ?_⟩, fun i row hrow => ?_⟩
    · simpa using Column.length_of_ofScalars hc
    · simpa using hlengths c' hc'
    · rw [List.getElem?_map, Option.map_eq_some_iff] at hrow
      obtain ⟨p, hp, rfl⟩ := hrow
      rw [List.map_cons, Column.get?_of_ofScalars hc, hcells i p.2 (by simp [hp])]
      simp [hp]

/-- The fields of a boxed row are those that it was boxed from. -/
theorem boxRow?_of_unboxRow {index : Nat} {v : Value} {row : List Scalar}
    (h : unboxRow type index v = .ok row) :
    boxRow? type row = some v ∧ row.length = type.width := by
  have hfields {items : List Value} (hitems : scalars? items = some row) :
      row.map Value.ofScalar = items ∧ row.length = items.length := by
    have hmap := mapM_eq_some_iff.1 hitems
    refine ⟨?_, by simpa using (congrArg List.length hmap).symm⟩
    clear h hitems
    induction items generalizing row with
    | nil => simpa using hmap.symm
    | cons item items ih =>
      cases row with
      | nil => cases hmap
      | cons s row =>
        obtain ⟨hs, hrest⟩ := List.cons.inj hmap
        rw [List.map_cons, Value.ofScalar_of_scalar? hs, ih hrest]
  cases type with
  | scalar kind =>
    simp only [unboxRow] at h
    split at h
    next row' hrow =>
      obtain rfl := Except.ok.inj h
      obtain ⟨hboxed, hlength⟩ := hfields hrow
      obtain ⟨s, rfl⟩ := List.length_eq_one_iff.1 hlength
      exact ⟨by simpa [boxRow?] using hboxed, rfl⟩
    next => cases h
  | tuple kinds harity =>
    cases v with
    | list items =>
      simp only [unboxRow] at h
      split at h
      next hlength =>
        split at h
        next row' hrow =>
          obtain rfl := Except.ok.inj h
          obtain ⟨hboxed, hlength'⟩ := hfields hrow
          exact ⟨by rw [boxRow?, hboxed], hlength'.trans hlength⟩
        next => cases h
      next => cases h
    | _ => cases h

theorem boxRow?_of_unboxRows {index : Nat} (h : unboxRows type index vs = .ok rows) :
    rows.map (boxRow? type) = vs.map some ∧ ∀ row ∈ rows, row.length = type.width := by
  induction vs generalizing index rows with
  | nil =>
    cases h
    exact ⟨rfl, by simp⟩
  | cons v vs ih =>
    obtain ⟨row, hrow, h⟩ := bind_eq_ok.1 h
    obtain ⟨rows', hrows', h⟩ := bind_eq_ok.1 h
    obtain rfl := pure_eq_ok.1 h
    obtain ⟨hboxed, hwidth⟩ := boxRow?_of_unboxRow hrow
    obtain ⟨hrest, hwidths⟩ := ih hrows'
    exact ⟨by rw [List.map_cons, List.map_cons, hboxed, hrest],
      List.forall_mem_cons.2 ⟨hwidth, hwidths⟩⟩

/-- A row that is widened field by field is boxed as the widened value. -/
theorem boxRow?_widen {row : List Scalar} {v : Value} (h : boxRow? type row = some v) :
    boxRow? type (List.zipWith Scalar.widen row type.kinds) = some (v.widenRow type) := by
  cases type with
  | scalar kind =>
    cases row with
    | nil => cases h
    | cons s row =>
      obtain rfl := Option.some.inj h
      exact congrArg some (Value.ofScalar_widen s kind)
  | tuple kinds harity =>
    obtain rfl := Option.some.inj h
    simp only [boxRow?, RowType.kinds, Value.widenRow, List.map_zipWith, List.zipWith_map_left,
      Value.ofScalar_widen]

theorem WellFormed.row?_eq_none (h : a.WellFormed) {i : Nat} (hi : a.length ≤ i) :
    a.row? i = none := by
  cases hrow : a.row? i with
  | none => rfl
  | some row =>
    -- there is a column, and it has no such cell
    have hcells := row?_eq_some_iff.1 hrow
    cases hcolumns : a.columns with
    | nil =>
      have hwidth := a.type.one_le_width
      rw [RowType.width, ← h.kinds, hcolumns] at hwidth
      cases hwidth
    | cons c cs =>
      have hnone : c.get? i = none := by
        rw [Column.get?_eq_none_iff, h.lengths c (by simp [hcolumns])]
        exact hi
      rw [hcolumns, List.map_cons, hnone] at hcells
      cases row <;> cases hcells

/-- Boxed values that become an array are its values, widened, one by one. -/
theorem value?_of_ofValues (h : ofValues type vs = .ok a) :
    a.WellFormed ∧ a.length = vs.length ∧
      ∀ i, a.value? i = vs[i]?.map (Value.widenRow type) := by
  obtain ⟨rows, hrows, h⟩ := bind_eq_ok.1 h
  obtain ⟨cs, hcs, h⟩ := bind_eq_ok.1 h
  obtain rfl := pure_eq_ok.1 h
  obtain ⟨hboxed, hwidths⟩ := boxRow?_of_unboxRows hrows
  obtain ⟨hlengths, hcells⟩ := cells_of_transpose hcs hwidths
  have hcount : rows.length = vs.length := by simpa using congrArg List.length hboxed
  have hwell : WellFormed ⟨type, cs, vs.length⟩ :=
    ⟨kinds_of_transpose hcs, fun c hc => (hlengths c hc).trans hcount⟩
  refine ⟨hwell, rfl, fun i => ?_⟩
  by_cases hi : i < vs.length
  · have hrow : rows[i]? = some rows[i] := List.getElem?_eq_getElem (hcount.symm ▸ hi)
    have hvalue : boxRow? type rows[i] = some vs[i] := by
      have := congrArg (·[i]?) hboxed
      simpa [hi, hrow] using this
    have hcell : row? ⟨type, cs, vs.length⟩ i =
        some (List.zipWith Scalar.widen rows[i] type.kinds) :=
      row?_eq_some_iff.2 (hcells i _ hrow)
    rw [value?, hcell, List.getElem?_eq_getElem hi]
    exact boxRow?_widen hvalue
  · rw [value?, hwell.row?_eq_none (Nat.not_lt.1 hi), List.getElem?_eq_none (Nat.not_lt.1 hi)]
    rfl

/-! ## Arrays -/

/-- All rows as values. -/
def values (a : ColumnArray) : List Value := (List.range a.length).filterMap a.value?

/-- A row of the type of an array can be boxed. -/
theorem exists_boxRow? {row : List Scalar} (h : row.map Scalar.kind = type.kinds) :
    ∃ v, boxRow? type row = some v := by
  cases type with
  | tuple kinds harity => exact ⟨_, rfl⟩
  | scalar kind =>
    cases row with
    | nil => cases h
    | cons s row => exact ⟨_, rfl⟩

/-- The values of an array are its rows, one by one. -/
theorem WellFormed.values_spec (h : a.WellFormed) :
    a.values.length = a.length ∧ ∀ i, a.values[i]? = a.value? i := by
  have hsome : ∀ i < a.length, a.value? i = some ((a.value? i).getD .null) := by
    intro i hi
    obtain ⟨row, hrow, hkinds⟩ := h.exists_row hi
    obtain ⟨v, hv⟩ := exists_boxRow? hkinds
    have hvalue : a.value? i = some v := by
      rw [value?, hrow]
      exact hv
    rw [hvalue]
    rfl
  have hvalues : a.values = (List.range a.length).map fun i => (a.value? i).getD .null := by
    rw [values, ← List.filterMap_eq_map]
    exact List.filterMap_congr fun i hi => hsome i (List.mem_range.1 hi)
  refine ⟨by simp [hvalues], fun i => ?_⟩
  rw [hvalues, List.getElem?_map]
  by_cases hi : i < a.length
  · rw [List.getElem?_eq_getElem (by simpa using hi), List.getElem_range]
    exact (hsome i hi).symm
  · rw [List.getElem?_eq_none (by simpa using hi), value?, h.row?_eq_none (Nat.not_lt.1 hi)]
    rfl

/-- A boxed row is unboxed as the row. -/
theorem unboxRow_of_boxRow? {row : List Scalar} {v : Value} (hwidth : row.length = type.width)
    (h : boxRow? type row = some v) (index : Nat) : unboxRow type index v = .ok row := by
  have hfields : scalars? (row.map Value.ofScalar) = some row := by
    rw [scalars?, mapM_eq_some_iff, List.map_map]
    exact List.map_congr_left fun s _ => Value.scalar?_ofScalar s
  cases type with
  | scalar kind =>
    obtain ⟨s, rfl⟩ := List.length_eq_one_iff.1 hwidth
    obtain rfl := Option.some.inj h
    have hone : scalars? [Value.ofScalar s] = some [s] := hfields
    simp only [unboxRow, hone]
  | tuple kinds harity =>
    obtain rfl := Option.some.inj h
    have hlength : (row.map Value.ofScalar).length = kinds.length := by
      rw [List.length_map]
      exact hwidth
    simp only [unboxRow, hfields, if_pos hlength]

theorem transpose_singleton (row : List Scalar) :
    transpose (row.map Scalar.kind) [row] = .ok (row.map Column.single) := by
  induction row with
  | nil => rfl
  | cons s row ih =>
    refine bind_eq_ok.2 ⟨_, Column.ofScalars_singleton s, bind_eq_ok.2 ⟨_, ?_, rfl⟩⟩
    simpa using ih

/-- A boxed row becomes an array of that row. -/
theorem ofValues_singleton {row : List Scalar} {v : Value}
    (hkinds : row.map Scalar.kind = type.kinds) (h : boxRow? type row = some v) :
    ofValues type [v] = .ok (ofRow type row) := by
  have hwidth : row.length = type.width := by rw [RowType.width, ← hkinds, List.length_map]
  have hrows : unboxRows type 0 [v] = .ok [row] :=
    bind_eq_ok.2 ⟨row, unboxRow_of_boxRow? hwidth h 0, rfl⟩
  exact bind_eq_ok.2 ⟨_, hrows, bind_eq_ok.2 ⟨_, hkinds ▸ transpose_singleton row, rfl⟩⟩

/-- The values of an array make up the array with its sequences written out. -/
theorem WellFormed.ofValues_values (h : a.WellFormed) : ofValues a.type a.values = .ok a.dense := by
  obtain ⟨hlength, hvalues⟩ := h.values_spec
  have hdense : ∀ c ∈ a.dense.columns, c.Dense := by
    intro c hc
    obtain ⟨c₀, -, rfl⟩ := List.mem_map.1 hc
    exact c₀.dense_dense
  refine ofValues_eq_ok h.dense hdense hlength fun i v hv => ?_
  rw [hvalues i, value?] at hv
  obtain ⟨row, hrow, hbox⟩ := Option.bind_eq_some_iff.1 hv
  have hi : i < a.length := by
    by_contra hi
    rw [h.row?_eq_none (Nat.not_lt.1 hi)] at hrow
    cases hrow
  obtain ⟨row', hrow', hkinds⟩ := h.exists_row hi
  obtain rfl : row = row' := Option.some.inj (hrow.symm.trans hrow')
  exact ⟨row, by rw [row?_dense, hrow], ofValues_singleton hkinds hbox⟩

end ColumnArray

end TieredVectors
