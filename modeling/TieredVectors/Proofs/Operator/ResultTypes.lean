import Mathlib.Data.Set.List
import TieredVectors.Proofs.Operator.Modes
import TieredVectors.Proofs.Operator.Retyping

/-!
# The types of results

Results become a vector of the type that is expected of them or of doubles, or else a list. Whatever
the type, the vector has the results as its elements, but for words that are made doubles
(`DataVector.ofResults_widened`).

Where the type is that of the first result, it seems to matter which result comes first. It does
not, as long as none is a list: `DataVector.Common kind values` tells the kind of the vector from
the results together (`DataVector.byFirst_of_common`, `DataVector.byFirst_of_mixed`), so that
results in another order become the same vector in that order (`DataVector.byFirst_reorder`).
-/

namespace TieredVectors

namespace Value

variable {v : Value}

/-- The value itself, or the double of the word that it is. -/
def Promoted (v v' : Value) : Prop := v' = v ∨ ∃ w, v = .int w ∧ v' = .double (Double.ofWord w)

/-- The value itself but for words that are made doubles: it alone, or the fields of a row. -/
def Widened (v v' : Value) : Prop :=
  v.Promoted v' ∨
    ∃ fields fields', v = .list fields ∧ v' = .list fields' ∧ List.Forall₂ Promoted fields fields'

theorem promoted_widen (v : Value) (kind : Kind) : v.Promoted (v.widen kind) := by
  cases v with
  | int w =>
    cases kind with
    | double => exact .inr ⟨w, rfl, rfl⟩
    | _ => exact .inl rfl
  | _ => exact .inl rfl

theorem forall₂_promoted_widen {fields : List Value} {kinds : List Kind}
    (h : fields.length = kinds.length) :
    List.Forall₂ Promoted fields (List.zipWith widen fields kinds) := by
  induction fields generalizing kinds with
  | nil => exact .nil
  | cons field fields ih =>
    cases kinds with
    | nil => cases h
    | cons kind kinds => exact .cons (field.promoted_widen kind) (ih (Nat.succ.inj h))

/-- What a row of the given type is widened to. -/
theorem widened_widenRow {type : RowType} {row : List Scalar}
    (h : ColumnArray.boxRow? type row = some v) (hwidth : row.length = type.width) :
    v.Widened (v.widenRow type) := by
  cases type with
  | scalar kind => exact .inl (v.promoted_widen kind)
  | tuple kinds harity =>
    obtain rfl := Option.some.inj h
    refine .inr ⟨_, _, rfl, rfl, forall₂_promoted_widen ?_⟩
    rw [List.length_map]
    exact hwidth

/-- The value can stand in a vector of the kind. -/
def Suits : Kind → Value → Prop
  | .int, v => ∃ w, v = .int w
  | .double, v => (∃ w, v = .int w) ∨ ∃ x, v = .double x
  | .boolean, v => ∃ b, v = .bool b

theorem Suits.exists_scalar {kind : Kind} (h : v.Suits kind) : ∃ s, ofScalar s = v := by
  cases kind with
  | int =>
    obtain ⟨w, rfl⟩ := h
    exact ⟨.int w, rfl⟩
  | double =>
    rcases h with ⟨w, rfl⟩ | ⟨x, rfl⟩
    · exact ⟨.int w, rfl⟩
    · exact ⟨.double x, rfl⟩
  | boolean =>
    obtain ⟨b, rfl⟩ := h
    exact ⟨.bool b, rfl⟩

end Value

/-! ## Elements -/

theorem Column.get?_toVector (c : Column) :
    c.toVector.length = c.length ∧ ∀ i, c.toVector.get? i = (c.get? i).map .ofScalar := by
  cases c <;> exact ⟨rfl, fun i => by simp [toVector, DataVector.get?, get?, Function.comp_def,
    Value.ofScalar]⟩

/-- The elements of an array as a vector are its values. -/
theorem ColumnArray.WellFormed.get?_toVector {a : ColumnArray} (h : a.WellFormed) :
    a.toVector.length = a.length ∧ ∀ i, a.toVector.get? i = a.value? i := by
  obtain ⟨hcount, hvalues⟩ := h.values_spec
  cases htype : a.type with
  | tuple kinds harity =>
    have hlist : a.toVector = .list a.values := by rw [toVector, htype]; rfl
    rw [hlist]
    exact ⟨hcount, hvalues⟩
  | scalar kind =>
    -- there is one column, and its elements are the values
    have hkinds : a.columns.map Column.kind = [kind] := by rw [h.kinds, htype]; rfl
    obtain ⟨c, hcolumns, -⟩ := List.map_eq_singleton_iff.1 hkinds
    have hvector : a.toVector = c.toVector := by rw [toVector, htype, hcolumns]
    obtain ⟨hlength, hcells⟩ := c.get?_toVector
    rw [hvector]
    refine ⟨hlength.trans (h.lengths c (by simp [hcolumns])), fun i => ?_⟩
    rw [hcells, value?, row?, hcolumns, htype]
    cases hcell : c.get? i <;> simp [hcell, boxRow?]

namespace DataVector

variable {v : DataVector} {type : RowType} {values : List Value} {kind : Kind}

/-- Boxed rows that become a vector are its elements, widened. -/
theorem ofValues_widened (h : ofValues type values = .ok v) :
    v.length = values.length ∧ ∀ i, Option.Rel Value.Widened values[i]? (v.get? i) := by
  obtain ⟨a, ha, rfl⟩ := map_eq_ok.1 h
  obtain ⟨hwell, hlength, hvalue⟩ := ColumnArray.value?_of_ofValues ha
  obtain ⟨hcount, helements⟩ := hwell.get?_toVector
  refine ⟨hcount.trans hlength, fun i => ?_⟩
  rw [helements, hvalue]
  cases hi : values[i]? with
  | none => exact .none
  | some value =>
    -- the value has been unboxed, so that it is a row with the fields of the type
    obtain ⟨rows, hrows, -⟩ := bind_eq_ok.1 ha
    obtain ⟨hboxed, hwidths⟩ := ColumnArray.boxRow?_of_unboxRows hrows
    have hmem : some value ∈ rows.map (ColumnArray.boxRow? type) := by
      rw [hboxed]
      exact List.mem_map_of_mem (List.mem_of_getElem? hi)
    obtain ⟨row, hrow, hvalue⟩ := List.mem_map.1 hmem
    exact .some (Value.widened_widenRow hvalue (hwidths row hrow))

/-- A list has its values as elements. -/
theorem list_widened (values : List Value) (i : Nat) :
    Option.Rel Value.Widened values[i]? ((list values).get? i) := by
  rw [get?]
  cases values[i]? with
  | none => exact .none
  | some value => exact .some (.inl (.inl rfl))

/-- Whatever type is expected of them, results become a vector with as many elements, and these are
the results, widened. -/
theorem ofResults_widened (values : List Value) (type : Option RowType) :
    (ofResults values type).1.length = values.length ∧
      ∀ i, Option.Rel Value.Widened values[i]? ((ofResults values type).1.get? i) := by
  have hlist : (list values).length = values.length ∧
      ∀ i, Option.Rel Value.Widened values[i]? ((list values).get? i) :=
    ⟨rfl, list_widened values⟩
  cases type with
  | none =>
    rw [ofResults]
    split
    next hempty =>
      obtain rfl := List.isEmpty_iff.1 hempty
      exact ⟨rfl, fun i => .none⟩
    next => exact hlist
  | some type =>
    rw [ofResults]
    split
    next v hv => exact ofValues_widened hv
    next =>
      split
      · split
        next v hv => exact ofValues_widened hv
        next => exact hlist
      · exact hlist

end DataVector

/-! ## Scalars -/

namespace Column

variable {kind : Kind} {scalars : List Scalar}

theorem unboxFrom_eq_ok_iff {α : Type} {unbox : Scalar → Option α} {expected : String}
    {index : Nat} {xs : List α} :
    unboxFrom unbox expected index scalars = .ok xs ↔ scalars.map unbox = xs.map some := by
  refine ⟨map_unbox_of_unboxFrom, fun h => ?_⟩
  induction scalars generalizing index xs with
  | nil =>
    obtain rfl := List.map_eq_nil_iff.1 h.symm
    rfl
  | cons s scalars ih =>
    obtain ⟨x, xs, rfl, hx, hxs⟩ := List.map_eq_cons_iff.1 h.symm
    simp only [unboxFrom, ← hx]
    exact map_eq_ok.2 ⟨xs, ih hxs.symm, rfl⟩

/-- Scalars can be unboxed iff each of them can. -/
theorem exists_unboxFrom_iff {α : Type} {unbox : Scalar → Option α} {expected : String}
    {index : Nat} :
    (∃ xs, unboxFrom unbox expected index scalars = .ok xs) ↔
      ∀ s ∈ scalars, ∃ x, unbox s = some x := by
  constructor
  · rintro ⟨xs, hxs⟩ s hs
    have hmem : unbox s ∈ xs.map some := by
      rw [← unboxFrom_eq_ok_iff.1 hxs]
      exact List.mem_map_of_mem hs
    obtain ⟨x, -, hx⟩ := List.mem_map.1 hmem
    exact ⟨x, hx.symm⟩
  · intro h
    induction scalars generalizing index with
    | nil => exact ⟨[], rfl⟩
    | cons s scalars ih =>
      rw [List.forall_mem_cons] at h
      obtain ⟨x, hx⟩ := h.1
      have hrest : ∃ xs, unboxFrom unbox expected (index + 1) scalars = .ok xs := ih h.2
      obtain ⟨xs, hxs⟩ := hrest
      refine ⟨x :: xs, ?_⟩
      simp only [unboxFrom, hx]
      exact map_eq_ok.2 ⟨xs, hxs, rfl⟩

/-- Scalars become a column iff each can stand in one of the kind. -/
theorem exists_ofScalars_iff :
    (∃ c, ofScalars kind scalars = .ok c) ↔ ∀ s ∈ scalars, (Value.ofScalar s).Suits kind := by
  have hall {α : Type} {unbox : Scalar → Option α} {column : List α → Column}
      (hsuits : ∀ s, (∃ x, unbox s = some x) ↔ (Value.ofScalar s).Suits kind) :
      (∃ c, column <$> unboxFrom unbox kind.name 0 scalars = .ok c) ↔
        ∀ s ∈ scalars, (Value.ofScalar s).Suits kind := by
    have hcolumn : (∃ c, column <$> unboxFrom unbox kind.name 0 scalars = .ok c) ↔
        ∃ xs, unboxFrom unbox kind.name 0 scalars = .ok xs := by
      simp only [map_eq_ok, exists_comm, exists_and_left, exists_eq', and_true]
    rw [hcolumn, exists_unboxFrom_iff]
    exact forall₂_congr fun s _ => hsuits s
  cases kind <;> refine hall fun s => ?_ <;> cases s <;>
    simp [word?, double?, bool?, Value.Suits, Value.ofScalar]

end Column

/-! ## Another order -/

section Reorder

variable {α β : Type}

/-- The items at the given places, in the order of the places. -/
def reorder (order : List Nat) (items : List α) : List α := order.filterMap (items[·]?)

theorem reorder_map (order : List Nat) (f : α → β) (items : List α) :
    reorder order (items.map f) = (reorder order items).map f := by
  simp only [reorder, List.getElem?_map, List.map_filterMap]

/-- An order in which each place comes once loses no item and repeats none. -/
theorem reorder_perm {order : List Nat} {items : List α}
    (h : order.Perm (List.range items.length)) : (reorder order items).Perm items := by
  have hall : reorder (List.range items.length) items = items := by
    clear h
    induction items with
    | nil => rfl
    | cons item items ih =>
      simp only [reorder, List.length_cons, List.range_succ_eq_map, List.filterMap_cons,
        List.getElem?_cons_zero, List.filterMap_map]
      exact congrArg (item :: ·) ih
  exact (h.filterMap _).trans (.of_eq hall)

end Reorder

/-- The elements at the given places, in the order of the places. -/
def DataVector.reorder (order : List Nat) : DataVector → DataVector
  | .int xs => .int (TieredVectors.reorder order xs)
  | .double xs => .double (TieredVectors.reorder order xs)
  | .logical xs => .logical (TieredVectors.reorder order xs)
  | .list xs => .list (TieredVectors.reorder order xs)
  | .sequence s => .int (TieredVectors.reorder order s.toList)

/-- Scalars in another order become the column in that order. -/
theorem Column.ofScalars_reorder {kind : Kind} {scalars : List Scalar} {c : Column}
    (h : ofScalars kind scalars = .ok c) (order : List Nat) :
    ∃ c', ofScalars kind (reorder order scalars) = .ok c' ∧
      c'.toVector = c.toVector.reorder order := by
  cases kind <;> obtain ⟨xs, hxs, rfl⟩ := map_eq_ok.1 h <;>
    refine ⟨_, map_eq_ok.2 ⟨reorder order xs, unboxFrom_eq_ok_iff.2 ?_, rfl⟩, rfl⟩ <;>
    rw [← reorder_map, unboxFrom_eq_ok_iff.1 hxs, reorder_map]

/-- Rows of one field are boxed scalars. -/
theorem ColumnArray.unboxRows_scalar_iff {kind : Kind} {index : Nat} {values : List Value}
    {rows : List (List Scalar)} :
    unboxRows (.scalar kind) index values = .ok rows ↔
      ∃ scalars : List Scalar, values = scalars.map .ofScalar ∧ rows = scalars.map ([·]) := by
  constructor
  · intro h
    induction values generalizing index rows with
    | nil =>
      cases h
      exact ⟨[], rfl, rfl⟩
    | cons v values ih =>
      obtain ⟨row, hrow, h⟩ := bind_eq_ok.1 h
      obtain ⟨rows', hrows', h⟩ := bind_eq_ok.1 h
      obtain rfl := pure_eq_ok.1 h
      obtain ⟨scalars, rfl, rfl⟩ := ih hrows'
      obtain ⟨hboxed, hwidth⟩ := boxRow?_of_unboxRow hrow
      obtain ⟨s, rfl⟩ := List.length_eq_one_iff.1 hwidth
      obtain rfl := Option.some.inj hboxed
      exact ⟨s :: scalars, rfl, rfl⟩
  · rintro ⟨scalars, rfl, rfl⟩
    induction scalars generalizing index with
    | nil => rfl
    | cons s scalars ih =>
      have hrow : unboxRow (.scalar kind) index (.ofScalar s) = .ok [s] := by cases s <;> rfl
      exact bind_eq_ok.2 ⟨[s], hrow, bind_eq_ok.2 ⟨_, ih, rfl⟩⟩

namespace DataVector

variable {v : DataVector} {values : List Value} {kind : Kind}

/-- Values become a vector of the kind as the column of their scalars. -/
theorem ofValues_scalar_iff :
    ofValues (.scalar kind) values = .ok v ↔ ∃ scalars c, values = scalars.map .ofScalar ∧
      Column.ofScalars kind scalars = .ok c ∧ v = c.toVector := by
  have hheads (scalars : List Scalar) :
      (scalars.map ([·])).filterMap List.head? = scalars := by
    rw [List.filterMap_map]
    exact List.filterMap_some
  constructor
  · intro h
    obtain ⟨a, ha, rfl⟩ := map_eq_ok.1 h
    obtain ⟨rows, hrows, ha⟩ := bind_eq_ok.1 ha
    obtain ⟨scalars, rfl, rfl⟩ := ColumnArray.unboxRows_scalar_iff.1 hrows
    obtain ⟨cs, hcs, ha⟩ := bind_eq_ok.1 ha
    obtain rfl := pure_eq_ok.1 ha
    obtain ⟨c, hc, hcs⟩ := bind_eq_ok.1 hcs
    rw [hheads] at hc
    obtain rfl := pure_eq_ok.1 hcs
    exact ⟨scalars, c, rfl, hc, rfl⟩
  · rintro ⟨scalars, c, rfl, hc, rfl⟩
    have hrows : ColumnArray.unboxRows (.scalar kind) 0 (scalars.map .ofScalar) =
        .ok (scalars.map ([·])) := ColumnArray.unboxRows_scalar_iff.2 ⟨scalars, rfl, rfl⟩
    have hcolumns : ColumnArray.transpose [kind] (scalars.map ([·])) = .ok [c] :=
      bind_eq_ok.2 ⟨c, by rw [hheads]; exact hc, rfl⟩
    exact map_eq_ok.2 ⟨_, bind_eq_ok.2 ⟨_, hrows, bind_eq_ok.2 ⟨_, hcolumns, rfl⟩⟩, rfl⟩

/-- The vector is one of words, of doubles or of truth values. -/
def OfKind : Kind → DataVector → Prop
  | .int, v => ∃ ws, v = .int ws
  | .double, v => ∃ xs, v = .double xs
  | .boolean, v => ∃ bs, v = .logical bs

theorem OfKind.unique {kind' : Kind} (h : v.OfKind kind) (h' : v.OfKind kind') : kind = kind' := by
  cases kind <;> cases kind' <;> obtain ⟨xs, rfl⟩ := h <;> obtain ⟨ys, h'⟩ := h' <;> cases h' <;>
    rfl

theorem ofKind_of_ofValues (h : ofValues (.scalar kind) values = .ok v) : v.OfKind kind := by
  obtain ⟨scalars, c, -, hc, rfl⟩ := ofValues_scalar_iff.1 h
  cases kind <;> obtain ⟨xs, -, rfl⟩ := map_eq_ok.1 hc <;> exact ⟨xs, rfl⟩

/-- Values become a vector of the kind iff each can stand in one. -/
theorem exists_ofValues_scalar_iff :
    (∃ v, ofValues (.scalar kind) values = .ok v) ↔ ∀ v ∈ values, v.Suits kind := by
  simp only [ofValues_scalar_iff]
  constructor
  · rintro ⟨_, scalars, c, rfl, hc, -⟩
    exact List.forall_mem_map.2 (Column.exists_ofScalars_iff.1 ⟨c, hc⟩)
  · intro h
    have hscalars : values ∈ Set.range (List.map Value.ofScalar) := by
      rw [Set.range_list_map]
      exact fun v hv => (h v hv).exists_scalar
    obtain ⟨scalars, rfl⟩ := hscalars
    obtain ⟨c, hc⟩ := Column.exists_ofScalars_iff.2 (List.forall_mem_map.1 h)
    exact ⟨c.toVector, scalars, c, rfl, hc, rfl⟩

theorem exists_ofValues_scalar_error (h : ¬ ∀ v ∈ values, v.Suits kind) :
    ∃ e, ofValues (.scalar kind) values = .error e := by
  cases hv : ofValues (.scalar kind) values with
  | error e => exact ⟨e, rfl⟩
  | ok v => exact absurd (exists_ofValues_scalar_iff.1 ⟨v, hv⟩) h

/-- Values in another order become the vector in that order. -/
theorem ofValues_reorder (h : ofValues (.scalar kind) values = .ok v) (order : List Nat) :
    ofValues (.scalar kind) (TieredVectors.reorder order values) = .ok (v.reorder order) := by
  obtain ⟨scalars, c, rfl, hc, rfl⟩ := ofValues_scalar_iff.1 h
  obtain ⟨c', hc', hvector⟩ := Column.ofScalars_reorder hc order
  exact ofValues_scalar_iff.2 ⟨_, c', reorder_map order Value.ofScalar scalars, hc', hvector.symm⟩

/-! ## Typed by the first -/

/-- Each of the values can stand in a vector of the kind, and there is a double if it is one of
doubles. -/
def Common (kind : Kind) (values : List Value) : Prop :=
  (∀ v ∈ values, v.Suits kind) ∧ (kind = .double → ∃ x, .double x ∈ values)

theorem Common.perm {values' : List Value} (h : Common kind values) (hperm : values'.Perm values) :
    Common kind values' := by
  refine ⟨fun v hv => h.1 v (hperm.mem_iff.1 hv), fun hkind => ?_⟩
  obtain ⟨x, hx⟩ := h.2 hkind
  exact ⟨x, hperm.mem_iff.2 hx⟩

theorem ofResults_of_ok {type : RowType} (h : ofValues type values = .ok v) :
    (ofResults values (some type)).1 = v := by
  rw [ofResults, h]

theorem ofResults_of_error {type : RowType} {e : TypeError} (h : ofValues type values = .error e)
    (htype : type ≠ .scalar .int) : (ofResults values (some type)).1 = .list values := by
  rw [ofResults, h]
  simp only [if_neg htype]

/-- Values with a common kind become a vector of it, whichever comes first. -/
theorem byFirst_of_common (h : Common kind values) (hsome : values ≠ []) :
    ofValues (.scalar kind) values = .ok (byFirst values) := by
  obtain ⟨v, hv⟩ := exists_ofValues_scalar_iff.2 h.1
  rw [hv]
  refine congrArg Except.ok (Eq.symm ?_)
  obtain ⟨first, rest, rfl⟩ := List.exists_cons_of_ne_nil hsome
  have hfirst := h.1 first List.mem_cons_self
  cases kind with
  | int =>
    obtain ⟨w, rfl⟩ := hfirst
    exact ofResults_of_ok hv
  | boolean =>
    obtain ⟨b, rfl⟩ := hfirst
    exact ofResults_of_ok hv
  | double =>
    rcases hfirst with ⟨w, rfl⟩ | ⟨x, rfl⟩
    · -- a word comes first, but the double among the others is none
      obtain ⟨x, hx⟩ := h.2 rfl
      have hmisfit : ∃ e, ofValues (.scalar .int) (.int w :: rest) = .error e :=
        exists_ofValues_scalar_error fun hwords => by
          obtain ⟨w', hw'⟩ := hwords _ hx
          cases hw'
      obtain ⟨e, he⟩ := hmisfit
      show (ofResults _ (some (.scalar .int))).1 = v
      simp only [ofResults, he, hv, if_true]
    · exact ofResults_of_ok hv

/-- Values without a common kind stay a list. -/
theorem byFirst_of_mixed (h : ∀ kind, ¬ Common kind values) (hlists : ∀ row, .list row ∉ values) :
    byFirst values = .list values := by
  cases values with
  | nil => exact absurd ⟨List.forall_mem_nil _, fun hkind => by cases hkind⟩ (h .int)
  | cons first rest =>
    have hmisfit (kind : Kind) (hdouble : kind = .double → ∃ x, .double x ∈ first :: rest) :
        ∃ e, ofValues (.scalar kind) (first :: rest) = .error e :=
      exists_ofValues_scalar_error fun hall => h kind ⟨hall, hdouble⟩
    cases first with
    | null => rfl
    | str text => rfl
    | list row => exact absurd List.mem_cons_self (hlists row)
    | bool b =>
      obtain ⟨e, he⟩ := hmisfit .boolean fun hkind => by cases hkind
      exact ofResults_of_error he fun htype => by cases htype
    | double x =>
      obtain ⟨e, he⟩ := hmisfit .double fun _ => ⟨x, List.mem_cons_self⟩
      exact ofResults_of_error he fun htype => by cases htype
    | int w =>
      obtain ⟨e, he⟩ := hmisfit .int fun hkind => by cases hkind
      have hwider : ∃ e, ofValues (.scalar .double) (.int w :: rest) = .error e := by
        refine exists_ofValues_scalar_error fun hnumbers => ?_
        -- numbers with no double among them are words
        refine h .double ⟨hnumbers, fun _ => Classical.byContradiction fun hnone => ?_⟩
        refine h .int ⟨fun v hv => (hnumbers v hv).resolve_right ?_, fun hkind => by cases hkind⟩
        rintro ⟨x, rfl⟩
        exact hnone ⟨x, hv⟩
      obtain ⟨e', he'⟩ := hwider
      show (ofResults _ (some (.scalar .int))).1 = _
      simp only [ofResults, he, he', if_true]

/-- The vector is of a kind iff the values have it in common. -/
theorem byFirst_ofKind_iff (hsome : values ≠ []) (hlists : ∀ row, .list row ∉ values) :
    (byFirst values).OfKind kind ↔ Common kind values := by
  refine ⟨fun h => ?_, fun h => ofKind_of_ofValues (byFirst_of_common h hsome)⟩
  -- a vector that is no list is of the common kind, and a vector is of one kind only
  by_cases hcommon : ∃ kind', Common kind' values
  · obtain ⟨kind', hcommon⟩ := hcommon
    obtain rfl := h.unique (ofKind_of_ofValues (byFirst_of_common hcommon hsome))
    exact hcommon
  · rw [byFirst_of_mixed (not_exists.1 hcommon) hlists] at h
    cases kind <;> obtain ⟨xs, hxs⟩ := h <;> cases hxs

/-- Values in another order become the same vector in that order. -/
theorem byFirst_reorder (hsome : values ≠ []) (hlists : ∀ row, .list row ∉ values)
    {order : List Nat} (horder : order.Perm (List.range values.length)) :
    byFirst (TieredVectors.reorder order values) = (byFirst values).reorder order := by
  have hperm := reorder_perm horder
  -- whether there is a common kind, and which, is not a matter of order
  by_cases hcommon : ∃ kind, Common kind values
  · obtain ⟨kind, hcommon⟩ := hcommon
    have hsome' : TieredVectors.reorder order values ≠ [] := fun hnil =>
      hsome (List.nil_perm.1 (hnil ▸ hperm))
    have hthis := byFirst_of_common (hcommon.perm hperm) hsome'
    have hthat := ofValues_reorder (byFirst_of_common hcommon hsome) order
    exact Except.ok.inj (hthis.symm.trans hthat)
  · have hmixed (kind : Kind) : ¬ Common kind (TieredVectors.reorder order values) := fun h =>
      hcommon ⟨kind, h.perm hperm.symm⟩
    rw [byFirst_of_mixed hmixed fun row hrow => hlists row (hperm.mem_iff.1 hrow),
      byFirst_of_mixed (not_exists.1 hcommon) hlists]
    rfl

/-- Making results a vector loses nothing.

* Whatever type is expected of them, the vector has as many elements as there are results, and these
  are the results but for words that are made doubles, alone or as fields of a row.
* Let there be results, none of them a list, and let the first give the type. The vector is one of
  words iff all results are words, one of doubles iff all are numbers and one is a double, one of
  truth values iff all are truth values, and otherwise the list of the results. So it does not
  matter which result comes first: results in another order become the same vector in that order. -/
theorem results_lose_nothing (values : List Value) :
    (∀ type, (ofResults values type).1.length = values.length ∧
      ∀ i, Option.Rel Value.Widened values[i]? ((ofResults values type).1.get? i)) ∧
    (values ≠ [] → (∀ row, .list row ∉ values) →
      ((∃ ws, byFirst values = .int ws) ↔ ∀ v ∈ values, ∃ w, v = .int w) ∧
      ((∃ xs, byFirst values = .double xs) ↔
        (∀ v ∈ values, (∃ w, v = .int w) ∨ ∃ x, v = .double x) ∧ ∃ x, .double x ∈ values) ∧
      ((∃ bs, byFirst values = .logical bs) ↔ ∀ v ∈ values, ∃ b, v = .bool b) ∧
      ((∀ kind, ¬ (byFirst values).OfKind kind) → byFirst values = .list values) ∧
      ∀ order : List Nat, order.Perm (List.range values.length) →
        byFirst (TieredVectors.reorder order values) = (byFirst values).reorder order) := by
  refine ⟨ofResults_widened values, fun hsome hlists => ?_⟩
  have hkind (kind : Kind) : (byFirst values).OfKind kind ↔ Common kind values :=
    byFirst_ofKind_iff hsome hlists
  refine ⟨(hkind .int).trans ?_, (hkind .double).trans ?_, (hkind .boolean).trans ?_,
    fun hnone => ?_, fun order horder => byFirst_reorder hsome hlists horder⟩
  · exact and_iff_left fun h => by cases h
  · exact and_congr_right fun _ => forall_prop_of_true rfl
  · exact and_iff_left fun h => by cases h
  · exact byFirst_of_mixed (fun kind h => hnone kind ((hkind kind).2 h)) hlists

/-- A double between words, and the same results with the double last. -/
theorem results_lose_nothing_numbers :
    (∃ xs, byFirst [.int 1, .double 2.5, .int 3] = .double xs) ∧
      byFirst [.int 3, .int 1, .double 2.5] =
        (byFirst [.int 1, .double 2.5, .int 3]).reorder [2, 0, 1] := by
  have hlists : ∀ row, Value.list row ∉ [Value.int 1, .double 2.5, .int 3] := by simp
  obtain ⟨-, htyped⟩ := results_lose_nothing [.int 1, .double 2.5, .int 3]
  obtain ⟨-, hdoubles, -, -, horder⟩ := htyped (List.cons_ne_nil _ _) hlists
  refine ⟨hdoubles.2 ⟨?_, 2.5, by simp⟩, horder [2, 0, 1] (by decide)⟩
  simp

end DataVector

end TieredVectors
