import TieredVectors.Columns.Marshal
import TieredVectors.Proofs.Columns.Arrays
import TieredVectors.Proofs.Except

/-!
# Boxed rows as columns

Boxed rows are brought into columns one by one: if each row alone becomes a given one-row array, all
of them together become the array of these rows (`ColumnArray.ofValues_eq_ok`).
-/

namespace TieredVectors

namespace Column

variable {kind : Kind} {s a : Scalar} {c : Column} {i : Nat}

/-- A column of one element. -/
def single : Scalar → Column
  | .int w => .int [w]
  | .double x => .double [x]
  | .bool b => .boolean [b]

/-- A column with one more element in front, if that is of the column's kind. -/
def cons : Scalar → Column → Column
  | .int w, .int xs => .int (w :: xs)
  | .double x, .double xs => .double (x :: xs)
  | .bool b, .boolean xs => .boolean (b :: xs)
  | _, c => c

theorem length_single (s : Scalar) : (single s).length = 1 := by
  cases s <;> rfl

theorem kind_single (s : Scalar) : (single s).kind = s.kind := by
  cases s <;> rfl

/-- What a column with one more element consists of. -/
theorem cons_spec (hdense : c.Dense) (hkind : s.kind = c.kind) :
    (cons s c).Dense ∧ (cons s c).length = c.length + 1 ∧
      (cons s c).get? 0 = some s ∧ ∀ i, (cons s c).get? (i + 1) = c.get? i := by
  cases c <;> cases s <;> simp_all [Dense, cons, kind, length, get?, Scalar.kind]

section Unboxing

variable {α : Type} {unbox : Scalar → Option α} {expected : String} {scalars : List Scalar}

/-- Whether scalars can be unboxed does not depend on where they stand. -/
theorem unboxFrom_index {xs : List α} {index : Nat}
    (h : unboxFrom unbox expected index scalars = .ok xs) (index' : Nat) :
    unboxFrom unbox expected index' scalars = .ok xs := by
  induction scalars generalizing index index' xs with
  | nil => exact h
  | cons s rest ih =>
    rw [unboxFrom] at h ⊢
    split at h
    next x hx =>
      obtain ⟨ys, hys, rfl⟩ := map_eq_ok.1 h
      exact map_eq_ok.2 ⟨ys, ih hys (index' + 1), rfl⟩
    next => cases h

/-- Scalars are unboxed one by one. -/
theorem unboxFrom_cons {x : α} {xs : List α} (ha : unboxFrom unbox expected 0 [a] = .ok [x])
    (h : unboxFrom unbox expected 0 scalars = .ok xs) :
    unboxFrom unbox expected 0 (a :: scalars) = .ok (x :: xs) := by
  rw [unboxFrom] at ha ⊢
  split at ha
  next y hy =>
    obtain ⟨ys, hys, hcons⟩ := map_eq_ok.1 ha
    obtain ⟨rfl, -⟩ := List.cons.inj hcons
    exact map_eq_ok.2 ⟨xs, unboxFrom_index h 1, rfl⟩
  next => cases ha

theorem length_of_unboxFrom {xs : List α} {index : Nat}
    (h : unboxFrom unbox expected index scalars = .ok xs) : xs.length = scalars.length := by
  induction scalars generalizing index xs with
  | nil =>
    cases h
    rfl
  | cons s rest ih =>
    rw [unboxFrom] at h
    split at h
    next =>
      obtain ⟨ys, hys, rfl⟩ := map_eq_ok.1 h
      rw [List.length_cons, List.length_cons, ih hys]
    next => cases h

end Unboxing

theorem ofScalars_nil (kind : Kind) :
    ∃ c, ofScalars kind [] = .ok c ∧ c.Dense ∧ c.length = 0 := by
  cases kind <;> exact ⟨_, rfl, trivial, rfl⟩

/-- Scalars become a column one by one. -/
theorem ofScalars_cons {scalars : List Scalar} (ha : ofScalars kind [a] = .ok (single s))
    (hc : ofScalars kind scalars = .ok c) :
    ofScalars kind (a :: scalars) = .ok (cons s c) := by
  cases kind <;> obtain ⟨xs, hxs, hsingle⟩ := map_eq_ok.1 ha <;>
    obtain ⟨ys, hys, rfl⟩ := map_eq_ok.1 hc <;> cases s <;> cases hsingle <;>
    exact map_eq_ok.2 ⟨_, unboxFrom_cons hxs hys, rfl⟩

theorem kind_of_ofScalars {scalars : List Scalar} (h : ofScalars kind scalars = .ok c) :
    c.kind = kind := by
  cases kind <;> obtain ⟨xs, -, rfl⟩ := map_eq_ok.1 h <;> rfl

theorem length_of_ofScalars {scalars : List Scalar} (h : ofScalars kind scalars = .ok c) :
    c.length = scalars.length := by
  cases kind <;> obtain ⟨xs, hxs, rfl⟩ := map_eq_ok.1 h <;> exact length_of_unboxFrom hxs

end Column

namespace ColumnArray

/-- An array of one row. -/
def ofRow (type : RowType) (row : List Scalar) : ColumnArray where
  type := type
  columns := row.map Column.single
  length := 1

variable {type : RowType} {kinds : List Kind}

/-- No rows are columns without elements. -/
theorem transpose_nil (kinds : List Kind) :
    ∃ cs, transpose kinds [] = .ok cs ∧ ∀ c ∈ cs, c.Dense ∧ c.length = 0 := by
  induction kinds with
  | nil => exact ⟨[], rfl, by simp⟩
  | cons k ks ih =>
    obtain ⟨c, hc, hcolumn⟩ := Column.ofScalars_nil k
    obtain ⟨cs, hcs, hcolumns⟩ := ih
    refine ⟨c :: cs, ?_, List.forall_mem_cons.2 ⟨hcolumn, hcolumns⟩⟩
    exact bind_eq_ok.2 ⟨c, hc, bind_eq_ok.2 ⟨cs, hcs, rfl⟩⟩

/-- Rows are brought into columns one by one. -/
theorem transpose_cons {r out : List Scalar} {rows : List (List Scalar)} {cs : List Column}
    (hr : transpose kinds [r] = .ok (out.map Column.single))
    (hrows : transpose kinds rows = .ok cs) :
    transpose kinds (r :: rows) = .ok (List.zipWith Column.cons out cs) := by
  induction kinds generalizing r out rows cs with
  | nil =>
    cases hrows
    simp [transpose]
  | cons k ks ih =>
    obtain ⟨c, hc, hr⟩ := bind_eq_ok.1 hr
    obtain ⟨cs₁, hcs₁, hr⟩ := bind_eq_ok.1 hr
    obtain ⟨c₂, hc₂, hrows⟩ := bind_eq_ok.1 hrows
    obtain ⟨cs₂, hcs₂, hrows⟩ := bind_eq_ok.1 hrows
    obtain rfl := pure_eq_ok.1 hrows
    obtain ⟨s, out', rfl, rfl, rfl⟩ := List.map_eq_cons_iff.1 (pure_eq_ok.1 hr).symm
    cases r with
    | nil =>
      -- a row without fields gives columns without elements, which are no single ones
      have hlength : (Column.single s).length = 0 := Column.length_of_ofScalars hc
      rw [Column.length_single] at hlength
      cases hlength
    | cons a r' =>
      have hhead := Column.ofScalars_cons (by simpa using hc) hc₂
      have htail := ih (by simpa using hcs₁) hcs₂
      simp only [transpose, List.filterMap_cons, List.head?_cons, List.map_cons, List.tail_cons,
        hhead, htail, bind, Except.bind, pure, Except.pure, List.zipWith_cons_cons]

/-- A row stands for the same fields wherever it is found. -/
theorem unboxRow_index {index : Nat} {v : Value} {r : List Scalar}
    (h : unboxRow type index v = .ok r) (index' : Nat) : unboxRow type index' v = .ok r := by
  cases type with
  | scalar k =>
    simp only [unboxRow] at h ⊢
    split at h
    next => exact h
    next => cases h
  | tuple kinds hk =>
    cases v with
    | list items =>
      simp only [unboxRow] at h ⊢
      split at h
      next hlength =>
        rw [if_pos hlength]
        split at h
        next => exact h
        next => cases h
      next => cases h
    | _ => cases h

/-- Columns of the same kinds with the same cells are equal. -/
theorem columns_ext {cs cs' : List Column} (hdense : ∀ c ∈ cs, c.Dense)
    (hdense' : ∀ c ∈ cs', c.Dense) (hkinds : cs.map Column.kind = cs'.map Column.kind)
    (hcells : ∀ i, cs.map (·.get? i) = cs'.map (·.get? i)) : cs = cs' := by
  induction cs generalizing cs' with
  | nil =>
    cases cs' with
    | nil => rfl
    | cons c' cs' => cases hkinds
  | cons c cs ih =>
    cases cs' with
    | nil => cases hkinds
    | cons c' cs' =>
      rw [List.forall_mem_cons] at hdense hdense'
      obtain ⟨hkind, hkinds⟩ := List.cons.inj hkinds
      have hcell := Column.ext_get? hdense.1 hdense'.1 hkind fun i => (List.cons.inj (hcells i)).1
      rw [hcell, ih hdense.2 hdense'.2 hkinds fun i => (List.cons.inj (hcells i)).2]

theorem kinds_of_transpose {rows : List (List Scalar)} {cs : List Column}
    (h : transpose kinds rows = .ok cs) : cs.map Column.kind = kinds := by
  induction kinds generalizing rows cs with
  | nil => cases h; rfl
  | cons k ks ih =>
    obtain ⟨c, hc, h⟩ := bind_eq_ok.1 h
    obtain ⟨cs', hcs', h⟩ := bind_eq_ok.1 h
    obtain rfl := pure_eq_ok.1 h
    rw [List.map_cons, Column.kind_of_ofScalars hc, ih hcs']

/-- Columns with one more row in front. -/
theorem zipWith_cons_spec {out : List Scalar} {cs : List Column} {n : Nat}
    (hkinds : out.map Scalar.kind = cs.map Column.kind)
    (hcs : ∀ c ∈ cs, c.Dense ∧ c.length = n) :
    (∀ c ∈ List.zipWith Column.cons out cs, c.Dense ∧ c.length = n + 1) ∧
      (List.zipWith Column.cons out cs).map (·.get? 0) = out.map some ∧
      ∀ i, (List.zipWith Column.cons out cs).map (·.get? (i + 1)) = cs.map (·.get? i) := by
  induction out generalizing cs with
  | nil =>
    obtain rfl : cs = [] := by simpa using hkinds.symm
    simp
  | cons s out ih =>
    cases cs with
    | nil => cases hkinds
    | cons c cs =>
      obtain ⟨hkind, hrest⟩ := List.cons.inj hkinds
      rw [List.forall_mem_cons] at hcs
      obtain ⟨hdense, hlength, hzero, hsucc⟩ := Column.cons_spec hcs.1.1 hkind
      obtain ⟨ihcolumns, ihzero, ihsucc⟩ := ih hrest hcs.2
      refine ⟨?_, ?_, fun i => ?_⟩
      · rw [List.zipWith_cons_cons, List.forall_mem_cons]
        exact ⟨⟨hdense, hlength.trans (by rw [hcs.1.2])⟩, ihcolumns⟩
      · simp [hzero, ihzero]
      · simp [hsucc i, ihsucc i]

/-- Rows that each become a one-row array become the array of these rows together. -/
theorem exists_columns {pairs : List (Value × List Scalar)}
    (h : ∀ p ∈ pairs, ofValues type [p.1] = .ok (ofRow type p.2)) :
    ∃ rows cs, (∀ index, unboxRows type index (pairs.map Prod.fst) = .ok rows) ∧
      transpose type.kinds rows = .ok cs ∧ (∀ c ∈ cs, c.Dense ∧ c.length = pairs.length) ∧
      ∀ i p, pairs[i]? = some p → cs.map (·.get? i) = p.2.map some := by
  induction pairs with
  | nil =>
    obtain ⟨cs, hcs, hcolumns⟩ := transpose_nil type.kinds
    exact ⟨[], cs, fun _ => rfl, hcs, hcolumns, by simp⟩
  | cons p pairs ih =>
    rw [List.forall_mem_cons] at h
    obtain ⟨rows, cs, hrows, hcs, hcolumns, hcells⟩ := ih h.2
    -- the row alone: its fields are unboxed, and become columns of one element
    obtain ⟨unboxed, hunboxed, hcolumn⟩ := bind_eq_ok.1 h.1
    obtain ⟨r, hr, hnil⟩ := bind_eq_ok.1 hunboxed
    obtain rfl : [r] = unboxed := pure_eq_ok.1 hnil
    obtain ⟨cs₁, hcs₁, harray⟩ := bind_eq_ok.1 hcolumn
    have hsingle := congrArg ColumnArray.columns (pure_eq_ok.1 harray)
    obtain rfl : cs₁ = p.2.map Column.single := hsingle
    have hkinds : p.2.map Scalar.kind = cs.map Column.kind := by
      rw [kinds_of_transpose hcs, ← kinds_of_transpose hcs₁, List.map_map]
      exact List.map_congr_left fun s _ => (Column.kind_single s).symm
    obtain ⟨hcolumns', hzero, hsucc⟩ := zipWith_cons_spec hkinds hcolumns
    refine ⟨r :: rows, _, fun index => ?_, transpose_cons hcs₁ hcs, hcolumns', fun i q hq => ?_⟩
    · exact bind_eq_ok.2 ⟨r, unboxRow_index hr index, bind_eq_ok.2 ⟨rows, hrows (index + 1), rfl⟩⟩
    · cases i with
      | zero =>
        obtain rfl : p = q := by simpa using hq
        exact hzero
      | succ i => rw [hsucc i, hcells i q (by simpa using hq)]

/-- Values that each become one row of an array become the array together. -/
theorem ofValues_eq_ok {a : ColumnArray} (ha : a.WellFormed) (hdense : ∀ c ∈ a.columns, c.Dense)
    {values : List Value} (hlength : values.length = a.length)
    (hrows : ∀ i v, values[i]? = some v →
      ∃ out, a.row? i = some out ∧ ofValues a.type [v] = .ok (ofRow a.type out)) :
    ofValues a.type values = .ok a := by
  -- each value with its row
  let pairs := values.zipIdx.map fun vi => (vi.1, (a.row? vi.2).getD [])
  have hfst : pairs.map Prod.fst = values := by simp [pairs, List.map_map, Function.comp_def]
  have hget (i : Nat) : pairs[i]? = values[i]?.map fun v => (v, (a.row? i).getD []) := by
    simp [pairs, List.getElem?_map, List.getElem?_zipIdx, Function.comp_def]
  have hpairs : ∀ p ∈ pairs, ofValues a.type [p.1] = .ok (ofRow a.type p.2) := by
    intro p hp
    obtain ⟨i, hi⟩ := List.mem_iff_getElem?.1 hp
    rw [hget, Option.map_eq_some_iff] at hi
    obtain ⟨v, hv, rfl⟩ := hi
    obtain ⟨out, hout, hof⟩ := hrows i v hv
    simpa [hout] using hof
  obtain ⟨rows, cs, hunbox, hcs, hcolumns, hcells⟩ := exists_columns hpairs
  rw [hfst] at hunbox
  have hsize : pairs.length = a.length := by simp [pairs, hlength]
  -- dense columns are known by their cells, and these are the fields of the rows
  have heq : cs = a.columns := by
    refine columns_ext (fun c hc => (hcolumns c hc).1) hdense
      ((kinds_of_transpose hcs).trans ha.kinds.symm) fun i => ?_
    by_cases hi : i < a.length
    · obtain ⟨v, hv⟩ : ∃ v, values[i]? = some v := ⟨_, List.getElem?_eq_getElem (hlength ▸ hi)⟩
      obtain ⟨out, hout, -⟩ := hrows i v hv
      rw [row?_eq_some_iff.1 hout]
      exact hcells i (v, out) (by simp [hget, hv, hout])
    · -- past the end no column has a cell
      have hpast {cs : List Column} (h : ∀ c ∈ cs, c.length = a.length) :
          cs.map (·.get? i) = (cs.map Column.kind).map fun _ => none := by
        rw [List.map_map]
        exact List.map_congr_left fun c hc => Column.get?_eq_none_iff.2 (by rw [h c hc]; omega)
      rw [hpast fun c hc => (hcolumns c hc).2.trans hsize, hpast ha.lengths, kinds_of_transpose hcs,
        ha.kinds]
  refine bind_eq_ok.2 ⟨rows, hunbox 0, bind_eq_ok.2 ⟨cs, hcs, ?_⟩⟩
  rw [heq, hlength]
  rfl

end ColumnArray

end TieredVectors
