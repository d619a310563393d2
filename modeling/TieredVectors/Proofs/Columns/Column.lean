import TieredVectors.Columns.Basic
import TieredVectors.Proofs.Except

/-!
# Columns cell by cell

What the operations on columns do to each cell, as `Column.get?` shows it.

* `Column.Dense` — a column that keeps every element, as all but sequences do; dense columns of one
  kind are equal if their cells are (`Column.ext_get?`).
* `Column.setFrom` — a run of neighbouring cells replaced one by one, as a launch does with the rows
  it has computed.
-/

namespace TieredVectors

namespace Column

variable {c c' : Column} {i j n : Nat} {s : Scalar}

/-- Every element is kept. -/
def Dense : Column → Prop
  | .sequence _ => False
  | _ => True

/-! ## Reading -/

/-- A column has a cell for each of its elements. -/
theorem isSome_get?_iff : (c.get? i).isSome ↔ i < c.length := by
  cases c with
  | sequence s => by_cases h : i < s.length <;> simp [get?, length, Sequence.get?_eq, h]
  | _ => simp [get?, length]

theorem get?_eq_none_iff : c.get? i = none ↔ c.length ≤ i := by
  rw [← Nat.not_lt, ← isSome_get?_iff, Option.not_isSome_iff_eq_none]

/-- Every cell is of the column's kind. -/
theorem kind_of_get? (h : c.get? i = some s) : s.kind = c.kind := by
  cases c <;> simp only [get?, Option.map_eq_some_iff] at h <;> obtain ⟨_, -, rfl⟩ := h <;> rfl

@[simp]
theorem kind_take (c : Column) (n : Nat) : (c.take n).kind = c.kind := by
  cases c <;> rfl

@[simp]
theorem length_take (c : Column) (n : Nat) : (c.take n).length = min n c.length := by
  cases c <;> simp [take, length, Sequence.take]

/-- The first cells of a column are those of its beginning. -/
theorem get?_take (h : i < n) : (c.take n).get? i = c.get? i := by
  cases c with
  | sequence s =>
    have hmin : i < min n s.length ↔ i < s.length := by omega
    simp [take, get?, Sequence.get?_eq, Sequence.take, hmin]
  | _ => simp [take, get?, h]

theorem Dense.take (h : c.Dense) (n : Nat) : (c.take n).Dense := by
  cases c <;> simp_all [Dense, Column.take]

/-- Dense columns of one kind with the same cells are equal. -/
theorem ext_get? (h : c.Dense) (h' : c'.Dense) (hkind : c.kind = c'.kind)
    (hcells : ∀ i, c.get? i = c'.get? i) : c = c' := by
  cases c <;> cases c' <;> simp only [Dense, kind, reduceCtorEq] at h h' hkind <;>
    refine congrArg _ (List.ext_getElem? fun i => ?_) <;>
    exact Option.map_injective (fun x y hxy => by injection hxy) (hcells i)

/-! ## Writing -/

/-- What replacing a cell takes and does. -/
theorem set?_eq_some (h : c.set? i s = some c') :
    i < c.length ∧ s.kind = c.kind ∧ c'.Dense ∧ c'.kind = c.kind ∧ c'.length = c.length ∧
      ∀ j, c'.get? j = if j = i then some s else c.get? j := by
  unfold set? at h
  split at h
  next hi =>
    split at h <;> simp only [Option.some.injEq, reduceCtorEq] at h <;> subst h
    all_goals
      refine ⟨hi, rfl, trivial, rfl, by simp [length], fun j => ?_⟩
      by_cases hj : j = i
      · subst hj
        replace hi : j < List.length _ := hi
        simp [get?, hi]
      · simp [get?, List.getElem?_set_ne (Ne.symm hj), hj]
  next => cases h

/-- Which cells can be replaced, and by what. -/
theorem exists_set?_iff :
    (∃ c', c.set? i s = some c') ↔ c.Dense ∧ i < c.length ∧ s.kind = c.kind := by
  by_cases hi : i < c.length
  · cases c <;> cases s <;> simp [set?, hi, Dense, kind, Scalar.kind]
  · simp [set?, hi]

/-- Replace the cells from `i` on, one by one; the fields of rows that are too short are missing. -/
def setFrom (c : Column) : Nat → List (Option Scalar) → Option Column
  | _, [] => some c
  | i, s :: rest => do
    let c ← s >>= c.set? i
    c.setFrom (i + 1) rest

/-- Replacing cells keeps kind and length, and shows in those cells only. -/
theorem setFrom_eq_some {ss : List (Option Scalar)} (h : c.setFrom i ss = some c') :
    c'.kind = c.kind ∧ c'.length = c.length ∧ (ss ≠ [] → c'.Dense) ∧
      (∀ j < i, c'.get? j = c.get? j) ∧ ∀ j s, ss[j]? = some s → c'.get? (i + j) = s := by
  induction ss generalizing c i with
  | nil =>
    obtain rfl : c = c' := by simpa [setFrom] using h
    simp
  | cons s rest ih =>
    rw [setFrom, Option.bind_eq_bind, Option.bind_eq_some_iff] at h
    obtain ⟨d, hd, hrest⟩ := h
    rw [Option.bind_eq_bind, Option.bind_eq_some_iff] at hd
    obtain ⟨v, rfl, hset⟩ := hd
    obtain ⟨-, -, hdense, hkind, hlength, hcells⟩ := set?_eq_some hset
    obtain ⟨hkind', hlength', hdense', hbefore, hnew⟩ := ih hrest
    refine ⟨hkind'.trans hkind, hlength'.trans hlength, fun _ => ?_, fun j hj => ?_, ?_⟩
    · cases rest with
      | nil =>
        obtain rfl : d = c' := by simpa [setFrom] using hrest
        exact hdense
      | cons s' rest' => exact hdense' (List.cons_ne_nil s' rest')
    · rw [hbefore j (Nat.lt_succ_of_lt hj), hcells, if_neg (Nat.ne_of_lt hj)]
    · intro j s hs
      cases j with
      | zero =>
        obtain rfl : some v = s := by simpa using hs
        rw [Nat.add_zero, hbefore i (Nat.lt_succ_self i), hcells, if_pos rfl]
      | succ j =>
        rw [show i + (j + 1) = i + 1 + j by omega]
        exact hnew j s (by simpa using hs)

/-- The cells after those that are replaced stay. -/
theorem get?_setFrom_of_le {ss : List (Option Scalar)} (h : c.setFrom i ss = some c')
    (hj : i + ss.length ≤ j) : c'.get? j = c.get? j := by
  induction ss generalizing c i with
  | nil =>
    obtain rfl : c = c' := by simpa [setFrom] using h
    rfl
  | cons s rest ih =>
    rw [List.length_cons] at hj
    rw [setFrom, Option.bind_eq_bind, Option.bind_eq_some_iff] at h
    obtain ⟨d, hd, hrest⟩ := h
    obtain ⟨v, -, hset⟩ := Option.bind_eq_some_iff.1 hd
    obtain ⟨-, -, -, -, -, hcells⟩ := set?_eq_some hset
    rw [ih hrest (by omega), hcells, if_neg (by omega)]

end Column

end TieredVectors
