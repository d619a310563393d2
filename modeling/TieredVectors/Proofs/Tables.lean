import Mathlib.Algebra.BigOperators.Group.List.Basic
import Mathlib.Algebra.Order.Ring.Nat
import TieredVectors.Table

/-!
# All values of a table

* `Table.total` — the sizes of all values, added up. A new key adds the size of its value, an entry
  that is dropped takes its own away, and a change that keeps every size keeps the total.
* `Table.pairwise_values` — values that are related whenever their keys differ are so pairwise.
* `Table.mapValues` — every value changed in the same way. The updates of a table go together with
  such a change.
-/

namespace TieredVectors.Table

variable {κ α : Type} {size : α → Nat}

/-- The sizes of all values together. -/
def total (size : α → Nat) (t : Table κ α) : Nat := (t.values.map size).sum

variable [DecidableEq κ] {t t' : Table κ α} {k : κ} {v : α}

/-- The values, key by key. -/
theorem values_eq_filterMap (t : Table κ α) : t.values = t.keys.filterMap t.get? := by
  rw [keys, List.filterMap_map, values, ← List.filterMap_eq_map]
  apply List.filterMap_congr
  intro e he
  exact (mem_entries_iff.1 he).symm

/-- Tables with the same keys, whose values have the same sizes key by key, have the same total. -/
theorem total_congr (hkeys : t'.keys = t.keys)
    (hsizes : ∀ k, (t'.get? k).map size = (t.get? k).map size) : t'.total size = t.total size := by
  have hvalues (t : Table κ α) :
      t.values.map size = t.keys.filterMap fun k => (t.get? k).map size := by
    rw [values_eq_filterMap, List.map_filterMap]
  rw [total, total, hvalues, hvalues, hkeys]
  exact congrArg _ (List.filterMap_congr fun k _ => hsizes k)

theorem total_insert (h : t.get? k = none) (v : α) :
    (t.insert k v).total size = t.total size + size v := by
  have hk : ¬ t.contains k := by simp [contains, h]
  have hvalues : (t.insert k v).values = t.values ++ [v] := by simp [insert, hk, values]
  rw [total, hvalues, List.map_append, List.map_singleton, List.sum_append, List.sum_singleton,
    total]

theorem sum_filter_ne {l : List (κ × α)} (hl : (l.map Prod.fst).Nodup) (h : (k, v) ∈ l) :
    ((l.filter fun e => decide (e.1 ≠ k)).map fun e => size e.2).sum + size v =
      (l.map fun e => size e.2).sum := by
  induction l with
  | nil => cases h
  | cons e l ih =>
    rw [List.map_cons, List.nodup_cons] at hl
    rcases List.mem_cons.1 h with rfl | h
    · -- no later entry has the key
      have hothers : (l.filter fun e => decide (e.1 ≠ k)) = l := by
        refine List.filter_eq_self.2 fun e he => ?_
        exact decide_eq_true fun heq => hl.1 (List.mem_map.2 ⟨e, he, heq⟩)
      rw [List.filter_cons_of_neg (by simp), hothers, List.map_cons, List.sum_cons]
      exact Nat.add_comm _ _
    · have hne : e.1 ≠ k := fun heq => hl.1 (List.mem_map.2 ⟨(k, v), h, heq.symm⟩)
      rw [List.filter_cons_of_pos (by simpa using hne), List.map_cons, List.sum_cons,
        List.map_cons, List.sum_cons, ← ih hl.2 h]
      omega

/-- What is dropped is missing from the total. -/
theorem total_erase (h : t.get? k = some v) :
    (t.erase k).total size + size v = t.total size := by
  simp only [total, values, erase, List.map_map]
  exact sum_filter_ne t.nodup (mem_entries_iff.2 h)

/-- A value that is kept is the value of its key. -/
theorem get?_filterValues (t : Table κ α) (p : α → Bool) (k : κ) :
    (t.filterValues p).get? k = (t.get? k).filter p := by
  refine Option.ext fun v => ?_
  rw [Option.filter_eq_some_iff, ← mem_entries_iff, ← mem_entries_iff]
  exact List.mem_filter

/-- The values are pairwise related if those of different keys are. -/
theorem pairwise_values {R : α → α → Prop}
    (h : ∀ k k' v v', k ≠ k' → t.get? k = some v → t.get? k' = some v' → R v v') :
    t.values.Pairwise R := by
  rw [values, List.pairwise_map]
  refine (List.pairwise_map.1 t.nodup).imp_of_mem fun {e e'} he he' hne => ?_
  exact h e.1 e'.1 e.2 e'.2 hne (mem_entries_iff.1 he) (mem_entries_iff.1 he')

/-! ## Changing all values -/

section MapValues

variable {β : Type} {f : α → β}

omit [DecidableEq κ] in
theorem eq_of_entries_eq (h : t.entries = t'.entries) : t = t' := by
  cases t
  cases t'
  cases h
  rfl

omit [DecidableEq κ] in
theorem keys_map_entries (f : α → β) (t : Table κ α) :
    (t.entries.map fun e => (e.1, f e.2)).map Prod.fst = t.keys := by
  rw [List.map_map]
  rfl

/-- The table with every value changed. -/
def mapValues (f : α → β) (t : Table κ α) : Table κ β where
  entries := t.entries.map fun e => (e.1, f e.2)
  nodup := by
    rw [keys_map_entries]
    exact t.nodup

omit [DecidableEq κ] in
theorem values_mapValues (f : α → β) (t : Table κ α) : (t.mapValues f).values = t.values.map f := by
  simp only [values, mapValues, List.map_map]
  rfl

omit [DecidableEq κ] in
theorem size_mapValues (f : α → β) (t : Table κ α) : (t.mapValues f).size = t.size :=
  List.length_map _

theorem get?_mapValues (f : α → β) (t : Table κ α) (k : κ) :
    (t.mapValues f).get? k = (t.get? k).map f := by
  show (t.entries.map fun e => (e.1, f e.2)).lookup k = (t.entries.lookup k).map f
  induction t.entries with
  | nil => rfl
  | cons e l ih =>
    rw [List.map_cons, lookup_cons_if, ih]
    obtain ⟨a, v⟩ := e
    rw [lookup_cons_if]
    split <;> rfl

theorem mapValues_modify {g : α → α} {g' : β → β} (h : ∀ v, f (g v) = g' (f v)) (t : Table κ α)
    (k : κ) : (t.modify k g).mapValues f = (t.mapValues f).modify k g' := by
  apply eq_of_entries_eq
  simp only [mapValues, modify, List.map_map]
  apply List.map_congr_left
  intro e _
  by_cases he : e.1 = k <;> simp [he, h]

theorem mapValues_erase (f : α → β) (t : Table κ α) (k : κ) :
    (t.erase k).mapValues f = (t.mapValues f).erase k := by
  apply eq_of_entries_eq
  simp only [mapValues, erase, List.filter_map]
  rfl

theorem mapValues_insert (f : α → β) (t : Table κ α) (k : κ) (v : α) :
    (t.insert k v).mapValues f = (t.mapValues f).insert k (f v) := by
  have hcontains : (t.mapValues f).contains k = t.contains k := by
    rw [contains, contains, get?_mapValues, Option.isSome_map]
  by_cases hk : t.contains k
  · rw [insert, insert, dif_pos hk, dif_pos (hcontains.trans hk)]
    apply mapValues_modify
    intro w
    rfl
  · have hk' : ¬ (t.mapValues f).contains k := by rwa [hcontains]
    rw [insert, insert, dif_neg hk, dif_neg hk']
    apply eq_of_entries_eq
    simp [mapValues]

end MapValues

end TieredVectors.Table
