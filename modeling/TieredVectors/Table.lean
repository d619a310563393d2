/-!
# Keyed tables

A `Table` holds at most one value per key and lists its entries in the order in which their keys
first came in. The registries and caches of the library are tables: what they hold is small, and
what is said about them is said about the list of their entries.

Looking a key up after an update is described by `get?_insert`, `get?_modify` and
`get?_erase`, and which keys there are by `keys_insert`, `keys_modify` and `keys_erase`; nothing
outside this file needs to open the representation.
-/

namespace TieredVectors

/-- A finite map that lists its entries in insertion order. -/
structure Table (κ : Type) (α : Type) where
  /-- The entries, oldest key first. -/
  entries : List (κ × α) := []
  /-- No key has two entries. -/
  nodup : (entries.map Prod.fst).Nodup := by simp

namespace Table

variable {κ α : Type}

instance : Inhabited (Table κ α) := ⟨{}⟩

instance : EmptyCollection (Table κ α) := ⟨{}⟩

/-- The number of entries. -/
def size (t : Table κ α) : Nat := t.entries.length

/-- Whether there is no entry. -/
def isEmpty (t : Table κ α) : Bool := t.entries.isEmpty

/-- The keys, oldest first. -/
def keys (t : Table κ α) : List κ := t.entries.map Prod.fst

/-- The values, in the order of their keys. -/
def values (t : Table κ α) : List α := t.entries.map Prod.snd

/-- Keep the entries whose value satisfies `p`. -/
def filterValues (t : Table κ α) (p : α → Bool) : Table κ α where
  entries := t.entries.filter fun e => p e.2
  nodup := t.nodup.sublist (List.filter_sublist.map _)

variable [DecidableEq κ]

/-- The value of `k`, if it has one. -/
def get? (t : Table κ α) (k : κ) : Option α := t.entries.lookup k

/-- Whether `k` has a value. -/
def contains (t : Table κ α) (k : κ) : Bool := (t.get? k).isSome

/-- Change the value of `k` where there is one. -/
def modify (t : Table κ α) (k : κ) (f : α → α) : Table κ α where
  entries := t.entries.map fun e => if e.1 = k then (e.1, f e.2) else e
  nodup := by
    have h : (t.entries.map fun e => if e.1 = k then (e.1, f e.2) else e).map Prod.fst =
        t.entries.map Prod.fst := by
      rw [List.map_map]
      apply List.map_congr_left
      intro e _
      by_cases he : e.1 = k <;> simp [he]
    rw [h]
    exact t.nodup

/-- Drop the entry of `k`. -/
def erase (t : Table κ α) (k : κ) : Table κ α where
  entries := t.entries.filter fun e => decide (e.1 ≠ k)
  nodup := t.nodup.sublist (List.filter_sublist.map _)

theorem lookup_cons_if (l : List (κ × α)) (a k : κ) (v : α) :
    ((a, v) :: l).lookup k = if k = a then some v else l.lookup k := by
  rw [List.lookup_cons]
  by_cases h : k = a
  · simp [h]
  · have hb : (k == a) = false := by simpa using h
    simp [hb, h]

theorem lookup_isSome_iff {l : List (κ × α)} {k : κ} :
    (l.lookup k).isSome ↔ k ∈ l.map Prod.fst := by
  induction l with
  | nil => simp
  | cons e l ih =>
    obtain ⟨a, v⟩ := e
    by_cases h : k = a <;> simp [lookup_cons_if, h, ih]

/-- Give `k` the value `v`: in place if `k` is there already, else at the end. -/
def insert (t : Table κ α) (k : κ) (v : α) : Table κ α :=
  if h : t.contains k then
    t.modify k fun _ => v
  else
    { entries := t.entries ++ [(k, v)]
      nodup := by
        have hk : k ∉ t.entries.map Prod.fst := fun hm => h (lookup_isSome_iff.2 hm)
        rw [List.map_append, List.nodup_append]
        refine ⟨t.nodup, by simp, ?_⟩
        intro a ha b hb
        simp only [List.map_cons, List.map_nil, List.mem_singleton] at hb
        exact fun hab => hk (hb ▸ hab ▸ ha) }

/-- The entries of `l` as a table; of two entries with one key the later one wins. -/
def ofList (l : List (κ × α)) : Table κ α :=
  l.foldl (fun t (e : κ × α) => t.insert e.1 e.2) ∅

@[simp] theorem get?_empty (k : κ) : (∅ : Table κ α).get? k = none := rfl

theorem contains_iff {t : Table κ α} {k : κ} : t.contains k ↔ k ∈ t.keys := lookup_isSome_iff

theorem lookup_map_if (l : List (κ × α)) (k k' : κ) (f : α → α) :
    (l.map fun e => if e.1 = k then (e.1, f e.2) else e).lookup k' =
      if k' = k then (l.lookup k').map f else l.lookup k' := by
  induction l with
  | nil => simp
  | cons e l ih =>
    obtain ⟨a, v⟩ := e
    by_cases ha : a = k
    · simp only [List.map_cons, ha, if_true, lookup_cons_if, ih]
      split <;> simp_all
    · simp only [List.map_cons, ha, if_false, lookup_cons_if, ih]
      grind

@[simp] theorem get?_modify (t : Table κ α) (k k' : κ) (f : α → α) :
    (t.modify k f).get? k' = if k' = k then (t.get? k').map f else t.get? k' :=
  lookup_map_if t.entries k k' f

theorem lookup_filter_ne (l : List (κ × α)) (k k' : κ) :
    (l.filter fun e => decide (e.1 ≠ k)).lookup k' = if k' = k then none else l.lookup k' := by
  induction l with
  | nil => simp
  | cons e l ih =>
    obtain ⟨a, v⟩ := e
    by_cases ha : a = k
    · rw [List.filter_cons_of_neg (by simp [ha]), ih, lookup_cons_if]
      grind
    · rw [List.filter_cons_of_pos (by simp [ha]), lookup_cons_if, ih, lookup_cons_if]
      grind

@[simp] theorem get?_erase (t : Table κ α) (k k' : κ) :
    (t.erase k).get? k' = if k' = k then none else t.get? k' :=
  lookup_filter_ne t.entries k k'

theorem lookup_append_singleton (l : List (κ × α)) (k k' : κ) (v : α) (hk : l.lookup k = none) :
    (l ++ [(k, v)]).lookup k' = if k' = k then some v else l.lookup k' := by
  induction l with
  | nil => simp [lookup_cons_if]
  | cons e l ih =>
    obtain ⟨a, w⟩ := e
    rw [lookup_cons_if] at hk
    rw [List.cons_append, lookup_cons_if, lookup_cons_if]
    grind

@[simp] theorem get?_insert (t : Table κ α) (k k' : κ) (v : α) :
    (t.insert k v).get? k' = if k' = k then some v else t.get? k' := by
  unfold insert
  split
  next h =>
    rw [get?_modify]
    split
    next hk =>
      subst hk
      obtain ⟨w, hw⟩ := Option.isSome_iff_exists.1 h
      simp [hw]
    next => rfl
  next h =>
    refine lookup_append_singleton t.entries k k' v ?_
    rw [← Option.not_isSome_iff_eq_none]
    exact h

theorem lookup_eq_some_iff {l : List (κ × α)} (hl : (l.map Prod.fst).Nodup) {k : κ} {v : α} :
    l.lookup k = some v ↔ (k, v) ∈ l := by
  induction l with
  | nil => simp
  | cons e l ih =>
    obtain ⟨a, w⟩ := e
    rw [List.map_cons, List.nodup_cons] at hl
    rw [lookup_cons_if, List.mem_cons, Prod.mk.injEq]
    by_cases h : k = a
    · -- an entry further back would have the same key as the first one
      have hnot : (a, v) ∉ l := fun hm => hl.1 (List.mem_map.2 ⟨(a, v), hm, rfl⟩)
      simp [h, eq_comm, hnot]
    · simp [h, ih hl.2]

/-- The values are those that some key has. -/
theorem mem_values_iff {t : Table κ α} {v : α} : v ∈ t.values ↔ ∃ k, t.get? k = some v := by
  simp only [values, List.mem_map, Prod.exists, get?, lookup_eq_some_iff t.nodup]
  constructor
  · rintro ⟨k, w, hm, rfl⟩
    exact ⟨k, hm⟩
  · rintro ⟨k, hm⟩
    exact ⟨k, v, hm, rfl⟩

/-- A new key makes for one more entry. -/
theorem size_insert {t : Table κ α} {k : κ} (h : t.get? k = none) (v : α) :
    (t.insert k v).size = t.size + 1 := by
  have hk : ¬ t.contains k := by simp [contains, h]
  simp [insert, hk, size]

theorem size_erase_lt {t : Table κ α} {k : κ} {v : α} (h : t.get? k = some v) :
    (t.erase k).size < t.size := by
  have hk : k ∈ t.entries.map Prod.fst := lookup_isSome_iff.1 (by rw [get?] at h; simp [h])
  obtain ⟨e, he, hek⟩ := List.mem_map.1 hk
  exact List.length_filter_lt_length_iff_exists.2 ⟨e, he, by simp [hek]⟩

/-! ## Which keys there are -/

theorem mem_keys_iff {t : Table κ α} {k : κ} : k ∈ t.keys ↔ ∃ v, t.get? k = some v := by
  rw [← Option.isSome_iff_exists, ← contains_iff]
  exact Iff.rfl

theorem get?_eq_none_iff {t : Table κ α} {k : κ} : t.get? k = none ↔ k ∉ t.keys := by
  rw [mem_keys_iff, ← Option.isSome_iff_exists, Option.not_isSome_iff_eq_none]

@[simp] theorem keys_modify (t : Table κ α) (k : κ) (f : α → α) : (t.modify k f).keys = t.keys := by
  simp only [keys, modify, List.map_map]
  apply List.map_congr_left
  intro e _
  by_cases he : e.1 = k <;> simp [he]

/-- A new key comes last. -/
theorem keys_insert {t : Table κ α} {k : κ} (h : t.get? k = none) (v : α) :
    (t.insert k v).keys = t.keys ++ [k] := by
  have hk : ¬ t.contains k := by simp [contains, h]
  simp [insert, hk, keys]

theorem keys_erase (t : Table κ α) (k : κ) :
    (t.erase k).keys = t.keys.filter (decide <| · ≠ k) := by
  simp only [keys, erase, List.filter_map]
  rfl

/-- A value is that of its key. -/
theorem mem_entries_iff {t : Table κ α} {k : κ} {v : α} :
    (k, v) ∈ t.entries ↔ t.get? k = some v :=
  (lookup_eq_some_iff t.nodup).symm

end Table

end TieredVectors
