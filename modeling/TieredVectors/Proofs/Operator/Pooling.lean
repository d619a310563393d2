import TieredVectors.Proofs.Operator.Interpreting

/-!
# Tasks on a pool

The tasks of a pool finish in any order. If all of them succeed, their results come out in the order
of the tasks, whatever the schedule; if one fails, the pool fails with the error of a task that does
(`Pool.Gathers`, `Pool.compute_ensures`).
-/

namespace TieredVectors

namespace Pool

variable {ε α : Type} {n : Nat} {result : Nat → Except ε α} {order : List Nat}

/-- What `n` tasks may come to, if nothing is said about the order in which they finish: the results
of all of them in order, or the error of some task. -/
inductive Gathers (n : Nat) (result : Nat → Except ε α) : Except ε (List α) → Prop where
  | all {xs : List α} (h : (List.range n).map result = xs.map .ok) : Gathers n result (.ok xs)
  | failed {i : Nat} {e : ε} (hi : i < n) (h : result i = .error e) : Gathers n result (.error e)

/-- If all tasks have results then none fails. -/
theorem ne_error_of_all {xs : List α} (hall : (List.range n).map result = xs.map .ok) {i : Nat}
    (hi : i < n) (e : ε) : result i ≠ .error e := by
  intro he
  have hmem : result i ∈ xs.map .ok := hall ▸ List.mem_map_of_mem (List.mem_range.2 hi)
  simp [he] at hmem

/-- If all tasks succeed there is one thing that they may come to. -/
theorem Gathers.eq_ok {xs : List α} {r : Except ε (List α)} (h : Gathers n result r)
    (hall : (List.range n).map result = xs.map .ok) : r = .ok xs := by
  cases h with
  | all h => exact (mapM_eq_ok_iff.2 h).symm.trans (mapM_eq_ok_iff.2 hall)
  | failed hi he => exact absurd he (ne_error_of_all hall hi _)

/-- If a task fails, the error of one of them is what they come to. -/
theorem Gathers.exists_error {r : Except ε (List α)} (h : Gathers n result r) {i : Nat} {e : ε}
    (hi : i < n) (he : result i = .error e) :
    ∃ j e', j < n ∧ result j = .error e' ∧ r = .error e' := by
  cases h with
  | all hall => exact absurd he (ne_error_of_all hall hi e)
  | failed hj he' => exact ⟨_, _, hj, he', rfl⟩

/-- Every finished task is found under its number. -/
theorem lookup_finished {finished : List (Nat × α)}
    (h : (order.mapM fun i => (i, ·) <$> result i) = .ok finished) {i : Nat} (hi : i ∈ order) :
    ∃ x, result i = .ok x ∧ finished.lookup i = some x := by
  induction order generalizing finished with
  | nil => cases hi
  | cons j rest ih =>
    rw [List.mapM_cons] at h
    obtain ⟨first, hfirst, h⟩ := bind_eq_ok.1 h
    obtain ⟨others, hothers, h⟩ := bind_eq_ok.1 h
    obtain ⟨x, hx, rfl⟩ := map_eq_ok.1 hfirst
    obtain rfl := pure_eq_ok.1 h
    by_cases hij : i = j
    · subst hij
      exact ⟨x, hx, by simp⟩
    · obtain ⟨y, hy, hlookup⟩ := ih hothers (by simpa [hij] using hi)
      have hne : (i == j) = false := beq_eq_false_iff_ne.2 hij
      exact ⟨y, hy, by rw [List.lookup_cons, hne]; exact hlookup⟩

/-- The results of all tasks, put in the order of the tasks. -/
theorem gathers_assemble {finished : List (Nat × α)} (hperm : order.Perm (List.range n))
    (h : (order.mapM fun i => (i, ·) <$> result i) = .ok finished) (blank : α) :
    Gathers n result (.ok (assemble blank n finished)) := by
  refine .all ?_
  rw [assemble, List.map_map]
  refine List.map_congr_left fun i hi => ?_
  -- every task is in the schedule, so none is left blank
  obtain ⟨x, hx, hlookup⟩ := lookup_finished h (hperm.mem_iff.2 hi)
  simp [hx, hlookup]

section

variable {task : Nat → Action α} {wrap : ε → OperatorError}
  (htask : ∀ i c, (task i).Ensures c fun r c' _ => c' = c ∧ r = (result i).mapError wrap)
include htask

theorem finish_ensures (order : List Nat) (c : Context) :
    (finish task order).Ensures c fun r c' _ =>
      c' = c ∧ r = (order.mapM fun i => (i, ·) <$> result i).mapError wrap := by
  induction order generalizing c with
  | nil => exact ⟨rfl, rfl⟩
  | cons i rest ih =>
    rw [finish, List.mapM_cons, Action.ensures_bind]
    refine (htask i c).mono ?_
    rintro r c' es ⟨rfl, rfl⟩
    cases result i with
    | error e => exact ⟨rfl, rfl⟩
    | ok x =>
      rw [mapError_ok, Action.Post.after_ok, Action.ensures_bind]
      refine (ih c').mono ?_
      rintro r c'' es' ⟨rfl, rfl⟩
      cases rest.mapM fun i => (i, ·) <$> result i <;> exact ⟨rfl, rfl⟩

/-- Tasks that leave the context alone come to what they may come to in any order. -/
theorem compute_ensures (blank : α) (n : Nat) (c : Context) :
    (compute blank n task).Ensures c fun r c' _ =>
      c' = c ∧ ∃ gathered, Gathers n result gathered ∧ r = gathered.mapError wrap := by
  have hperm := c.schedule.complete n
  unfold compute
  simp only [Action.ensures_bind, Action.ensures_get, Action.Post.after_ok]
  refine (finish_ensures htask (c.schedule.order n) c).mono ?_
  rintro r c' es ⟨rfl, rfl⟩
  cases hfinish : (c'.schedule.order n).mapM fun i => (i, ·) <$> result i with
  | error e =>
    -- the schedule has no tasks but these
    obtain ⟨i, hi, he⟩ := exists_of_mapM_eq_error hfinish
    have hlt : i < n := List.mem_range.1 (hperm.mem_iff.1 hi)
    exact ⟨rfl, _, .failed hlt (map_eq_error.1 he), rfl⟩
  | ok finished => exact ⟨rfl, _, gathers_assemble hperm hfinish blank, rfl⟩

end

/-- Calls on a pool. -/
theorem callAll_ensures (entry : Entry) (z : Zipped) (c : Context) :
    (callAll entry z).Ensures c fun r c' _ => c' = c ∧ ∃ gathered,
      Gathers z.length (fun i => entry.body.call (z.arguments i)) gathered ∧
        r = gathered.mapError .eval :=
  compute_ensures (fun i c => (entry.call_ensures (z.arguments i) c).mono fun _ _ _ h =>
    ⟨h.1, h.2.1⟩) .null z.length c

end Pool

/-- Calls in order come to something that calls in any order may come to. -/
theorem Body.gathers_callAll (body : Body) (z : Zipped) :
    Pool.Gathers z.length (fun i => body.call (z.arguments i)) (body.callAll z) := by
  cases h : body.callAll z with
  | error e =>
    obtain ⟨i, hi, he, -⟩ := callFrom_eq_error h
    exact .failed hi (by simpa using he)
  | ok values => exact .all (callAll_eq_ok_iff.1 h)

/-- If the body has an error for an element, calls in order fail with the first error. -/
theorem Body.exists_first_error {body : Body} {z : Zipped} {i : Nat} {e : EvalError}
    (hi : i < z.length) (he : body.call (z.arguments i) = .error e) :
    ∃ j e', j < z.length ∧ body.call (z.arguments j) = .error e' ∧
      (∀ k < j, ∃ v, body.call (z.arguments k) = .ok v) ∧ body.callAll z = .error e' := by
  cases h : body.callAll z with
  | ok values => exact absurd he (Pool.ne_error_of_all (callAll_eq_ok_iff.1 h) hi e)
  | error e' =>
    obtain ⟨j, hj, hcall, hbefore⟩ := callFrom_eq_error h
    simp only [Nat.zero_add] at hcall hbefore
    exact ⟨j, e', hj, hcall, hbefore, rfl⟩

end TieredVectors
