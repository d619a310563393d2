import TieredVectors.Proofs.Columns.Marshaling
import TieredVectors.Proofs.Operator.Pooling

/-!
# Folding in parts

A pool cuts a vector into chunks, folds each of them from the neutral value and then folds the
partial results.

* `Pool.flatMap_indices_chunks`, `Pool.length_chunks_le` — the chunks make up the whole vector and
  are no more than the workers;
* `Body.Combines V neutral` — on the values in `V` the body always has a result in `V`, is
  associative, and has `neutral` for a left identity;
* `Body.Combines.foldValues_flatten` — values folded in parts come to what they come to in a row.

`Pool.fold_eq_sequential` puts this together for the pool, and says where no assumption on the body
is needed.
-/

namespace TieredVectors

/-! ## Chunks -/

/-- The indices of the elements of a chunk. -/
def Chunk.indices (chunk : Chunk) : List Nat := List.range' chunk.first chunk.length

namespace Pool

variable {size first count : Nat}

/-- Chunks follow each other without a gap. -/
theorem flatMap_indices_cut (size first count : Nat) :
    (cut size first count).flatMap Chunk.indices = List.range' first count := by
  fun_induction cut size first count with
  | case1 => rfl
  | case2 first count hcount length ih =>
    have hsplit : length + (count - length) = count := by omega
    rw [List.flatMap_cons, ih, Chunk.indices, List.range'_append_1, hsplit]

theorem length_pos_of_mem_cut {chunk : Chunk} (h : chunk ∈ cut size first count) :
    0 < chunk.length := by
  fun_induction cut size first count with
  | case1 => cases h
  | case2 first count hcount length ih =>
    rcases List.mem_cons.1 h with rfl | h
    · show 0 < min (size + 1) count
      omega
    · exact ih h

/-- As many chunks are enough as together have room for all elements. -/
theorem length_cut_le (size first count : Nat) :
    ∀ n, count ≤ n * (size + 1) → (cut size first count).length ≤ n := by
  fun_induction cut size first count with
  | case1 => exact fun n _ => Nat.zero_le n
  | case2 first count hcount length ih =>
    intro n hn
    cases n with
    | zero => omega
    | succ n =>
      rw [Nat.succ_mul] at hn
      rw [List.length_cons]
      exact Nat.succ_le_succ (ih n (by omega))

/-- The chunks make up the whole vector. -/
theorem flatMap_indices_chunks (threads length : Nat) :
    (chunks threads length).flatMap Chunk.indices = List.range length := by
  rw [chunks, flatMap_indices_cut, List.range_eq_range']

theorem lt_of_mem_indices {threads length i : Nat} {chunk : Chunk}
    (hchunk : chunk ∈ chunks threads length) (hi : i ∈ chunk.indices) : i < length := by
  rw [← List.mem_range, ← flatMap_indices_chunks threads length]
  exact List.mem_flatMap.2 ⟨chunk, hchunk, hi⟩

/-- There is no chunk without a worker. -/
theorem length_chunks_le (threads length : Nat) :
    (chunks threads length).length ≤ max threads 1 := by
  apply length_cut_le
  generalize hworkers : max threads 1 = workers
  generalize hsize : (length + workers - 1) / workers = size
  -- the length of a chunk is rounded up, so that there is room for the last elements too
  have hroom : length ≤ workers * size := by
    have := Nat.lt_mul_div_succ (length + workers - 1) (show 0 < workers by omega)
    rw [hsize, Nat.mul_succ] at this
    omega
  cases size with
  | zero => omega
  | succ size => exact hroom

end Pool

/-! ## Partial results -/

namespace Body

variable {body : Body} {z : Zipped} {V : Value → Prop} {neutral : Value}

/-- Fold values from the left, or stop at the first error. -/
def foldValues (body : Body) (acc : Value) (values : List Value) : Except EvalError Value :=
  values.foldlM (fun acc v => body.call [acc, v]) acc

theorem foldValues_nil (acc : Value) : body.foldValues acc [] = .ok acc :=
  rfl

theorem foldValues_cons (acc v : Value) (values : List Value) :
    body.foldValues acc (v :: values) = body.call [acc, v] >>= (body.foldValues · values) :=
  List.foldlM_cons

theorem foldValues_append (acc : Value) (values values' : List Value) :
    body.foldValues acc (values ++ values') =
      body.foldValues acc values >>= (body.foldValues · values') :=
  List.foldlM_append

/-- Without companions, folding elements is folding the values at their indices. -/
theorem foldFrom_eq_foldValues (hnone : z.companions = []) (acc : Value) {first count : Nat}
    (hreach : ∀ i ∈ List.range' first count, i < z.length) :
    body.foldFrom z acc first count =
      body.foldValues acc ((List.range' first count).filterMap z.primary.get?) := by
  induction count generalizing acc first with
  | zero => rfl
  | succ count ih =>
    rw [List.range'_succ, List.forall_mem_cons] at hreach
    obtain ⟨v, hv⟩ := Option.isSome_iff_exists.1 (DataVector.isSome_get?_iff.2 hreach.1)
    have hargs : z.arguments first = [v] := by simp [Zipped.arguments, hnone, hv]
    rw [foldFrom, hargs, List.range'_succ, List.filterMap_cons_some hv, foldValues_cons]
    exact bind_congr fun acc => ih acc hreach.2

/-- The body combines values in `V`: of two of them it always makes a third, it does not matter
how three of them are grouped, and `neutral` leaves each as it is. -/
structure Combines (body : Body) (V : Value → Prop) (neutral : Value) : Prop where
  closed : ∀ a b, V a → V b → ∃ r, body.call [a, b] = .ok r ∧ V r
  assoc : ∀ a b c ab bc, V a → V b → V c → body.call [a, b] = .ok ab → body.call [b, c] = .ok bc →
    body.call [ab, c] = body.call [a, bc]
  neutral_left : ∀ b, V b → body.call [neutral, b] = .ok b

namespace Combines

/-- Values in `V` have a value in `V` for all of them together, and folding them into an accumulator
is combining it with that. -/
theorem foldValues_eq_call (h : body.Combines V neutral) {values : List Value}
    (hne : values ≠ []) (hvalues : ∀ v ∈ values, V v) :
    ∃ w, V w ∧ body.foldValues neutral values = .ok w ∧
      ∀ a, V a → body.foldValues a values = body.call [a, w] := by
  induction values with
  | nil => exact absurd rfl hne
  | cons v rest ih =>
    rw [List.forall_mem_cons] at hvalues
    cases rest with
    | nil =>
      refine ⟨v, hvalues.1, ?_, fun a ha => ?_⟩
      · rw [foldValues_cons, h.neutral_left v hvalues.1]
        rfl
      · obtain ⟨av, hav, -⟩ := h.closed a v ha hvalues.1
        rw [foldValues_cons, hav]
        rfl
    | cons v' rest =>
      obtain ⟨w, hw, -, hfold⟩ := ih (List.cons_ne_nil v' rest) hvalues.2
      obtain ⟨vw, hvw, hvwV⟩ := h.closed v w hvalues.1 hw
      refine ⟨vw, hvwV, ?_, fun a ha => ?_⟩
      · rw [foldValues_cons, h.neutral_left v hvalues.1]
        exact (hfold v hvalues.1).trans hvw
      · -- here the grouping changes: what has been accumulated takes in the rest as one value
        obtain ⟨av, hav, havV⟩ := h.closed a v ha hvalues.1
        rw [foldValues_cons, hav]
        exact (hfold av havV).trans (h.assoc a v w av vw ha hvalues.1 hw hav hvw)

/-- Values in `V` can be folded from the neutral value. -/
theorem exists_foldValues (h : body.Combines V neutral) {values : List Value}
    (hvalues : ∀ v ∈ values, V v) : ∃ w, body.foldValues neutral values = .ok w := by
  by_cases hne : values = []
  · exact ⟨neutral, by rw [hne, foldValues_nil]⟩
  · obtain ⟨w, -, hw, -⟩ := h.foldValues_eq_call hne hvalues
    exact ⟨w, hw⟩

/-- Values in `V` that are folded part by part come to what they come to in a row. -/
theorem foldValues_flatten (h : body.Combines V neutral) {parts : List (List Value)}
    (hne : ∀ part ∈ parts, part ≠ []) (hparts : ∀ part ∈ parts, ∀ v ∈ part, V v) :
    ∃ partials, parts.map (body.foldValues neutral) = partials.map .ok ∧
      (∀ a, V a → body.foldValues a partials = body.foldValues a parts.flatten) ∧
      body.foldValues neutral partials = body.foldValues neutral parts.flatten := by
  induction parts with
  | nil => exact ⟨[], rfl, fun _ _ => rfl, rfl⟩
  | cons part parts ih =>
    rw [List.forall_mem_cons] at hne hparts
    obtain ⟨w, hw, hpart, hfold⟩ := h.foldValues_eq_call hne.1 hparts.1
    obtain ⟨partials, hpartials, hrest, -⟩ := ih hne.2 hparts.2
    refine ⟨w :: partials, by rw [List.map_cons, List.map_cons, hpart, hpartials], ?_, ?_⟩
    · intro a ha
      obtain ⟨aw, haw, hawV⟩ := h.closed a w ha hw
      rw [foldValues_cons, List.flatten_cons, foldValues_append, hfold a ha, haw]
      exact hrest aw hawV
    · -- a part is not empty, so that nothing is left of the neutral value after the first
      rw [foldValues_cons, List.flatten_cons, foldValues_append, hpart, h.neutral_left w hw]
      exact hrest w hw

end Combines

end Body

/-- Folding values gives the body's result, or its first error. -/
theorem Entry.foldValues_ensures (entry : Entry) (acc : Value) (values : List Value) (c : Context) :
    (entry.foldValues acc values).Ensures c fun r c' _ =>
      c' = c ∧ r = (entry.body.foldValues acc values).mapError .eval := by
  induction values generalizing acc c with
  | nil => exact ⟨rfl, rfl⟩
  | cons v values ih =>
    rw [foldValues, Body.foldValues_cons, Action.ensures_bind]
    refine (entry.call_ensures [acc, v] c).mono ?_
    rintro r c' es ⟨rfl, rfl, -⟩
    cases entry.body.call [acc, v] with
    | error e => exact ⟨rfl, rfl⟩
    | ok acc => exact ih acc c'

namespace Pool

variable {entry : Entry} {z : Zipped} {neutral : Value} {V : Value → Prop}

/-- With companions, or with fewer than two elements, nothing is cut. -/
theorem fold_of_whole (threads : Nat) (entry : Entry) (neutral : Value)
    (h : z.companions ≠ [] ∨ z.length < 2) :
    fold threads entry z neutral = entry.fold z neutral := by
  have hwhole : !z.companions.isEmpty || decide (z.length < 2) := by simpa using h
  rw [fold, if_pos hwhole]

/-- The elements of a chunk. -/
def elements (z : Zipped) (chunk : Chunk) : List Value := chunk.indices.filterMap z.primary.get?

theorem elements_ne_nil {threads : Nat} {chunk : Chunk} (h : chunk ∈ chunks threads z.length) :
    elements z chunk ≠ [] := by
  -- the first element is there, since a chunk has one and does not reach beyond the vector
  have hfirst : chunk.first ∈ chunk.indices := by
    rw [Chunk.indices, List.mem_range'_1]
    exact ⟨Nat.le_refl _, Nat.lt_add_of_pos_right (length_pos_of_mem_cut h)⟩
  obtain ⟨v, hv⟩ := Option.isSome_iff_exists.1
    (DataVector.isSome_get?_iff.2 (lt_of_mem_indices h hfirst))
  exact List.ne_nil_of_mem (List.mem_filterMap.2 ⟨chunk.first, hfirst, hv⟩)

/-- The chunks have all elements, in order. -/
theorem flatten_elements (z : Zipped) (threads : Nat) :
    ((chunks threads z.length).map (elements z)).flatten =
      (List.range z.length).filterMap z.primary.get? := by
  rw [← flatMap_indices_chunks threads, List.filterMap_flatMap, List.flatMap_def]
  rfl

/-- If the body combines the elements, every chunk has a partial result, and these come to what all
elements come to in a row. -/
theorem exists_partials (hnone : z.companions = [])
    (hvalues : ∀ i v, z.primary.get? i = some v → V v) (h : entry.body.Combines V neutral)
    (threads : Nat) :
    ∃ partials, (chunks threads z.length).map
        (fun chunk => entry.body.foldFrom z neutral chunk.first chunk.length) = partials.map .ok ∧
      entry.body.foldValues neutral partials = entry.body.foldFrom z neutral 0 z.length := by
  have hV : ∀ part ∈ (chunks threads z.length).map (elements z), ∀ v ∈ part, V v := by
    intro part hpart v hv
    obtain ⟨chunk, -, rfl⟩ := List.mem_map.1 hpart
    obtain ⟨i, -, hi⟩ := List.mem_filterMap.1 hv
    exact hvalues i v hi
  have hne : ∀ part ∈ (chunks threads z.length).map (elements z), part ≠ [] := by
    intro part hpart
    obtain ⟨chunk, hchunk, rfl⟩ := List.mem_map.1 hpart
    exact elements_ne_nil hchunk
  obtain ⟨partials, hpartials, -, hfold⟩ := h.foldValues_flatten hne hV
  refine ⟨partials, ?_, ?_⟩
  · rw [← hpartials, List.map_map]
    refine List.map_congr_left fun chunk hchunk => ?_
    exact Body.foldFrom_eq_foldValues hnone neutral fun i hi => lt_of_mem_indices hchunk hi
  · rw [hfold, flatten_elements, List.range_eq_range']
    refine (Body.foldFrom_eq_foldValues hnone neutral fun i hi => ?_).symm
    simpa using hi

/-- The tasks of a pool are the chunks, one by one. -/
theorem map_range_getD {β : Type} (f : Chunk → β) (chunks : List Chunk) :
    ((List.range chunks.length).map fun i => f (chunks.getD i default)) = chunks.map f := by
  refine List.ext_getElem (by simp) fun i hi _ => ?_
  rw [List.length_map, List.length_range] at hi
  simp [hi]

/-- If the body combines the elements, folding on a pool gives what folding in order gives. -/
theorem fold_ensures (hnone : z.companions = [])
    (hvalues : ∀ i v, z.primary.get? i = some v → V v) (h : entry.body.Combines V neutral)
    (threads : Nat) (c : Context) :
    (fold threads entry z neutral).Ensures c fun r c' _ =>
      c' = c ∧ r = (entry.body.foldFrom z neutral 0 z.length).mapError .eval := by
  by_cases hwhole : z.length < 2
  · rw [fold_of_whole threads entry neutral (.inr hwhole)]
    exact (entry.foldFrom_ensures z neutral 0 z.length c).mono fun _ _ _ h => ⟨h.1, h.2.1⟩
  · obtain ⟨partials, hpartials, hfold⟩ := exists_partials hnone hvalues h threads
    have hcut : ¬ (!z.companions.isEmpty || decide (z.length < 2)) := by simpa [hnone] using hwhole
    rw [fold, if_neg hcut, Action.ensures_bind]
    refine (compute_ensures (fun i c => (entry.foldFrom_ensures z neutral _ _ c).mono
      fun _ _ _ h => ⟨h.1, h.2.1⟩) .null _ c).mono ?_
    rintro r c' es ⟨rfl, gathered, hgathered, rfl⟩
    -- every chunk has a partial result, so that the pool has them all, in order
    have hall : (List.range (chunks threads z.length).length).map (fun i =>
        entry.body.foldFrom z neutral ((chunks threads z.length).getD i default).first
          ((chunks threads z.length).getD i default).length) = partials.map .ok := by
      rw [← hpartials]
      exact map_range_getD (fun chunk => entry.body.foldFrom z neutral chunk.first chunk.length) _
    obtain rfl := hgathered.eq_ok hall
    rw [mapError_ok, Action.Post.after_ok, Action.ensures_bind, Action.ensures_tell,
      Action.Post.after_ok]
    refine (entry.foldValues_ensures neutral partials c').mono fun _ _ _ h => ⟨h.1, ?_⟩
    rw [h.2, hfold]

/-- A pool folds as the interpreter does.

* If the body combines the elements, both give the same value, however many workers there are and in
  whatever order they finish.
* The chunks are not empty, no more than the workers, and have all elements in order.
* With companions, or with fewer than two elements, the pool does what the interpreter does, errors
  included. -/
theorem fold_eq_sequential :
    (∀ (threads : Nat) (entry : Entry) (z : Zipped) (neutral : Value) (V : Value → Prop)
      (c : Context), z.companions = [] → (∀ i v, z.primary.get? i = some v → V v) →
      entry.body.Combines V neutral →
      ∃ v, ((fold threads entry z neutral).run c).result = .ok v ∧
        ((entry.fold z neutral).run c).result = .ok v) ∧
    (∀ threads length : Nat,
      (∀ chunk ∈ chunks threads length, 0 < chunk.length) ∧
      (1 ≤ threads → (chunks threads length).length ≤ threads) ∧
      (chunks threads length).flatMap Chunk.indices = List.range length) ∧
    ∀ (threads : Nat) (entry : Entry) (z : Zipped) (neutral : Value),
      z.companions ≠ [] ∨ z.length < 2 →
      fold threads entry z neutral = entry.fold z neutral := by
  refine ⟨fun threads entry z neutral V c hnone hvalues h => ?_, fun threads length => ?_,
    fun threads entry z neutral h => fold_of_whole threads entry neutral h⟩
  · have hpooled := fold_ensures hnone hvalues h threads c
    have hsequential := entry.foldFrom_ensures z neutral 0 z.length c
    obtain ⟨v, hv⟩ : ∃ v, entry.body.foldFrom z neutral 0 z.length = .ok v := by
      rw [Body.foldFrom_eq_foldValues hnone neutral fun i hi => by simpa using hi]
      refine h.exists_foldValues fun v hv => ?_
      obtain ⟨i, -, hi⟩ := List.mem_filterMap.1 hv
      exact hvalues i v hi
    rw [hv, mapError_ok] at hpooled hsequential
    exact ⟨v, hpooled.2, hsequential.2.1⟩
  · refine ⟨fun chunk hchunk => length_pos_of_mem_cut hchunk, fun hthreads => ?_,
      flatMap_indices_chunks threads length⟩
    have := length_chunks_le threads length
    omega

/-- Lists put together. -/
def concatenation : Entry where
  id := { function := ⟨0⟩ }
  body :=
    { parameters := ["left", "right"]
      scope := []
      call := fun args =>
        match args with
        | [.list xs, .list ys] => .ok (.list (xs ++ ys))
        | _ => .error ⟨"two lists are needed"⟩
      specialized := none }

theorem concatenation_combines :
    concatenation.body.Combines (∃ items, · = .list items) (.list []) where
  closed := by
    rintro _ _ ⟨xs, rfl⟩ ⟨ys, rfl⟩
    exact ⟨_, rfl, xs ++ ys, rfl⟩
  assoc := by
    rintro _ _ _ _ _ ⟨xs, rfl⟩ ⟨ys, rfl⟩ ⟨zs, rfl⟩ hab hbc
    obtain rfl := Except.ok.inj hab
    obtain rfl := Except.ok.inj hbc
    exact congrArg (fun items => Except.ok (Value.list items)) (List.append_assoc xs ys zs)
  neutral_left := by
    rintro _ ⟨ys, rfl⟩
    rfl

/-- Five lists of one word each. -/
def fiveLists : Zipped where
  primary := .list [.list [.int 1], .list [.int 2], .list [.int 3], .list [.int 4], .list [.int 5]]
  companions := []
  arity_le := by decide
  length_eq := List.forall_mem_nil _

/-- One word, which is no list. -/
def oneWord : Zipped where
  primary := .int [3]
  companions := []
  arity_le := by decide
  length_eq := List.forall_mem_nil _

/-- Two workers put five lists together, in chunks of three and of two, and the order matters; what
is no list is refused as it is without them. -/
theorem fold_eq_sequential_concatenation :
    ((fold 2 concatenation fiveLists (.list [])).run {}).result =
      .ok (.list [.int 1, .int 2, .int 3, .int 4, .int 5]) ∧
    (chunks 2 5).length ≤ 2 ∧
    ((fold 2 concatenation oneWord (.list [])).run {}).result =
      .error (.eval ⟨"two lists are needed"⟩) := by
  obtain ⟨hfold, hchunks, hwhole⟩ := fold_eq_sequential
  refine ⟨?_, (hchunks 2 5).2.1 (by decide), ?_⟩
  · have hlists : ∀ i v, fiveLists.primary.get? i = some v → ∃ items, v = .list items := by
      intro i v hv
      have hmem : v ∈ [_, _, _, _, _] := List.mem_of_getElem? hv
      simp only [List.mem_cons, List.not_mem_nil, or_false] at hmem
      rcases hmem with rfl | rfl | rfl | rfl | rfl <;> exact ⟨_, rfl⟩
    obtain ⟨v, hpooled, hsequential⟩ :=
      hfold 2 concatenation fiveLists (.list []) _ {} rfl hlists concatenation_combines
    rw [hpooled, ← hsequential]
    rfl
  · rw [hwhole 2 concatenation oneWord (.list []) (.inr (by decide))]
    rfl

end Pool

end TieredVectors
