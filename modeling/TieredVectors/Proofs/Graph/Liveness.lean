import TieredVectors.Proofs.Graph.WellFormed

/-!
# Live nodes

`Graph.live` marks the roots of a graph and then, from the last node to the first, what the marked
nodes read. In a well-formed graph this marks exactly the nodes reached from the roots
(`marked_live_iff`): a node is read by later ones only, so that its mark is final when the pass
comes to it.
-/

namespace TieredVectors.Graph

/-- Node `id` is marked. -/
def Marked (live : Array Bool) (id : NodeId) : Prop := live.getD id false = true

/-! ## Marking -/

variable {live : Array Bool} {first : NodeId} {nodes : List Node}

@[simp]
theorem size_mark (live : Array Bool) (ids : List NodeId) : (mark live ids).size = live.size := by
  unfold mark
  induction ids generalizing live with
  | nil => rfl
  | cons id ids ih => simp [ih]

/-- Marking one more node. -/
theorem marked_setIfInBounds {id j : NodeId} :
    Marked (live.setIfInBounds id true) j ↔ Marked live j ∨ (j = id ∧ id < live.size) := by
  unfold Marked
  rw [Array.getD_eq_getD_getElem?, Array.getD_eq_getD_getElem?, Array.getElem?_setIfInBounds]
  by_cases hj : id = j
  · subst hj
    by_cases hlt : id < live.size <;> simp [hlt]
  · have hne : ¬ j = id := fun h => hj h.symm
    simp [hj, hne]

/-- The marks after some nodes have been marked. -/
theorem marked_mark {ids : List NodeId} {j : NodeId} :
    Marked (mark live ids) j ↔ Marked live j ∨ (j ∈ ids ∧ j < live.size) := by
  unfold mark
  induction ids generalizing live with
  | nil => simp
  | cons id ids ih =>
    rw [List.foldl_cons, ih, marked_setIfInBounds, Array.size_setIfInBounds, List.mem_cons]
    grind

@[simp]
theorem size_markInputs (first : NodeId) (nodes : List Node) (live : Array Bool) :
    (markInputs first nodes live).size = live.size := by
  induction nodes generalizing first with
  | nil => rfl
  | cons n rest ih =>
    simp only [markInputs]
    split <;> simp [ih]

/-- Marks are never taken back. -/
theorem Marked.markInputs {j : NodeId} (h : Marked live j) :
    Marked (markInputs first nodes live) j := by
  induction nodes generalizing first with
  | nil => exact h
  | cons n rest ih =>
    simp only [Graph.markInputs]
    split
    · exact marked_mark.2 (Or.inl ih)
    · exact ih

/-- What a marked node reads is marked, if nodes read earlier nodes only. -/
theorem marked_inputs_markInputs (hinputs : ReadsEarlier first nodes)
    (hsize : first + nodes.length ≤ live.size) {i : Nat} {node : Node} (hi : nodes[i]? = some node)
    (hmark : Marked (markInputs first nodes live) (first + i)) :
    ∀ a ∈ node.inputs, Marked (markInputs first nodes live) a := by
  induction nodes generalizing first i node with
  | nil => simp at hi
  | cons n rest ih =>
    simp only [List.length_cons] at hsize
    obtain ⟨hn, hrest⟩ := readsEarlier_cons.1 hinputs
    simp only [markInputs] at hmark ⊢
    cases i with
    | zero =>
      obtain rfl : n = node := by simpa using hi
      split at hmark
      next hlive =>
        intro a ha
        rw [if_pos hlive]
        refine marked_mark.2 (Or.inr ⟨ha, ?_⟩)
        have := hn a ha
        rw [size_markInputs]
        lia
      next hlive => exact absurd hmark hlive
    | succ i =>
      -- the inputs of `n` come before it, so marking them leaves the mark of the later node alone
      have hlater : Marked (markInputs (first + 1) rest live) (first + 1 + i) := by
        rw [show first + (i + 1) = first + 1 + i by lia] at hmark
        split at hmark
        next hlive =>
          rcases marked_mark.1 hmark with h | ⟨h, -⟩
          · exact h
          · have := hn _ h
            lia
        next hlive => exact hmark
      have hin := ih hrest (by lia) (by simpa using hi) hlater
      intro a ha
      split
      · exact marked_mark.2 (Or.inl (hin a ha))
      · exact hin a ha

/-- Only what is marked at first, and what it reads, gets a mark: marks stay within every set that
holds the first ones and what its members read. -/
theorem of_marked_markInputs {P : NodeId → Prop} (hlive : ∀ j, Marked live j → P j)
    (hclosed : ∀ i node, nodes[i]? = some node → P (first + i) → ∀ a ∈ node.inputs, P a)
    {j : NodeId} (h : Marked (markInputs first nodes live) j) : P j := by
  induction nodes generalizing first j with
  | nil => exact hlive j h
  | cons n rest ih =>
    -- the later nodes have been looked at when the pass comes to `n`
    have hrest : ∀ {j}, Marked (markInputs (first + 1) rest live) j → P j := by
      intro j hj
      refine ih (fun i node hi hp => ?_) hj
      refine hclosed (i + 1) node (by simpa using hi) ?_
      rwa [show first + (i + 1) = first + 1 + i by lia]
    simp only [markInputs] at h
    split at h
    next hn =>
      rcases marked_mark.1 h with h | ⟨h, -⟩
      · exact hrest h
      · exact hclosed 0 n rfl (hrest hn) j h
    next => exact hrest h

/-! ## The live nodes of a graph -/

/-- The live nodes of a well-formed graph are those reached from its roots. -/
theorem marked_live_iff {g : Graph} (hw : g.WellFormed) {id : NodeId} :
    Marked g.live id ↔ g.Reaches g.roots id := by
  have hblank : ∀ j, ¬ Marked (Array.replicate g.size false) j := by
    intro j hj
    unfold Marked at hj
    rw [Array.getD_eq_getD_getElem?] at hj
    by_cases hlt : j < g.size <;> simp [hlt] at hj
  -- the pass starts with the roots marked and nothing else
  have hroots : ∀ j, Marked (mark (Array.replicate g.size false) g.roots) j ↔ j ∈ g.roots := by
    intro j
    rw [marked_mark, Array.size_replicate]
    exact ⟨fun h => h.elim (fun h => absurd h (hblank j)) And.left,
      fun h => Or.inr ⟨h, hw.roots j h⟩⟩
  constructor
  · intro h
    refine of_marked_markInputs (fun j hj => .root ((hroots j).1 hj)) ?_ h
    intro i node hi hr a ha
    exact .input hr (by simpa using hi) ha
  · intro h
    induction h with
    | root hr => exact ((hroots _).2 hr).markInputs
    | @input id a node hid hnode ha ih =>
      exact marked_inputs_markInputs hw.readsEarlier (by simp [size]) hnode
        (by simpa [live] using ih) a ha

end TieredVectors.Graph
