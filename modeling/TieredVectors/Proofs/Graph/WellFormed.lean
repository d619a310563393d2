import TieredVectors.Graph.Shaping
import TieredVectors.Proofs.Except

/-!
# Well-formed graphs

What a graph that has been built is known to satisfy, and which of its nodes are needed.

The module introduces:

* `Node.operand?` — the operand of a node that only passes the operand's value on: a box, an unbox
  or a type guard.
* `Graph.Reaches g roots id` — `id` is one of `roots` or is read, directly or not, by one of them.
* `Graph.Needed g id` — `id` is reached from an output or from a node that gives elements up.

* `Graph.Anchored g` — every node that gives elements up is an anchor, and an anchor is such a node
  or a frame state.

`Graph.validate` accepts exactly the well-formed graphs (`validate_eq_ok_iff`), a graph that has
been built is anchored (`anchored_of_build`), and the needed nodes of such a graph are those reached
from the roots once frame states are no longer anchors (`needed_iff_reaches`).
-/

namespace TieredVectors

namespace Node

/-- The operand of a node that only passes the operand's value on. -/
def operand? : Node → Option NodeId
  | .box a | .unbox a | .typeGuard a _ => some a
  | _ => none

/-- A node that passes its operand on reads nothing else. -/
theorem inputs_of_operand? {n : Node} {a : NodeId} (h : n.operand? = some a) : n.inputs = [a] := by
  cases n <;> simp_all [operand?, inputs]

/-- The operand is one of the inputs. -/
theorem mem_inputs_of_operand? {n : Node} {a : NodeId} (h : n.operand? = some a) :
    a ∈ n.inputs := by
  rw [inputs_of_operand? h]
  exact List.mem_singleton_self a

/-- Renaming the inputs renames the operand. -/
@[simp]
theorem operand?_mapInputs (rename : NodeId → NodeId) (n : Node) :
    (n.mapInputs rename).operand? = n.operand?.map rename := by
  cases n <;> rfl

/-- Renaming twice is renaming once by the composition. -/
@[simp]
theorem mapInputs_mapInputs (f g : NodeId → NodeId) (n : Node) :
    (n.mapInputs f).mapInputs g = n.mapInputs (g ∘ f) := by
  cases n <;> simp [mapInputs]

/-- The renamed node depends only on the names of the inputs. -/
theorem mapInputs_congr {f g : NodeId → NodeId} {n : Node} (h : ∀ a ∈ n.inputs, f a = g a) :
    n.mapInputs f = n.mapInputs g := by
  cases n <;> simp_all [mapInputs, inputs]

end Node

namespace Graph

variable {g : Graph}

/-! ## Validation -/

/-- Each of the nodes numbered from `first` on reads earlier nodes only. -/
def ReadsEarlier (first : NodeId) (nodes : List Node) : Prop :=
  ∀ i node, nodes[i]? = some node → ∀ a ∈ node.inputs, a < first + i

theorem readsEarlier_cons {first : NodeId} {n : Node} {rest : List Node} :
    ReadsEarlier first (n :: rest) ↔
      (∀ a ∈ n.inputs, a < first) ∧ ReadsEarlier (first + 1) rest := by
  constructor
  · intro h
    refine ⟨fun a ha => h 0 n rfl a ha, fun i node hi a ha => ?_⟩
    have := h (i + 1) node (by simpa using hi) a ha
    lia
  · rintro ⟨hn, hrest⟩ i node hi a ha
    cases i with
    | zero =>
      obtain rfl : n = node := by simpa using hi
      exact hn a ha
    | succ i =>
      have := hrest i node (by simpa using hi) a ha
      lia

/-- The nodes of a well-formed graph read earlier nodes only. -/
theorem WellFormed.readsEarlier (h : g.WellFormed) : ReadsEarlier 0 g.nodes := by
  intro id node hid a ha
  rw [Nat.zero_add]
  exact h.inputs id node hid a ha

/-- Nodes numbered from `first` on pass the check iff each of them reads earlier nodes only. -/
theorem checkNodes_eq_ok_iff {first : NodeId} {nodes : List Node} :
    checkNodes first nodes = .ok () ↔ ReadsEarlier first nodes := by
  induction nodes generalizing first with
  | nil => simp [checkNodes, ReadsEarlier]
  | cons n rest ih =>
    rw [readsEarlier_cons]
    unfold checkNodes
    split
    next a ha =>
      -- the reference found is not an earlier one
      have hmem := List.mem_of_find?_eq_some ha
      have hle : first ≤ a := by simpa using List.find?_some ha
      exact iff_of_false (by simp) fun h => Nat.not_lt.2 hle (h.1 a hmem)
    next hnone =>
      have hn : ∀ a ∈ n.inputs, a < first := by simpa using List.find?_eq_none.1 hnone
      rw [ih]
      exact ⟨fun h => ⟨hn, h⟩, And.right⟩

/-- A graph is accepted iff it is well formed. -/
theorem validate_eq_ok_iff : g.validate = .ok () ↔ g.WellFormed := by
  unfold validate
  rw [bind_eq_ok]
  constructor
  · rintro ⟨⟨⟩, hnodes, hroots⟩
    refine ⟨fun id node hid a ha => ?_, fun id hid => ?_⟩
    · simpa using checkNodes_eq_ok_iff.1 hnodes id node hid a ha
    · split at hroots
      next => exact absurd hroots throw_ne_ok
      next hnone => simpa using List.find?_eq_none.1 hnone id hid
  · intro h
    have hroots : g.roots.find? (g.size ≤ ·) = none := by
      rw [List.find?_eq_none]
      intro id hid
      simpa using h.roots id hid
    refine ⟨(), checkNodes_eq_ok_iff.2 h.readsEarlier, ?_⟩
    rw [hroots]
    rfl

/-- A graph that has been built consists of the given nodes and outputs and is well formed. -/
theorem build_eq_ok_iff {nodes : List Node} {outputs : List NodeId} :
    build nodes outputs = .ok g ↔
      g = { nodes, outputs, anchors := anchorsFrom 0 nodes } ∧ g.WellFormed := by
  unfold build
  constructor
  · intro h
    obtain ⟨⟨⟩, hvalid, hg⟩ := bind_eq_ok.1 h
    obtain rfl := pure_eq_ok.1 hg
    exact ⟨rfl, validate_eq_ok_iff.1 hvalid⟩
  · rintro ⟨rfl, hw⟩
    exact bind_eq_ok.2 ⟨(), validate_eq_ok_iff.2 hw, rfl⟩

/-- The anchors among nodes numbered from `first` on. -/
theorem mem_anchorsFrom {first id : NodeId} {nodes : List Node} :
    id ∈ anchorsFrom first nodes ↔
      ∃ i node, id = first + i ∧ nodes[i]? = some node ∧ node.isAnchor := by
  induction nodes generalizing first with
  | nil => simp [anchorsFrom]
  | cons n rest ih =>
    have hcons : id ∈ anchorsFrom first (n :: rest) ↔
        (n.isAnchor ∧ id = first) ∨ id ∈ anchorsFrom (first + 1) rest := by
      by_cases hn : n.isAnchor <;> simp [anchorsFrom, hn]
    rw [hcons, ih]
    constructor
    · rintro (⟨hn, rfl⟩ | ⟨i, node, rfl, hi, hnode⟩)
      · exact ⟨0, n, rfl, rfl, hn⟩
      · exact ⟨i + 1, node, by lia, by simpa using hi, hnode⟩
    · rintro ⟨i, node, rfl, hi, hnode⟩
      cases i with
      | zero =>
        obtain rfl : n = node := by simpa using hi
        exact Or.inl ⟨hnode, rfl⟩
      | succ i => exact Or.inr ⟨i, node, by lia, by simpa using hi, hnode⟩

/-- The anchors of a graph that has been built are its frame states and the nodes that give
elements up. -/
theorem mem_anchors_of_build {nodes : List Node} {outputs : List NodeId}
    (h : build nodes outputs = .ok g) {id : NodeId} :
    id ∈ g.anchors ↔ ∃ node, g.nodes[id]? = some node ∧ node.isAnchor := by
  obtain ⟨rfl, -⟩ := build_eq_ok_iff.1 h
  rw [mem_anchorsFrom]
  constructor
  · rintro ⟨i, node, rfl, hi, hnode⟩
    exact ⟨node, by simpa using hi, hnode⟩
  · rintro ⟨node, hi, hnode⟩
    exact ⟨id, node, by lia, hi, hnode⟩

/-- The graph is well formed, every node that gives elements up is an anchor, and every anchor is
such a node or a frame state. -/
structure Anchored (g : Graph) : Prop where
  wellFormed : g.WellFormed
  isAnchor : ∀ id ∈ g.anchors, ∃ node, g.nodes[id]? = some node ∧ node.isAnchor
  deopt : ∀ {id c : NodeId}, g.nodes[id]? = some (.deoptIf c) → id ∈ g.anchors

theorem anchored_of_build {nodes : List Node} {outputs : List NodeId}
    (h : build nodes outputs = .ok g) : g.Anchored :=
  ⟨(build_eq_ok_iff.1 h).2, fun _ => (mem_anchors_of_build h).1,
    fun hid => (mem_anchors_of_build h).2 ⟨_, hid, rfl⟩⟩

/-! ## Needed nodes -/

/-- `id` is one of `roots`, or a node reached from them reads it. -/
inductive Reaches (g : Graph) (roots : List NodeId) : NodeId → Prop
  | root {id : NodeId} : id ∈ roots → Reaches g roots id
  | input {id a : NodeId} {node : Node} :
      Reaches g roots id → g.nodes[id]? = some node → a ∈ node.inputs → Reaches g roots a

/-- `id` is reached from an output or from a node that gives elements up. -/
inductive Needed (g : Graph) : NodeId → Prop
  | output {id : NodeId} : id ∈ g.outputs → Needed g id
  | deopt {id c : NodeId} : g.nodes[id]? = some (.deoptIf c) → Needed g id
  | input {id a : NodeId} {node : Node} :
      Needed g id → g.nodes[id]? = some node → a ∈ node.inputs → Needed g a

/-- The graph with frame states no longer among its anchors. -/
def withoutFrameAnchors (g : Graph) : Graph :=
  { g with anchors := g.anchors.filter fun a => !(g.nodes[a]?.any Node.isFrameState) }

/-- Forgetting anchors keeps a graph well formed. -/
theorem WellFormed.withoutFrameAnchors (h : g.WellFormed) : g.withoutFrameAnchors.WellFormed := by
  refine ⟨h.inputs, fun id hid => h.roots id ?_⟩
  rcases List.mem_append.1 hid with hid | hid
  · exact List.mem_append_left _ hid
  · exact List.mem_append_right _ (List.mem_filter.1 hid).1

/-- Once frame states are no longer anchors, the anchors are the nodes that give elements up. -/
theorem mem_anchors_withoutFrameAnchors (h : g.Anchored) {id : NodeId} :
    id ∈ g.withoutFrameAnchors.anchors ↔ ∃ c, g.nodes[id]? = some (.deoptIf c) := by
  have hmem : id ∈ g.withoutFrameAnchors.anchors ↔
      id ∈ g.anchors ∧ !(g.nodes[id]?.any Node.isFrameState) := List.mem_filter
  rw [hmem]
  constructor
  · rintro ⟨hid, hframe⟩
    obtain ⟨node, hid, hanchor⟩ := h.isAnchor id hid
    -- of the two sorts of anchors one has been taken out
    cases node <;> simp_all [Node.isAnchor, Node.isFrameState]
  · rintro ⟨c, hid⟩
    exact ⟨h.deopt hid, by simp [hid, Node.isFrameState]⟩

/-- The needed nodes are those reached from the roots once frame states are no longer anchors. -/
theorem needed_iff_reaches (h : g.Anchored) {id : NodeId} :
    g.Needed id ↔ g.withoutFrameAnchors.Reaches g.withoutFrameAnchors.roots id := by
  constructor
  · intro hid
    induction hid with
    | output ho => exact .root (List.mem_append_left _ ho)
    | deopt hd =>
      exact .root (List.mem_append_right _ ((mem_anchors_withoutFrameAnchors h).2 ⟨_, hd⟩))
    | input _ hnode ha ih => exact .input ih hnode ha
  · intro hid
    induction hid with
    | root hr =>
      rcases List.mem_append.1 hr with ho | ha
      · exact .output ho
      · obtain ⟨c, hc⟩ := (mem_anchors_withoutFrameAnchors h).1 ha
        exact .deopt hc
    | input _ hnode ha ih => exact .input ih hnode ha

/-- Every node reached from the roots of a well-formed graph is one of its nodes. -/
theorem WellFormed.lt_size_of_reaches (h : g.WellFormed) {id : NodeId}
    (hid : g.Reaches g.roots id) : id < g.size := by
  induction hid with
  | root hr => exact h.roots _ hr
  | input _ hnode ha ih => exact Nat.lt_trans (h.inputs _ _ hnode _ ha) ih

/-- Every needed node of a graph that has been built is one of its nodes. -/
theorem lt_size_of_needed {nodes : List Node} {outputs : List NodeId}
    (h : build nodes outputs = .ok g) {id : NodeId} (hid : g.Needed id) : id < g.size :=
  (build_eq_ok_iff.1 h).2.withoutFrameAnchors.lt_size_of_reaches
    ((needed_iff_reaches (anchored_of_build h)).1 hid)

end Graph

end TieredVectors
