import TieredVectors.Proofs.Graph.Folding

/-!
# Names that are looked up

A sweep looks up where the values of nodes are now. The table it asks answers for every number: a
node that has been dropped, or has not been seen yet, reads as the first node. `CarefulSweep` is the
sweep that fails where no name has been given, and the passes ending in a question mark are the
passes with its lookups.

The main results:

* `CarefulSweep.Agrees.step`, `Graph.Disposes.run?` — what a step and a run of the careful sweep
  have in common with the plain one, as long as only live nodes are looked up;
* `Graph.sweep?_eq_some` — a sweep that respects what is live never misses a name;
* `Graph.dropDead?_eq_some`, …, `Graph.shape?_eq_some` — and so do the passes.
-/

namespace TieredVectors

namespace Node

/-- The node with every input renamed, if all of them have a name. -/
def mapInputs? (name? : NodeId → Option NodeId) (n : Node) : Option Node :=
  if n.inputs.all fun a => (name? a).isSome then some (n.mapInputs fun a => (name? a).getD 0)
  else none

theorem mapInputs?_eq_some {name? : NodeId → Option NodeId} {rename : NodeId → NodeId} {n : Node}
    (h : ∀ a ∈ n.inputs, name? a = some (rename a)) :
    n.mapInputs? name? = some (n.mapInputs rename) := by
  have hall : n.inputs.all (fun a => (name? a).isSome) = true :=
    List.all_eq_true.2 fun a ha => by rw [h a ha]; rfl
  have hsame : n.mapInputs (fun a => (name? a).getD 0) = n.mapInputs rename :=
    mapInputs_congr fun a ha => by rw [h a ha, Option.getD_some]
  rw [mapInputs?, if_pos hall, hsame]

end Node

/-! ## One sweep -/

/-- The state of a sweep in which only nodes that have been kept or replaced have a name. -/
structure CarefulSweep where
  /-- The nodes kept so far. -/
  nodes : Array Node := #[]
  /-- For each node seen, where its value is now; none for a node that has been dropped. -/
  names : Array (Option NodeId) := #[]

namespace CarefulSweep

/-- Where the value of a node is now, if it has been named. -/
def name? (c : CarefulSweep) (id : NodeId) : Option NodeId := c.names.getD id none

/-- Deal with the next node, unless a name is missing. -/
def step? (c : CarefulSweep) (node : Node) : Disposition → Option CarefulSweep
  | .keep => do
    let renamed ← node.mapInputs? c.name?
    return { nodes := c.nodes.push renamed, names := c.names.push (some c.nodes.size) }
  | .redirect operand => do
    let name ← c.name? operand
    return { c with names := c.names.push (some name) }
  | .drop => return { c with names := c.names.push none }

/-- Sweep over nodes numbered from `id` on, unless a name is missing. -/
def run? (dispose : NodeId → Node → Disposition) (c : CarefulSweep) :
    NodeId → List Node → Option CarefulSweep
  | _, [] => some c
  | id, node :: rest => do
    let c ← c.step? node (dispose id node)
    run? dispose c (id + 1) rest

/-- A careful sweep stands where a plain one does: the same nodes have been kept, and the live nodes
that have been seen have their names. -/
structure Agrees (live : NodeId → Prop) (c : CarefulSweep) (s : Sweep) : Prop where
  nodes : c.nodes = s.nodes
  size : c.names.size = s.names.size
  name : ∀ id < s.names.size, live id → c.name? id = some (s.rename id)

variable {live : NodeId → Prop} {c : CarefulSweep} {s : Sweep}

/-- Entering a name keeps the sweeps in agreement, if it is the plain one's name where the node is
live. -/
theorem Agrees.push (h : c.Agrees live s) {node : Node} {d : Disposition} {nodes : Array Node}
    {entry : Option NodeId} (hnodes : nodes = (s.step node d).nodes)
    (hentry : live s.names.size → entry = some ((s.step node d).rename s.names.size)) :
    Agrees live { nodes, names := c.names.push entry } (s.step node d) where
  nodes := hnodes
  size := by rw [Array.size_push, Sweep.size_names_step, h.size]
  name := by
    intro id hid hlive
    rw [Sweep.size_names_step] at hid
    rcases Nat.lt_succ_iff_lt_or_eq.1 hid with hlt | rfl
    · have hold : c.name? id = some (s.rename id) := h.name id hlt hlive
      rw [Sweep.rename_step_of_lt _ hlt, ← hold, name?, name?, Array.getD_eq_getD_getElem?,
        Array.getD_eq_getD_getElem?, Array.getElem?_push, h.size, if_neg (Nat.ne_of_lt hlt)]
    · rw [← hentry hlive, ← h.size, name?, Array.getD_eq_getD_getElem?, Array.getElem?_push_size]
      rfl

/-- A step that looks up live nodes only misses no name. -/
theorem Agrees.step (h : c.Agrees live s) (node : Node) (d : Disposition)
    (hkeep : d = .keep → ∀ a ∈ node.inputs, a < s.names.size ∧ live a)
    (hoperand : ∀ a, d = .redirect a → a < s.names.size ∧ live a)
    (hdrop : d = .drop → ¬ live s.names.size) :
    ∃ c', c.step? node d = some c' ∧ c'.Agrees live (s.step node d) := by
  cases d with
  | keep =>
    have hnode : node.mapInputs? c.name? = some (node.mapInputs s.rename) :=
      Node.mapInputs?_eq_some fun a ha =>
        have hread := hkeep rfl a ha
        h.name a hread.1 hread.2
    refine ⟨_, by rw [step?, hnode]; rfl, h.push ?_ fun _ => ?_⟩
    · rw [h.nodes]
      rfl
    · rw [Sweep.rename_step_keep, h.nodes]
  | redirect a =>
    obtain ⟨hlt, ha⟩ := hoperand a rfl
    refine ⟨_, by rw [step?, h.name a hlt ha]; rfl, h.push h.nodes fun _ => ?_⟩
    rw [Sweep.rename_step_redirect]
  | drop => exact ⟨_, rfl, h.push h.nodes fun hlive => absurd hlive (hdrop rfl)⟩

end CarefulSweep

namespace Graph

open CarefulSweep

variable {g : Graph} {live : NodeId → Prop} {dispose : NodeId → Node → Disposition}

/-- A careful sweep over the rest of a graph goes along with the plain one. Replaced nodes have to
be live here: the operand of any other one might have been dropped. -/
theorem Disposes.run? (hd : g.Disposes live dispose) (hw : g.WellFormed)
    (hredirect : ∀ {id a : NodeId} {node : Node}, g.nodes[id]? = some node →
      dispose id node = .redirect a → live id)
    {seen rest : List Node} (hnodes : g.nodes = seen ++ rest) {c : CarefulSweep} {s : Sweep}
    (hsize : s.names.size = seen.length) (h : c.Agrees live s) :
    ∃ c', c.run? dispose seen.length rest = some c' ∧
      c'.Agrees live (Sweep.run dispose s seen.length rest) := by
  -- on the nodes to come; what a live node reads has been seen and is live
  induction rest generalizing seen c s with
  | nil => exact ⟨c, rfl, h⟩
  | cons n rest ih =>
    have hn : g.nodes[seen.length]? = some n := by simp [hnodes]
    have hreads : live seen.length → ∀ a ∈ n.inputs, a < s.names.size ∧ live a := by
      intro hlive a ha
      rw [hsize]
      exact ⟨hw.inputs _ _ hn a ha, hd.closed hn hlive a ha⟩
    obtain ⟨c₁, hstep, h₁⟩ := h.step n (dispose seen.length n)
      (fun hk => hreads (hd.live_of_keep hn hk))
      (fun a hr => hreads (hredirect hn hr) a (Node.mem_inputs_of_operand? (hd.operand hn hr)))
      (fun hdrop hlive => hd.not_drop hn (hsize ▸ hlive) hdrop)
    have hrest := ih (show g.nodes = (seen ++ [n]) ++ rest by simp [hnodes])
      (by simp [hsize]) h₁
    rw [List.length_append, List.length_singleton] at hrest
    rw [CarefulSweep.run?, hstep]
    exact hrest

/-! ## The passes -/

/-- The graph after a sweep, unless a name is missing. -/
def sweep? (g : Graph) (dispose : NodeId → Node → Disposition) : Option Graph := do
  let c ← CarefulSweep.run? dispose {} 0 g.nodes
  let outputs ← g.outputs.mapM c.name?
  let anchors ← g.anchors.mapM c.name?
  return { nodes := c.nodes.toList, outputs, anchors }

/-- A sweep that respects what is live, among it the roots, misses no name. -/
theorem sweep?_eq_some (hw : g.WellFormed) (hd : g.Disposes live dispose)
    (hredirect : ∀ {id a : NodeId} {node : Node}, g.nodes[id]? = some node →
      dispose id node = .redirect a → live id)
    (hroots : ∀ id ∈ g.roots, live id) : g.sweep? dispose = some (g.sweep dispose) := by
  have hstart : ({} : CarefulSweep).Agrees live {} :=
    ⟨rfl, rfl, fun id hid => absurd hid (Nat.not_lt_zero id)⟩
  obtain ⟨c, hrun, h⟩ := hd.run? hw hredirect (show g.nodes = [] ++ g.nodes from rfl) rfl hstart
  have hnames : ∀ ids ⊆ g.roots, ids.mapM c.name? = some (ids.map (g.swept dispose).rename) := by
    intro ids hids
    rw [mapM_eq_some_iff, List.map_map]
    refine List.map_congr_left fun id hid => h.name id ?_ (hroots id (hids hid))
    rw [Sweep.size_names_run]
    exact Nat.lt_of_lt_of_le (hw.roots id (hids hid)) (Nat.le_add_left _ _)
  rw [List.length_nil] at hrun h
  rw [sweep?, hrun, Option.bind_eq_bind, Option.bind_some,
    hnames _ (List.subset_append_left _ _), Option.bind_eq_bind, Option.bind_some,
    hnames _ (List.subset_append_right _ _), h.nodes]
  rfl

/-- Drop the nodes that no output and no anchor needs, unless a name is missing. -/
def dropDead? (g : Graph) : Option Graph :=
  let live := g.live
  g.sweep? fun id _ => if live.getD id false then .keep else .drop

/-- No longer keep frame states, nor what only they needed, unless a name is missing. -/
def dropFrameStates? (g : Graph) : Option Graph :=
  dropDead? { g with anchors := g.anchors.filter fun a => !(g.nodes[a]?.any Node.isFrameState) }

/-- Replace every type guard by the value that it guards, unless a name is missing. -/
def dropTypeGuards? (g : Graph) : Option Graph :=
  g.sweep? fun _ node =>
    match node with
    | .typeGuard operand _ => .redirect operand
    | _ => .keep

/-- Replace every boxed or unboxed value by the value itself, unless a name is missing. -/
def dropBoxes? (g : Graph) : Option Graph :=
  g.sweep? fun _ node =>
    match node with
    | .box operand | .unbox operand => .redirect operand
    | _ => .keep

/-- Make a graph ready to be compiled, unless a name is missing on the way. -/
def shape? (g : Graph) : Option Graph := do
  let g ← g.dropFrameStates?
  let g ← g.dropTypeGuards?
  let g ← g.dropBoxes?
  g.dropDead?

theorem dropDead?_eq_some (hw : g.WellFormed) : g.dropDead? = some g.dropDead := by
  refine sweep?_eq_some hw (disposes_live hw) (fun _ hr => ?_) fun _ => .root
  split at hr <;> cases hr

theorem dropFrameStates?_eq_some (hw : g.WellFormed) :
    g.dropFrameStates? = some g.dropFrameStates :=
  dropDead?_eq_some hw.withoutFrameAnchors

theorem dropTypeGuards?_eq_some (hw : g.WellFormed) : g.dropTypeGuards? = some g.dropTypeGuards :=
  sweep?_eq_some hw disposes_typeGuards (fun _ _ => trivial) fun _ _ => trivial

theorem dropBoxes?_eq_some (hw : g.WellFormed) : g.dropBoxes? = some g.dropBoxes :=
  sweep?_eq_some hw disposes_boxes (fun _ _ => trivial) fun _ _ => trivial

/-- Shaping misses no name. -/
theorem shape?_eq_some (hw : g.WellFormed) : g.shape? = some g.shape := by
  have hw₁ := hw.dropFrameStates
  have hw₂ := hw₁.dropTypeGuards
  have hw₃ := hw₂.dropBoxes
  simp only [shape?, dropFrameStates?_eq_some hw, dropTypeGuards?_eq_some hw₁,
    dropBoxes?_eq_some hw₂, dropDead?_eq_some hw₃, Option.bind_eq_bind, Option.bind_some]
  rfl

end Graph

end TieredVectors
