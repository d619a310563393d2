import Mathlib.Data.List.Sort
import TieredVectors.Proofs.Graph.Folding

/-!
# Renumbering

A sweep puts the nodes that it keeps one behind the other, so the new number of a kept node is its
position among them.

The module introduces:

* `Graph.numbers p first nodes` — the numbers of the nodes that satisfy `p`, in increasing order;
* `Graph.kept g dispose` — the numbers of the nodes that a sweep keeps;
* `Graph.deopts g` — the numbers of the nodes that give elements up.

The main results:

* `rename_swept_eq_idxOf`, `nodes_sweep_eq_kept` — the swept graph is the list of the kept nodes,
  each numbered by its position in that list;
* `sweep_eq_self` — a sweep that keeps every node changes nothing;
* `dropDead_eq_self`, `shape_eq_self` — dropping dead nodes changes nothing if all nodes are
  reached, and neither does shaping if moreover no frame state is an anchor and no node only passes
  its operand on;
* `anchors_shape_eq_deopts` — the anchors of a shaped graph are its nodes that give elements up.

`dropDead_exact_and_shape_final` says what dropping dead nodes does, and that it and shaping have
done all they can when they have run once.
-/

namespace TieredVectors

/-- Renaming nothing. -/
theorem Node.mapInputs_id (n : Node) : n.mapInputs (fun a => a) = n := by
  cases n <;> simp [mapInputs]

namespace Graph

/-! ## Numbers of nodes -/

/-- The numbers of the nodes that satisfy `p`, among nodes numbered from `first` on. -/
def numbers (p : NodeId → Node → Bool) : NodeId → List Node → List NodeId
  | _, [] => []
  | first, node :: rest =>
    if p first node then first :: numbers p (first + 1) rest else numbers p (first + 1) rest

variable {p : NodeId → Node → Bool} {first id : NodeId} {nodes : List Node}

theorem mem_numbers :
    id ∈ numbers p first nodes ↔ ∃ i node, id = first + i ∧ nodes[i]? = some node ∧ p id node := by
  induction nodes generalizing first with
  | nil => simp [numbers]
  | cons n rest ih =>
    have hcons : id ∈ numbers p first (n :: rest) ↔
        (p first n ∧ id = first) ∨ id ∈ numbers p (first + 1) rest := by
      by_cases hn : p first n <;> simp [numbers, hn]
    rw [hcons, ih]
    constructor
    · rintro (⟨hn, rfl⟩ | ⟨i, node, rfl, hi, hnode⟩)
      · exact ⟨0, n, rfl, rfl, hn⟩
      · exact ⟨i + 1, node, by lia, by simpa using hi, hnode⟩
    · rintro ⟨i, node, rfl, hi, hnode⟩
      cases i with
      | zero =>
        obtain rfl : n = node := by simpa using hi
        exact Or.inl ⟨hnode, rfl⟩
      | succ i => exact Or.inr ⟨i, node, by lia, by simpa using hi, hnode⟩

/-- The numbers of nodes are in increasing order. -/
theorem pairwise_numbers (p : NodeId → Node → Bool) (first : NodeId) (nodes : List Node) :
    (numbers p first nodes).Pairwise (· < ·) := by
  induction nodes generalizing first with
  | nil => exact List.Pairwise.nil
  | cons n rest ih =>
    rw [numbers]
    split
    · refine List.Pairwise.cons (fun id hid => ?_) (ih (first + 1))
      obtain ⟨i, -, rfl, -⟩ := mem_numbers.1 hid
      lia
    · exact ih (first + 1)

/-- The anchors of a graph that is built are the numbers of the nodes that stay in any case. -/
theorem anchorsFrom_eq_numbers (first : NodeId) (nodes : List Node) :
    anchorsFrom first nodes = numbers (fun _ node => node.isAnchor) first nodes := by
  induction nodes generalizing first with
  | nil => rfl
  | cons n rest ih => rw [anchorsFrom, numbers, ih]

end Graph

/-! ## The names that a sweep gives -/

namespace Sweep

open TieredVectors.Graph

variable {s : Sweep} {first id : NodeId} {nodes : List Node}
  {dispose : NodeId → Node → Disposition}

/-- A kept node is named by how many were kept before it. -/
theorem rename_run_of_numbers (hfirst : s.names.size = first) {j : Nat}
    (hj : (numbers (fun id node => dispose id node = .keep) first nodes)[j]? = some id) :
    (run dispose s first nodes).rename id = s.nodes.size + j := by
  -- on the nodes to come: a kept one takes the next number, any other leaves it for the next
  induction nodes generalizing s first j with
  | nil => simp [numbers] at hj
  | cons n rest ih =>
    have hsize : (s.step n (dispose first n)).names.size = first + 1 := by simp [hfirst]
    rw [numbers] at hj
    rw [run]
    split at hj
    next hk =>
      replace hk : dispose first n = .keep := by simpa using hk
      cases j with
      | zero =>
        obtain rfl : first = id := by simpa using hj
        rw [rename_run_of_lt (by lia), hk, ← hfirst, rename_step_keep, Nat.add_zero]
      | succ j =>
        rw [ih hsize (by simpa using hj), hk]
        simp only [step, Array.size_push]
        lia
    next hk =>
      replace hk : dispose first n ≠ .keep := by simpa using hk
      rw [ih hsize hj]
      cases hd : dispose first n with
      | keep => exact absurd hd hk
      | redirect _ | drop => rfl

/-- As many nodes stand in the end as have been kept. -/
theorem size_nodes_run (dispose : NodeId → Node → Disposition) (s : Sweep) (first : NodeId)
    (nodes : List Node) :
    (run dispose s first nodes).nodes.size =
      s.nodes.size + (numbers (fun id node => dispose id node = .keep) first nodes).length := by
  induction nodes generalizing s first with
  | nil => rfl
  | cons n rest ih =>
    rw [run, ih, numbers]
    cases hd : dispose first n with
    | keep =>
      simp only [step, Array.size_push, decide_true, if_true, List.length_cons]
      lia
    | redirect _ | drop => simp [step]

end Sweep

namespace Graph

variable {g : Graph} {dispose : NodeId → Node → Disposition} {id : NodeId}

/-- The numbers of the nodes that a sweep keeps, in increasing order. -/
def kept (g : Graph) (dispose : NodeId → Node → Disposition) : List NodeId :=
  numbers (fun id node => dispose id node = .keep) 0 g.nodes

theorem mem_kept :
    id ∈ g.kept dispose ↔ ∃ node, g.nodes[id]? = some node ∧ dispose id node = .keep := by
  rw [kept, mem_numbers]
  constructor
  · rintro ⟨i, node, rfl, hi, hk⟩
    rw [Nat.zero_add] at hk ⊢
    exact ⟨node, hi, by simpa using hk⟩
  · rintro ⟨node, hid, hk⟩
    exact ⟨id, node, (Nat.zero_add id).symm, hid, by simpa using hk⟩

/-- The new number of a kept node is its position among the kept nodes. -/
theorem rename_swept_of_kept {j : Nat} (hj : (g.kept dispose)[j]? = some id) :
    (g.swept dispose).rename id = j := by
  have hname := Sweep.rename_run_of_numbers (show ({} : Sweep).names.size = 0 from rfl) hj
  rw [swept, hname]
  exact Nat.zero_add j

theorem rename_swept_eq_idxOf (h : id ∈ g.kept dispose) :
    (g.swept dispose).rename id = (g.kept dispose).idxOf id :=
  rename_swept_of_kept (List.getElem?_idxOf h)

/-- Kept nodes stay in their order. -/
theorem rename_swept_lt {a b : NodeId} (ha : a ∈ g.kept dispose) (hb : b ∈ g.kept dispose)
    (hlt : a < b) : (g.swept dispose).rename a < (g.swept dispose).rename b := by
  obtain ⟨i, hi, rfl⟩ := List.getElem_of_mem ha
  obtain ⟨j, hj, rfl⟩ := List.getElem_of_mem hb
  rw [rename_swept_of_kept (List.getElem?_eq_getElem hi),
    rename_swept_of_kept (List.getElem?_eq_getElem hj)]
  by_contra hle
  rcases Nat.lt_or_eq_of_le (Nat.not_lt.1 hle) with hji | rfl
  · have hback := List.pairwise_iff_getElem.1 (pairwise_numbers _ _ _) j i hj hi hji
    exact Nat.lt_asymm hlt hback
  · exact Nat.lt_irrefl _ hlt

theorem length_sweep (g : Graph) (dispose : NodeId → Node → Disposition) :
    (g.sweep dispose).nodes.length = (g.kept dispose).length := by
  have hsize := Sweep.size_nodes_run dispose {} 0 g.nodes
  rw [nodes_sweep, Array.length_toList, swept, hsize]
  exact Nat.zero_add _

/-- The swept graph consists of the kept nodes in their order, with their inputs renamed. -/
theorem nodes_sweep_eq_kept (hw : g.WellFormed) (dispose : NodeId → Node → Disposition) :
    (g.sweep dispose).nodes.map some =
      (g.kept dispose).map fun id => g.nodes[id]?.map (·.mapInputs (g.swept dispose).rename) := by
  refine List.ext_getElem? fun j => ?_
  rw [List.getElem?_map, List.getElem?_map]
  cases hj : (g.kept dispose)[j]? with
  | none =>
    have hle := List.getElem?_eq_none_iff.1 hj
    rw [← length_sweep] at hle
    rw [List.getElem?_eq_none hle]
    rfl
  | some id =>
    -- the node of that number is the one that is kept at that position
    obtain ⟨node, hid, hk⟩ := mem_kept.1 (List.mem_of_getElem? hj)
    have hnode := getElem?_sweep_of_keep hw hid hk
    rw [rename_swept_of_kept hj] at hnode
    rw [hnode, Option.map_some, Option.map_some, hid, Option.map_some]

/-! ## Sweeps that change nothing -/

/-- A sweep that keeps every node changes nothing. -/
theorem sweep_eq_self (hw : g.WellFormed)
    (hkeep : ∀ id node, g.nodes[id]? = some node → dispose id node = .keep) :
    g.sweep dispose = g := by
  have hkept : g.kept dispose = List.range g.size := by
    refine (pairwise_numbers _ _ _).eq_of_mem_iff List.pairwise_lt_range fun id => ?_
    rw [List.mem_range]
    constructor
    · intro h
      obtain ⟨node, hid, -⟩ := mem_kept.1 h
      exact (List.getElem?_eq_some_iff.1 hid).1
    · intro hlt
      have hid : g.nodes[id]? = some _ := List.getElem?_eq_getElem hlt
      exact mem_kept.2 ⟨_, hid, hkeep id _ hid⟩
  -- so each node has the number it had
  have hname : ∀ id < g.size, (g.swept dispose).rename id = id := fun id hlt =>
    rename_swept_of_kept (by rw [hkept, List.getElem?_range hlt])
  have hnodes : (g.sweep dispose).nodes = g.nodes := by
    refine List.ext_getElem? fun id => ?_
    by_cases hlt : id < g.size
    · have hid : g.nodes[id]? = some _ := List.getElem?_eq_getElem hlt
      have hnode := getElem?_sweep_of_keep hw hid (hkeep id _ hid)
      rw [hname id hlt, Node.mapInputs_congr fun a ha =>
        hname a (Nat.lt_trans (hw.inputs id _ hid a ha) hlt), Node.mapInputs_id] at hnode
      rw [hnode, hid]
    · have hle := Nat.not_lt.1 hlt
      rw [List.getElem?_eq_none hle, List.getElem?_eq_none]
      rwa [length_sweep, hkept, List.length_range]
  have hroots : ∀ ids ⊆ g.roots, ids.map (g.swept dispose).rename = ids := fun ids hids =>
    (List.map_congr_left fun id hid => hname id (hw.roots id (hids hid))).trans (List.map_id ids)
  calc g.sweep dispose
      = { nodes := (g.sweep dispose).nodes
          outputs := g.outputs.map (g.swept dispose).rename
          anchors := g.anchors.map (g.swept dispose).rename } := rfl
    _ = { nodes := g.nodes, outputs := g.outputs, anchors := g.anchors } := by
        rw [hnodes, hroots _ (List.subset_append_left _ _), hroots _ (List.subset_append_right _ _)]

/-- Where all nodes are reached from the roots there is nothing to drop. -/
theorem dropDead_eq_self (hw : g.WellFormed) (hreach : ∀ id < g.size, g.Reaches g.roots id) :
    g.dropDead = g := by
  refine sweep_eq_self hw fun id node hid => ?_
  have hlive : g.live.getD id false = true :=
    (marked_live_iff hw).2 (hreach id (List.getElem?_eq_some_iff.1 hid).1)
  exact if_pos hlive

/-- Once dead nodes have been dropped, all nodes are reached from the roots. -/
theorem reaches_dropDead (hw : g.WellFormed) :
    ∀ id < g.dropDead.size, g.dropDead.Reaches g.dropDead.roots id := by
  intro j hj
  obtain ⟨rename, hfolds⟩ := dropDead_folds hw
  have hnode : g.dropDead.nodes[j]? = some _ := List.getElem?_eq_getElem hj
  obtain ⟨id, node, -, hreach, rfl, -⟩ := hfolds.onto hnode
  rw [hfolds.roots]
  exact hfolds.reaches (fun _ h => h) hreach

/-- Dropping type guards changes nothing where there are none. -/
theorem dropTypeGuards_eq_self (hw : g.WellFormed) (h : ∀ node ∈ g.nodes, node.operand? = none) :
    g.dropTypeGuards = g := by
  refine sweep_eq_self hw fun id node hid => ?_
  have hnode := h node (List.mem_of_getElem? hid)
  cases node with
  | typeGuard _ _ => cases hnode
  | _ => rfl

/-- Dropping boxes changes nothing where there are none. -/
theorem dropBoxes_eq_self (hw : g.WellFormed) (h : ∀ node ∈ g.nodes, node.operand? = none) :
    g.dropBoxes = g := by
  refine sweep_eq_self hw fun id node hid => ?_
  have hnode := h node (List.mem_of_getElem? hid)
  cases node with
  | box _ | unbox _ => cases hnode
  | _ => rfl

/-- Shaping changes nothing where all nodes are reached, no frame state is an anchor and no node
only passes its operand on. -/
theorem shape_eq_self (hw : g.WellFormed) (hreach : ∀ id < g.size, g.Reaches g.roots id)
    (hanchors : ∀ id ∈ g.anchors, g.nodes[id]?.any Node.isFrameState = false)
    (h : ∀ node ∈ g.nodes, node.operand? = none) : g.shape = g := by
  have hstates : g.dropFrameStates = g := by
    have hall : g.withoutFrameAnchors = g := by
      have hfilter : g.anchors.filter (fun a => !(g.nodes[a]?.any Node.isFrameState)) = g.anchors :=
        List.filter_eq_self.2 fun id hid => by rw [hanchors id hid]; rfl
      rw [withoutFrameAnchors, hfilter]
    show g.withoutFrameAnchors.dropDead = g
    rw [hall, dropDead_eq_self hw hreach]
  rw [shape, hstates, dropTypeGuards_eq_self hw h, dropBoxes_eq_self hw h,
    dropDead_eq_self hw hreach]

/-! ## Nodes that give elements up -/

/-- The nodes that give elements up, in definition order. -/
def deopts (g : Graph) : List NodeId :=
  numbers (fun _ node => node.isAnchor && !node.isFrameState) 0 g.nodes

theorem mem_deopts : id ∈ g.deopts ↔ ∃ c, g.nodes[id]? = some (.deoptIf c) := by
  rw [deopts, mem_numbers]
  constructor
  · rintro ⟨i, node, rfl, hi, hnode⟩
    rw [Nat.zero_add]
    cases node with
    | deoptIf c => exact ⟨c, hi⟩
    | _ => cases hnode
  · rintro ⟨c, hid⟩
    exact ⟨id, .deoptIf c, (Nat.zero_add id).symm, hid, rfl⟩

/-- Once frame states are no longer anchors, the anchors of a graph that has been built are the
nodes that give elements up. -/
theorem anchors_withoutFrameAnchors_of_build {nodes : List Node} {outputs : List NodeId}
    (h : build nodes outputs = .ok g) : g.withoutFrameAnchors.anchors = g.deopts := by
  have hsorted : g.anchors.Pairwise (· < ·) := by
    obtain ⟨rfl, -⟩ := build_eq_ok_iff.1 h
    show (anchorsFrom 0 nodes).Pairwise (· < ·)
    rw [anchorsFrom_eq_numbers]
    exact pairwise_numbers _ _ _
  refine (hsorted.filter _).eq_of_mem_iff (pairwise_numbers _ _ _) fun id => ?_
  rw [mem_deopts]
  exact mem_anchors_withoutFrameAnchors (anchored_of_build h)

/-- A sweep that keeps the nodes that give elements up leaves them the anchors, in their order. -/
theorem anchors_sweep_eq_deopts (hw : g.WellFormed) (h : g.anchors = g.deopts)
    (hkeep : ∀ id c, g.nodes[id]? = some (.deoptIf c) → dispose id (.deoptIf c) = .keep) :
    (g.sweep dispose).anchors = (g.sweep dispose).deopts := by
  have hkept : ∀ id ∈ g.anchors, id ∈ g.kept dispose := by
    intro id hid
    rw [h] at hid
    obtain ⟨c, hc⟩ := mem_deopts.1 hid
    exact mem_kept.2 ⟨_, hc, hkeep id c hc⟩
  have hsorted : (g.anchors.map (g.swept dispose).rename).Pairwise (· < ·) := by
    have hanchors : g.anchors.Pairwise (· < ·) := h ▸ pairwise_numbers _ _ _
    exact List.pairwise_map.2 (hanchors.imp_of_mem fun ha hb hlt =>
      rename_swept_lt (hkept _ ha) (hkept _ hb) hlt)
  refine hsorted.eq_of_mem_iff (pairwise_numbers _ _ _) fun j => ?_
  rw [mem_deopts, List.mem_map]
  constructor
  · rintro ⟨id, hid, rfl⟩
    rw [h] at hid
    obtain ⟨c, hc⟩ := mem_deopts.1 hid
    exact ⟨_, getElem?_sweep_of_keep hw hc (hkeep id c hc)⟩
  · rintro ⟨c', hj⟩
    obtain ⟨id, node, hid, -, hname, hnode⟩ := exists_keep_of_getElem?_sweep hw hj
    refine ⟨id, ?_, hname⟩
    rw [h, mem_deopts]
    cases node with
    | deoptIf c => exact ⟨c, hid⟩
    | _ => cases hnode

theorem anchors_dropDead_eq_deopts (hw : g.WellFormed) (h : g.anchors = g.deopts) :
    g.dropDead.anchors = g.dropDead.deopts := by
  refine anchors_sweep_eq_deopts hw h fun id c hid => if_pos ?_
  -- an anchor is a root, so it is live
  exact (marked_live_iff hw).2 (.root (List.mem_append_right _ (h ▸ mem_deopts.2 ⟨c, hid⟩)))

/-- The anchors of a shaped graph are its nodes that give elements up. -/
theorem anchors_shape_eq_deopts {nodes : List Node} {outputs : List NodeId}
    (h : build nodes outputs = .ok g) : g.shape.anchors = g.shape.deopts := by
  have hw := (build_eq_ok_iff.1 h).2
  have hw₁ := hw.dropFrameStates
  have hw₂ := hw₁.dropTypeGuards
  have h₁ : g.dropFrameStates.anchors = g.dropFrameStates.deopts :=
    anchors_dropDead_eq_deopts hw.withoutFrameAnchors (anchors_withoutFrameAnchors_of_build h)
  have h₂ : g.dropFrameStates.dropTypeGuards.anchors = g.dropFrameStates.dropTypeGuards.deopts :=
    anchors_sweep_eq_deopts hw₁ h₁ fun _ _ _ => rfl
  exact anchors_dropDead_eq_deopts hw₂.dropBoxes (anchors_sweep_eq_deopts hw₂ h₂ fun _ _ _ => rfl)

/-! ## What dropping dead nodes does -/

/-- The kept nodes are those reached from the roots, and each of them and each root is renamed to
its position among them. -/
theorem dropDead_eq_kept (hw : g.WellFormed) :
    ∃ kept : List NodeId, kept.Pairwise (· < ·) ∧ (∀ id, id ∈ kept ↔ g.Reaches g.roots id) ∧
      g.dropDead.nodes.map some =
        kept.map (fun id => g.nodes[id]?.map (·.mapInputs kept.idxOf)) ∧
      g.dropDead.outputs = g.outputs.map kept.idxOf ∧
      g.dropDead.anchors = g.anchors.map kept.idxOf := by
  generalize hdispose : (fun (id : NodeId) (_ : Node) =>
    if g.live.getD id false then Disposition.keep else Disposition.drop) = dispose
  have hdead : g.dropDead = g.sweep dispose := by rw [← hdispose]; rfl
  have hmem : ∀ id, id ∈ g.kept dispose ↔ g.Reaches g.roots id := by
    intro id
    rw [mem_kept, ← marked_live_iff hw, ← hdispose, Marked]
    constructor
    · rintro ⟨node, -, hk⟩
      by_contra hlive
      have hdrop := (if_neg hlive).symm.trans hk
      cases hdrop
    · intro hlive
      have hlt := hw.lt_size_of_reaches ((marked_live_iff hw).1 hlive)
      exact ⟨_, List.getElem?_eq_getElem hlt, if_pos hlive⟩
  have hname : ∀ id, g.Reaches g.roots id →
      (g.swept dispose).rename id = (g.kept dispose).idxOf id := fun id hid =>
    rename_swept_eq_idxOf ((hmem id).2 hid)
  refine ⟨g.kept dispose, pairwise_numbers _ _ _, hmem, ?_, ?_, ?_⟩
  · rw [hdead, nodes_sweep_eq_kept hw]
    refine List.map_congr_left fun id hid => ?_
    cases hnode : g.nodes[id]? with
    | none => rfl
    | some node =>
      -- what a kept node reads is reached as well
      rw [Option.map_some, Option.map_some, Node.mapInputs_congr fun a ha =>
        hname a (.input ((hmem id).1 hid) hnode ha)]
  · rw [hdead]
    exact List.map_congr_left fun id hid => hname id (.root (List.mem_append_left _ hid))
  · rw [hdead]
    exact List.map_congr_left fun id hid => hname id (.root (List.mem_append_right _ hid))

/-- Dropping dead nodes and shaping, for every graph that has been built.

* The nodes that stay when dead nodes are dropped are exactly those reached from an output or an
  anchor by following inputs. They stay in their order, and each input, output and anchor is renamed
  to its position among the nodes that stay.
* Dropping dead nodes again changes nothing, and neither does shaping again. -/
theorem dropDead_exact_and_shape_final {nodes : List Node} {outputs : List NodeId}
    (h : build nodes outputs = .ok g) :
    (∃ kept : List NodeId, kept.Pairwise (· < ·) ∧ (∀ id, id ∈ kept ↔ g.Reaches g.roots id) ∧
      g.dropDead.nodes.map some =
        kept.map (fun id => g.nodes[id]?.map (·.mapInputs kept.idxOf)) ∧
      g.dropDead.outputs = g.outputs.map kept.idxOf ∧
      g.dropDead.anchors = g.anchors.map kept.idxOf) ∧
    g.dropDead.dropDead = g.dropDead ∧ g.shape.shape = g.shape := by
  have hw := (build_eq_ok_iff.1 h).2
  have hw₃ := hw.dropFrameStates.dropTypeGuards.dropBoxes
  refine ⟨dropDead_eq_kept hw, dropDead_eq_self hw.dropDead (reaches_dropDead hw), ?_⟩
  refine shape_eq_self hw₃.dropDead (reaches_dropDead hw₃) (fun id hid => ?_)
    fun node hnode => operand?_eq_none_of_mem_shape hw hnode
  -- an anchor of the shaped graph gives elements up, so it is no frame state
  rw [anchors_shape_eq_deopts h] at hid
  obtain ⟨c, hc⟩ := mem_deopts.1 hid
  rw [hc]
  rfl

/-- A sum through a box and a guard, with a constant that nothing reads and a frame state. -/
def guardedSum : Graph where
  nodes := [.const (.int 9), .param 0, .box 1, .typeGuard 2 .int, .frameState [3], .unbox 3,
    .binary .add 5 1]
  outputs := [6]
  anchors := [4]

theorem dropDead_exact_and_shape_final_guardedSum :
    build guardedSum.nodes [6] = .ok guardedSum ∧
      (∃ kept : List NodeId, kept.Pairwise (· < ·) ∧
        (∀ id, id ∈ kept ↔ guardedSum.Reaches guardedSum.roots id) ∧
        guardedSum.dropDead.nodes.map some =
          kept.map (fun id => guardedSum.nodes[id]?.map (·.mapInputs kept.idxOf)) ∧
        guardedSum.dropDead.outputs = guardedSum.outputs.map kept.idxOf ∧
        guardedSum.dropDead.anchors = guardedSum.anchors.map kept.idxOf) ∧
      guardedSum.dropDead.dropDead = guardedSum.dropDead ∧
      guardedSum.shape.shape = guardedSum.shape ∧
      guardedSum.dropDead.size = 6 ∧
      guardedSum.shape.nodes = [.param 0, .binary .add 0 0] := by
  have hbuild : build guardedSum.nodes [6] = .ok guardedSum := rfl
  obtain ⟨hkept, hdead, hshape⟩ := dropDead_exact_and_shape_final hbuild
  exact ⟨hbuild, hkept, hdead, hshape, rfl, rfl⟩

end Graph

end TieredVectors
