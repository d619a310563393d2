import TieredVectors.Proofs.Graph.Liveness

/-!
# Folding a graph

Shaping gives the nodes of a graph new names. `Graph.Folds live rename g g'` says what is true of a
pass, and of several passes in a row (`Folds.trans`): a live node of `g` either passes its operand
on and has its operand's new name, or stands in `g'` under its new name with its inputs renamed,
and `g'` holds nothing else.

The main results:

* `sweep_folds` — a sweep that drops no live node is such a fold, and its result is well formed;
* `shape_folds` — so is the whole of shaping, for the nodes reached from the roots once frame states
  are no longer anchors, which in an anchored graph are the needed ones (`Anchored.shape_folds`);
* `operand?_eq_none_of_mem_shape` — no node that only passes its operand on is left.
-/

namespace TieredVectors

/-! ## One sweep -/

namespace Sweep

variable {s : Sweep} {node : Node} {id first : NodeId} {nodes : List Node}
  {dispose : NodeId → Node → Disposition}

@[simp]
theorem size_names_step (s : Sweep) (node : Node) (d : Disposition) :
    (s.step node d).names.size = s.names.size + 1 := by
  cases d <;> simp [step]

/-- A step keeps the names given before. -/
theorem rename_step_of_lt (d : Disposition) (h : id < s.names.size) :
    (s.step node d).rename id = s.rename id := by
  cases d <;>
    simp [step, rename, Array.getD_eq_getD_getElem?, Array.getElem?_push, Nat.ne_of_lt h]

/-- A kept node is named by its place among the nodes kept. -/
theorem rename_step_keep : (s.step node .keep).rename s.names.size = s.nodes.size := by
  simp [step, rename]

/-- A replaced node has the name of its operand. -/
theorem rename_step_redirect (a : NodeId) :
    (s.step node (.redirect a)).rename s.names.size = s.rename a := by
  simp [step, rename]

/-- A step keeps the nodes kept before. -/
theorem getElem?_nodes_step_of_lt (d : Disposition) {j : Nat} (h : j < s.nodes.size) :
    (s.step node d).nodes[j]? = s.nodes[j]? := by
  cases d <;> simp [step, Array.getElem?_push, Nat.ne_of_lt h]

/-- A step never takes a kept node back. -/
theorem size_nodes_le_step (d : Disposition) : s.nodes.size ≤ (s.step node d).nodes.size := by
  cases d <;> simp [step]

@[simp]
theorem size_names_run (dispose : NodeId → Node → Disposition) (s : Sweep) (first : NodeId)
    (nodes : List Node) :
    (run dispose s first nodes).names.size = s.names.size + nodes.length := by
  induction nodes generalizing s first with
  | nil => rfl
  | cons n rest ih =>
    rw [run, ih, size_names_step, List.length_cons]
    lia

/-- A sweep keeps the names given before. -/
theorem rename_run_of_lt (h : id < s.names.size) :
    (run dispose s first nodes).rename id = s.rename id := by
  induction nodes generalizing s first with
  | nil => rfl
  | cons n rest ih =>
    rw [run, ih (by rw [size_names_step]; exact Nat.lt_succ_of_lt h), rename_step_of_lt _ h]

/-- A sweep keeps the nodes kept before. -/
theorem getElem?_nodes_run_of_lt {j : Nat} (h : j < s.nodes.size) :
    (run dispose s first nodes).nodes[j]? = s.nodes[j]? := by
  induction nodes generalizing s first with
  | nil => rfl
  | cons n rest ih =>
    rw [run, ih (Nat.lt_of_lt_of_le h (size_nodes_le_step _)), getElem?_nodes_step_of_lt _ h]

/-- A kept node stands under its new name with its inputs renamed. -/
theorem getElem?_run_of_keep (hfirst : s.names.size = first)
    (hinputs : Graph.ReadsEarlier first nodes) {i : Nat} (hi : nodes[i]? = some node)
    (hk : dispose (first + i) node = .keep) :
    (run dispose s first nodes).nodes[(run dispose s first nodes).rename (first + i)]? =
      some (node.mapInputs (run dispose s first nodes).rename) := by
  induction nodes generalizing s first i with
  | nil => simp at hi
  | cons n rest ih =>
    obtain ⟨hn, hrest⟩ := Graph.readsEarlier_cons.1 hinputs
    cases i with
    | zero =>
      obtain rfl : n = node := by simpa using hi
      replace hk : dispose first n = .keep := hk
      -- the new node is put behind those kept before, and later steps leave it there
      have hname : (run dispose s first (n :: rest)).rename (first + 0) = s.nodes.size := by
        rw [run, hk, rename_run_of_lt (by simp [hfirst]), Nat.add_zero, ← hfirst,
          rename_step_keep]
      rw [hname]
      have hnode : (run dispose s first (n :: rest)).nodes[s.nodes.size]? =
          some (n.mapInputs s.rename) := by
        rw [run, hk, getElem?_nodes_run_of_lt (by simp [step])]
        simp [step]
      rw [hnode]
      refine congrArg some (Node.mapInputs_congr fun a ha => (rename_run_of_lt ?_).symm)
      rw [hfirst]
      exact hn a ha
    | succ i =>
      rw [show first + (i + 1) = first + 1 + i by lia] at hk ⊢
      exact ih (by simp [hfirst]) hrest (by simpa using hi) hk

/-- A replaced node has the new name of its operand. -/
theorem rename_run_of_redirect (hfirst : s.names.size = first) {i : Nat} {a : NodeId}
    (hi : nodes[i]? = some node) (ha : a < first + i)
    (hr : dispose (first + i) node = .redirect a) :
    (run dispose s first nodes).rename (first + i) = (run dispose s first nodes).rename a := by
  induction nodes generalizing s first i with
  | nil => simp at hi
  | cons n rest ih =>
    cases i with
    | zero =>
      obtain rfl : n = node := by simpa using hi
      replace hr : dispose first n = .redirect a := hr
      rw [run, hr, rename_run_of_lt (by simp [hfirst]), rename_run_of_lt (by simp; lia),
        Nat.add_zero, ← hfirst, rename_step_redirect, rename_step_of_lt _ (by lia)]
    | succ i =>
      rw [show first + (i + 1) = first + 1 + i by lia] at ha hr ⊢
      exact ih (by simp [hfirst]) (by simpa using hi) ha hr

/-- A node that a sweep puts behind those kept before is a kept one. -/
theorem exists_keep_of_getElem?_run (hfirst : s.names.size = first) {j : Nat}
    (hj : s.nodes.size ≤ j) (hlt : j < (run dispose s first nodes).nodes.size) :
    ∃ i n, nodes[i]? = some n ∧ dispose (first + i) n = .keep ∧
      (run dispose s first nodes).rename (first + i) = j := by
  induction nodes generalizing s first with
  | nil => exact absurd hlt (Nat.not_lt.2 hj)
  | cons n rest ih =>
    rw [run] at hlt ⊢
    by_cases hstep : (s.step n (dispose first n)).nodes.size ≤ j
    · obtain ⟨i, n', hi, hk, hname⟩ := ih (by simp [hfirst]) hstep hlt
      refine ⟨i + 1, n', by simpa using hi, ?_, ?_⟩
      · rwa [show first + (i + 1) = first + 1 + i by lia]
      · rwa [show first + (i + 1) = first + 1 + i by lia]
    · -- the step made room for `j`, so it kept its node
      have hk : dispose first n = .keep := by
        cases hd : dispose first n with
        | keep => rfl
        | redirect a => exact absurd hj (by simpa [hd, step] using hstep)
        | drop => exact absurd hj (by simpa [hd, step] using hstep)
      refine ⟨0, n, rfl, hk, ?_⟩
      rw [hk] at hstep ⊢
      rw [rename_run_of_lt (by simp [hfirst]), Nat.add_zero, ← hfirst, rename_step_keep]
      simp only [step, Array.size_push] at hstep
      lia

/-- Every live node that has a name is named after a node kept. -/
def Bounded (live : NodeId → Prop) (s : Sweep) : Prop :=
  ∀ id < s.names.size, live id → s.rename id < s.nodes.size

variable {live : NodeId → Prop}

/-- What a step needs to keep live nodes named after nodes kept. -/
theorem Bounded.step (h : s.Bounded live) {d : Disposition}
    (hdrop : live s.names.size → d ≠ .drop)
    (hoperand : ∀ a, d = .redirect a → live s.names.size → a < s.names.size ∧ live a) :
    (s.step node d).Bounded live := by
  intro id hid hlive
  rw [size_names_step] at hid
  rcases Nat.lt_succ_iff_lt_or_eq.1 hid with hlt | rfl
  · rw [rename_step_of_lt _ hlt]
    exact Nat.lt_of_lt_of_le (h id hlt hlive) (size_nodes_le_step _)
  · cases d with
    | keep =>
      rw [rename_step_keep]
      simp [Sweep.step]
    | redirect a =>
      obtain ⟨ha, hla⟩ := hoperand a rfl hlive
      rw [rename_step_redirect]
      exact h a ha hla
    | drop => exact absurd rfl (hdrop hlive)

end Sweep

namespace Graph

/-- What a sweep over a graph has to respect: live nodes are not dropped, kept nodes are live, what
live nodes read is live, and a node is replaced by its operand only. -/
structure Disposes (g : Graph) (live : NodeId → Prop) (dispose : NodeId → Node → Disposition) :
    Prop where
  closed : ∀ {id : NodeId} {node : Node}, g.nodes[id]? = some node → live id →
    ∀ a ∈ node.inputs, live a
  not_drop : ∀ {id : NodeId} {node : Node}, g.nodes[id]? = some node → live id →
    dispose id node ≠ .drop
  live_of_keep : ∀ {id : NodeId} {node : Node}, g.nodes[id]? = some node →
    dispose id node = .keep → live id
  operand : ∀ {id a : NodeId} {node : Node}, g.nodes[id]? = some node →
    dispose id node = .redirect a → node.operand? = some a

variable {g g' g'' : Graph} {live live' : NodeId → Prop} {rename rename' : NodeId → NodeId}
  {dispose : NodeId → Node → Disposition}

/-- A sweep over the rest of a graph: live nodes stay named after nodes kept, and a kept node reads
nodes named before it. -/
theorem Disposes.run (hd : g.Disposes live dispose) (hw : g.WellFormed) {seen rest : List Node}
    (hnodes : g.nodes = seen ++ rest) {s : Sweep} (hsize : s.names.size = seen.length)
    (hb : s.Bounded live) :
    let t := Sweep.run dispose s seen.length rest
    t.Bounded live ∧
      ∀ i n, rest[i]? = some n → dispose (seen.length + i) n = .keep →
        ∀ a ∈ n.inputs, t.rename a < t.rename (seen.length + i) := by
  -- on the nodes to come; that the live ones seen are named after nodes kept carries it along
  induction rest generalizing seen s with
  | nil => exact ⟨hb, by simp⟩
  | cons n rest ih =>
    have hn : g.nodes[seen.length]? = some n := by simp [hnodes]
    have hsize' : (s.step n (dispose seen.length n)).names.size = (seen ++ [n]).length := by
      simp [hsize]
    have hb' : (s.step n (dispose seen.length n)).Bounded live := by
      refine hb.step ?_ ?_
      · rw [hsize]
        exact hd.not_drop hn
      · intro a ha hlive
        rw [hsize] at hlive ⊢
        have hmem := Node.mem_inputs_of_operand? (hd.operand hn ha)
        exact ⟨hw.inputs _ _ hn a hmem, hd.closed hn hlive a hmem⟩
    have hrest := ih (show g.nodes = (seen ++ [n]) ++ rest by simp [hnodes]) hsize' hb'
    rw [List.length_append, List.length_singleton] at hrest
    refine ⟨hrest.1, fun i m hi hk a ha => ?_⟩
    cases i with
    | zero =>
      obtain rfl : n = m := by simpa using hi
      replace hk : dispose seen.length n = .keep := hk
      have halt : a < s.names.size := by
        rw [hsize]
        exact hw.inputs _ _ hn a ha
      have hname : (Sweep.run dispose s seen.length (n :: rest)).rename (seen.length + 0) =
          s.nodes.size := by
        rw [Sweep.run, hk, Sweep.rename_run_of_lt (by simp [hsize]), Nat.add_zero, ← hsize,
          Sweep.rename_step_keep]
      rw [hname, Sweep.rename_run_of_lt halt]
      exact hb a halt (hd.closed hn (hd.live_of_keep hn hk) a ha)
    | succ i =>
      rw [show seen.length + (i + 1) = seen.length + 1 + i by lia] at hk ⊢
      exact hrest.2 i m (by simpa using hi) hk a ha

/-! ## Folds -/

/-- `g'` computes the live nodes of `g` under new names. A live node either passes its operand on
and has its operand's new name, or stands in `g'` under its new name with its inputs renamed; every
node of `g'` is such a node. -/
structure Folds (live : NodeId → Prop) (rename : NodeId → NodeId) (g g' : Graph) : Prop where
  closed : ∀ {id : NodeId} {node : Node}, g.nodes[id]? = some node → live id →
    ∀ a ∈ node.inputs, live a
  image : ∀ {id : NodeId} {node : Node}, g.nodes[id]? = some node → live id →
    (∃ a, node.operand? = some a ∧ rename id = rename a) ∨
      g'.nodes[rename id]? = some (node.mapInputs rename)
  onto : ∀ {j : NodeId} {node' : Node}, g'.nodes[j]? = some node' →
    ∃ id node, g.nodes[id]? = some node ∧ live id ∧ rename id = j ∧ node' = node.mapInputs rename
  outputs : g'.outputs = g.outputs.map rename
  anchors : g'.anchors = g.anchors.map rename

/-- The new names of the roots are the roots. -/
theorem Folds.roots (h : Folds live rename g g') : g'.roots = g.roots.map rename := by
  rw [Graph.roots, Graph.roots, h.outputs, h.anchors, List.map_append]

/-- Two folds in a row are a fold, if the first one takes live nodes to live nodes. -/
theorem Folds.trans (h : Folds live rename g g') (h' : Folds live' rename' g' g'')
    (hlive : ∀ id, live id → live' (rename id)) :
    Folds live (rename' ∘ rename) g g'' where
  closed := h.closed
  image := by
    intro id node hid hl
    rcases h.image hid hl with ⟨a, ha, hname⟩ | hnode
    · exact Or.inl ⟨a, ha, congrArg rename' hname⟩
    · rcases h'.image hnode (hlive id hl) with ⟨b, hb, hname⟩ | hnode'
      -- what the second fold replaces has passed its operand on all along
      · rw [Node.operand?_mapInputs, Option.map_eq_some_iff] at hb
        obtain ⟨a, ha, rfl⟩ := hb
        exact Or.inl ⟨a, ha, hname⟩
      · exact Or.inr (by simpa using hnode')
  onto := by
    intro k node'' hk
    obtain ⟨j, node', hj, -, rfl, rfl⟩ := h'.onto hk
    obtain ⟨id, node, hid, hl, rfl, rfl⟩ := h.onto hj
    exact ⟨id, node, hid, hl, rfl, Node.mapInputs_mapInputs _ _ _⟩
  outputs := by rw [h'.outputs, h.outputs, List.map_map]
  anchors := by rw [h'.anchors, h.anchors, List.map_map]

/-- What is reached stays reached under the new names. -/
theorem Folds.reaches (h : Folds live rename g g') {roots : List NodeId} {id : NodeId}
    (hlive : ∀ id, g.Reaches roots id → live id) (hid : g.Reaches roots id) :
    g'.Reaches (roots.map rename) (rename id) := by
  induction hid with
  | root hr => exact .root (List.mem_map_of_mem hr)
  | @input id a node hid hnode ha ih =>
    rcases h.image hnode (hlive id hid) with ⟨b, hb, hname⟩ | hnode'
    · -- the operand is all that such a node reads
      rw [Node.inputs_of_operand? hb, List.mem_singleton] at ha
      rwa [ha, ← hname]
    · refine .input ih hnode' ?_
      rw [Node.inputs_mapInputs]
      exact List.mem_map_of_mem ha

/-- The state in which a sweep over the whole graph ends. -/
def swept (g : Graph) (dispose : NodeId → Node → Disposition) : Sweep :=
  Sweep.run dispose {} 0 g.nodes

theorem nodes_sweep (g : Graph) (dispose : NodeId → Node → Disposition) :
    (g.sweep dispose).nodes = (g.swept dispose).nodes.toList :=
  rfl

/-- A kept node stands in the swept graph under its new name. -/
theorem getElem?_sweep_of_keep (hw : g.WellFormed) {id : NodeId} {node : Node}
    (hid : g.nodes[id]? = some node) (hk : dispose id node = .keep) :
    (g.sweep dispose).nodes[(g.swept dispose).rename id]? =
      some (node.mapInputs (g.swept dispose).rename) := by
  have hk' : dispose (0 + id) node = .keep := by rwa [Nat.zero_add]
  have := Sweep.getElem?_run_of_keep (show ({} : Sweep).names.size = 0 from rfl)
    hw.readsEarlier hid hk'
  rw [Nat.zero_add] at this
  rw [nodes_sweep, Array.getElem?_toList]
  exact this

/-- A replaced node has its operand's new name. -/
theorem rename_swept_of_redirect (hw : g.WellFormed) {id a : NodeId} {node : Node}
    (hid : g.nodes[id]? = some node) (hr : dispose id node = .redirect a) (ha : a ∈ node.inputs) :
    (g.swept dispose).rename id = (g.swept dispose).rename a := by
  have hr' : dispose (0 + id) node = .redirect a := by rwa [Nat.zero_add]
  have hlt : a < 0 + id := by simpa using hw.inputs _ _ hid a ha
  have := Sweep.rename_run_of_redirect (show ({} : Sweep).names.size = 0 from rfl) hid hlt hr'
  rwa [Nat.zero_add] at this

/-- Every node of the swept graph is a kept one. -/
theorem exists_keep_of_getElem?_sweep (hw : g.WellFormed) {j : NodeId} {node' : Node}
    (hj : (g.sweep dispose).nodes[j]? = some node') :
    ∃ id node, g.nodes[id]? = some node ∧ dispose id node = .keep ∧
      (g.swept dispose).rename id = j ∧ node' = node.mapInputs (g.swept dispose).rename := by
  have hlt : j < (g.swept dispose).nodes.size := by
    rw [nodes_sweep] at hj
    simpa using (List.getElem?_eq_some_iff.1 hj).1
  obtain ⟨id, node, hid, hk, hname⟩ := Sweep.exists_keep_of_getElem?_run
    (show ({} : Sweep).names.size = 0 from rfl) (Nat.zero_le j) hlt
  rw [Nat.zero_add] at hk hname
  have hnode := getElem?_sweep_of_keep hw hid hk
  rw [swept, hname, hj, Option.some.injEq] at hnode
  exact ⟨id, node, hid, hk, hname, hnode⟩

/-- A sweep over a well-formed graph that respects what is live is a fold. -/
theorem sweep_folds (hw : g.WellFormed) (hd : g.Disposes live dispose) :
    Folds live (g.swept dispose).rename g (g.sweep dispose) where
  closed := hd.closed
  image := by
    intro id node hid hl
    cases hdn : dispose id node with
    | keep => exact Or.inr (getElem?_sweep_of_keep hw hid hdn)
    | redirect a =>
      have ha := hd.operand hid hdn
      exact Or.inl ⟨a, ha, rename_swept_of_redirect hw hid hdn (Node.mem_inputs_of_operand? ha)⟩
    | drop => exact absurd hdn (hd.not_drop hid hl)
  onto := by
    intro j node' hj
    obtain ⟨id, node, hid, hk, hname, hnode⟩ := exists_keep_of_getElem?_sweep hw hj
    exact ⟨id, node, hid, hd.live_of_keep hid hk, hname, hnode⟩
  outputs := rfl
  anchors := rfl

/-- A sweep over a well-formed graph gives a well-formed graph, if its roots are live. -/
theorem WellFormed.sweep (hw : g.WellFormed) (hd : g.Disposes live dispose)
    (hroots : ∀ id ∈ g.roots, live id) : (g.sweep dispose).WellFormed := by
  have hstart : ({} : Sweep).Bounded live := fun id hid => absurd hid (Nat.not_lt_zero id)
  obtain ⟨hbound, hearlier⟩ := hd.run hw (show g.nodes = [] ++ g.nodes from rfl) rfl hstart
  refine ⟨fun j node' hj b hb => ?_, fun j hj => ?_⟩
  · obtain ⟨id, node, hid, hk, rfl, rfl⟩ := exists_keep_of_getElem?_sweep hw hj
    rw [Node.inputs_mapInputs, List.mem_map] at hb
    obtain ⟨a, ha, rfl⟩ := hb
    have := hearlier id node hid (by simpa using hk) a ha
    rwa [List.length_nil, Nat.zero_add] at this
  · rw [(sweep_folds hw hd).roots, List.mem_map] at hj
    obtain ⟨id, hid, rfl⟩ := hj
    -- roots are live, so they are named after nodes kept
    have hnamed : id < (g.swept dispose).names.size := by
      rw [swept, Sweep.size_names_run]
      simpa [size] using hw.roots id hid
    have := hbound id hnamed (hroots id hid)
    rwa [size, nodes_sweep, Array.length_toList]

/-! ## The passes -/

/-- Dropping dead nodes respects what is reached from the roots. -/
theorem disposes_live (hw : g.WellFormed) :
    g.Disposes (g.Reaches g.roots) fun id _ => if g.live.getD id false then .keep else .drop where
  closed := fun hid hl a ha => .input hl hid ha
  not_drop := by
    intro id node _ hl
    have hmarked : g.live.getD id false = true := (marked_live_iff hw).2 hl
    simp [hmarked]
  live_of_keep := by
    intro id node _ hk
    refine (marked_live_iff hw).1 ?_
    split at hk
    · assumption
    · exact absurd hk (by simp)
  operand := by
    intro id a node _ hr
    split at hr <;> simp at hr

/-- Dropping dead nodes folds a graph onto what is reached from its roots. -/
theorem dropDead_folds (hw : g.WellFormed) :
    ∃ rename, Folds (g.Reaches g.roots) rename g g.dropDead :=
  ⟨_, sweep_folds hw (disposes_live hw)⟩

theorem WellFormed.dropDead (hw : g.WellFormed) : g.dropDead.WellFormed :=
  hw.sweep (disposes_live hw) fun _ => .root

theorem WellFormed.dropFrameStates (hw : g.WellFormed) : g.dropFrameStates.WellFormed :=
  hw.withoutFrameAnchors.dropDead

/-- A pass that drops no node and replaces nodes by their operands only. -/
theorem disposes_true (hkeep : ∀ id node, dispose id node = .keep ∨
    ∃ a, dispose id node = .redirect a ∧ node.operand? = some a) :
    g.Disposes (fun _ => True) dispose where
  closed := fun _ _ _ _ => trivial
  not_drop := by
    intro id node _ _ hdrop
    rcases hkeep id node with h | ⟨a, h, -⟩ <;> simp [h] at hdrop
  live_of_keep := fun _ _ => trivial
  operand := by
    intro id a node _ hr
    rcases hkeep id node with h | ⟨b, h, hb⟩
    · simp [h] at hr
    · rw [h, Disposition.redirect.injEq] at hr
      rwa [← hr]

/-- The type guards are the nodes that dropping type guards replaces. -/
theorem disposes_typeGuards : g.Disposes (fun _ => True) fun _ node =>
    match node with
    | .typeGuard operand _ => .redirect operand
    | _ => .keep :=
  disposes_true fun _ node => by cases node <;> simp [Node.operand?]

/-- The boxes are the nodes that dropping boxes replaces. -/
theorem disposes_boxes : g.Disposes (fun _ => True) fun _ node =>
    match node with
    | .box operand | .unbox operand => .redirect operand
    | _ => .keep :=
  disposes_true fun _ node => by cases node <;> simp [Node.operand?]

theorem WellFormed.dropTypeGuards (hw : g.WellFormed) : g.dropTypeGuards.WellFormed :=
  hw.sweep disposes_typeGuards fun _ _ => trivial

theorem WellFormed.dropBoxes (hw : g.WellFormed) : g.dropBoxes.WellFormed :=
  hw.sweep disposes_boxes fun _ _ => trivial

/-- Shaping folds a graph onto what is reached from its roots without the frame states, and gives a
well-formed graph. -/
theorem shape_folds (hw : g.WellFormed) :
    (∃ rename, Folds (g.withoutFrameAnchors.Reaches g.withoutFrameAnchors.roots) rename
      g.withoutFrameAnchors g.shape) ∧ g.shape.WellFormed := by
  have hw₁ := hw.dropFrameStates
  have hw₂ := hw₁.dropTypeGuards
  have hw₃ := hw₂.dropBoxes
  obtain ⟨r₁, f₁⟩ := dropDead_folds hw.withoutFrameAnchors
  have f₂ := f₁.trans (sweep_folds hw₁ disposes_typeGuards) fun _ _ => trivial
  have f₃ := f₂.trans (sweep_folds hw₂ disposes_boxes) fun _ _ => trivial
  obtain ⟨r₄, f₄⟩ := dropDead_folds hw₃
  -- the second removal of dead nodes drops nothing that the passes before it kept alive
  refine ⟨⟨_, f₃.trans f₄ fun id hid => ?_⟩, hw₃.dropDead⟩
  have hreach := f₃.reaches (fun _ h => h) hid
  rwa [← f₃.roots] at hreach

/-- The shaped graph is folded from the needed nodes. -/
theorem Anchored.shape_folds (h : g.Anchored) :
    ∃ rename, Folds g.Needed rename g.withoutFrameAnchors g.shape := by
  rw [show g.Needed = _ from funext fun id => propext (needed_iff_reaches h)]
  exact (Graph.shape_folds h.wellFormed).1

/-- A pass that replaces the nodes of some sort leaves none of them. -/
theorem not_of_mem_sweep (p : Node → Prop) (hw : g.WellFormed)
    (hmap : ∀ node rename, p (node.mapInputs rename) ↔ p node)
    (hkeep : ∀ id node, g.nodes[id]? = some node → dispose id node = .keep → ¬ p node)
    {node : Node} (hnode : node ∈ (g.sweep dispose).nodes) : ¬ p node := by
  obtain ⟨j, hj⟩ := List.mem_iff_getElem?.1 hnode
  obtain ⟨id, node, hid, hk, -, rfl⟩ := exists_keep_of_getElem?_sweep hw hj
  rw [hmap]
  exact hkeep id node hid hk

/-- No node that only passes its operand on is left in a shaped graph. -/
theorem operand?_eq_none_of_mem_shape (hw : g.WellFormed) {node : Node}
    (hnode : node ∈ g.shape.nodes) : node.operand? = none := by
  have hw₁ := hw.dropFrameStates
  have hw₂ := hw₁.dropTypeGuards
  have hw₃ := hw₂.dropBoxes
  have hguards : ∀ node ∈ g.dropFrameStates.dropTypeGuards.nodes,
      ¬ ∃ a kind, node = .typeGuard a kind := by
    refine fun node => not_of_mem_sweep (∃ a kind, · = Node.typeGuard a kind) hw₁ ?_ ?_
    · intro node rename
      cases node <;> simp [Node.mapInputs]
    · intro id node _ hk
      cases node <;> simp_all
  -- the pass over the boxes brings no type guard back
  have hboxes : ∀ node ∈ g.dropFrameStates.dropTypeGuards.dropBoxes.nodes,
      ¬ node.operand?.isSome := by
    refine fun node => not_of_mem_sweep (·.operand?.isSome) hw₂ (by simp) fun id node hid hk => ?_
    have := hguards node (List.mem_of_getElem? hid)
    cases node <;> simp_all [Node.operand?]
  have hshape := not_of_mem_sweep (·.operand?.isSome) hw₃ (by simp)
    (fun id node hid _ => hboxes node (List.mem_of_getElem? hid)) hnode
  simpa using hshape

end Graph

end TieredVectors
