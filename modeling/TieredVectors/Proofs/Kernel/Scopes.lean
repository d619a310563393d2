import TieredVectors.Proofs.Graph.Folding
import TieredVectors.Proofs.Kernel.Units

/-!
# What a kernel reads of the captured scope

The reads of the captured scope are detected on the shaped graph, and a launch gets a scope in which
everything else is null. Nothing is missed and nothing is kept for its own sake.

* `Kernel.run_scope_congr` — of two scopes a kernel only tells the slots that its graph reads;
* `Kernel.lt_length_of_check` — these slots are slots of the scope that it was typed for;
* `Graph.Obtained` — a graph that has been built and has been through any number of passes. Such a
  graph is anchored (`Graph.Obtained.anchored`), so that shaping folds its needed nodes;
* `Graph.exists_binding_shape_iff` — the slots that the shaped graph reads are those that needed
  nodes of the graph read.

`Kernel.reads_bound_slots` is all of this together.
-/

namespace TieredVectors

/-! ## Slots of nodes -/

namespace Node

/-- Renaming the inputs leaves the slot. -/
@[simp]
theorem slot?_mapInputs (rename : NodeId → NodeId) (n : Node) :
    (n.mapInputs rename).slot? = n.slot? := by
  cases n <;> rfl

/-- A node that reads the captured scope does not pass an operand on. -/
theorem operand?_eq_none_of_slot? {n : Node} {slot : Nat} (h : n.slot? = some slot) :
    n.operand? = none := by
  cases n <;> simp_all [operand?, slot?]

@[simp]
theorem isAnchor_mapInputs (rename : NodeId → NodeId) (n : Node) :
    (n.mapInputs rename).isAnchor = n.isAnchor := by
  cases n <;> rfl

/-- Nor does an anchor. -/
theorem operand?_eq_none_of_isAnchor {n : Node} (h : n.isAnchor) : n.operand? = none := by
  cases n <;> simp_all [operand?, isAnchor]

/-- A node that has been typed reads a slot that is there. -/
theorem lt_length_of_inferKind {n : Node} {slot : Nat} (hslot : n.slot? = some slot) {id : NodeId}
    {read : Typing.Reader} {input : RowType} {scope : Scope} {kind : Option Kind}
    (h : n.inferKind id read input scope = .ok kind) : slot < scope.length := by
  refine Nat.lt_of_not_le fun hle => ?_
  have hnone : scope[slot]? = none := List.getElem?_eq_none hle
  cases n with
  | scope slot' =>
    obtain rfl : slot' = slot := Option.some.inj hslot
    obtain ⟨k, h, -⟩ := map_eq_ok.1 h
    rw [Typing.scope, hnone] at h
    cases h
  | element slot' index =>
    obtain rfl : slot' = slot := Option.some.inj hslot
    obtain ⟨k, h, -⟩ := map_eq_ok.1 h
    obtain ⟨k', -, h⟩ := bind_eq_ok.1 h
    cases k' <;> simp [Typing.scopeElements, hnone] at h
  | _ => cases hslot

end Node

/-- Every node of a typed graph has been typed. -/
theorem Typing.exists_inferKind {input : RowType} {scope : Scope} {nodes : List Node}
    {kinds kinds' : Array (Option Kind)} (h : inferFrom input scope kinds nodes = .ok kinds') :
    ∀ node ∈ nodes, ∃ id read kind, node.inferKind id read input scope = .ok kind := by
  induction nodes generalizing kinds with
  | nil => exact List.forall_mem_nil _
  | cons node rest ih =>
    obtain ⟨kind, hkind, hrest⟩ := bind_eq_ok.1 h
    exact List.forall_mem_cons.2 ⟨⟨_, _, kind, hkind⟩, ih hrest⟩

/-- A graph that has been typed for a scope reads slots of that scope. -/
theorem Kernel.lt_length_of_check {graph : Graph} {input output : RowType} {scope : Scope}
    {k : Kernel} (h : check graph input output scope = .ok k) :
    ∀ b ∈ graph.scopeBindings, b.slot < scope.length := by
  intro b hb
  obtain ⟨kinds, -, hinfer, -⟩ := exists_of_check h
  obtain ⟨node, hnode, hslot⟩ := (Graph.exists_binding_iff 0).1 ⟨b, hb, rfl⟩
  obtain ⟨id, read, kind, hkind⟩ := Typing.exists_inferKind hinfer node hnode
  exact Node.lt_length_of_inferKind hslot hkind

namespace Graph

variable {g g' : Graph}

/-! ## Graphs that have been through passes -/

/-- Folding a graph keeps it anchored. -/
theorem Folds.anchored {live : NodeId → Prop} {rename : NodeId → NodeId}
    (hfolds : Folds live rename g g') (h : g.Anchored) (hw : g'.WellFormed)
    (hroots : ∀ id ∈ g.roots, live id) : g'.Anchored where
  wellFormed := hw
  isAnchor := by
    intro id hid
    rw [hfolds.anchors, List.mem_map] at hid
    obtain ⟨a, ha, rfl⟩ := hid
    obtain ⟨node, hnode, hanchor⟩ := h.isAnchor a ha
    rcases hfolds.image hnode (hroots a (List.mem_append_right _ ha)) with ⟨b, hb, -⟩ | himage
    · -- only nodes that pass an operand on are folded away
      rw [Node.operand?_eq_none_of_isAnchor hanchor] at hb
      cases hb
    · exact ⟨_, himage, by rwa [Node.isAnchor_mapInputs]⟩
  deopt := by
    intro id c hid
    obtain ⟨a, node, ha, -, rfl, hnode⟩ := hfolds.onto hid
    rw [hfolds.anchors]
    refine List.mem_map_of_mem ?_
    -- renaming makes no node give elements up that did not
    cases node with
    | deoptIf c => exact h.deopt ha
    | _ => cases hnode

theorem Anchored.withoutFrameAnchors (h : g.Anchored) : g.withoutFrameAnchors.Anchored where
  wellFormed := h.wellFormed.withoutFrameAnchors
  isAnchor id hid := h.isAnchor id (List.mem_filter.1 hid).1
  deopt hid := (mem_anchors_withoutFrameAnchors h).2 ⟨_, hid⟩

theorem Anchored.dropDead (h : g.Anchored) : g.dropDead.Anchored := by
  obtain ⟨rename, hfolds⟩ := dropDead_folds h.wellFormed
  exact hfolds.anchored h h.wellFormed.dropDead fun _ => .root

theorem Anchored.dropTypeGuards (h : g.Anchored) : g.dropTypeGuards.Anchored :=
  (sweep_folds h.wellFormed disposes_typeGuards).anchored h h.wellFormed.dropTypeGuards
    fun _ _ => trivial

theorem Anchored.dropBoxes (h : g.Anchored) : g.dropBoxes.Anchored :=
  (sweep_folds h.wellFormed disposes_boxes).anchored h h.wellFormed.dropBoxes fun _ _ => trivial

/-- A graph that can be had: built from nodes, and then put through passes in any order. -/
inductive Obtained : Graph → Prop
  | build {g : Graph} {nodes : List Node} {outputs : List NodeId} :
      build nodes outputs = .ok g → Obtained g
  | dropDead {g : Graph} : Obtained g → Obtained g.dropDead
  | dropFrameStates {g : Graph} : Obtained g → Obtained g.dropFrameStates
  | dropTypeGuards {g : Graph} : Obtained g → Obtained g.dropTypeGuards
  | dropBoxes {g : Graph} : Obtained g → Obtained g.dropBoxes

theorem Obtained.anchored (h : g.Obtained) : g.Anchored := by
  induction h with
  | build hbuild => exact anchored_of_build hbuild
  | dropDead _ ih => exact ih.dropDead
  | dropFrameStates _ ih => exact ih.withoutFrameAnchors.dropDead
  | dropTypeGuards _ ih => exact ih.dropTypeGuards
  | dropBoxes _ ih => exact ih.dropBoxes

/-- The slots that the shaped graph reads are those that needed nodes of the graph read. -/
theorem exists_binding_shape_iff (h : g.Anchored) {slot : Nat} :
    (∃ b ∈ g.shape.scopeBindings, b.slot = slot) ↔
      ∃ id node, g.Needed id ∧ g.nodes[id]? = some node ∧ node.slot? = some slot := by
  -- a node of the shaped graph is a needed node under a new name, and reads the same slot
  obtain ⟨rename, hfolds⟩ := h.shape_folds
  rw [scopeBindings, exists_binding_iff]
  constructor
  · rintro ⟨node', hnode', hslot⟩
    obtain ⟨j, hj⟩ := List.getElem?_of_mem hnode'
    obtain ⟨id, node, hnode, hneeded, -, rfl⟩ := hfolds.onto hj
    exact ⟨id, node, hneeded, hnode, by rwa [Node.slot?_mapInputs] at hslot⟩
  · rintro ⟨id, node, hneeded, hnode, hslot⟩
    rcases hfolds.image hnode hneeded with ⟨a, ha, -⟩ | himage
    · -- nor is a node that reads the captured scope folded away
      rw [Node.operand?_eq_none_of_slot? hslot] at ha
      cases ha
    · exact ⟨_, List.mem_of_getElem? himage, by rwa [Node.slot?_mapInputs]⟩

end Graph

namespace Kernel

/-- Kernels read the slots that are bound for them, and nothing else.

* A graph that has been typed reads slots of the scope that it was typed for, and its kernel gives
  the same results for any two scopes that agree on these slots.
* In the scope that is handed to the kernel of a unit the bound slots are as captured and all others
  are null; if the bound slots are those that the kernel's graph reads, this makes no difference.
* The slots that are detected on a shaped graph are those that nodes read which an output, or a node
  that gives elements up, of the graph before shaping needs. -/
theorem reads_bound_slots :
    (∀ (graph : Graph) (input output : RowType) (typed : Scope) (k : Kernel),
      check graph input output typed = .ok k →
        (∀ b ∈ graph.scopeBindings, b.slot < typed.length) ∧
        ∀ scope scope' : Scope,
          (∀ b ∈ graph.scopeBindings, scope[b.slot]? = scope'[b.slot]?) →
          ∀ row, k.run row scope = k.run row scope') ∧
    (∀ (u : CompiledUnit) (k : Kernel), u.kernel.kernel? = some k →
      (∀ b ∈ u.bindings, u.boundScope[b.slot]? = u.scope[b.slot]?) ∧
      (∀ slot, (∀ b ∈ u.bindings, b.slot ≠ slot) →
        u.boundScope[slot]? = u.scope[slot]?.map fun _ => .null) ∧
      (u.bindings = k.graph.scopeBindings → ∀ row, k.run row u.boundScope = k.run row u.scope)) ∧
    ∀ g : Graph, g.Obtained → ∀ slot,
      (∃ b ∈ g.shape.scopeBindings, b.slot = slot) ↔
        ∃ id node, g.Needed id ∧ g.nodes[id]? = some node ∧ node.slot? = some slot := by
  refine ⟨fun graph input output typed k hk => ⟨lt_length_of_check hk, ?_⟩, fun u k _ => ?_, ?_⟩
  · intro scope scope' hagree row
    obtain ⟨rfl, -⟩ := of_check hk
    exact k.run_scope_congr hagree row
  · exact ⟨fun b hb => CompiledUnit.getElem?_boundScope hb,
      fun slot hslot => CompiledUnit.getElem?_boundScope_of_forall_ne hslot,
      fun hbindings row => CompiledUnit.run_boundScope hbindings row⟩
  · intro g hg slot
    exact Graph.exists_binding_shape_iff hg.anchored

/-- A captured word is added to a parameter through a box; another one is kept by a frame state
only. -/
def addCaptured : Graph where
  nodes := [.param 0, .scope 0, .frameState [1], .scope 2, .box 3, .unbox 4, .binary .add 0 5]
  outputs := [6]
  anchors := [2]

/-- The unit of the graph, with three captured words. -/
def addCapturedUnit (k : Kernel) : CompiledUnit where
  kernel := ⟨⟨1⟩, .host k⟩
  input := .scalar .int
  output := .scalar .int
  scope := [.int 7, .int 8, .int 9]
  bindings := addCaptured.shape.scopeBindings

/-- Of three captured words the one that the output needs is handed over. -/
theorem reads_bound_slots_add :
    Graph.build addCaptured.nodes [6] = .ok addCaptured ∧
      (∃ b ∈ addCaptured.shape.scopeBindings, b.slot = 2) ∧
      ∃ k, check addCaptured.shape (.scalar .int) (.scalar .int) [.int 7, .int 8, .int 9] = .ok k ∧
        (addCapturedUnit k).boundScope[0]? = some .null ∧
        (∀ row, k.run row [.null, .null, .int 9] = k.run row [.int 7, .int 8, .int 9]) ∧
        ∀ row, k.run row (addCapturedUnit k).boundScope = k.run row (addCapturedUnit k).scope := by
  obtain ⟨hchecked, hunits, hslots⟩ := reads_bound_slots
  have hbuild : Graph.build addCaptured.nodes [6] = .ok addCaptured := rfl
  have hbindings : addCaptured.shape.scopeBindings = [⟨1, 2⟩] := rfl
  have honly : ∀ b ∈ addCaptured.shape.scopeBindings, b = ⟨1, 2⟩ := by
    intro b hb
    rwa [hbindings, List.mem_singleton] at hb
  -- the output reads the captured word through the box
  have hsum : addCaptured.Needed 6 := .output (List.mem_singleton_self 6)
  have hunboxed : addCaptured.Needed 5 := .input hsum rfl (by decide)
  have hboxed : addCaptured.Needed 4 := .input hunboxed rfl (List.mem_singleton_self 4)
  have hneeded : addCaptured.Needed 3 := .input hboxed rfl (List.mem_singleton_self 3)
  have hcheck : check addCaptured.shape (.scalar .int) (.scalar .int) [.int 7, .int 8, .int 9] =
    .ok _ := rfl
  obtain ⟨-, hagree⟩ := hchecked _ _ _ _ _ hcheck
  obtain ⟨-, hnull, hrun⟩ := hunits (addCapturedUnit _) _ rfl
  refine ⟨hbuild, (hslots _ (.build hbuild) 2).2 ⟨3, _, hneeded, rfl, rfl⟩, _, hcheck, ?_, ?_,
    hrun rfl⟩
  · refine hnull 0 fun b hb => ?_
    obtain rfl := honly b hb
    decide
  · refine hagree _ _ fun b hb => ?_
    obtain rfl := honly b hb
    rfl

end Kernel

end TieredVectors
