import TieredVectors.Proofs.Graph.Lookups
import TieredVectors.Proofs.Graph.Renumbering
import TieredVectors.Proofs.Kernel.Filling

/-!
# Shaped graphs can be compiled

A graph may fail to compile for its kinds, or for its structure: because it refers to nodes that do
not come before their readers, or because a node is left that only the interpreter can run. Shaping
is there to rule the second out. All it can leave is a frame state whose value somebody wants.

The module introduces:

* `FailsByKinds x` — if `x` fails, then for a reason that is not one of structure;
* `Graph.WellRun careful g g'` — a pass from `g` to `g'` looked up given names only, and `g'` is
  valid and has as many outputs as `g`;
* `Graph.WantsFrameState g` — a frame state is an output, or is read on the way to an output or to a
  node that gives elements up.

`Kernel.check_eq_error` says that structural errors come from nodes of the interpreter only, and
`Graph.shape_compilable` what shaping does to a graph that has been built.
-/

namespace TieredVectors

/-! ## Errors of typing -/

/-- Whether an error is about the nodes that there are and what they refer to. -/
def CompileError.isStructural : CompileError → Bool
  | .interpreterOnly _ _ | .forwardReference _ _ => true
  | _ => false

/-- A failure, if there is one, is no structural one. -/
def FailsByKinds {α : Type} (x : Except CompileError α) : Prop :=
  ∀ e, x = .error e → e.isStructural = false

namespace FailsByKinds

variable {α β : Type} {x : Except CompileError α} {f : α → Except CompileError β}

theorem ok (a : α) : FailsByKinds (.ok a) := fun _ h => by cases h

theorem error {e : CompileError} (h : e.isStructural = false) :
    FailsByKinds (.error e : Except CompileError α) := by
  intro e' he
  cases he
  exact h

theorem bind (hx : FailsByKinds x) (hf : ∀ a, FailsByKinds (f a)) : FailsByKinds (x >>= f) := by
  intro e he
  rcases bind_eq_error.1 he with he | ⟨a, -, he⟩
  · exact hx e he
  · exact hf a e he

theorem map (hx : FailsByKinds x) (f : α → β) : FailsByKinds (f <$> x) :=
  fun e he => hx e (map_eq_error.1 he)

end FailsByKinds

namespace Typing

variable {read : Reader}

/-! The rules themselves look at kinds only; `h` says that the nodes they read can fail in no other
way. -/

theorem failsByKinds_numeric (h : ∀ a, FailsByKinds (read a)) (a : NodeId) :
    FailsByKinds (numeric read a) := by
  refine (h a).bind fun k => ?_
  cases k with
  | boolean => exact .error rfl
  | int | double => exact .ok _

theorem failsByKinds_boolean (h : ∀ a, FailsByKinds (read a)) (a : NodeId) :
    FailsByKinds (boolean read a) := by
  refine (h a).bind fun k => ?_
  cases k with
  | boolean => exact .ok _
  | int | double => exact .error rfl

theorem failsByKinds_promoted (h : ∀ a, FailsByKinds (read a)) (a b : NodeId) :
    FailsByKinds (promoted read a b) :=
  (failsByKinds_numeric h a).bind fun _ => (failsByKinds_numeric h b).bind fun _ => .ok _

theorem failsByKinds_unary (h : ∀ a, FailsByKinds (read a)) (op : UnaryOp) (a : NodeId) :
    FailsByKinds (unary read op a) := by
  cases op with
  | neg | abs => exact failsByKinds_numeric h a
  | sqrt => exact (failsByKinds_numeric h a).bind fun _ => .ok _
  | not => exact (failsByKinds_boolean h a).bind fun _ => .ok _
  | toDouble | toInt => exact (h a).bind fun _ => .ok _

theorem failsByKinds_binary (h : ∀ a, FailsByKinds (read a)) (op : BinaryOp) (a b : NodeId) :
    FailsByKinds (binary read op a b) := by
  cases op with
  | and | or =>
    exact (failsByKinds_boolean h a).bind fun _ => (failsByKinds_boolean h b).bind fun _ => .ok _
  | div => exact (failsByKinds_promoted h a b).bind fun _ => .ok _
  | add | sub | mul | rem | min | max => exact failsByKinds_promoted h a b

theorem failsByKinds_compare (h : ∀ a, FailsByKinds (read a)) (op : CompareOp) (a b : NodeId) :
    FailsByKinds (compare read op a b) := by
  refine (h a).bind fun ka => (h b).bind fun kb => ?_
  dsimp only
  split
  · exact .ok _
  · exact (failsByKinds_promoted h a b).bind fun _ => .ok _

theorem failsByKinds_select (h : ∀ a, FailsByKinds (read a)) (c t f : NodeId) :
    FailsByKinds (select read c t f) := by
  refine (failsByKinds_boolean h c).bind fun _ => (h t).bind fun kt => (h f).bind fun kf => ?_
  split
  · exact .ok _
  · exact failsByKinds_promoted h t f

theorem failsByKinds_scope (s : Scope) (slot : Nat) : FailsByKinds (scope s slot) := by
  unfold scope
  split
  · exact .ok _
  · exact .error rfl

theorem failsByKinds_scopeElements (s : Scope) (slot : Nat) :
    FailsByKinds (scopeElements s slot) := by
  unfold scopeElements
  split
  · split
    · exact .ok _
    · exact .error rfl
  · exact .error rfl

theorem failsByKinds_element (h : ∀ a, FailsByKinds (read a)) (s : Scope) (slot : Nat)
    (index : NodeId) : FailsByKinds (element read s slot index) := by
  refine (h index).bind fun k => ?_
  cases k with
  | int => exact failsByKinds_scopeElements s slot
  | double | boolean => exact .error rfl

theorem failsByKinds_ofKinds (kinds : Array (Option Kind)) (id : NodeId) :
    FailsByKinds (ofKinds kinds id) := by
  unfold ofKinds
  split
  · exact .ok _
  · exact .error rfl

theorem failsByKinds_checkOutputs (h : ∀ a, FailsByKinds (read a)) (outs : List NodeId)
    (wants : List Kind) : FailsByKinds (checkOutputs read outs wants) := by
  induction outs generalizing wants with
  | nil => exact .ok _
  | cons out outs ih =>
    cases wants with
    | nil => exact .ok _
    | cons want wants =>
      refine (h out).bind fun k => ?_
      split
      · exact ih wants
      · exact .error rfl

end Typing

/-- A node that is not for the interpreter only is refused for its kinds only. -/
theorem Node.failsByKinds_inferKind {read : Typing.Reader} (h : ∀ a, FailsByKinds (read a))
    {node : Node} (hnode : node.isInterpreterOnly = false) (id : NodeId) (input : RowType)
    (scope : Scope) : FailsByKinds (node.inferKind id read input scope) := by
  cases node with
  | param field =>
    rw [inferKind]
    split
    · exact .ok _
    · exact .error rfl
  | const s => exact .ok _
  | scope slot => exact (Typing.failsByKinds_scope scope slot).map _
  | element slot index => exact (Typing.failsByKinds_element h scope slot index).map _
  | unary op a => exact (Typing.failsByKinds_unary h op a).map _
  | binary op a b => exact (Typing.failsByKinds_binary h op a b).map _
  | compare op a b => exact (Typing.failsByKinds_compare h op a b).map _
  | select c t f => exact (Typing.failsByKinds_select h c t f).map _
  | deoptIf c => exact (Typing.failsByKinds_boolean h c).map _
  | box _ | unbox _ | frameState _ | typeGuard _ _ => cases hnode

/-- A node of the interpreter is refused. -/
theorem Node.inferKind_of_isInterpreterOnly {node : Node} (h : node.isInterpreterOnly = true)
    (id : NodeId) (read : Typing.Reader) (input : RowType) (scope : Scope) :
    node.inferKind id read input scope = .error (.interpreterOnly id node.name) := by
  cases node with
  | box _ | unbox _ | frameState _ | typeGuard _ _ => rfl
  | _ => cases h

namespace Kernel

variable {graph : Graph} {input output : RowType} {scope : Scope} {e : CompileError}

/-- A structural error of a well-formed graph names a node that is for the interpreter only. -/
theorem check_eq_error (hw : graph.WellFormed) (h : check graph input output scope = .error e)
    (he : e.isStructural = true) :
    ∃ id node, graph.nodes[id]? = some node ∧ node.isInterpreterOnly = true ∧
      e = .interpreterOnly id node.name := by
  have hnot : ∀ {α : Type} {x : Except CompileError α}, FailsByKinds x → x ≠ .error e := by
    intro α x hx hxe
    rw [hx e hxe] at he
    cases he
  have hread (kinds : Array (Option Kind)) := Typing.failsByKinds_ofKinds kinds
  rcases bind_eq_error.1 h with hvalid | ⟨_, -, h⟩
  · rw [Graph.validate_eq_ok_iff.2 hw] at hvalid
    cases hvalid
  rcases bind_eq_error.1 h with hinfer | ⟨kinds, -, h⟩
  · -- typing stopped at a node, and for its kinds it would not have stopped so
    rw [Typing.inferFrom_eq_fill, fill_eq_error_iff] at hinfer
    obtain ⟨id, node, t, hid, hfill, hstop⟩ := hinfer
    cases hnode : node.isInterpreterOnly with
    | false =>
      exact absurd hstop (hnot (Node.failsByKinds_inferKind (hread t) hnode t.size input scope))
    | true =>
      have hsize : t.size = id := by
        have hlt := (List.getElem?_eq_some_iff.1 hid).1
        rw [(fill_spec hfill).1, List.length_take, Nat.min_eq_left (Nat.le_of_lt hlt)]
        exact Nat.zero_add id
      rw [hsize, Node.inferKind_of_isInterpreterOnly hnode] at hstop
      exact ⟨id, node, hid, hnode, (Except.error.inj hstop).symm⟩
  · split at h
    · cases h
      cases he
    · rcases bind_eq_error.1 h with houts | ⟨_, -, h⟩
      · exact absurd houts (hnot (Typing.failsByKinds_checkOutputs (hread kinds) _ _))
      · cases h

end Kernel

/-! ## Shaped graphs -/

namespace Graph

variable {g g' : Graph}

/-- A pass has looked up names that were given only, and has made a valid graph with as many outputs
as there were. -/
structure WellRun (careful : Option Graph) (g g' : Graph) : Prop where
  lookups : careful = some g'
  valid : g'.validate = .ok ()
  outputs : g'.outputs.length = g.outputs.length

/-- A frame state is an output, or is reached from an output or a node that gives elements up. -/
def WantsFrameState (g : Graph) : Prop :=
  ∃ id values, g.nodes[id]? = some (.frameState values) ∧ g.Needed id

theorem wellRun_dropDead (hw : g.WellFormed) : WellRun g.dropDead? g g.dropDead :=
  ⟨dropDead?_eq_some hw, validate_eq_ok_iff.2 hw.dropDead, List.length_map _⟩

theorem wellRun_dropFrameStates (hw : g.WellFormed) :
    WellRun g.dropFrameStates? g g.dropFrameStates :=
  ⟨dropFrameStates?_eq_some hw, validate_eq_ok_iff.2 hw.dropFrameStates, List.length_map _⟩

theorem wellRun_dropTypeGuards (hw : g.WellFormed) :
    WellRun g.dropTypeGuards? g g.dropTypeGuards :=
  ⟨dropTypeGuards?_eq_some hw, validate_eq_ok_iff.2 hw.dropTypeGuards, List.length_map _⟩

theorem wellRun_dropBoxes (hw : g.WellFormed) : WellRun g.dropBoxes? g g.dropBoxes :=
  ⟨dropBoxes?_eq_some hw, validate_eq_ok_iff.2 hw.dropBoxes, List.length_map _⟩

theorem wellRun_shape (hw : g.WellFormed) : WellRun g.shape? g g.shape where
  lookups := shape?_eq_some hw
  valid := validate_eq_ok_iff.2 (shape_folds hw).2
  outputs := by
    obtain ⟨rename, hfolds⟩ := (shape_folds hw).1
    rw [hfolds.outputs, List.length_map]
    rfl

/-- A shaped graph has a frame state just if one was wanted. -/
theorem exists_frameState_shape_iff (h : g.Anchored) :
    (∃ node ∈ g.shape.nodes, node.isFrameState = true) ↔ g.WantsFrameState := by
  obtain ⟨rename, hfolds⟩ := h.shape_folds
  constructor
  · rintro ⟨node', hnode', hframe⟩
    obtain ⟨j, hj⟩ := List.mem_iff_getElem?.1 hnode'
    obtain ⟨id, node, hid, hneeded, -, rfl⟩ := hfolds.onto hj
    cases node with
    | frameState values => exact ⟨id, values, hid, hneeded⟩
    | _ => cases hframe
  · rintro ⟨id, values, hid, hneeded⟩
    -- a frame state does not pass an operand on, so it stands in the shaped graph
    rcases hfolds.image hid hneeded with ⟨a, ha, -⟩ | hnode
    · cases ha
    · exact ⟨_, List.mem_of_getElem? hnode, rfl⟩

/-- Of the nodes of the interpreter only frame states can be left in a shaped graph. -/
theorem isFrameState_of_mem_shape (hw : g.WellFormed) {node : Node} (hnode : node ∈ g.shape.nodes)
    (h : node.isInterpreterOnly = true) : node.isFrameState = true := by
  have hoperand := operand?_eq_none_of_mem_shape hw hnode
  cases node with
  | frameState _ => rfl
  | box _ | unbox _ | typeGuard _ _ => cases hoperand
  | _ => cases h

/-- Shaping a graph that has been built.

* Every pass and shaping as a whole look up names that were given only, and give a valid graph with
  as many outputs.
* No box and no type guard is left.
* The anchors of the shaped graph are its nodes that give elements up. They are those of the graph,
  in their order, each asking for the new name of its condition.
* A frame state is left just if one is wanted.
* Compiling the shaped graph never fails for a reference to a later node, and it fails for a node of
  the interpreter only if a frame state is wanted. -/
theorem shape_compilable {nodes : List Node} {outputs : List NodeId}
    (h : build nodes outputs = .ok g) :
    (WellRun g.dropFrameStates? g g.dropFrameStates ∧ WellRun g.dropTypeGuards? g g.dropTypeGuards ∧
      WellRun g.dropBoxes? g g.dropBoxes ∧ WellRun g.dropDead? g g.dropDead ∧
      WellRun g.shape? g g.shape) ∧
    (∀ node ∈ g.shape.nodes, ∀ a kind,
      node ≠ .box a ∧ node ≠ .unbox a ∧ node ≠ .typeGuard a kind) ∧
    (∃ rename, Folds g.Needed rename g.withoutFrameAnchors g.shape ∧
      (∀ id c, g.nodes[id]? = some (.deoptIf c) →
        g.shape.nodes[rename id]? = some (.deoptIf (rename c))) ∧
      g.shape.anchors = g.deopts.map rename ∧ g.shape.anchors = g.shape.deopts) ∧
    ((∃ node ∈ g.shape.nodes, node.isFrameState = true) ↔ g.WantsFrameState) ∧
    ∀ input output scope e, Kernel.check g.shape input output scope = .error e →
      (∀ reader read, e ≠ .forwardReference reader read) ∧
      ∀ id name, e = .interpreterOnly id name → g.WantsFrameState := by
  have hanchored := anchored_of_build h
  have hw := hanchored.wellFormed
  refine ⟨⟨wellRun_dropFrameStates hw, wellRun_dropTypeGuards hw, wellRun_dropBoxes hw,
    wellRun_dropDead hw, wellRun_shape hw⟩, ?_, ?_, exists_frameState_shape_iff hanchored, ?_⟩
  · intro node hnode a kind
    have hoperand := operand?_eq_none_of_mem_shape hw hnode
    refine ⟨?_, ?_, ?_⟩ <;> rintro rfl <;> cases hoperand
  · obtain ⟨rename, hfolds⟩ := hanchored.shape_folds
    refine ⟨rename, hfolds, fun id c hid => ?_, ?_, anchors_shape_eq_deopts h⟩
    · rcases hfolds.image hid (.deopt hid) with ⟨a, ha, -⟩ | hnode
      · cases ha
      · exact hnode
    · rw [hfolds.anchors, anchors_withoutFrameAnchors_of_build h]
  · intro input output scope e he
    have hstructural := Kernel.check_eq_error (shape_folds hw).2 he
    constructor
    · rintro reader read rfl
      obtain ⟨id, node, -, -, hother⟩ := hstructural rfl
      cases hother
    · rintro id name rfl
      obtain ⟨id, node, hid, hnode, -⟩ := hstructural rfl
      have hmem := List.mem_of_getElem? hid
      exact (exists_frameState_shape_iff hanchored).1
        ⟨node, hmem, isFrameState_of_mem_shape hw hmem hnode⟩

/-- Twice a guarded number that has to be positive, with the state to resume from. The state is also
read by a guard that is read by nothing. -/
def guardedDouble : Graph where
  nodes := [.param 0, .box 0, .typeGuard 1 .int, .frameState [2], .unbox 2, .const (.int 0),
    .compare .le 4 5, .deoptIf 6, .typeGuard 3 .int, .binary .add 4 0]
  outputs := [9]
  anchors := [3, 7]

theorem shape_compilable_guardedDouble :
    build guardedDouble.nodes [9] = .ok guardedDouble ∧
      WellRun guardedDouble.shape? guardedDouble guardedDouble.shape ∧
      ¬ guardedDouble.WantsFrameState ∧
      guardedDouble.shape.anchors = [3] ∧
      ∀ input output scope e, Kernel.check guardedDouble.shape input output scope = .error e →
        (∀ reader read, e ≠ .forwardReference reader read) ∧
        ∀ id name, e ≠ .interpreterOnly id name := by
  have hbuild : build guardedDouble.nodes [9] = .ok guardedDouble := rfl
  obtain ⟨⟨-, -, -, -, hrun⟩, -, -, hframe, herror⟩ := shape_compilable hbuild
  have hnone : ¬ guardedDouble.WantsFrameState := fun hwants => by
    obtain ⟨node, hnode, hstate⟩ := hframe.2 hwants
    have hall : ∀ node ∈ guardedDouble.shape.nodes, node.isFrameState = false := by decide
    rw [hall node hnode] at hstate
    cases hstate
  refine ⟨hbuild, hrun, hnone, rfl, fun input output scope e he => ?_⟩
  obtain ⟨hforward, honly⟩ := herror input output scope e he
  exact ⟨hforward, fun id name hname => hnone (honly id name hname)⟩

end Graph

end TieredVectors
