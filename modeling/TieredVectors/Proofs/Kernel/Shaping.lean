import TieredVectors.Proofs.Kernel.Lowered

/-!
# Shaping keeps the meaning of a graph

A graph that has been built and can be typed as a lowered graph can be compiled once it is shaped,
and the kernel computes, row by row, what the lowered graph computes.

* `Lowered.folds_needed` — the shaped graph is folded from the needed nodes;
* `Lowered.inferFrom_shape`, `Lowered.evalFrom_shape` — every needed node has in the shaped graph
  the kind and the value that it had;
* `Lowered.shape_preserves_meaning` — the kernel of the shaped graph gives a row up exactly when a
  needed node does, and otherwise gives the output row of the lowered graph.
-/

namespace TieredVectors

namespace Kernel

/-- Outputs that can all be read give an output row. -/
theorem exists_collect {read : Evaluation.Reader} {outs : List NodeId} (kinds : List Kind)
    (h : ∀ out ∈ outs, ∃ s, read out = .ok s) : ∃ r, collect read outs kinds = .ok r := by
  induction outs generalizing kinds with
  | nil => exact ⟨[], rfl⟩
  | cons out outs ih =>
    cases kinds with
    | nil => exact ⟨[], rfl⟩
    | cons kind kinds =>
      obtain ⟨s, hs⟩ := h out List.mem_cons_self
      obtain ⟨r, hr⟩ := ih kinds fun o ho => h o (.tail out ho)
      exact ⟨s.widen kind :: r, by rw [collect, hs, hr]; rfl⟩

/-- Outputs may be renamed, if they are read under their new names. -/
theorem collect_map {read read' : Evaluation.Reader} {rename : NodeId → NodeId} {outs : List NodeId}
    (kinds : List Kind) (h : ∀ out ∈ outs, read' (rename out) = read out) :
    collect read' (outs.map rename) kinds = collect read outs kinds := by
  induction outs generalizing kinds with
  | nil => rfl
  | cons out outs ih =>
    cases kinds with
    | nil => rfl
    | cons kind kinds =>
      rw [List.map_cons, collect, collect, h out List.mem_cons_self,
        ih kinds fun o ho => h o (.tail out ho)]

/-- What it takes to type a graph. -/
theorem check_eq_ok {graph : Graph} {input output : RowType} {scope : Scope}
    {kinds : Array (Option Kind)} (hw : graph.WellFormed)
    (hkinds : Typing.inferFrom input scope #[] graph.nodes = .ok kinds)
    (hwidth : graph.outputs.length = output.width)
    (houts : Typing.checkOutputs (Typing.ofKinds kinds) graph.outputs output.kinds = .ok ()) :
    check graph input output scope = .ok { graph, input, output, kinds } := by
  rw [check, Graph.validate_eq_ok_iff.2 hw, hkinds]
  simp [hwidth, houts, bind, Except.bind, pure, Except.pure]

end Kernel

/-- A node that has a kind has a value, wherever it has an outcome. -/
theorem Node.isSome_of_eval {node : Node} {id : NodeId} {read : Typing.Reader} {input : RowType}
    {scope scope' : Scope} {k : Kind} (hk : node.inferKind id read input scope = .ok (some k))
    {kind : Option Kind} {values : Evaluation.Reader} {row : List Scalar} {v : Option Scalar}
    (hv : node.eval kind values row scope' = .ok v) : v.isSome := by
  cases node <;>
    simp only [inferKind, eval, map_eq_ok, bind_eq_ok, pure_eq_ok, Except.ok.injEq, reduceCtorEq,
      and_false, exists_false] at hk hv <;> grind

namespace Lowered

variable {g : Graph} {input output : RowType} {scope scope' : Scope} {kinds : Array (Option Kind)}
  {row : List Scalar} {nodes : List Node} {outputs : List NodeId}

/-- In a graph that has been typed, a node with a kind has a value, unless it gives the row up. -/
theorem isSome_of_outcome (hw : g.WellFormed) (ht : check g input output scope = .ok kinds)
    (id : NodeId) {k : Kind} (hk : kinds.getD id none = some k) {v : Option Scalar}
    (hv : outcome g kinds row scope' id = .ok v) : v.isSome := by
  -- on the node: one that passes its operand on has its value from an earlier node
  induction id using Nat.strongRecOn with
  | ind id ih =>
    obtain ⟨hsize, hkind⟩ := kind_of_check hw ht
    have hlt : id < g.size := by
      refine Nat.lt_of_not_le fun hge => ?_
      simp [Array.getD_eq_getD_getElem?, hsize, hge] at hk
    have hnode : g.nodes[id]? = some _ := List.getElem?_eq_getElem hlt
    replace hkind := hkind id _ hnode
    rw [outcome_eq_step hw hsize hnode] at hv
    generalize g.nodes[id] = node at hnode hkind hv
    cases ho : node.operand? with
    | some a =>
      rw [kind_of_operand ho, Except.ok.injEq] at hkind
      rw [step_of_operand ho] at hv
      exact ih a (hw.inputs id node hnode a (Node.mem_inputs_of_operand? ho)) (hkind.trans hk) hv
    | none =>
      have hframe := isFrameState_eq_false hw ht hnode (.inl ⟨k, hk⟩)
      obtain ⟨-, -, hown⟩ := bind_eq_ok.1 hv
      rw [operate_of_operand_eq_none ho hframe] at hown
      rw [kind_of_operand_eq_none ho hframe, hk] at hkind
      exact Node.isSome_of_eval hkind hown

/-- The shaped graph is folded from the needed nodes. -/
theorem folds_needed (hg : Graph.build nodes outputs = .ok g) :
    ∃ rename, Graph.Folds g.Needed rename g.withoutFrameAnchors g.shape :=
  (Graph.anchored_of_build hg).shape_folds

/-- A needed node that stands in the shaped graph has a rule of its own. -/
theorem operand?_eq_none_of_needed (hw : g.WellFormed)
    (ht : check g input output scope = .ok kinds) {rename : NodeId → NodeId} {id : NodeId}
    {node : Node} (hid : g.nodes[id]? = some node) (hneed : g.Needed id)
    (hshape : node.mapInputs rename ∈ g.shape.nodes) :
    node.operand? = none ∧ node.isFrameState = false :=
  ⟨by simpa using Graph.operand?_eq_none_of_mem_shape hw hshape,
    isFrameState_eq_false hw ht hid (kind_of_needed hw ht hneed)⟩

/-- Every needed node has in the shaped graph the kind that it had. -/
theorem inferFrom_shape (hg : Graph.build nodes outputs = .ok g)
    (ht : check g input output scope = .ok kinds) {rename : NodeId → NodeId}
    (hfolds : Graph.Folds g.Needed rename g.withoutFrameAnchors g.shape) :
    ∃ kinds', Typing.inferFrom input scope #[] g.shape.nodes = .ok kinds' ∧
      ∀ id, g.Needed id → kinds'.getD (rename id) none = kinds.getD id none := by
  obtain ⟨-, hw⟩ := Graph.build_eq_ok_iff.1 hg
  have hknown : Graph.Folds.Known g.Needed rename g.withoutFrameAnchors
      (fun id node look => node.inferKind id (Typing.ofLookup look) input scope) g.shape.nodes id
      (fun id => .ok (kinds.getD id none)) := by
    refine ⟨fun {id a node} hid _ ho => ?_, fun {id node item look} hid hneed hitem hnode hin => ?_⟩
    · have := (kind_of_check hw ht).2 id node hid
      rwa [kind_of_operand ho, eq_comm] at this
    · obtain rfl : item = node.mapInputs rename := hnode
      obtain ⟨ho, hf⟩ := operand?_eq_none_of_needed hw ht hid hneed (List.mem_of_getElem? hitem)
      have hkind := (kind_of_check hw ht).2 id node hid
      rw [kind_of_operand_eq_none ho hf] at hkind
      -- the inputs have a kind, so they are read alike under both names
      have hread : ∀ a ∈ node.inputs,
          (Typing.ofLookup look ∘ rename) a = Typing.ofLookup (kinds.getD · none) a := by
        intro a ha
        obtain ⟨k, hk⟩ := Node.exists_kind_of_inferKind hkind ha
        have hsome : kinds.getD a none = some k := Typing.ofKinds_eq_ok_iff.1 hk
        have hlook : look (rename a) = some k := by
          rw [← hsome]
          exact (Except.ok.inj (hin a ha)).symm
        rw [hk, Function.comp_apply, Typing.ofLookup, hlook]
      have hsame := Node.toOption_inferKind_mapInputs node id (rename id) (Typing.ofLookup look)
        rename input scope
      rw [Node.inferKind_congr hread, hkind] at hsame
      exact toOption_eq_some_iff.1 hsame
  rcases hfolds.fill hw.withoutFrameAnchors (Graph.shape_folds hw).2
      (fun _ => Graph.lt_size_of_needed hg) (List.map_id _) hknown with
    ⟨kinds', hfill, hall⟩ | ⟨e, id, -, -, hbad⟩
  · exact ⟨kinds', by rw [Typing.inferFrom_eq_fill, hfill],
      fun id hid => (Except.ok.inj (hall id hid)).symm⟩
  · cases hbad

/-- Every needed node has in the shaped graph the value that it had, or one of them gives the row
up and the evaluation of the shaped graph stops with its reason. -/
theorem evalFrom_shape (hg : Graph.build nodes outputs = .ok g)
    (ht : check g input output scope = .ok kinds) {rename : NodeId → NodeId}
    (hfolds : Graph.Folds g.Needed rename g.withoutFrameAnchors g.shape)
    {kinds' : Array (Option Kind)} (hsize : kinds'.size = g.shape.size)
    (hkinds : ∀ id, g.Needed id → kinds'.getD (rename id) none = kinds.getD id none)
    (row : List Scalar) (scope' : Scope) :
    (∃ values, Evaluation.evalFrom row scope' #[] (g.shape.nodes.zip kinds'.toList) = .ok values ∧
      ∀ id, g.Needed id → outcome g kinds row scope' id = .ok (values.getD (rename id) none)) ∨
    ∃ e id, Evaluation.evalFrom row scope' #[] (g.shape.nodes.zip kinds'.toList) = .error e ∧
      g.Needed id ∧ outcome g kinds row scope' id = .error e := by
  obtain ⟨-, hw⟩ := Graph.build_eq_ok_iff.1 hg
  have hitems : (g.shape.nodes.zip kinds'.toList).map Prod.fst = g.shape.nodes :=
    List.map_fst_zip (by simp [hsize, Graph.size])
  have hknown : Graph.Folds.Known g.Needed rename g.withoutFrameAnchors
      (fun _ item look => item.1.eval item.2 (Evaluation.ofLookup look) row scope')
      (g.shape.nodes.zip kinds'.toList) Prod.fst (outcome g kinds row scope') := by
    obtain ⟨hsize₀, -⟩ := kind_of_check hw ht
    refine ⟨fun {id a node} hid _ ho => ?_, fun {id node item look} hid hneed hitem hnode hin => ?_⟩
    · rw [outcome_eq_step hw hsize₀ hid, step_of_operand ho]
    · obtain ⟨node', kind⟩ := item
      obtain rfl : node' = node.mapInputs rename := hnode
      obtain ⟨hshape, hkind⟩ := List.getElem?_zip_eq_some.1 hitem
      obtain rfl : kind = kinds.getD id none := by
        rw [← hkinds id hneed, Array.getD_eq_getD_getElem?]
        simp [← Array.getElem?_toList, hkind]
      obtain ⟨ho, hf⟩ := operand?_eq_none_of_needed hw ht hid hneed (List.mem_of_getElem? hshape)
      rw [outcome_eq_step hw hsize₀ hid, step_of_values ho hf hin, Node.eval_mapInputs]
      rfl
  rw [Evaluation.evalFrom_eq_fill]
  exact hfolds.fill hw.withoutFrameAnchors (Graph.shape_folds hw).2
    (fun _ => Graph.lt_size_of_needed hg) hitems hknown

/-- The shaped graph can be typed, with the kinds that the needed nodes had. -/
theorem check_shape (hg : Graph.build nodes outputs = .ok g)
    (ht : check g input output scope = .ok kinds) {rename : NodeId → NodeId}
    (hfolds : Graph.Folds g.Needed rename g.withoutFrameAnchors g.shape) :
    ∃ kinds', Kernel.check g.shape input output scope =
        .ok { graph := g.shape, input, output, kinds := kinds' } ∧
      kinds'.size = g.shape.size ∧
      ∀ id, g.Needed id → kinds'.getD (rename id) none = kinds.getD id none := by
  obtain ⟨-, hw⟩ := Graph.build_eq_ok_iff.1 hg
  obtain ⟨kinds', hinfer, hkinds⟩ := inferFrom_shape hg ht hfolds
  obtain ⟨hwidth, hout⟩ := outputs_of_check ht
  have houtputs : g.shape.outputs = g.outputs.map rename := hfolds.outputs
  have hsize : kinds'.size = g.shape.size := by
    rw [Typing.inferFrom_eq_fill] at hinfer
    simpa [Graph.size] using (fill_spec hinfer).1
  refine ⟨kinds', Kernel.check_eq_ok (Graph.shape_folds hw).2 hinfer ?_ ?_, hsize, hkinds⟩
  · rw [houtputs, List.length_map, hwidth]
  · rw [houtputs, Typing.checkOutputs_eq_ok_iff]
    intro i out want hi hwant
    rw [List.getElem?_map, Option.map_eq_some_iff] at hi
    obtain ⟨id, hid, rfl⟩ := hi
    obtain ⟨k, hk, hfit⟩ := Typing.checkOutputs_eq_ok_iff.1 hout i id want hid hwant
    refine ⟨k, ?_, hfit⟩
    rw [Typing.ofKinds_eq_ok_iff, hkinds id (.output (List.mem_of_getElem? hid))]
    exact Typing.ofKinds_eq_ok_iff.1 hk

/-- The outputs of a typed graph have a value, unless they give the row up. -/
theorem exists_run (hw : g.WellFormed) (ht : check g input output scope = .ok kinds)
    (h : ∀ id, g.Needed id → ¬ GivesUp g kinds row scope' id) :
    ∃ r, run g output kinds row scope' = .ok r := by
  refine Kernel.exists_collect _ fun out hout => ?_
  obtain ⟨hwidth, hcheck⟩ := outputs_of_check ht
  obtain ⟨k, hk⟩ := Typing.exists_kind_of_checkOutputs hcheck hwidth hout
  cases hv : outcome g kinds row scope' out with
  | error e => exact absurd ⟨e, hv⟩ (h out (.output hout))
  | ok v =>
    have hsome := isSome_of_outcome hw ht out (Typing.ofKinds_eq_ok_iff.1 hk) hv
    obtain ⟨s, rfl⟩ := Option.isSome_iff_exists.1 hsome
    exact ⟨s, rfl⟩

/-- A graph that has been built and that can be typed as a lowered graph can be compiled once it is
shaped. If no node gives a row up, the kernel gives the lowered graph's output row, and the kernel
gives a row up exactly when a node that an output or a condition to give elements up needs does. -/
theorem shape_preserves_meaning (hg : Graph.build nodes outputs = .ok g)
    (ht : check g input output scope = .ok kinds) :
    ∃ k, Kernel.check g.shape input output scope = .ok k ∧
      ∀ (row : List Scalar) (scope' : Scope),
        ((∀ id < g.size, ¬ GivesUp g kinds row scope' id) →
          ∃ r, run g output kinds row scope' = .ok r ∧ k.run row scope' = .ok r) ∧
        ((∃ e, k.run row scope' = .error e) ↔
          ∃ id, g.Needed id ∧ GivesUp g kinds row scope' id) := by
  obtain ⟨-, hw⟩ := Graph.build_eq_ok_iff.1 hg
  obtain ⟨rename, hfolds⟩ := folds_needed hg
  obtain ⟨kinds', hcheck, hsize, hkinds⟩ := check_shape hg ht hfolds
  refine ⟨_, hcheck, fun row scope' => ?_⟩
  rcases evalFrom_shape hg ht hfolds hsize hkinds row scope' with
    ⟨values, heval, hvalues⟩ | ⟨e, id, heval, hneed, hup⟩
  · -- no needed node gives the row up, so the outputs are there
    have hnone : ∀ id, g.Needed id → ¬ GivesUp g kinds row scope' id := by
      rintro id hid ⟨e, he⟩
      rw [hvalues id hid] at he
      cases he
    obtain ⟨r, hr⟩ := exists_run hw ht hnone
    have hrun : Kernel.run { graph := g.shape, input, output, kinds := kinds' } row scope' =
        .ok r := by
      rw [Kernel.run, heval, ← hr, run]
      refine (congrArg (Kernel.collect _ · _) hfolds.outputs).trans ?_
      refine Kernel.collect_map _ fun out hout => ?_
      rw [hvalues out (.output hout)]
      rfl
    refine ⟨fun _ => ⟨r, hr, hrun⟩, ?_⟩
    rw [hrun]
    exact iff_of_false (by simp) fun ⟨id, hid, hup⟩ => hnone id hid hup
  · -- the kernel stops where a needed node gives the row up
    have hrun : Kernel.run { graph := g.shape, input, output, kinds := kinds' } row scope' =
        .error e := by
      rw [Kernel.run, heval]
      rfl
    refine ⟨fun hall => absurd ⟨e, hup⟩ (hall id (Graph.lt_size_of_needed hg hneed)), ?_⟩
    exact iff_of_true ⟨e, hrun⟩ ⟨id, hneed, e, hup⟩

/-- The increment of a boxed and guarded word, which gives up results above ten: every sort of node
that shaping removes stands between the parameter and the output. -/
def guardedIncrement : Graph where
  nodes := [.param 0, .box 0, .typeGuard 1 .int, .frameState [2], .unbox 2, .const (.int 1),
    .binary .add 4 5, .const (.int 10), .compare .gt 6 7, .deoptIf 8]
  outputs := [6]
  anchors := [3, 9]

theorem shape_preserves_meaning_increment :
    Graph.build guardedIncrement.nodes [6] = .ok guardedIncrement ∧
      ∃ kinds, check guardedIncrement (.scalar .int) (.scalar .int) [] = .ok kinds ∧
      ∃ k, Kernel.check guardedIncrement.shape (.scalar .int) (.scalar .int) [] = .ok k ∧
        ∀ (row : List Scalar) (scope' : Scope),
          ((∀ id < guardedIncrement.size, ¬ GivesUp guardedIncrement kinds row scope' id) →
            ∃ r, run guardedIncrement (.scalar .int) kinds row scope' = .ok r ∧
              k.run row scope' = .ok r) ∧
          ((∃ e, k.run row scope' = .error e) ↔
            ∃ id, guardedIncrement.Needed id ∧ GivesUp guardedIncrement kinds row scope' id) := by
  have hg : Graph.build guardedIncrement.nodes [6] = .ok guardedIncrement := rfl
  have ht : check guardedIncrement (.scalar .int) (.scalar .int) [] = .ok _ := rfl
  exact ⟨hg, _, ht, shape_preserves_meaning hg ht⟩

end Lowered

end TieredVectors
