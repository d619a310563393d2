import TieredVectors.Proofs.Kernel.Filling
import TieredVectors.Proofs.Kernel.Nodes

/-!
# Lowered graphs

The meaning of a graph before it is shaped. Boxes, unboxes and type guards have the kind and the
value of their operand, and a frame state has no value. A row is evaluated node by node, and every
node has an outcome: it gives the row up if its own operation does or if a node that it reads has
given it up.

* `Lowered.check` — the kinds of the nodes, if the graph can be typed;
* `Lowered.outcome` — what becomes of a row at one node;
* `Lowered.run` — the output row.
-/

namespace TieredVectors

namespace Lowered

/-- The kind of node `id` of a lowered graph, or none if it has no value. -/
def kind (node : Node) (id : NodeId) (look : NodeId → Option Kind) (input : RowType)
    (scope : Scope) : Except CompileError (Option Kind) :=
  match node with
  | .box a | .unbox a | .typeGuard a _ => .ok (look a)
  | .frameState _ => .ok none
  | node => node.inferKind id (Typing.ofLookup look) input scope

/-- Type a lowered graph for input rows, output rows and a captured scope. -/
def check (g : Graph) (input output : RowType) (scope : Scope) :
    Except CompileError (Array (Option Kind)) := do
  let kinds ← fill (fun id node look => kind node id look input scope) none #[] g.nodes
  if g.outputs.length ≠ output.width then
    throw (.outputArity output.width g.outputs.length)
  Typing.checkOutputs (Typing.ofKinds kinds) g.outputs output.kinds
  return kinds

/-- What becomes of a row at a node: the node's value, if it has one, or why the row is given up. -/
abbrev Outcome := Except GiveUp (Option Scalar)

/-- Give the row up if one of the given nodes has. -/
def inputsPass (look : NodeId → Outcome) : List NodeId → Except GiveUp Unit
  | [] => .ok ()
  | a :: rest => do
    let _ ← look a
    inputsPass look rest

/-- What a node's own operation makes of the outcomes of its inputs. -/
def operate (node : Node) (kind : Option Kind) (look : NodeId → Outcome) (row : List Scalar)
    (scope : Scope) : Outcome :=
  match node with
  | .box a | .unbox a | .typeGuard a _ => look a
  | .frameState _ => .ok none
  | node => node.eval kind (fun a => look a >>= Evaluation.require .illTyped) row scope

/-- The outcome of a node whose inputs have the given outcomes. -/
def step (node : Node) (kind : Option Kind) (look : NodeId → Outcome) (row : List Scalar)
    (scope : Scope) : Outcome := do
  inputsPass look node.inputs
  operate node kind look row scope

/-- The outcomes of all nodes of a graph whose nodes have the given kinds. -/
def outcomes (g : Graph) (kinds : Array (Option Kind)) (row : List Scalar) (scope : Scope) :
    Array Outcome :=
  (g.nodes.zip kinds.toList).foldl
    (fun done item => done.push (step item.1 item.2 (done.getD · (.ok none)) row scope)) #[]

/-- The outcome of a node. -/
def outcome (g : Graph) (kinds : Array (Option Kind)) (row : List Scalar) (scope : Scope)
    (id : NodeId) : Outcome :=
  (outcomes g kinds row scope).getD id (.ok none)

/-- A node gives the row up. -/
def GivesUp (g : Graph) (kinds : Array (Option Kind)) (row : List Scalar) (scope : Scope)
    (id : NodeId) : Prop :=
  ∃ reason, outcome g kinds row scope id = .error reason

/-- The output row, if none of the outputs gives the row up. -/
def run (g : Graph) (output : RowType) (kinds : Array (Option Kind)) (row : List Scalar)
    (scope : Scope) : Except GiveUp (List Scalar) :=
  Kernel.collect (fun id => outcome g kinds row scope id >>= Evaluation.require .illTyped)
    g.outputs output.kinds

variable {g : Graph} {input output : RowType} {scope scope' : Scope} {kinds : Array (Option Kind)}
  {row : List Scalar} {id a : NodeId} {node : Node}

/-! ## Kinds -/

/-- A node that passes its operand on has its kind. -/
theorem kind_of_operand {look : NodeId → Option Kind} (h : node.operand? = some a) :
    kind node id look input scope = .ok (look a) := by
  cases node <;> simp_all [kind, Node.operand?]

/-- A frame state has no value. -/
theorem kind_of_isFrameState {look : NodeId → Option Kind} (h : node.isFrameState = true) :
    kind node id look input scope = .ok none := by
  cases node <;> simp_all [kind, Node.isFrameState]

/-- Any other node is typed as in a kernel. -/
theorem kind_of_operand_eq_none {look : NodeId → Option Kind} (h : node.operand? = none)
    (hf : node.isFrameState = false) :
    kind node id look input scope = node.inferKind id (Typing.ofLookup look) input scope := by
  cases node <;> simp_all [kind, Node.operand?, Node.isFrameState]

theorem kind_congr {look look' : NodeId → Option Kind} (h : ∀ a ∈ node.inputs, look a = look' a) :
    kind node id look input scope = kind node id look' input scope := by
  cases ho : node.operand? with
  | some a => rw [kind_of_operand ho, kind_of_operand ho, h a (Node.mem_inputs_of_operand? ho)]
  | none =>
    cases hf : node.isFrameState with
    | true => rw [kind_of_isFrameState hf, kind_of_isFrameState hf]
    | false =>
      rw [kind_of_operand_eq_none ho hf, kind_of_operand_eq_none ho hf]
      refine Node.inferKind_congr fun a ha => ?_
      rw [Typing.ofLookup, Typing.ofLookup, h a ha]

/-- The kinds of a graph that has been typed: one for each node, and each what the rule for its node
gives with the others. -/
theorem kind_of_check (hw : g.WellFormed) (h : check g input output scope = .ok kinds) :
    kinds.size = g.size ∧ ∀ id node, g.nodes[id]? = some node →
      kind node id (kinds.getD · none) input scope = .ok (kinds.getD id none) := by
  obtain ⟨kinds', hfill, hrest⟩ := bind_eq_ok.1 h
  obtain rfl : kinds' = kinds := by
    split at hrest
    · cases hrest
    · obtain ⟨-, -, hkinds⟩ := bind_eq_ok.1 hrest
      exact pure_eq_ok.1 hkinds
  obtain ⟨hsize, -, hkind⟩ := fill_spec hfill
  refine ⟨by simpa [Graph.size] using hsize, fun id node hid => ?_⟩
  obtain ⟨look, hlook, hk⟩ := hkind id node hid
  simp only [List.size_toArray, List.length_nil, Nat.zero_add] at hlook hk
  rw [← hk]
  -- the rule saw the nodes before this one, and the node reads no others
  exact kind_congr fun a ha => (hlook a (hw.inputs id node hid a ha)).symm

/-- The outputs of a graph that has been typed are as many as the fields of an output row, and of
their kinds. -/
theorem outputs_of_check (h : check g input output scope = .ok kinds) :
    g.outputs.length = output.width ∧
      Typing.checkOutputs (Typing.ofKinds kinds) g.outputs output.kinds = .ok () := by
  obtain ⟨kinds', -, hrest⟩ := bind_eq_ok.1 h
  split at hrest
  · cases hrest
  next hwidth =>
    obtain ⟨⟨⟩, hout, hkinds⟩ := bind_eq_ok.1 hrest
    rw [← pure_eq_ok.1 hkinds]
    exact ⟨Decidable.not_not.1 hwidth, hout⟩

/-- A node that has a kind or that gives elements up is no frame state. -/
theorem isFrameState_eq_false (hw : g.WellFormed) (h : check g input output scope = .ok kinds)
    (hid : g.nodes[id]? = some node)
    (hk : (∃ k, kinds.getD id none = some k) ∨ ∃ c, g.nodes[id]? = some (.deoptIf c)) :
    node.isFrameState = false := by
  rw [← Bool.not_eq_true]
  intro hf
  have hkind := (kind_of_check hw h).2 id node hid
  rw [kind_of_isFrameState hf, Except.ok.injEq] at hkind
  rcases hk with ⟨k, hk⟩ | ⟨c, hc⟩
  · simp [← hkind] at hk
  · rw [hid, Option.some.injEq] at hc
    simp [hc, Node.isFrameState] at hf

/-- A needed node of a graph that has been typed has a value, unless it is one that gives elements
up. -/
theorem kind_of_needed (hw : g.WellFormed) (h : check g input output scope = .ok kinds)
    (hid : g.Needed id) :
    (∃ k, kinds.getD id none = some k) ∨ ∃ c, g.nodes[id]? = some (.deoptIf c) := by
  induction hid with
  | @output id ho =>
    obtain ⟨hwidth, hout⟩ := outputs_of_check h
    obtain ⟨k, hk⟩ := Typing.exists_kind_of_checkOutputs hout hwidth ho
    exact Or.inl ⟨k, Typing.ofKinds_eq_ok_iff.1 hk⟩
  | deopt hd => exact Or.inr ⟨_, hd⟩
  | @input id a node _ hnode ha ih =>
    left
    have hkind := (kind_of_check hw h).2 id node hnode
    cases ho : node.operand? with
    | some b =>
      obtain rfl : a = b := by simpa [Node.inputs_of_operand? ho] using ha
      rw [kind_of_operand ho, Except.ok.injEq] at hkind
      rcases ih with ⟨k, hk⟩ | ⟨c, hc⟩
      · exact ⟨k, hkind.trans hk⟩
      · rw [hnode, Option.some.injEq] at hc
        simp [hc, Node.operand?] at ho
    | none =>
      rw [kind_of_operand_eq_none ho (isFrameState_eq_false hw h hnode ih)] at hkind
      obtain ⟨k, hk⟩ := Node.exists_kind_of_inferKind hkind ha
      exact ⟨k, Typing.ofKinds_eq_ok_iff.1 hk⟩

/-! ## Outcomes -/

variable {kind : Option Kind} {look look' : NodeId → Outcome}

/-- The inputs pass iff each of them has an outcome. -/
theorem inputsPass_eq_ok_iff {ids : List NodeId} :
    inputsPass look ids = .ok () ↔ ∀ a ∈ ids, ∃ v, look a = .ok v := by
  induction ids with
  | nil => simp [inputsPass]
  | cons a rest ih => rw [inputsPass, bind_eq_ok, List.forall_mem_cons, ← ih, exists_and_right]

theorem inputsPass_congr {ids : List NodeId} (h : ∀ a ∈ ids, look a = look' a) :
    inputsPass look ids = inputsPass look' ids := by
  induction ids with
  | nil => rfl
  | cons a rest ih =>
    rw [inputsPass, inputsPass, h a List.mem_cons_self, ih fun b hb => h b (.tail a hb)]

/-- A node that passes its operand on has its outcome. -/
theorem step_of_operand (h : node.operand? = some a) : step node kind look row scope = look a := by
  have hown : operate node kind look row scope = look a := by
    cases node <;> simp_all [operate, Node.operand?]
  rw [step, hown, Node.inputs_of_operand? h]
  cases hl : look a with
  | error e => simp [inputsPass, hl, bind, Except.bind]
  | ok v => simp [inputsPass, hl, bind, Except.bind]

/-- Any other node that is no frame state does what its operation in a kernel does. -/
theorem operate_of_operand_eq_none (h : node.operand? = none) (hf : node.isFrameState = false) :
    operate node kind look row scope =
      node.eval kind (fun a => look a >>= Evaluation.require .illTyped) row scope := by
  cases node <;> simp_all [operate, Node.operand?, Node.isFrameState]

/-- A node whose inputs have values is evaluated as in a kernel. -/
theorem step_of_values {value : NodeId → Option Scalar} (h : node.operand? = none)
    (hf : node.isFrameState = false) (hvalues : ∀ a ∈ node.inputs, look a = .ok (value a)) :
    step node kind look row scope = node.eval kind (Evaluation.ofLookup value) row scope := by
  have hpass : inputsPass look node.inputs = .ok () :=
    inputsPass_eq_ok_iff.2 fun a ha => ⟨_, hvalues a ha⟩
  rw [step, hpass, operate_of_operand_eq_none h hf]
  refine Node.eval_congr fun a ha => ?_
  rw [hvalues a ha]
  rfl

theorem step_congr (h : ∀ a ∈ node.inputs, look a = look' a) :
    step node kind look row scope = step node kind look' row scope := by
  cases ho : node.operand? with
  | some a => rw [step_of_operand ho, step_of_operand ho, h a (Node.mem_inputs_of_operand? ho)]
  | none =>
    rw [step, step, inputsPass_congr h]
    cases hf : node.isFrameState with
    | true => cases node <;> simp_all [operate, Node.isFrameState]
    | false =>
      rw [operate_of_operand_eq_none ho hf, operate_of_operand_eq_none ho hf]
      refine congrArg _ (funext fun _ => Node.eval_congr fun a ha => ?_)
      rw [h a ha]

/-- The outcome of each node is that of its step with the outcomes of the others. -/
theorem outcome_eq_step (hw : g.WellFormed) (hsize : kinds.size = g.size)
    (hid : g.nodes[id]? = some node) :
    outcome g kinds row scope id =
      step node (kinds.getD id none) (outcome g kinds row scope) row scope := by
  have hlt : id < kinds.size := hsize ▸ (List.getElem?_eq_some_iff.1 hid).1
  have hitem : (g.nodes.zip kinds.toList)[id]? = some (node, kinds.getD id none) := by
    simp [List.getElem?_zip_eq_some, hid, Array.getD_eq_getD_getElem?, hlt]
  obtain ⟨-, -, hspec⟩ := fill_spec (fill_ok (ε := GiveUp)
    (fun _ item look => step item.1 item.2 look row scope) (.ok none) #[]
    (g.nodes.zip kinds.toList))
  obtain ⟨look, hlook, hstep⟩ := hspec id _ hitem
  simp only [List.size_toArray, List.length_nil, Nat.zero_add, Except.ok.injEq] at hlook hstep
  rw [outcome, outcomes, ← hstep]
  exact step_congr fun a ha => hlook a (hw.inputs id node hid a ha)

end Lowered

end TieredVectors
