import TieredVectors.Executor.CompiledUnit
import TieredVectors.Proofs.Except
import TieredVectors.Proofs.Graph.WellFormed

/-!
# Compiled units

A unit that has been compiled holds a kernel that was typed for its types and its captured scope.
Such a kernel gives the same results whether it is given the whole scope or only the slots that it
reads (`CompiledUnit.Compiled.run_boundScope`), and its output rows have all their fields
(`CompiledUnit.Compiled.length_of_run`).
-/

namespace TieredVectors

/-- The slots among the reads of the captured scope are those that nodes read. -/
theorem Graph.exists_binding_iff {nodes : List Node} {slot : Nat} (first : NodeId) :
    (∃ b ∈ bindingsFrom first nodes, b.slot = slot) ↔ ∃ node ∈ nodes, node.slot? = some slot := by
  induction nodes generalizing first with
  | nil => simp [bindingsFrom]
  | cons node rest ih =>
    rw [bindingsFrom]
    cases hslot : node.slot? with
    | none => simp [hslot, ih (first + 1)]
    | some read => simp [hslot, ih (first + 1)]

/-- The value of a node depends on the slot that it reads only. -/
theorem Node.eval_scope_congr {node : Node} {kind : Option Kind} {read : Evaluation.Reader}
    {row : List Scalar} {scope scope' : Scope}
    (h : ∀ slot, node.slot? = some slot → scope[slot]? = scope'[slot]?) :
    node.eval kind read row scope = node.eval kind read row scope' := by
  cases node with
  | scope slot => simp only [eval, Evaluation.scope, h slot rfl]
  | element slot index => simp only [eval, Evaluation.element, h slot rfl]
  | _ => rfl

/-- The values of nodes depend on the slots that they read only. -/
theorem Evaluation.evalFrom_scope_congr {row : List Scalar} {scope scope' : Scope}
    {items : List (Node × Option Kind)} (values : Array (Option Scalar))
    (h : ∀ item ∈ items, ∀ slot, item.1.slot? = some slot → scope[slot]? = scope'[slot]?) :
    evalFrom row scope values items = evalFrom row scope' values items := by
  induction items generalizing values with
  | nil => rfl
  | cons item rest ih =>
    rw [List.forall_mem_cons] at h
    rw [evalFrom, evalFrom, Node.eval_scope_congr h.1]
    exact bind_congr fun value => ih _ h.2

namespace Kernel

variable {graph : Graph} {input output : RowType} {scope : Scope} {k : Kernel}

/-- The results of a kernel depend on the slots that its graph reads only. -/
theorem run_scope_congr (k : Kernel) {scope scope' : Scope}
    (h : ∀ b ∈ k.graph.scopeBindings, scope[b.slot]? = scope'[b.slot]?) (row : List Scalar) :
    k.run row scope = k.run row scope' := by
  rw [run, run, Evaluation.evalFrom_scope_congr]
  intro item hitem slot hslot
  have hnode : item.1 ∈ k.graph.nodes := (List.of_mem_zip hitem).1
  obtain ⟨b, hb, rfl⟩ := (Graph.exists_binding_iff 0).2 ⟨item.1, hnode, hslot⟩
  exact h b hb

/-- What it takes to be a kernel that has been typed. -/
theorem exists_of_check (h : check graph input output scope = .ok k) :
    ∃ kinds, graph.WellFormed ∧ Typing.inferFrom input scope #[] graph.nodes = .ok kinds ∧
      graph.outputs.length = output.width ∧
      Typing.checkOutputs (Typing.ofKinds kinds) graph.outputs output.kinds = .ok () ∧
      k = { graph, input, output, kinds } := by
  obtain ⟨_, hvalid, h⟩ := bind_eq_ok.1 h
  obtain ⟨kinds, hinfer, h⟩ := bind_eq_ok.1 h
  split at h
  next => cases h
  next hwidth =>
    obtain ⟨_, houts, h⟩ := bind_eq_ok.1 h
    obtain rfl := pure_eq_ok.1 h
    exact ⟨kinds, Graph.validate_eq_ok_iff.1 hvalid, hinfer, Decidable.not_not.1 hwidth, houts, rfl⟩

/-- What a kernel that has been typed consists of. -/
theorem of_check (h : check graph input output scope = .ok k) :
    k.graph = graph ∧ k.input = input ∧ k.output = output ∧
      graph.outputs.length = output.width := by
  obtain ⟨kinds, -, -, hwidth, -, rfl⟩ := exists_of_check h
  exact ⟨rfl, rfl, rfl, hwidth⟩

/-- Outputs that are collected give one field for each of them and each kind. -/
theorem length_of_collect {read : Evaluation.Reader} {outs : List NodeId} {kinds : List Kind}
    {out : List Scalar} (h : collect read outs kinds = .ok out) :
    out.length = min outs.length kinds.length := by
  induction outs generalizing kinds out with
  | nil =>
    obtain rfl : [] = out := Except.ok.inj h
    simp
  | cons o outs ih =>
    cases kinds with
    | nil =>
      obtain rfl : [] = out := Except.ok.inj h
      simp
    | cons kind kinds =>
      rw [collect, bind_eq_ok] at h
      obtain ⟨s, -, h⟩ := h
      obtain ⟨rest, hrest, h⟩ := bind_eq_ok.1 h
      obtain rfl := pure_eq_ok.1 h
      simp only [List.length_cons, ih hrest]
      omega

/-- The output rows of a kernel that has been typed have all their fields. -/
theorem length_of_run (h : check graph input output scope = .ok k) {row out : List Scalar}
    {scope' : Scope} (hrun : k.run row scope' = .ok out) : out.length = output.width := by
  obtain ⟨rfl, -, rfl, hwidth⟩ := of_check h
  obtain ⟨values, -, hcollect⟩ := bind_eq_ok.1 hrun
  rw [length_of_collect hcollect, hwidth, RowType.width, Nat.min_self]

end Kernel

namespace CompiledUnit

variable {u : CompiledUnit} {k : Kernel}

/-- A slot that is bound has the value that was captured. -/
theorem getElem?_boundScope {b : ScopeBinding} (hb : b ∈ u.bindings) :
    u.boundScope[b.slot]? = u.scope[b.slot]? := by
  have hbound : u.bindings.any (·.slot == b.slot) :=
    List.any_eq_true.2 ⟨b, hb, beq_self_eq_true b.slot⟩
  rw [boundScope, List.getElem?_mapIdx]
  cases u.scope[b.slot]? <;> simp [hbound]

/-- A slot that is not bound has been made null. -/
theorem getElem?_boundScope_of_forall_ne {slot : Nat} (h : ∀ b ∈ u.bindings, b.slot ≠ slot) :
    u.boundScope[slot]? = u.scope[slot]?.map fun _ => .null := by
  have hbound : u.bindings.any (·.slot == slot) = false := by
    rw [List.any_eq_false]
    exact fun b hb heq => h b hb (eq_of_beq heq)
  rw [boundScope, List.getElem?_mapIdx]
  cases u.scope[slot]? <;> simp [hbound]

/-- A kernel whose reads are bound reads of the captured scope no more than it is given. -/
theorem run_boundScope (h : u.bindings = k.graph.scopeBindings) (row : List Scalar) :
    k.run row u.boundScope = k.run row u.scope :=
  k.run_scope_congr (fun _ hb => getElem?_boundScope (h ▸ hb)) row

/-- The unit holds a kernel that was typed for the unit's types and scope, and its bindings are the
kernel's reads. -/
def Compiled (u : CompiledUnit) (k : Kernel) : Prop :=
  u.kernel.kernel? = some k ∧ Kernel.check k.graph u.input u.output u.scope = .ok k ∧
    u.bindings = k.graph.scopeBindings

/-- The kernel reads of the captured scope no more than it is given. -/
theorem Compiled.run_boundScope (h : u.Compiled k) (row : List Scalar) :
    k.run row u.boundScope = k.run row u.scope :=
  CompiledUnit.run_boundScope h.2.2 row

/-- The output rows of the kernel have all their fields. -/
theorem Compiled.length_of_run (h : u.Compiled k) {row out : List Scalar} {scope : Scope}
    (hrun : k.run row scope = .ok out) : out.length = u.output.width :=
  Kernel.length_of_run h.2.1 hrun

end CompiledUnit

end TieredVectors
