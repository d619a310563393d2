import TieredVectors.Proofs.Kernel.Soundness

/-!
# Captured lists of several kinds

An element of a captured list is typed by the first item of the list, and no other item is looked
at. Evaluation takes the item at the index as it is, so an item of another kind is a value that
typing did not foresee, and what is computed from it may be another one.

* `Scope.MixedAt scope slot w` — the item at `w` of a captured list is of another kind than the
  first;
* `Kernel.ReadsMixed k row scope` — such an item is read for a row that is not given up.

`Kernel.kinds_of_run` says that this is the only way to an output row of other kinds than those of
the output type.
-/

namespace TieredVectors

/-- The list in the slot has at `w` an item of another kind than its first item. -/
def Scope.MixedAt (scope : Scope) (slot : Nat) (w : Int32) : Prop :=
  ∃ items first item, scope[slot]? = some (.list items) ∧
    (items.head? >>= Value.scalar?) = some first ∧
    (items[w.toInt.toNat]? >>= Value.scalar?) = some item ∧ item.kind ≠ first.kind

/-- A list has the kind of its first item. -/
theorem Typing.scopeElements_eq_ok {scope : Scope} {slot : Nat} {k : Kind}
    (h : scopeElements scope slot = .ok k) :
    ∃ items first, scope[slot]? = some (.list items) ∧
      (items.head? >>= Value.scalar?) = some first ∧ first.kind = k := by
  unfold scopeElements at h
  split at h
  next items hlist =>
    split at h
    next first hfirst => exact ⟨items, first, hlist, hfirst, Except.ok.inj h⟩
    next => cases h
  next => cases h

/-- An element that is read is the item at the index. -/
theorem Evaluation.element_eq_ok {scope : Scope} {slot : Nat} {w : Int32} {t : Scalar}
    (h : element scope slot (.int w) = .ok t) :
    ∃ items, scope[slot]? = some (.list items) ∧
      (items[w.toInt.toNat]? >>= Value.scalar?) = some t := by
  unfold element at h
  split at h
  next w' items hw hlist =>
    obtain rfl : w = w' := Scalar.int.inj hw
    refine ⟨items, hlist, ?_⟩
    split at h
    · cases h
    · cases hitem : items[w.toInt.toNat]? with
      | none =>
        rw [hitem] at h
        cases h
      | some v =>
        rw [hitem] at h
        exact require_eq_ok_iff.1 h
  next => cases h

namespace Node

variable {node : Node} {id : NodeId} {kinds : Typing.Reader} {kind : Option Kind}
  {values : Evaluation.Reader} {row : List Scalar} {scope : Scope} {input : RowType}
  {v : Option Scalar}

/-- A node that is typed and reads values of their kinds has a value of its kind, unless it is an
element at which a captured list is mixed. -/
theorem kind_or_mixed (hkind : node.inferKind id kinds input scope = .ok kind)
    (hread : ∀ a ∈ node.inputs, ∀ k, kinds a = .ok k → ∃ s, values a = .ok s ∧ s.kind = k)
    (hrow : row.map Scalar.kind = input.kinds)
    (heval : node.eval kind values row scope = .ok v) :
    v.map Scalar.kind = kind ∨
      ∃ slot index w, node = .element slot index ∧ values index = .ok (.int w) ∧
        Scope.MixedAt scope slot w := by
  by_cases helement : ∃ slot index, node = .element slot index
  · obtain ⟨slot, index, rfl⟩ := helement
    obtain ⟨k, hk, rfl⟩ := map_eq_ok.1 hkind
    obtain ⟨ki, hki, hk⟩ := bind_eq_ok.1 hk
    obtain ⟨s, hs, rfl⟩ := hread index List.mem_cons_self ki hki
    cases s with
    | double _ | bool _ => cases hk
    | int w =>
      obtain ⟨items, first, hlist, hfirst, hkfirst⟩ := Typing.scopeElements_eq_ok hk
      rw [eval, hs] at heval
      obtain ⟨t, ht, rfl⟩ := map_eq_ok.1 heval
      obtain ⟨items', hlist', hitem⟩ := Evaluation.element_eq_ok ht
      obtain rfl : items = items' := by simpa using hlist.symm.trans hlist'
      by_cases hsame : t.kind = first.kind
      · exact .inl (congrArg some (hsame.trans hkfirst))
      · exact .inr ⟨slot, index, w, rfl, hs, items, first, t, hlist, hfirst, hitem, hsame⟩
  · -- no other node reads a list
    refine .inl ((sound_of_inferKind hkind hread hrow ?_).typed v heval)
    intro slot index items hnode
    exact absurd ⟨slot, index, hnode⟩ helement

end Node

namespace Kernel

variable {graph : Graph} {input output : RowType} {scope : Scope} {k : Kernel} {row : List Scalar}

/-- All nodes have values for the row, and one of them is an element at which a captured list is
mixed. -/
def ReadsMixed (k : Kernel) (row : List Scalar) (scope : Scope) : Prop :=
  ∃ (values : Array (Option Scalar)) (id index : NodeId) (slot : Nat) (w : Int32),
    Evaluation.evalFrom row scope #[] (k.graph.nodes.zip k.kinds.toList) = .ok values ∧
    k.graph.nodes[id]? = some (.element slot index) ∧
    Evaluation.ofValues values index = .ok (.int w) ∧ Scope.MixedAt scope slot w

/-- If no mixed list is read, all values are of their kinds. -/
theorem kinds_of_not_readsMixed (hcheck : check graph input output scope = .ok k)
    (hrow : row.map Scalar.kind = input.kinds) (hmixed : ¬ k.ReadsMixed row scope)
    {values : Array (Option Scalar)}
    (h : Evaluation.evalFrom row scope #[] (graph.nodes.zip k.kinds.toList) = .ok values) :
    ∀ id < graph.size, (values.getD id none).map Scalar.kind = k.kinds.getD id none := by
  obtain ⟨hgraph, -⟩ := of_check hcheck
  obtain ⟨-, hw, -⟩ := exists_of_check hcheck
  have hsome := h
  rw [← take_zip_kinds hcheck] at hsome
  -- a node reads nodes with smaller numbers only
  intro id
  induction id using Nat.strongRecOn with
  | ind id ih =>
    intro hid
    have hnode : graph.nodes[id]? = some _ := List.getElem?_eq_getElem hid
    have hkind := (kind_of_check hcheck).2 id _ hnode
    have hread : ∀ a ∈ (graph.nodes[id]).inputs, ∀ ka, Typing.ofKinds k.kinds a = .ok ka →
        ∃ s, Evaluation.ofLookup (values.getD · none) a = .ok s ∧ s.kind = ka := by
      intro a ha ka hka
      have hlt := hw.inputs id _ hnode a ha
      rw [Typing.ofKinds_eq_ok_iff, ← ih a hlt (Nat.lt_trans hlt hid),
        Option.map_eq_some_iff] at hka
      obtain ⟨s, hs, hsk⟩ := hka
      exact ⟨s, Evaluation.ofLookup_eq_ok_iff.2 hs, hsk⟩
    rcases Node.kind_or_mixed hkind hread hrow (eval_of_values hcheck hsome hnode hid) with
      htyped | ⟨slot, index, w, helement, hindex, hat⟩
    · exact htyped
    · refine absurd ⟨values, id, index, slot, w, ?_, ?_, hindex, hat⟩ hmixed
      · rw [hgraph]
        exact h
      · rw [hgraph, hnode, helement]

/-- If no mixed list is read, the output row is of the output type. -/
theorem kinds_of_run (hcheck : check graph input output scope = .ok k)
    (hrow : row.map Scalar.kind = input.kinds) (hmixed : ¬ k.ReadsMixed row scope)
    {out : List Scalar} (hrun : k.run row scope = .ok out) :
    out.map Scalar.kind = output.kinds := by
  obtain ⟨hgraph, -, houtput, -⟩ := of_check hcheck
  obtain ⟨values, hvalues, hcollect⟩ := bind_eq_ok.1 hrun
  rw [hgraph] at hvalues
  rw [hgraph, houtput] at hcollect
  have hkinds := kinds_of_not_readsMixed hcheck hrow hmixed hvalues
  obtain ⟨out', hout', htyped⟩ := collect_of_kinds hcheck hkinds
  obtain rfl := Except.ok.inj (hcollect.symm.trans hout')
  exact htyped

end Kernel

end TieredVectors
