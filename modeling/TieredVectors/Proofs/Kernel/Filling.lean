import TieredVectors.Kernel.Basic
import TieredVectors.Proofs.Except
import TieredVectors.Proofs.Graph.Folding

/-!
# Tables filled node by node

The kinds and the values of a graph's nodes are found alike: in definition order, each from those
before. `fill` is that loop, with the rule for one node as a parameter; `Typing.inferFrom` and
`Evaluation.evalFrom` are instances.

The main results:

* `fill_spec` — in the end every entry is what its rule gives, and a rule saw the final entries of
  the nodes before;
* `fill_eq_error_iff` — filling stops just where a rule does;
* `Graph.Folds.fill` — filling the table of a folded graph follows the graph it comes from: it finds
  for every live node what is known of that node, or stops where something is known to stop.
-/

namespace TieredVectors

variable {ι β ε : Type}

/-- Fill a table item by item, each from the entries before; nothing else than those is looked up,
but for `absent`. -/
def fill (rule : NodeId → ι → (NodeId → β) → Except ε β) (absent : β) :
    Array β → List ι → Except ε (Array β)
  | table, [] => .ok table
  | table, item :: rest => do
    let entry ← rule table.size item (table.getD · absent)
    fill rule absent (table.push entry) rest

/-- The kind of a node as a reader needs it. -/
def Typing.ofLookup (look : NodeId → Option Kind) : Typing.Reader := fun id =>
  match look id with
  | some k => .ok k
  | none => .error (.noValue id)

/-- The value of a node as a reader needs it. -/
def Evaluation.ofLookup (look : NodeId → Option Scalar) : Evaluation.Reader := fun id =>
  Evaluation.require .illTyped (look id)

/-- Typing fills a table of kinds. -/
theorem Typing.inferFrom_eq_fill (input : RowType) (scope : Scope) (kinds : Array (Option Kind))
    (nodes : List Node) :
    Typing.inferFrom input scope kinds nodes =
      fill (fun id node look => node.inferKind id (ofLookup look) input scope) none kinds
        nodes := by
  induction nodes generalizing kinds with
  | nil => rfl
  | cons node rest ih =>
    rw [inferFrom, fill]
    exact bind_congr fun kind => ih _

/-- Evaluation fills a table of values. -/
theorem Evaluation.evalFrom_eq_fill (row : List Scalar) (scope : Scope)
    (values : Array (Option Scalar)) (items : List (Node × Option Kind)) :
    Evaluation.evalFrom row scope values items =
      fill (fun _ item look => item.1.eval item.2 (ofLookup look) row scope) none values items := by
  induction items generalizing values with
  | nil => rfl
  | cons item rest ih =>
    rw [evalFrom, fill]
    exact bind_congr fun value => ih _

section Fill

variable {rule : NodeId → ι → (NodeId → β) → Except ε β} {absent : β} {table t : Array β}
  {items : List ι}

theorem getD_push_of_lt {id : NodeId} (entry : β) (h : id < table.size) :
    (table.push entry).getD id absent = table.getD id absent := by
  simp [Array.getD_eq_getD_getElem?, Array.getElem?_push, Nat.ne_of_lt h]

theorem getD_push_size (entry : β) : (table.push entry).getD table.size absent = entry := by
  simp [Array.getD_eq_getD_getElem?]

/-- What is found in a table is one of its entries. -/
theorem lt_size_of_getD {α : Type} {table : Array (Option α)} {id : NodeId} {a : α}
    (h : table.getD id none = some a) : id < table.size := by
  refine Nat.lt_of_not_le fun hge => ?_
  rw [Array.getD_eq_getD_getElem?, Array.getElem?_eq_none hge] at h
  cases h

/-- A full table has an entry for each item, keeps the entries it had, and each new entry is what
the rule gives with the final entries before it. -/
theorem fill_spec (h : fill rule absent table items = .ok t) :
    t.size = table.size + items.length ∧
      (∀ id < table.size, t.getD id absent = table.getD id absent) ∧
      ∀ i item, items[i]? = some item →
        ∃ look, (∀ id < table.size + i, look id = t.getD id absent) ∧
          rule (table.size + i) item look = .ok (t.getD (table.size + i) absent) := by
  induction items generalizing table with
  | nil =>
    obtain rfl : table = t := by simpa [fill] using h
    simp
  | cons item rest ih =>
    rw [fill, bind_eq_ok] at h
    obtain ⟨entry, hentry, hrest⟩ := h
    obtain ⟨hsize, hkeep, hnew⟩ := ih hrest
    rw [Array.size_push] at hsize hkeep hnew
    refine ⟨by rw [hsize, List.length_cons]; lia, fun id hid => ?_, fun i item' hi => ?_⟩
    · rw [hkeep id (Nat.lt_succ_of_lt hid), getD_push_of_lt entry hid]
    · cases i with
      | zero =>
        obtain rfl : item = item' := by simpa using hi
        -- the rule saw the table as it was, and the rest keeps these entries
        refine ⟨(table.getD · absent), fun id hid => ?_, ?_⟩
        · rw [hkeep id (Nat.lt_succ_of_lt hid), getD_push_of_lt entry hid]
        · rw [Nat.add_zero, hentry, hkeep _ (Nat.lt_succ_self _), getD_push_size]
      | succ i =>
        rw [show table.size + (i + 1) = table.size + 1 + i by lia]
        exact hnew i item' (by simpa using hi)

/-- Filling stops just where a rule does, on the table of the items before. -/
theorem fill_eq_error_iff {e : ε} :
    fill rule absent table items = .error e ↔
      ∃ i item t, items[i]? = some item ∧ fill rule absent table (items.take i) = .ok t ∧
        rule t.size item (t.getD · absent) = .error e := by
  induction items generalizing table with
  | nil => simp [fill]
  | cons item rest ih =>
    rw [fill, bind_eq_error]
    constructor
    · rintro (hstop | ⟨entry, hentry, hrest⟩)
      · exact ⟨0, item, table, rfl, rfl, hstop⟩
      · obtain ⟨i, item', t, hi, hfill, hstop⟩ := ih.1 hrest
        exact ⟨i + 1, item', t, hi, by rw [List.take_succ_cons, fill, hentry]; exact hfill, hstop⟩
    · rintro ⟨i, item', t, hi, hfill, hstop⟩
      cases i with
      | zero =>
        obtain rfl : item = item' := by simpa using hi
        obtain rfl : table = t := by simpa [fill] using hfill
        exact .inl hstop
      | succ i =>
        rw [List.take_succ_cons, fill, bind_eq_ok] at hfill
        obtain ⟨entry, hentry, hfill⟩ := hfill
        exact .inr ⟨entry, hentry, ih.2 ⟨i, item', t, by simpa using hi, hfill, hstop⟩⟩

/-- Filling with a rule that always gives an entry. -/
theorem fill_ok (rule : NodeId → ι → (NodeId → β) → β) (absent : β) (table : Array β)
    (items : List ι) :
    fill (fun id item look => (.ok (rule id item look) : Except ε β)) absent table items =
      .ok (items.foldl (fun t item => t.push (rule t.size item (t.getD · absent))) table) := by
  induction items generalizing table with
  | nil => rfl
  | cons item rest ih => exact ih _

end Fill

/-! ## Filling the table of a folded graph -/

namespace Graph.Folds

variable {g g' : Graph} {live : NodeId → Prop} {rename : NodeId → NodeId}
  {rule : NodeId → ι → (NodeId → β) → Except ε β} {absent : β} {items : List ι} {nodeOf : ι → Node}
  {known : NodeId → Except ε β}

/-- What is known of the nodes of a graph, as `rule` finds it in the table of the folded graph: a
node that passes its operand on has what its operand has, and of any other node the rule finds what
is known, if the inputs are known and in the table. -/
structure Known (live : NodeId → Prop) (rename : NodeId → NodeId) (g : Graph)
    (rule : NodeId → ι → (NodeId → β) → Except ε β) (items : List ι) (nodeOf : ι → Node)
    (known : NodeId → Except ε β) : Prop where
  operand : ∀ {id a : NodeId} {node : Node}, g.nodes[id]? = some node → live id →
    node.operand? = some a → known id = known a
  rule_eq : ∀ {id : NodeId} {node : Node} {item : ι} {look : NodeId → β},
    g.nodes[id]? = some node → live id → items[rename id]? = some item →
    nodeOf item = node.mapInputs rename →
    (∀ a ∈ node.inputs, known a = .ok (look (rename a))) → rule (rename id) item look = known id

/-- Live nodes are named after nodes of the folded graph. -/
theorem rename_lt (h : Folds live rename g g') (hw : g.WellFormed)
    (hlive : ∀ id, live id → id < g.size) (id : NodeId) (hid : live id) :
    rename id < g'.size := by
  -- a chain of nodes that pass their operands on ends in a kept node
  induction id using Nat.strongRecOn with
  | ind id ih =>
    have hnode : g.nodes[id]? = some _ := List.getElem?_eq_getElem (hlive id hid)
    rcases h.image hnode hid with ⟨a, ha, hname⟩ | hkept
    · have hmem := Node.mem_inputs_of_operand? ha
      rw [hname]
      exact ih a (hw.inputs id _ hnode a hmem) (h.closed hnode hid a hmem)
    · exact (List.getElem?_eq_some_iff.1 hkept).1

/-- Nodes with the name of an item have, all of them, what the rule finds for the item. -/
theorem known_eq (h : Folds live rename g g') (hw : g.WellFormed) (hw' : g'.WellFormed)
    (hlive : ∀ id, live id → id < g.size) (hitems : items.map nodeOf = g'.nodes)
    (hk : Known live rename g rule items nodeOf known) {j : NodeId} {item : ι}
    (hj : items[j]? = some item) (look : NodeId → β)
    (htable : ∀ id, live id → rename id < j → known id = .ok (look (rename id)))
    (id : NodeId) (hid : live id) (hname : rename id = j) : rule j item look = known id := by
  induction id using Nat.strongRecOn with
  | ind id ih =>
    have hnode : g.nodes[id]? = some _ := List.getElem?_eq_getElem (hlive id hid)
    rcases h.image hnode hid with ⟨a, ha, hsame⟩ | hkept
    · have hmem := Node.mem_inputs_of_operand? ha
      rw [hk.operand hnode hid ha]
      exact ih a (hw.inputs id _ hnode a hmem) (h.closed hnode hid a hmem) (hsame ▸ hname)
    · subst hname
      have hitem : g'.nodes[rename id]? = some (nodeOf item) := by
        rw [← hitems, List.getElem?_map, hj, Option.map_some]
      refine hk.rule_eq hnode hid hj (Option.some.inj (hitem.symm.trans hkept)) fun a ha => ?_
      refine htable a (h.closed hnode hid a ha) (hw'.inputs _ _ hkept _ ?_)
      rw [Node.inputs_mapInputs]
      exact List.mem_map_of_mem ha

/-- Filling the rest of the table of a folded graph, when the entries so far are what is known. -/
theorem fill_rest (h : Folds live rename g g') (hw : g.WellFormed) (hw' : g'.WellFormed)
    (hlive : ∀ id, live id → id < g.size) (hitems : items.map nodeOf = g'.nodes)
    (hk : Known live rename g rule items nodeOf known) {seen rest : List ι}
    (hsplit : items = seen ++ rest) {table : Array β} (hsize : table.size = seen.length)
    (htable : ∀ id, live id → rename id < table.size →
      known id = .ok (table.getD (rename id) absent)) :
    (∃ t, fill rule absent table rest = .ok t ∧
      ∀ id, live id → known id = .ok (t.getD (rename id) absent)) ∨
    ∃ e id, fill rule absent table rest = .error e ∧ live id ∧ known id = .error e := by
  induction rest generalizing seen table with
  | nil =>
    refine Or.inl ⟨table, rfl, fun id hid => htable id hid ?_⟩
    have hfull : table.size = g'.size := by
      rw [hsize, size, ← hitems, hsplit, List.append_nil, List.length_map]
    rw [hfull]
    exact h.rename_lt hw hlive id hid
  | cons item rest ih =>
    have hj : items[table.size]? = some item := by simp [hsplit, hsize]
    have hnode' : g'.nodes[table.size]? = some (nodeOf item) := by
      rw [← hitems, List.getElem?_map, hj, Option.map_some]
    -- several live nodes may have the name of `item`, and the rule finds the same for all of them
    have hall := h.known_eq hw hw' hlive hitems hk hj (table.getD · absent) htable
    obtain ⟨id₀, -, -, hid₀, hname₀, -⟩ := h.onto hnode'
    have hstep := hall id₀ hid₀ hname₀
    rw [fill]
    cases hres : known id₀ with
    | error e =>
      refine Or.inr ⟨e, id₀, ?_, hid₀, hres⟩
      rw [hstep, hres]
      rfl
    | ok entry =>
      rw [hstep, hres]
      refine ih (show items = (seen ++ [item]) ++ rest by simp [hsplit]) (by simp [hsize]) ?_
      intro id hid hlt
      rw [Array.size_push] at hlt
      rcases Nat.lt_succ_iff_lt_or_eq.1 hlt with hlt | heq
      · rw [getD_push_of_lt entry hlt]
        exact htable id hid hlt
      · rw [heq, getD_push_size, ← hall id hid heq, hstep, hres]

/-- Filling the table of a folded graph finds for every live node what is known of it, or stops with
an error that is known of one. -/
theorem fill (h : Folds live rename g g') (hw : g.WellFormed) (hw' : g'.WellFormed)
    (hlive : ∀ id, live id → id < g.size) (hitems : items.map nodeOf = g'.nodes)
    (hk : Known live rename g rule items nodeOf known) :
    (∃ t, TieredVectors.fill rule absent #[] items = .ok t ∧
      ∀ id, live id → known id = .ok (t.getD (rename id) absent)) ∨
    ∃ e id, TieredVectors.fill rule absent #[] items = .error e ∧ live id ∧ known id = .error e :=
  h.fill_rest hw hw' hlive hitems hk (show items = [] ++ items from rfl) rfl
    fun _ _ hlt => absurd hlt (Nat.not_lt_zero _)

end Graph.Folds

end TieredVectors
