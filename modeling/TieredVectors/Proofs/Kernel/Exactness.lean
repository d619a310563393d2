import TieredVectors.Proofs.Kernel.Soundness

/-!
# Exact integer kernels

A graph without doubles computes on words and truth values. Here its nodes are evaluated over the
unbounded integers instead, without the evaluator, and the two are compared.

The module introduces:

* `Exact` — an unbounded integer or a truth value, with the operations of the nodes on them;
* `Graph.exact g row scope id` — the exact value of a node, none where there is no such value: where
  the node has none, where a remainder by zero is asked for, or where an index misses its list;
* `Graph.Representable g row scope` — every exact integer is a word, every remainder and every index
  can be taken, and no node asks to give the row up.

The main results:

* `Node.exact_of_eval` — a node that has a value has the exact one;
* `Kernel.exact_of_values` — and so have all of them, by induction on their numbers;
* `Graph.Representable.not_stops`, `Kernel.representable_of_values` — a row is given up just where
  it is not representable.

`Kernel.run_exact` puts them together.
-/

namespace TieredVectors

/-- A value of a node without doubles, with integers of any size. -/
inductive Exact where
  | int (value : Int)
  | bool (value : Bool)
deriving DecidableEq

namespace Exact

/-! ## Operations -/

/-- The kind of an exact value. -/
def kind : Exact → Kind
  | .int _ => .int
  | .bool _ => .boolean

/-- The exact value of a scalar; a double has none. -/
def ofScalar? : Scalar → Option Exact
  | .int w => some (.int w.toInt)
  | .bool b => some (.bool b)
  | .double _ => none

/-- The scalar of a kind that has an exact value; an integer is made a double where that is
wanted. -/
def toScalar : Exact → Kind → Scalar
  | .int z, .double => .double (Float.ofInt z)
  | .int z, _ => .int (Int32.ofInt z)
  | .bool b, _ => .bool b

/-- An operation on one exact value. -/
def unary : UnaryOp → Exact → Option Exact
  | .neg, .int z => some (.int (-z))
  | .abs, .int z => some (.int z.natAbs)
  | .not, .bool b => some (.bool !b)
  | .toInt, .int z => some (.int z)
  | .toInt, .bool b => some (.int (if b then 1 else 0))
  | _, _ => none

/-- An operation on two exact values. A remainder has the sign of the first one. -/
def binary : BinaryOp → Exact → Exact → Option Exact
  | .add, .int x, .int y => some (.int (x + y))
  | .sub, .int x, .int y => some (.int (x - y))
  | .mul, .int x, .int y => some (.int (x * y))
  | .rem, .int x, .int y => if y = 0 then none else some (.int (x.tmod y))
  | .min, .int x, .int y => some (.int (min x y))
  | .max, .int x, .int y => some (.int (max x y))
  | .and, .bool p, .bool q => some (.bool (p && q))
  | .or, .bool p, .bool q => some (.bool (p || q))
  | _, _, _ => none

/-- A comparison of two exact values. -/
def compare : CompareOp → Exact → Exact → Option Exact
  | .eq, .int x, .int y => some (.bool (x = y))
  | .ne, .int x, .int y => some (.bool (x ≠ y))
  | .lt, .int x, .int y => some (.bool (x < y))
  | .le, .int x, .int y => some (.bool (x ≤ y))
  | .gt, .int x, .int y => some (.bool (y < x))
  | .ge, .int x, .int y => some (.bool (y ≤ x))
  | .eq, .bool p, .bool q => some (.bool (p == q))
  | .ne, .bool p, .bool q => some (.bool (p != q))
  | _, _, _ => none

/-- An element of a captured list, if the index is one of its positions. -/
def element (scope : Scope) (slot : Nat) : Exact → Option Exact
  | .int i =>
    match scope[slot]? with
    | some (.list items) =>
      if i < 0 then none else items[i.toNat]? >>= Value.scalar? >>= ofScalar?
    | _ => none
  | .bool _ => none

/-- One of two exact values. -/
def choose (whenTrue whenFalse : Option Exact) : Exact → Option Exact
  | .bool b => if b then whenTrue else whenFalse
  | .int _ => none

variable {s t : Scalar} {x : Exact}

theorem kind_of_ofScalar? (h : ofScalar? s = some x) : x.kind = s.kind := by
  cases s with
  | int w =>
    obtain rfl := Option.some.inj h
    rfl
  | bool b =>
    obtain rfl := Option.some.inj h
    rfl
  | double _ => cases h

/-- Only doubles have no exact value. -/
theorem exists_ofScalar? (h : s.kind ≠ .double) : ∃ x, ofScalar? s = some x := by
  cases s with
  | int _ | bool _ => exact ⟨_, rfl⟩
  | double _ => exact absurd rfl h

theorem ofScalar?_eq_int {z : Int} (h : ofScalar? s = some (.int z)) :
    ∃ w, s = .int w ∧ w.toInt = z := by
  cases s with
  | int w => exact ⟨w, rfl, Exact.int.inj (Option.some.inj h)⟩
  | bool _ | double _ => cases h

theorem ofScalar?_eq_bool {b : Bool} (h : ofScalar? s = some (.bool b)) : s = .bool b := by
  cases s with
  | bool c => exact congrArg Scalar.bool (Exact.bool.inj (Option.some.inj h))
  | int _ | double _ => cases h

/-- Widening a scalar gives the scalar of its exact value. -/
theorem toScalar_of_ofScalar? (h : ofScalar? s = some x) (kind : Kind) :
    x.toScalar kind = s.widen kind := by
  cases s with
  | int w =>
    obtain rfl := Option.some.inj h
    cases kind with
    | double => rfl
    | int | boolean => exact congrArg Scalar.int (Int32.ofInt_toInt w)
  | bool b =>
    obtain rfl := Option.some.inj h
    cases kind <;> rfl
  | double _ => cases h

theorem eq_bool_of_kind (h : s.kind = .boolean) : ∃ b, s = .bool b := by
  cases s with
  | bool b => exact ⟨b, rfl⟩
  | int _ | double _ => cases h

/-- What can be read as a truth value is one. -/
theorem eq_bool_of_boolean {read : Typing.Reader} {a : NodeId} {u : Unit}
    (h : Typing.boolean read a = .ok u) (hs : read a = .ok s.kind) : ∃ b, s = .bool b :=
  eq_bool_of_kind (Except.ok.inj (hs.symm.trans (Typing.boolean_eq_ok_iff.1 h)))

/-- What can be read as a number, and is no double, is a word. -/
theorem eq_int_of_numeric {read : Typing.Reader} {a : NodeId} {k : Kind}
    (h : Typing.numeric read a = .ok k) (hs : read a = .ok s.kind) (hx : ofScalar? s = some x) :
    ∃ w, s = .int w := by
  obtain ⟨hkind, hnot⟩ := Typing.numeric_eq_ok_iff.1 h
  obtain rfl := Except.ok.inj (hs.symm.trans hkind)
  cases s with
  | int w => exact ⟨w, rfl⟩
  | bool _ => exact absurd rfl hnot
  | double _ => cases hx

/-- An operation on one scalar has the exact result. -/
theorem unary_of_eval {read : Typing.Reader} {op : UnaryOp} {a : NodeId} {k : Kind}
    (hk : Typing.unary read op a = .ok k) (hs : read a = .ok s.kind) (hkd : k ≠ .double)
    (hx : ofScalar? s = some x) (ht : Evaluation.unary op s = .ok t) :
    unary op x = ofScalar? t := by
  cases op with
  | neg | abs =>
    obtain ⟨w, rfl⟩ := eq_int_of_numeric hk hs hx
    obtain rfl := Option.some.inj hx
    obtain ⟨v, hv, rfl⟩ := map_eq_ok.1 ht
    rw [unary, ofScalar?, Word.ofInt?_eq_some_iff.1 (Evaluation.require_eq_ok_iff.1 hv)]
  | not =>
    obtain ⟨_, hk, -⟩ := bind_eq_ok.1 hk
    obtain ⟨b, rfl⟩ := eq_bool_of_boolean hk hs
    obtain rfl := Option.some.inj hx
    obtain rfl := Except.ok.inj ht
    rfl
  | toInt =>
    cases s with
    | int w =>
      obtain rfl := Option.some.inj hx
      obtain rfl := Except.ok.inj ht
      rfl
    | bool b =>
      obtain rfl := Option.some.inj hx
      obtain rfl := Except.ok.inj ht
      cases b <;> rfl
    | double _ => cases hx
  -- the others give doubles
  | sqrt | toDouble =>
    obtain ⟨-, -, hk⟩ := bind_eq_ok.1 hk
    exact absurd (pure_eq_ok.1 hk).symm hkd

/-- An operation on words has the exact result. -/
theorem binary_of_words {op : BinaryOp} {u v w : Int32}
    (h : Evaluation.binaryWords op u v = .ok w) :
    binary op (.int u.toInt) (.int v.toInt) = some (.int w.toInt) := by
  cases op with
  | add | sub | mul => rw [binary, Word.ofInt?_eq_some_iff.1 (Evaluation.require_eq_ok_iff.1 h)]
  | rem =>
    have hrem := Evaluation.require_eq_ok_iff.1 h
    rw [Word.rem?] at hrem
    split at hrem
    next hdivides =>
      rw [binary, if_neg ((Evaluation.divides_iff u v).1 hdivides).1,
        Word.ofInt?_eq_some_iff.1 hrem]
    next => cases hrem
  | min =>
    obtain rfl := Except.ok.inj h
    rw [binary, Int.min_def, Word.least]
    split <;> rfl
  | max =>
    obtain rfl := Except.ok.inj h
    rw [binary, Int.max_def, Word.greatest]
    split <;> rfl
  | div | and | or => cases h

/-- An operation on two scalars has the exact result. -/
theorem binary_of_eval {read : Typing.Reader} {op : BinaryOp} {a b : NodeId} {k : Kind}
    {s' : Scalar} {x' : Exact} (hk : Typing.binary read op a b = .ok k) (hs : read a = .ok s.kind)
    (hs' : read b = .ok s'.kind) (hkd : k ≠ .double) (hx : ofScalar? s = some x)
    (hx' : ofScalar? s' = some x') (ht : Evaluation.binary op s s' k = .ok t) :
    binary op x x' = ofScalar? t := by
  cases op with
  | and | or =>
    obtain ⟨_, ha, hk⟩ := bind_eq_ok.1 hk
    obtain ⟨_, hb, hk⟩ := bind_eq_ok.1 hk
    obtain ⟨p, rfl⟩ := eq_bool_of_boolean ha hs
    obtain ⟨q, rfl⟩ := eq_bool_of_boolean hb hs'
    obtain rfl := Option.some.inj hx
    obtain rfl := Option.some.inj hx'
    obtain rfl := Except.ok.inj ht
    rfl
  | div =>
    obtain ⟨-, -, hk⟩ := bind_eq_ok.1 hk
    exact absurd (pure_eq_ok.1 hk).symm hkd
  | add | sub | mul | rem | min | max =>
    rcases Evaluation.promoted_cases hk hs hs' with ⟨u, v, rfl, rfl, rfl⟩ | ⟨rfl, -⟩
    · obtain rfl := Option.some.inj hx
      obtain rfl := Option.some.inj hx'
      obtain ⟨w, hw, rfl⟩ := map_eq_ok.1 ht
      exact binary_of_words hw
    · exact absurd rfl hkd

/-- A comparison of words is that of their values. -/
theorem compare_of_words (op : CompareOp) (u v : Int32) :
    compare op (.int u.toInt) (.int v.toInt) =
      some (.bool (Evaluation.compare op (.int u) (.int v))) := by
  rw [Evaluation.compare, Evaluation.order?]
  rcases Int.lt_trichotomy u.toInt v.toInt with hlt | heq | hgt
  · rw [Int.compare_eq_lt.2 hlt]
    cases op <;> simp [compare] <;> omega
  · rw [Int.compare_eq_eq.2 heq]
    cases op <;> simp [compare, heq]
  · rw [Int.compare_eq_gt.2 hgt]
    cases op <;> simp [compare] <;> omega

/-- A comparison has the exact result. -/
theorem compare_of_eval {read : Typing.Reader} {op : CompareOp} {a b : NodeId} {k : Kind}
    {s' : Scalar} {x' : Exact} (hk : Typing.compare read op a b = .ok k)
    (hs : read a = .ok s.kind) (hs' : read b = .ok s'.kind) (hx : ofScalar? s = some x)
    (hx' : ofScalar? s' = some x') :
    compare op x x' = some (.bool (Evaluation.compare op s s')) := by
  obtain ⟨ka, hka, hk⟩ := bind_eq_ok.1 hk
  obtain ⟨kb, hkb, hk⟩ := bind_eq_ok.1 hk
  obtain rfl := Except.ok.inj (hs.symm.trans hka)
  obtain rfl := Except.ok.inj (hs'.symm.trans hkb)
  dsimp only at hk
  split at hk
  next hbools =>
    -- truth values, which are compared for equality only
    simp only [Bool.and_eq_true, Bool.or_eq_true, beq_iff_eq] at hbools
    obtain ⟨⟨hp, hq⟩, hop⟩ := hbools
    obtain ⟨p, rfl⟩ := eq_bool_of_kind hp
    obtain ⟨q, rfl⟩ := eq_bool_of_kind hq
    obtain rfl := Option.some.inj hx
    obtain rfl := Option.some.inj hx'
    rcases hop with rfl | rfl <;> cases p <;> cases q <;> rfl
  next =>
    obtain ⟨_, hk, -⟩ := bind_eq_ok.1 hk
    obtain ⟨_, _, ha, hb, -⟩ := Typing.promoted_eq_ok_iff.1 hk
    obtain ⟨u, rfl⟩ := eq_int_of_numeric ha hs hx
    obtain ⟨v, rfl⟩ := eq_int_of_numeric hb hs' hx'
    obtain rfl := Option.some.inj hx
    obtain rfl := Option.some.inj hx'
    exact compare_of_words op u v

/-- An element of a captured list is the exact one. -/
theorem element_of_eval {scope : Scope} {slot : Nat} {w : Int32}
    (h : Evaluation.element scope slot (.int w) = .ok t) :
    element scope slot (.int w.toInt) = ofScalar? t := by
  unfold Evaluation.element at h
  split at h
  next w' items hw hlist =>
    obtain rfl : w = w' := Scalar.int.inj hw
    simp only [element, hlist]
    split at h
    · cases h
    next hnonneg =>
      rw [if_neg hnonneg]
      cases hitem : items[w.toInt.toNat]? with
      | none =>
        rw [hitem] at h
        cases h
      | some v =>
        rw [hitem] at h
        show v.scalar?.bind ofScalar? = ofScalar? t
        rw [Evaluation.require_eq_ok_iff.1 h]
        rfl
  next => cases h

end Exact

/-! ## Nodes -/

/-- The exact value of a node, given those of the nodes that it reads. -/
def Node.exact (node : Node) (read : NodeId → Option Exact) (row : List Scalar) (scope : Scope) :
    Option Exact :=
  match node with
  | .param field => row[field]? >>= Exact.ofScalar?
  | .const s => Exact.ofScalar? s
  | .scope slot => scope[slot]? >>= Value.scalar? >>= Exact.ofScalar?
  | .element slot index => read index >>= Exact.element scope slot
  | .unary op a => read a >>= Exact.unary op
  | .binary op a b => do
    let x ← read a
    let y ← read b
    Exact.binary op x y
  | .compare op a b => do
    let x ← read a
    let y ← read b
    Exact.compare op x y
  | .select c t f => read c >>= Exact.choose (read t) (read f)
  | .box _ | .unbox _ | .frameState _ | .typeGuard _ _ | .deoptIf _ => none

namespace Node

variable {node : Node} {id : NodeId} {kinds : Typing.Reader} {look : NodeId → Option Scalar}
  {exacts : NodeId → Option Exact} {input : RowType} {scope : Scope} {row : List Scalar}
  {kind : Option Kind} {v : Option Scalar}

/-- The exact value of a node depends on those of its inputs only. -/
theorem exact_congr {read read' : NodeId → Option Exact} (h : ∀ a ∈ node.inputs, read a = read' a) :
    node.exact read row scope = node.exact read' row scope := by
  cases node <;> simp_all [exact, inputs]

/-- The inputs of a node have values of their kinds, none of them a double, and exact values that
are those. -/
def ReadsExact (node : Node) (kinds : Typing.Reader) (look : NodeId → Option Scalar)
    (exacts : NodeId → Option Exact) : Prop :=
  ∀ a ∈ node.inputs, ∃ s x, look a = some s ∧ kinds a = .ok s.kind ∧ Exact.ofScalar? s = some x ∧
    exacts a = some x

/-- A choice that is no double and has a value has the exact value of the branch chosen. -/
theorem exact_select_of_eval {c t f : NodeId}
    (hkind : (Node.select c t f).inferKind id kinds input scope = .ok kind)
    (hdouble : kind ≠ some .double) (hread : (Node.select c t f).ReadsExact kinds look exacts)
    (heval : (Node.select c t f).eval kind (Evaluation.ofLookup look) row scope = .ok v) :
    (Node.select c t f).exact exacts row scope = v.bind Exact.ofScalar? := by
  obtain ⟨s, x, hs, hsk, hx, hexact⟩ := hread c (by simp [inputs])
  obtain ⟨k, hk, rfl⟩ := map_eq_ok.1 hkind
  obtain ⟨_, hboolean, -⟩ := bind_eq_ok.1 hk
  obtain ⟨b, rfl⟩ := Exact.eq_bool_of_boolean hboolean hsk
  obtain rfl := Option.some.inj hx
  have hbranch : (if b then t else f) ∈ (Node.select c t f).inputs := by
    cases b <;> simp [inputs]
  obtain ⟨s', x', hs', -, hx', hexact'⟩ := hread _ hbranch
  have hchosen : exact (.select c t f) exacts row scope = exacts (if b then t else f) := by
    rw [exact, hexact]
    cases b <;> rfl
  -- nothing is widened, since the choice is no double
  have hwiden : s'.widen k = s' := by
    cases s' <;> cases k <;> first | rfl | exact absurd rfl hdouble
  obtain ⟨chosen, hc, heval⟩ := bind_eq_ok.1 heval
  obtain rfl : .bool b = chosen :=
    Option.some.inj (hs.symm.trans (Evaluation.ofLookup_eq_ok_iff.1 hc))
  obtain ⟨y, hy, heval⟩ := bind_eq_ok.1 heval
  obtain rfl : s' = y := Option.some.inj (hs'.symm.trans (Evaluation.ofLookup_eq_ok_iff.1 hy))
  obtain ⟨k', hk', heval⟩ := bind_eq_ok.1 heval
  obtain rfl : k = k' := Option.some.inj (Evaluation.require_eq_ok_iff.1 hk')
  obtain rfl := pure_eq_ok.1 heval
  rw [hchosen, hexact', hwiden]
  exact hx'.symm

/-- A node that is no double and has a value has the exact value. -/
theorem exact_of_eval (hkind : node.inferKind id kinds input scope = .ok kind)
    (hdouble : kind ≠ some .double) (hread : node.ReadsExact kinds look exacts)
    (heval : node.eval kind (Evaluation.ofLookup look) row scope = .ok v) :
    node.exact exacts row scope = v.bind Exact.ofScalar? := by
  cases node with
  | param field =>
    obtain ⟨s, hs, rfl⟩ := map_eq_ok.1 heval
    rw [exact, Evaluation.require_eq_ok_iff.1 hs]
    rfl
  | const s =>
    obtain rfl := Except.ok.inj heval
    rfl
  | scope slot =>
    obtain ⟨s, hs, rfl⟩ := map_eq_ok.1 heval
    rw [exact, Evaluation.require_eq_ok_iff.1 hs]
    rfl
  | element slot index =>
    obtain ⟨s, x, hs, hsk, hx, hexact⟩ := hread index (by simp [inputs])
    rw [eval, Evaluation.ofLookup_eq_ok_iff.2 hs] at heval
    obtain ⟨t, ht, rfl⟩ := map_eq_ok.1 heval
    rw [exact, hexact]
    cases s with
    | int w =>
      obtain rfl := Option.some.inj hx
      exact Exact.element_of_eval ht
    | bool _ | double _ => cases ht
  | unary op a =>
    obtain ⟨s, x, hs, hsk, hx, hexact⟩ := hread a (by simp [inputs])
    obtain ⟨k, hk, rfl⟩ := map_eq_ok.1 hkind
    rw [eval, Evaluation.ofLookup_eq_ok_iff.2 hs] at heval
    obtain ⟨t, ht, rfl⟩ := map_eq_ok.1 heval
    rw [exact, hexact]
    exact Exact.unary_of_eval hk hsk (fun h => hdouble (h ▸ rfl)) hx ht
  | binary op a b =>
    obtain ⟨s, x, hs, hsk, hx, hexact⟩ := hread a (by simp [inputs])
    obtain ⟨s', x', hs', hsk', hx', hexact'⟩ := hread b (by simp [inputs])
    obtain ⟨k, hk, rfl⟩ := map_eq_ok.1 hkind
    rw [eval, Evaluation.ofLookup_eq_ok_iff.2 hs, Evaluation.ofLookup_eq_ok_iff.2 hs'] at heval
    obtain ⟨t, ht, rfl⟩ := map_eq_ok.1 heval
    rw [exact, hexact, hexact']
    exact Exact.binary_of_eval hk hsk hsk' (fun h => hdouble (h ▸ rfl)) hx hx' ht
  | compare op a b =>
    obtain ⟨s, x, hs, hsk, hx, hexact⟩ := hread a (by simp [inputs])
    obtain ⟨s', x', hs', hsk', hx', hexact'⟩ := hread b (by simp [inputs])
    obtain ⟨k, hk, rfl⟩ := map_eq_ok.1 hkind
    rw [eval, Evaluation.ofLookup_eq_ok_iff.2 hs, Evaluation.ofLookup_eq_ok_iff.2 hs'] at heval
    obtain rfl := Except.ok.inj heval
    rw [exact, hexact, hexact']
    exact Exact.compare_of_eval hk hsk hsk' hx hx'
  | select c t f => exact exact_select_of_eval hkind hdouble hread heval
  | deoptIf c =>
    obtain ⟨asked, -, heval⟩ := bind_eq_ok.1 heval
    split at heval
    · exact absurd heval throw_ne_ok
    · obtain rfl := pure_eq_ok.1 heval
      rfl
  -- there is no rule for these
  | box _ | unbox _ | frameState _ | typeGuard _ _ => cases hkind

end Node

/-! ## Graphs -/

namespace Graph

variable {graph : Graph} {row : List Scalar} {scope : Scope} {id : NodeId} {node : Node}

/-- The exact values of all nodes, each from those before. -/
def exacts (graph : Graph) (row : List Scalar) (scope : Scope) : Array (Option Exact) :=
  graph.nodes.foldl (fun values node => values.push (node.exact (values.getD · none) row scope)) #[]

/-- The exact value of a node, if it has one. -/
def exact (graph : Graph) (row : List Scalar) (scope : Scope) (id : NodeId) : Option Exact :=
  (graph.exacts row scope).getD id none

/-- The exact value of a node comes from those of the nodes that it reads. -/
theorem exact_eq (hw : graph.WellFormed) (hid : graph.nodes[id]? = some node) :
    graph.exact row scope id = node.exact (graph.exact row scope) row scope := by
  have hfill := fill_ok (ε := Unit)
    (fun _ (node : Node) (look : NodeId → Option Exact) => node.exact look row scope) none #[]
    graph.nodes
  obtain ⟨-, -, hnew⟩ := fill_spec hfill
  obtain ⟨look, hlook, hentry⟩ := hnew id node hid
  simp only [List.size_toArray, List.length_nil, Nat.zero_add] at hlook hentry
  have hvalue : graph.exact row scope id = node.exact look row scope :=
    (Except.ok.inj hentry).symm
  rw [hvalue]
  exact Node.exact_congr fun a ha => hlook a (hw.inputs id node hid a ha)

/-- Only the nodes of the graph have exact values. -/
theorem lt_size_of_exact {x : Exact} (h : graph.exact row scope id = some x) : id < graph.size := by
  have hfill := fill_ok (ε := Unit)
    (fun _ (node : Node) (look : NodeId → Option Exact) => node.exact look row scope) none #[]
    graph.nodes
  obtain ⟨hsize, -⟩ := fill_spec hfill
  have hlt := lt_size_of_getD h
  rwa [exacts, hsize, List.size_toArray, List.length_nil, Nat.zero_add] at hlt

/-- Over the exact values, every integer is a word, every remainder has a quotient that is one,
every index is a position of its list, and no node asks to give the row up. -/
structure Representable (graph : Graph) (row : List Scalar) (scope : Scope) : Prop where
  fits : ∀ (id : NodeId) (z : Int), graph.exact row scope id = some (.int z) → Word.Fits z
  remainder : ∀ (id a b : NodeId) (x y : Int), graph.nodes[id]? = some (.binary .rem a b) →
    graph.exact row scope a = some (.int x) → graph.exact row scope b = some (.int y) →
    y ≠ 0 ∧ ¬ (x = -2147483648 ∧ y = -1)
  index : ∀ (id a : NodeId) (slot : Nat) (i : Int) (items : List Value),
    graph.nodes[id]? = some (.element slot a) → graph.exact row scope a = some (.int i) →
    scope[slot]? = some (.list items) → 0 ≤ i ∧ i < items.length
  wanted : ∀ (id c : NodeId), graph.nodes[id]? = some (.deoptIf c) →
    graph.exact row scope c ≠ some (.bool true)

/-- No node stops on a representable row, if the values before it are the exact ones and none of
them is a double. -/
theorem Representable.not_stops (h : graph.Representable row scope) (hw : graph.WellFormed)
    (hid : graph.nodes[id]? = some node) {look : NodeId → Option Scalar}
    (hlook : ∀ a < id, graph.exact row scope a = (look a).bind Exact.ofScalar?)
    (hdouble : ∀ a < id, ∀ x, look a ≠ some (.double x)) (reason : GiveUp) :
    ¬ node.Stops (Evaluation.ofLookup look) scope reason := by
  have hread {a : NodeId} {s : Scalar} (ha : a ∈ node.inputs)
      (hs : Evaluation.ofLookup look a = .ok s) :
      graph.exact row scope a = Exact.ofScalar? s := by
    rw [hlook a (hw.inputs id node hid a ha), Evaluation.ofLookup_eq_ok_iff.1 hs]
    rfl
  have hself : graph.exact row scope id = _ := exact_eq hw hid
  intro hstop
  cases hstop with
  | @unary op a s _ ha hstop =>
    have hexact := hread (by simp [Node.inputs]) ha
    rw [Node.exact, hexact] at hself
    cases hstop with
    | neg hnot => exact hnot (h.fits id _ hself)
    | abs hnot => exact hnot (h.fits id _ hself)
    | toInt =>
      have hlt := hw.inputs id _ hid a (by simp [Node.inputs])
      exact hdouble a hlt _ (Evaluation.ofLookup_eq_ok_iff.1 ha)
  | @binary op a b x y _ ha hb hstop =>
    have hexact := hread (by simp [Node.inputs]) ha
    have hexact' := hread (by simp [Node.inputs]) hb
    rw [Node.exact, hexact, hexact'] at hself
    cases hstop with
    | add hnot => exact hnot (h.fits id _ hself)
    | sub hnot => exact hnot (h.fits id _ hself)
    | mul hnot => exact hnot (h.fits id _ hself)
    | rem_zero hzero => exact (h.remainder id a b _ _ hid hexact hexact').1 hzero
    | rem_least hx hy => exact (h.remainder id a b _ _ hid hexact hexact').2 ⟨hx, hy⟩
  | @element slot index w items hindex hlist hmiss =>
    obtain ⟨hle, hlt⟩ := h.index id index slot _ _ hid (hread (by simp [Node.inputs]) hindex) hlist
    omega
  | @requested c hc => exact h.wanted id c hid (hread (by simp [Node.inputs]) hc)

end Graph

namespace Kernel

variable {graph : Graph} {input output : RowType} {scope : Scope} {k : Kernel} {row : List Scalar}
  {n : Nat} {values : Array (Option Scalar)}

/-- The values of the first nodes are the exact ones. -/
theorem exact_of_values (hcheck : check graph input output scope = .ok k)
    (hdouble : ∀ id, k.kinds.getD id none ≠ some .double)
    (hrow : row.map Scalar.kind = input.kinds)
    (huniform : ∀ node ∈ graph.nodes, node.ReadsUniform scope) (hn : n ≤ graph.size)
    (h : Evaluation.evalFrom row scope #[] ((graph.nodes.zip k.kinds.toList).take n) =
      .ok values) :
    ∀ id < n, graph.exact row scope id = (values.getD id none).bind Exact.ofScalar? := by
  obtain ⟨-, hw, -⟩ := exists_of_check hcheck
  obtain ⟨-, hkinds⟩ := kinds_of_values hcheck hrow huniform hn h
  -- a node reads nodes with smaller numbers only
  intro id
  induction id using Nat.strongRecOn with
  | ind id ih =>
    intro hid
    have hnode : graph.nodes[id]? = some _ := List.getElem?_eq_getElem (Nat.lt_of_lt_of_le hid hn)
    have hkind := (kind_of_check hcheck).2 id _ hnode
    rw [Graph.exact_eq hw hnode]
    refine Node.exact_of_eval hkind (hdouble id) (fun a ha => ?_)
      (eval_of_values hcheck h hnode hid)
    have hlt := hw.inputs id _ hnode a ha
    obtain ⟨ka, hka⟩ := Node.exists_kind_of_inferKind hkind ha
    have hsome := Typing.ofKinds_eq_ok_iff.1 hka
    rw [← hkinds a (Nat.lt_trans hlt hid), Option.map_eq_some_iff] at hsome
    obtain ⟨s, hs, rfl⟩ := hsome
    obtain ⟨x, hx⟩ := Exact.exists_ofScalar? fun hd : s.kind = .double =>
      hdouble a (hd ▸ Typing.ofKinds_eq_ok_iff.1 hka)
    refine ⟨s, x, hs, hka, hx, ?_⟩
    rw [ih a hlt (Nat.lt_trans hlt hid), hs]
    exact hx

/-- If all nodes have values, none of them has a reason to stop. -/
theorem not_stops_of_values (hcheck : check graph input output scope = .ok k)
    (hrow : row.map Scalar.kind = input.kinds)
    (huniform : ∀ node ∈ graph.nodes, node.ReadsUniform scope)
    (h : Evaluation.evalFrom row scope #[] ((graph.nodes.zip k.kinds.toList).take graph.size) =
      .ok values) {id : NodeId} {node : Node} (hid : graph.nodes[id]? = some node)
    (reason : GiveUp) : ¬ node.Stops (Evaluation.ofLookup (values.getD · none)) scope reason := by
  obtain ⟨-, hkinds⟩ := kinds_of_values hcheck hrow huniform (Nat.le_refl _) h
  intro hstop
  have hlt := (List.getElem?_eq_some_iff.1 hid).1
  have hsound := sound_of_check hcheck hrow hid (huniform _ (List.mem_of_getElem? hid))
    fun a ha => hkinds a (Nat.lt_trans ha hlt)
  have herror := (hsound.stops reason).2 hstop
  rw [eval_of_values hcheck h hid hlt] at herror
  cases herror

/-- If all nodes have values, the row is representable. -/
theorem representable_of_values (hcheck : check graph input output scope = .ok k)
    (hdouble : ∀ id, k.kinds.getD id none ≠ some .double)
    (hrow : row.map Scalar.kind = input.kinds)
    (huniform : ∀ node ∈ graph.nodes, node.ReadsUniform scope)
    (h : Evaluation.evalFrom row scope #[] ((graph.nodes.zip k.kinds.toList).take graph.size) =
      .ok values) : graph.Representable row scope := by
  have hexact := exact_of_values hcheck hdouble hrow huniform (Nat.le_refl _) h
  -- an exact value is that of a scalar
  have hvalue {id : NodeId} {x : Exact} (hx : graph.exact row scope id = some x) :
      ∃ s, Evaluation.ofLookup (values.getD · none) id = .ok s ∧ Exact.ofScalar? s = some x := by
    rw [hexact id (Graph.lt_size_of_exact hx), Option.bind_eq_some_iff] at hx
    obtain ⟨s, hs, hx⟩ := hx
    exact ⟨s, Evaluation.ofLookup_eq_ok_iff.2 hs, hx⟩
  have hword {id : NodeId} {z : Int} (hz : graph.exact row scope id = some (.int z)) :
      ∃ w, Evaluation.ofLookup (values.getD · none) id = .ok (.int w) ∧ w.toInt = z := by
    obtain ⟨s, hs, hx⟩ := hvalue hz
    obtain ⟨w, rfl, hw⟩ := Exact.ofScalar?_eq_int hx
    exact ⟨w, hs, hw⟩
  have hgoes {id : NodeId} {node : Node} (hid : graph.nodes[id]? = some node) (reason : GiveUp) :=
    not_stops_of_values hcheck hrow huniform h hid reason
  constructor
  case fits =>
    intro id z hz
    obtain ⟨w, -, rfl⟩ := hword hz
    exact Word.fits_toInt w
  case remainder =>
    intro id a b x y hid hx hy
    obtain ⟨u, hu, rfl⟩ := hword hx
    obtain ⟨v, hv, rfl⟩ := hword hy
    exact ⟨fun hzero => hgoes hid _ (.binary hu hv (.rem_zero hzero)),
      fun hleast => hgoes hid _ (.binary hu hv (.rem_least hleast.1 hleast.2))⟩
  case index =>
    intro id a slot i items hid hi hlist
    obtain ⟨w, hw, rfl⟩ := hword hi
    have hnot : ¬ (w.toInt < 0 ∨ (items.length : Int) ≤ w.toInt) := fun hmiss =>
      hgoes hid _ (.element hw hlist hmiss)
    omega
  case wanted =>
    intro id c hid hc
    obtain ⟨s, hs, hx⟩ := hvalue hc
    obtain rfl := Exact.ofScalar?_eq_bool hx
    exact hgoes hid _ (.requested hs)

/-- A field of the output row is the widened value of its output. -/
theorem getElem?_of_collect {read : Evaluation.Reader} {outs : List NodeId} {kinds : List Kind}
    {out : List Scalar} (h : collect read outs kinds = .ok out) {i : Nat} {o : NodeId} {kind : Kind}
    (ho : outs[i]? = some o) (hkind : kinds[i]? = some kind) :
    ∃ s, read o = .ok s ∧ out[i]? = some (s.widen kind) := by
  induction outs generalizing kinds out i with
  | nil => cases ho
  | cons o' outs ih =>
    cases kinds with
    | nil => cases hkind
    | cons kind' kinds =>
      obtain ⟨s, hs, h⟩ := bind_eq_ok.1 h
      obtain ⟨rest, hrest, h⟩ := bind_eq_ok.1 h
      obtain rfl := pure_eq_ok.1 h
      cases i with
      | zero =>
        obtain rfl := Option.some.inj ho
        obtain rfl := Option.some.inj hkind
        exact ⟨s, hs, rfl⟩
      | succ i => exact ih hrest ho hkind

/-- A representable row has an output row. -/
theorem exists_run_of_representable (hcheck : check graph input output scope = .ok k)
    (hdouble : ∀ id, k.kinds.getD id none ≠ some .double)
    (huniform : ∀ node ∈ graph.nodes, node.ReadsUniform scope)
    (hrow : row.map Scalar.kind = input.kinds) (hrep : graph.Representable row scope) :
    ∃ out, k.run row scope = .ok out := by
  obtain ⟨hgraph, -, houtput, -⟩ := of_check hcheck
  obtain ⟨-, hw, -⟩ := exists_of_check hcheck
  cases hvalues : Evaluation.evalFrom row scope #[] (k.graph.nodes.zip k.kinds.toList) with
  | error reason =>
    -- the node that stopped would not have, on exact values
    obtain ⟨id, node, values, hid, hbefore, hstop⟩ :=
      (evalFrom_eq_error_iff hcheck hrow huniform).1 hvalues
    rw [hgraph] at hid hbefore
    have hle := Nat.le_of_lt (List.getElem?_eq_some_iff.1 hid).1
    obtain ⟨-, hkinds⟩ := kinds_of_values hcheck hrow huniform hle hbefore
    refine absurd hstop (hrep.not_stops hw hid
      (exact_of_values hcheck hdouble hrow huniform hle hbefore) (fun a ha x hx => ?_) reason)
    refine hdouble a ?_
    rw [← hkinds a ha, hx]
    rfl
  | ok values =>
    rw [hgraph] at hvalues
    obtain ⟨out, hout, -⟩ := collect_of_values hcheck hrow huniform hvalues
    refine ⟨out, bind_eq_ok.2 ⟨values, by rw [hgraph]; exact hvalues, ?_⟩⟩
    rw [hgraph, houtput]
    exact hout

/-- A scalar that is the value of a node stands for the exact one, since it is no double. -/
theorem exists_exact_of_value (hcheck : check graph input output scope = .ok k)
    (hdouble : ∀ id, k.kinds.getD id none ≠ some .double)
    (hrow : row.map Scalar.kind = input.kinds)
    (huniform : ∀ node ∈ graph.nodes, node.ReadsUniform scope)
    (h : Evaluation.evalFrom row scope #[] ((graph.nodes.zip k.kinds.toList).take graph.size) =
      .ok values) {id : NodeId} {s : Scalar} (hs : values.getD id none = some s) :
    ∃ x, graph.exact row scope id = some x ∧ Exact.ofScalar? s = some x := by
  obtain ⟨hsize, hkinds⟩ := kinds_of_values hcheck hrow huniform (Nat.le_refl _) h
  have hlt : id < graph.size := hsize ▸ lt_size_of_getD hs
  obtain ⟨x, hx⟩ := Exact.exists_ofScalar? fun hd : s.kind = .double => hdouble id (by
    rw [← hkinds id hlt, hs, Option.map_some, hd])
  refine ⟨x, ?_, hx⟩
  rw [exact_of_values hcheck hdouble hrow huniform (Nat.le_refl _) h id hlt, hs]
  exact hx

/-- A graph without doubles that has been typed, for lists in the captured scope that hold scalars
of one kind each, on a row of the input type.

* The kernel gives an output row just if the row is representable.
* Then every node that has a kind has an exact value of that kind, and the fields of the output row
  are the exact values of the outputs, made doubles where doubles are wanted. -/
theorem run_exact (hcheck : check graph input output scope = .ok k)
    (hdouble : ∀ id, k.kinds.getD id none ≠ some .double)
    (huniform : ∀ node ∈ graph.nodes, node.ReadsUniform scope)
    (hrow : row.map Scalar.kind = input.kinds) :
    ((∃ out, k.run row scope = .ok out) ↔ graph.Representable row scope) ∧
    ∀ out, k.run row scope = .ok out →
      (∀ id kind, k.kinds.getD id none = some kind →
        ∃ x, graph.exact row scope id = some x ∧ x.kind = kind) ∧
      out.length = output.width ∧
      ∀ (i : Nat) o kind, graph.outputs[i]? = some o → output.kinds[i]? = some kind →
        ∃ x, graph.exact row scope o = some x ∧ out[i]? = some (x.toScalar kind) := by
  obtain ⟨hgraph, -, houtput, -⟩ := of_check hcheck
  have hsize := (kind_of_check hcheck).1
  refine ⟨⟨?_, exists_run_of_representable hcheck hdouble huniform hrow⟩, fun out hout => ?_⟩
  · rintro ⟨out, hout⟩
    obtain ⟨values, hvalues, -⟩ := bind_eq_ok.1 hout
    rw [hgraph, ← take_zip_kinds hcheck] at hvalues
    exact representable_of_values hcheck hdouble hrow huniform hvalues
  · obtain ⟨values, hvalues, hcollect⟩ := bind_eq_ok.1 hout
    rw [hgraph, ← take_zip_kinds hcheck] at hvalues
    rw [hgraph, houtput] at hcollect
    obtain ⟨-, hkinds⟩ := kinds_of_values hcheck hrow huniform (Nat.le_refl _) hvalues
    have hvalue {id : NodeId} {s : Scalar} (hs : values.getD id none = some s) :=
      exists_exact_of_value hcheck hdouble hrow huniform hvalues hs
    refine ⟨fun id kind hkind => ?_, length_of_run hcheck hout, fun i o kind ho hkind => ?_⟩
    · have hlt : id < graph.size := hsize ▸ lt_size_of_getD hkind
      rw [← hkinds id hlt, Option.map_eq_some_iff] at hkind
      obtain ⟨s, hs, rfl⟩ := hkind
      obtain ⟨x, hx, hsx⟩ := hvalue hs
      exact ⟨x, hx, Exact.kind_of_ofScalar? hsx⟩
    · obtain ⟨s, hs, hfield⟩ := getElem?_of_collect hcollect ho hkind
      obtain ⟨x, hx, hsx⟩ := hvalue (Evaluation.require_eq_ok_iff.1 hs)
      exact ⟨x, hx, by rw [hfield, Exact.toScalar_of_ofScalar? hsx]⟩

/-- The remainder of two numbers or the opposite of the second, whichever is less, unless they are
equal. -/
def leastOfTwo : Graph where
  nodes := [.param 0, .param 1, .binary .rem 0 1, .unary .neg 1, .compare .lt 2 3,
    .select 4 2 3, .compare .eq 0 1, .deoptIf 6]
  outputs := [5]
  anchors := [7]

/-- Its kernel for two words, with a double for the result. -/
def leastOfTwoKernel : Kernel where
  graph := leastOfTwo
  input := .tuple [.int, .int] (by decide)
  output := .scalar .double
  kinds :=
    #[some .int, some .int, some .int, some .int, some .boolean, some .int, some .boolean, none]

theorem run_exact_leastOfTwo :
    check leastOfTwo leastOfTwoKernel.input (.scalar .double) [] = .ok leastOfTwoKernel ∧
      leastOfTwoKernel.run [.int (-7), .int 4] [] = .ok [.double (Float.ofInt (-4))] ∧
      leastOfTwo.exact [.int (-7), .int 4] [] 2 = some (.int (-3)) ∧
      leastOfTwo.Representable [.int (-7), .int 4] [] ∧
      ¬ leastOfTwo.Representable [.int (-2147483648), .int (-1)] [] ∧
      ¬ leastOfTwo.Representable [.int 5, .int (-2147483648)] [] ∧
      ¬ leastOfTwo.Representable [.int 5, .int 5] [] := by
  have hcheck : check leastOfTwo leastOfTwoKernel.input (.scalar .double) [] =
      .ok leastOfTwoKernel := rfl
  have hdouble : ∀ id, leastOfTwoKernel.kinds.getD id none ≠ some .double := by
    intro id h
    have hlt := lt_size_of_getD h
    rw [Array.getD_eq_getD_getElem?, Array.getElem?_eq_getElem hlt] at h
    have hmem : some Kind.double ∈ leastOfTwoKernel.kinds.toList :=
      Array.mem_toList_iff.2 (h ▸ Array.getElem_mem hlt)
    exact absurd hmem (by decide)
  have huniform : ∀ node ∈ leastOfTwo.nodes, node.ReadsUniform [] :=
    fun _ _ _ _ _ _ hlist => by cases hlist
  have hiff (a b : Int32) := (run_exact hcheck hdouble huniform
    (show [Scalar.int a, .int b].map Scalar.kind = leastOfTwoKernel.input.kinds from rfl)).1
  -- a row that is given up is not representable
  have hnot (a b : Int32) (reason : GiveUp)
      (h : leastOfTwoKernel.run [.int a, .int b] [] = .error reason) :
      ¬ leastOfTwo.Representable [.int a, .int b] [] := by
    intro hrep
    obtain ⟨out, hout⟩ := (hiff a b).2 hrep
    cases h.symm.trans hout
  exact ⟨hcheck, rfl, rfl, (hiff (-7) 4).1 ⟨_, rfl⟩, hnot _ _ .remainder rfl,
    hnot _ _ .overflow rfl, hnot _ _ .requested rfl⟩

end Kernel

end TieredVectors
