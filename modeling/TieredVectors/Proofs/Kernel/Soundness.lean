import TieredVectors.Proofs.Kernel.Filling
import TieredVectors.Proofs.Kernel.Nodes
import TieredVectors.Proofs.Kernel.Units

/-!
# Typed kernels do not go wrong

Typing and evaluation are two case analyses over the same nodes. Where typing gives a node a kind,
evaluation gives it a value of that kind or stops for one of five reasons, which are said here
without the evaluator (`Node.Stops`): the exact result of an operation on words is no word, a
remainder has no quotient, a double has no whole part that is a word, an index misses its list, or
the node asks for it.

* `Node.sound_of_inferKind` — one node, whatever the kinds and the values of the nodes before it are
  kept in;
* `Kernel.kinds_of_values` — all nodes, by induction on their numbers;
* `Kernel.run_typed_or_stops` — a kernel gives a row of its output type, or stops at a node.
-/

namespace TieredVectors

namespace Evaluation

/-! ## Operations -/

/-- An operation on one scalar that has no result, and why. -/
inductive UnaryStops : UnaryOp → Scalar → GiveUp → Prop where
  | neg {w : Int32} (h : ¬ Word.Fits (-w.toInt)) : UnaryStops .neg (.int w) .overflow
  | abs {w : Int32} (h : ¬ Word.Fits w.toInt.natAbs) : UnaryStops .abs (.int w) .overflow
  /-- The double is not finite, or its whole part is no word. -/
  | toInt {x : Float} (h : ∀ z, Double.truncate? x = some z → ¬ Word.Fits z) :
      UnaryStops .toInt (.double x) .conversion

/-- An operation on two words that has no result, and why. -/
inductive BinaryStops : BinaryOp → Int32 → Int32 → GiveUp → Prop where
  | add {x y : Int32} (h : ¬ Word.Fits (x.toInt + y.toInt)) : BinaryStops .add x y .overflow
  | sub {x y : Int32} (h : ¬ Word.Fits (x.toInt - y.toInt)) : BinaryStops .sub x y .overflow
  | mul {x y : Int32} (h : ¬ Word.Fits (x.toInt * y.toInt)) : BinaryStops .mul x y .overflow
  | rem_zero {x y : Int32} (h : y.toInt = 0) : BinaryStops .rem x y .remainder
  | rem_least {x y : Int32} (hx : x.toInt = -2147483648) (hy : y.toInt = -1) :
      BinaryStops .rem x y .remainder

theorem require_eq_error_iff {α : Type} {reason reason' : GiveUp} {x : Option α} :
    require reason x = .error reason' ↔ x = none ∧ reason = reason' := by
  cases x <;> simp [require]

theorem require_eq_ok_iff {α : Type} {reason : GiveUp} {x : Option α} {a : α} :
    require reason x = .ok a ↔ x = some a := by
  cases x <;> simp [require]

theorem ofLookup_eq_ok_iff {look : NodeId → Option Scalar} {a : NodeId} {s : Scalar} :
    ofLookup look a = .ok s ↔ look a = some s :=
  require_eq_ok_iff

theorem ofInt?_eq_none_iff {z : Int} : Word.ofInt? z = none ↔ ¬ Word.Fits z := by
  unfold Word.ofInt?
  split <;> simp [*]

theorem toWord_eq_error_iff {x : Float} {reason : GiveUp} :
    toWord x = .error reason ↔
      (∀ z, Double.truncate? x = some z → ¬ Word.Fits z) ∧ .conversion = reason := by
  rw [toWord, require_eq_error_iff]
  cases Double.truncate? x <;> simp [ofInt?_eq_none_iff]

/-- A remainder is there just when the quotient is: the divisor is not zero, and it is not the least
word that is divided by minus one. -/
theorem divides_iff (x y : Int32) :
    Word.Divides x y ↔ y.toInt ≠ 0 ∧ ¬ (x.toInt = -2147483648 ∧ y.toInt = -1) := by
  obtain ⟨hle, hlt⟩ := Word.fits_toInt x
  have hquotient : (x.toInt.tdiv y.toInt).natAbs = x.toInt.natAbs / y.toInt.natAbs :=
    Int.natAbs_tdiv x.toInt y.toInt
  refine and_congr_right fun hy => ⟨?_, fun hnot => ?_⟩
  · rintro ⟨-, hfits⟩ ⟨hx, hy⟩
    rw [hx, hy] at hfits
    exact absurd hfits (by decide)
  · by_cases hone : y.toInt.natAbs = 1
    · -- dividing by one or minus one gives the word or its opposite
      rcases Int.natAbs_eq y.toInt with h | h <;> rw [hone] at h <;> rw [h] at hnot ⊢ <;>
        constructor <;> simp <;> omega
    · have hhalf : x.toInt.natAbs / y.toInt.natAbs ≤ x.toInt.natAbs / 2 :=
        Nat.div_le_div_left (by omega) (by omega)
      constructor <;> omega

/-- A remainder of words is a word: it is no larger in magnitude, and has the same sign. -/
theorem fits_tmod (x y : Int32) : Word.Fits (x.toInt.tmod y.toInt) := by
  obtain ⟨hle, hlt⟩ := Word.fits_toInt x
  have hmagnitude : (x.toInt.tmod y.toInt).natAbs ≤ x.toInt.natAbs := by
    rw [Int.natAbs_tmod]
    exact Nat.mod_le _ _
  have hneg : x.toInt ≤ 0 → x.toInt.tmod y.toInt ≤ 0 := fun h => by
    have := Int.tmod_nonneg (a := -x.toInt) y.toInt (by omega)
    rw [Int.neg_tmod] at this
    omega
  constructor <;> omega

theorem rem?_eq_none_iff {x y : Int32} :
    Word.rem? x y = none ↔ y.toInt = 0 ∨ x.toInt = -2147483648 ∧ y.toInt = -1 := by
  rw [Word.rem?]
  split
  next h =>
    rw [ofInt?_eq_none_iff, divides_iff] at *
    simp only [fits_tmod, not_true_eq_false, false_iff]
    grind
  next h =>
    rw [divides_iff] at h
    simp only [true_iff]
    grind

/-- An operation on one scalar has no result just when there is a reason. -/
theorem unary_eq_error_iff {op : UnaryOp} {s : Scalar} {reason : GiveUp} :
    unary op s = .error reason ↔ UnaryStops op s reason := by
  constructor
  · intro h
    cases op <;> cases s <;>
      simp only [unary, map_eq_error, require_eq_error_iff, toWord_eq_error_iff, Word.neg?,
        Word.abs?, ofInt?_eq_none_iff, reduceCtorEq] at h
    · exact h.2 ▸ .neg h.1
    · exact h.2 ▸ .abs h.1
    · exact h.2 ▸ .toInt h.1
  · intro h
    cases h with
    | neg h => rw [unary, map_eq_error, require_eq_error_iff]; exact ⟨ofInt?_eq_none_iff.2 h, rfl⟩
    | abs h => rw [unary, map_eq_error, require_eq_error_iff]; exact ⟨ofInt?_eq_none_iff.2 h, rfl⟩
    | toInt h => rw [unary, map_eq_error, toWord_eq_error_iff]; exact ⟨h, rfl⟩

/-- An operation on two words that gives words has no result just when there is a reason. -/
theorem binaryWords_eq_error_iff {op : BinaryOp} {x y : Int32} {reason : GiveUp}
    (hop : op ≠ .div ∧ op ≠ .and ∧ op ≠ .or) :
    binaryWords op x y = .error reason ↔ BinaryStops op x y reason := by
  constructor
  · intro h
    cases op <;>
      simp only [binaryWords, require_eq_error_iff, Word.add?, Word.sub?, Word.mul?,
        ofInt?_eq_none_iff, rem?_eq_none_iff, reduceCtorEq] at h
    · exact h.2 ▸ .add h.1
    · exact h.2 ▸ .sub h.1
    · exact h.2 ▸ .mul h.1
    · simp at hop
    · obtain ⟨hzero | ⟨hx, hy⟩, rfl⟩ := h
      · exact .rem_zero hzero
      · exact .rem_least hx hy
    · simp at hop
    · simp at hop
  · intro h
    cases h <;> simp_all [binaryWords, require_eq_error_iff, Word.add?, Word.sub?, Word.mul?,
      ofInt?_eq_none_iff, rem?_eq_none_iff]

/-- The result of an operation on one scalar has the kind that typing gives it. -/
theorem kind_of_unary {read : Typing.Reader} {op : UnaryOp} {a : NodeId} {k : Kind} {s t : Scalar}
    (hk : Typing.unary read op a = .ok k) (hs : read a = .ok s.kind) (ht : unary op s = .ok t) :
    t.kind = k := by
  cases op <;> cases s <;>
    simp_all [Typing.unary, Typing.numeric_eq_ok_iff, Typing.boolean_eq_ok_iff, unary, map_eq_ok,
      Scalar.kind] <;> grind [Scalar.kind]

/-- Two numbers have a result that is a word just when they are words; truth values are no numbers.
-/
theorem promoted_cases {read : Typing.Reader} {a b : NodeId} {k : Kind} {x y : Scalar}
    (hk : Typing.promoted read a b = .ok k) (hx : read a = .ok x.kind)
    (hy : read b = .ok y.kind) :
    (∃ u v, x = .int u ∧ y = .int v ∧ k = .int) ∨
      k = .double ∧ ∀ u v, ¬ (x = .int u ∧ y = .int v) := by
  obtain ⟨ka, kb, ha, hb, rfl⟩ := Typing.promoted_eq_ok_iff.1 hk
  obtain ⟨ha, hna⟩ := Typing.numeric_eq_ok_iff.1 ha
  obtain ⟨hb, hnb⟩ := Typing.numeric_eq_ok_iff.1 hb
  obtain rfl := Except.ok.inj (hx.symm.trans ha)
  obtain rfl := Except.ok.inj (hy.symm.trans hb)
  -- of the pairs of kinds, those with a truth value have been refused
  cases x <;> cases y <;> simp_all [Scalar.kind, Typing.promote]

/-- An operation on two scalars is one on words, or has a result as a double or a truth value. -/
theorem binary_cases {read : Typing.Reader} {op : BinaryOp} {a b : NodeId} {k : Kind} {x y : Scalar}
    (hk : Typing.binary read op a b = .ok k) (hx : read a = .ok x.kind)
    (hy : read b = .ok y.kind) :
    (∃ u v, x = .int u ∧ y = .int v ∧ (op ≠ .div ∧ op ≠ .and ∧ op ≠ .or) ∧
      binary op x y k = .int <$> binaryWords op u v ∧ k = .int) ∨
    binary op x y k = .ok (binaryDoubles op x y) ∧ (binaryDoubles op x y).kind = k ∧
      ∀ u v reason, x = .int u → y = .int v → ¬ BinaryStops op u v reason := by
  have hdouble (hk : k ≠ .int) : binary op x y k = .ok (binaryDoubles op x y) := by
    unfold binary
    split
    · exact absurd rfl hk
    · rfl
  cases op with
  | and | or =>
    obtain ⟨-, -, hk⟩ := bind_eq_ok.1 hk
    obtain ⟨-, -, hk⟩ := bind_eq_ok.1 hk
    obtain rfl := pure_eq_ok.1 hk
    exact .inr ⟨hdouble (by simp), rfl, fun _ _ _ _ _ h => by cases h⟩
  | div =>
    obtain ⟨-, -, hk⟩ := bind_eq_ok.1 hk
    obtain rfl := pure_eq_ok.1 hk
    exact .inr ⟨hdouble (by simp), rfl, fun _ _ _ _ _ h => by cases h⟩
  | add | sub | mul | rem | min | max =>
    rcases promoted_cases hk hx hy with ⟨u, v, rfl, rfl, rfl⟩ | ⟨rfl, hwords⟩
    · exact .inl ⟨u, v, rfl, rfl, by simp, rfl, rfl⟩
    · exact .inr ⟨hdouble (by simp), rfl, fun u v _ hx hy _ => hwords u v ⟨hx, hy⟩⟩

end Evaluation

/-! ## One node -/

/-- The node has no outcome for the row, and why, given the values of the nodes that it reads. -/
inductive Node.Stops (read : Evaluation.Reader) (scope : Scope) : Node → GiveUp → Prop where
  | unary {op : UnaryOp} {a : NodeId} {s : Scalar} {reason : GiveUp} (ha : read a = .ok s)
      (h : Evaluation.UnaryStops op s reason) : Stops read scope (.unary op a) reason
  | binary {op : BinaryOp} {a b : NodeId} {x y : Int32} {reason : GiveUp}
      (ha : read a = .ok (.int x)) (hb : read b = .ok (.int y))
      (h : Evaluation.BinaryStops op x y reason) : Stops read scope (.binary op a b) reason
  /-- The index is negative, or past the end of the captured list. -/
  | element {slot : Nat} {index : NodeId} {w : Int32} {items : List Value}
      (hindex : read index = .ok (.int w)) (hlist : scope[slot]? = some (.list items))
      (h : w.toInt < 0 ∨ items.length ≤ w.toInt) : Stops read scope (.element slot index) .index
  | requested {cond : NodeId} (h : read cond = .ok (.bool true)) :
      Stops read scope (.deoptIf cond) .requested

/-- If the node reads an element of a captured list, the items of that list are scalars of one
kind. -/
def Node.ReadsUniform (node : Node) (scope : Scope) : Prop :=
  ∀ slot index items, node = .element slot index → scope[slot]? = some (.list items) →
    ∃ k, ∀ v ∈ items, v.scalar?.map Scalar.kind = some k

/-- A comparison is a truth value. -/
theorem Typing.kind_of_compare {read : Typing.Reader} {op : CompareOp} {a b : NodeId} {k : Kind}
    (hk : Typing.compare read op a b = .ok k) : k = .boolean := by
  obtain ⟨ka, -, hk⟩ := bind_eq_ok.1 hk
  obtain ⟨kb, -, hk⟩ := bind_eq_ok.1 hk
  dsimp only at hk
  split at hk
  · exact (pure_eq_ok.1 hk).symm
  · obtain ⟨-, -, hk⟩ := bind_eq_ok.1 hk
    exact (pure_eq_ok.1 hk).symm

namespace Node

variable {node : Node} {id : NodeId} {kinds : Typing.Reader} {values : Evaluation.Reader}
  {input : RowType} {scope : Scope} {row : List Scalar} {kind : Option Kind}

/-- The node stops on the row just when there is a reason, and otherwise has a value of the kind, or
none if that is none. -/
structure Sound (node : Node) (kind : Option Kind) (values : Evaluation.Reader) (row : List Scalar)
    (scope : Scope) : Prop where
  stops : ∀ reason, node.eval kind values row scope = .error reason ↔
    node.Stops values scope reason
  typed : ∀ v, node.eval kind values row scope = .ok v → v.map Scalar.kind = kind

/-- A node that has an outcome whatever the row is. -/
theorem Sound.of_ok {v : Option Scalar} (h : node.eval kind values row scope = .ok v)
    (hkind : v.map Scalar.kind = kind) (hnot : ∀ reason, ¬ node.Stops values scope reason) :
    node.Sound kind values row scope := by
  refine ⟨fun reason => ?_, fun v' hv' => ?_⟩
  · simp [h, hnot]
  · obtain rfl := Except.ok.inj (h.symm.trans hv')
    exact hkind

/-- A node whose value is the result of an operation. -/
theorem Sound.of_operation {r : Except GiveUp Scalar} {k : Kind}
    (h : node.eval (some k) values row scope = some <$> r)
    (hstops : ∀ reason, r = .error reason ↔ node.Stops values scope reason)
    (htyped : ∀ t, r = .ok t → t.kind = k) : node.Sound (some k) values row scope := by
  refine ⟨fun reason => ?_, fun v hv => ?_⟩
  · rw [h, map_eq_error, hstops]
  · rw [h] at hv
    obtain ⟨t, ht, rfl⟩ := map_eq_ok.1 hv
    rw [Option.map_some, htyped t ht]

/-- A scalar of a kind, or a word where a double is wanted, is of the kind once it is widened. -/
theorem kind_widen {s : Scalar} {k : Kind} (h : s.kind = k ∨ s.kind = .int ∧ k = .double) :
    (s.widen k).kind = k := by
  cases s <;> cases k <;> simp_all [Scalar.widen, Scalar.kind]

/-- Whichever of two values a choice takes, it is of the kind of the choice once it is widened. -/
theorem kind_of_select {c t f : NodeId} {k : Kind} {x y : Scalar}
    (hk : Typing.select kinds c t f = .ok k) (hx : kinds t = .ok x.kind)
    (hy : kinds f = .ok y.kind) : (x.widen k).kind = k ∧ (y.widen k).kind = k := by
  obtain ⟨-, -, hk⟩ := bind_eq_ok.1 hk
  obtain ⟨kt, hkt, hk⟩ := bind_eq_ok.1 hk
  obtain ⟨kf, hkf, hk⟩ := bind_eq_ok.1 hk
  obtain rfl := Except.ok.inj (hx.symm.trans hkt)
  obtain rfl := Except.ok.inj (hy.symm.trans hkf)
  split at hk
  next hsame =>
    obtain rfl := pure_eq_ok.1 hk
    exact ⟨kind_widen (.inl rfl), kind_widen (.inl hsame.symm)⟩
  next =>
    obtain ⟨ka, kb, ha, hb, rfl⟩ := Typing.promoted_eq_ok_iff.1 hk
    obtain ⟨ha, hna⟩ := Typing.numeric_eq_ok_iff.1 ha
    obtain ⟨hb, hnb⟩ := Typing.numeric_eq_ok_iff.1 hb
    obtain rfl := Except.ok.inj (hx.symm.trans ha)
    obtain rfl := Except.ok.inj (hy.symm.trans hb)
    constructor <;> apply kind_widen <;> cases x <;> cases y <;>
      simp_all [Scalar.kind, Typing.promote]

/-- What has a kind as an element is a list. -/
theorem exists_list_of_scopeElements {slot : Nat} {k : Kind}
    (hk : Typing.scopeElements scope slot = .ok k) : ∃ items, scope[slot]? = some (.list items) := by
  unfold Typing.scopeElements at hk
  split at hk
  next items hlist => exact ⟨items, hlist⟩
  next => cases hk

/-- An element of a captured list of scalars of one kind. -/
theorem element_typed {slot : Nat} {items : List Value} {k k' : Kind} {w : Int32}
    (hlist : scope[slot]? = some (.list items)) (hk : Typing.scopeElements scope slot = .ok k)
    (hitems : ∀ v ∈ items, v.scalar?.map Scalar.kind = some k') :
    (∀ reason, Evaluation.element scope slot (.int w) = .error reason ↔
      (w.toInt < 0 ∨ items.length ≤ w.toInt) ∧ .index = reason) ∧
    ∀ t, Evaluation.element scope slot (.int w) = .ok t → t.kind = k := by
  -- the kind of the first item is that of all
  have hkind : k = k' := by
    rw [Typing.scopeElements, hlist] at hk
    cases items with
    | nil => cases hk
    | cons first rest =>
      have hfirst := hitems first List.mem_cons_self
      cases hs : first.scalar? <;> simp_all
  subst hkind
  simp only [Evaluation.element, hlist]
  -- the index is looked up as a number, once it is known not to be negative
  split
  next hneg =>
    refine ⟨fun reason => ?_, fun _ h => by cases h⟩
    simp [hneg]
  next hnonneg =>
    cases hitem : items[w.toInt.toNat]? with
    | none =>
      have hpast := List.getElem?_eq_none_iff.1 hitem
      refine ⟨fun reason => ?_, fun _ h => by cases h⟩
      simp only [Except.error.injEq, iff_and_self]
      intro _
      omega
    | some v =>
      have hlt := (List.getElem?_eq_some_iff.1 hitem).1
      obtain ⟨t, ht, rfl⟩ := Option.map_eq_some_iff.1 (hitems v (List.mem_of_getElem? hitem))
      simp only [ht, Evaluation.require]
      refine ⟨fun reason => ?_, fun t' ht' => ?_⟩
      · simp only [reduceCtorEq, false_iff]
        omega
      · rw [Except.ok.inj ht']

theorem sound_element {slot : Nat} {index : NodeId} {k : Kind} {w : Int32}
    (hs : values index = .ok (.int w)) (hk : Typing.scopeElements scope slot = .ok k)
    (huniform : (Node.element slot index).ReadsUniform scope) :
    (Node.element slot index).Sound (some k) values row scope := by
  obtain ⟨items, hlist⟩ := exists_list_of_scopeElements hk
  obtain ⟨k', hitems⟩ := huniform slot index items rfl hlist
  obtain ⟨hstops, htyped⟩ := element_typed (w := w) hlist hk hitems
  refine .of_operation (by rw [eval, hs]; rfl) (fun reason => ?_) htyped
  rw [hstops]
  constructor
  · rintro ⟨hmiss, rfl⟩
    exact .element hs hlist hmiss
  · rintro (_ | _ | ⟨hs', hlist', hmiss⟩ | _)
    obtain rfl : w = _ := by simpa using hs.symm.trans hs'
    obtain rfl : items = _ := by simpa using hlist.symm.trans hlist'
    exact ⟨hmiss, rfl⟩

theorem sound_binary {op : BinaryOp} {a b : NodeId} {k : Kind} {x y : Scalar}
    (hk : Typing.binary kinds op a b = .ok k) (hx : values a = .ok x) (hxk : kinds a = .ok x.kind)
    (hy : values b = .ok y) (hyk : kinds b = .ok y.kind) :
    (Node.binary op a b).Sound (some k) values row scope := by
  have heval : (Node.binary op a b).eval (some k) values row scope =
      some <$> Evaluation.binary op x y k := by
    rw [eval, hx, hy]
    rfl
  rcases Evaluation.binary_cases hk hxk hyk with
    ⟨u, v, rfl, rfl, hop, hwords, rfl⟩ | ⟨hdoubles, hkind, hnot⟩
  · rw [hwords] at heval
    refine .of_operation heval (fun reason => ?_) fun t ht => ?_
    · rw [map_eq_error, Evaluation.binaryWords_eq_error_iff hop]
      constructor
      · exact .binary hx hy
      · rintro (_ | ⟨hx', hy', h⟩ | _ | _)
        obtain rfl : u = _ := by simpa using hx.symm.trans hx'
        obtain rfl : v = _ := by simpa using hy.symm.trans hy'
        exact h
    · obtain ⟨w, -, rfl⟩ := map_eq_ok.1 ht
      rfl
  · -- only words can overflow or lack a remainder
    rw [hdoubles] at heval
    refine .of_ok heval (congrArg some hkind) ?_
    rintro reason (_ | ⟨hx', hy', h⟩ | _ | _)
    exact hnot _ _ _ (Except.ok.inj (hx.symm.trans hx')) (Except.ok.inj (hy.symm.trans hy')) h

theorem sound_deoptIf {c : NodeId} {b : Bool} (hs : values c = .ok (.bool b)) :
    (Node.deoptIf c).Sound none values row scope := by
  cases b with
  | false =>
    refine .of_ok (v := none) (by rw [eval, hs]; rfl) rfl ?_
    rintro reason (_ | _ | _ | h)
    simp [hs] at h
  | true =>
    have heval : (Node.deoptIf c).eval none values row scope = .error .requested := by
      rw [eval, hs]
      rfl
    refine ⟨fun reason => ?_, fun v hv => ?_⟩
    · rw [heval]
      constructor
      · rintro ⟨rfl⟩
        exact .requested hs
      · rintro (_ | _ | _ | _)
        rfl
    · rw [heval] at hv
      cases hv

/-- A node that has been typed for the rows of a type is sound on such a row, if the nodes which it
reads have values of their kinds. -/
theorem sound_of_inferKind (hkind : node.inferKind id kinds input scope = .ok kind)
    (hread : ∀ a ∈ node.inputs, ∀ k, kinds a = .ok k → ∃ s, values a = .ok s ∧ s.kind = k)
    (hrow : row.map Scalar.kind = input.kinds) (huniform : node.ReadsUniform scope) :
    node.Sound kind values row scope := by
  -- typing has read the kinds of all inputs, so that they have values
  have hvalue : ∀ a ∈ node.inputs, ∃ s, values a = .ok s ∧ kinds a = .ok s.kind := by
    intro a ha
    obtain ⟨k, hk⟩ := exists_kind_of_inferKind hkind ha
    obtain ⟨s, hs, rfl⟩ := hread a ha k hk
    exact ⟨s, hs, hk⟩
  cases node with
  | param field =>
    simp only [inferKind] at hkind
    split at hkind
    next k hk =>
      obtain rfl := Except.ok.inj hkind
      rw [← hrow, List.getElem?_map, Option.map_eq_some_iff] at hk
      obtain ⟨s, hs, rfl⟩ := hk
      exact .of_ok (by rw [eval, hs]; rfl) rfl fun _ h => by cases h
    next => cases hkind
  | const s =>
    obtain rfl := Except.ok.inj hkind
    exact .of_ok rfl rfl fun _ h => by cases h
  | scope slot =>
    obtain ⟨k, hk, rfl⟩ := map_eq_ok.1 hkind
    rw [Typing.scope] at hk
    split at hk
    next s hs =>
      obtain rfl := Except.ok.inj hk
      exact .of_ok (by rw [eval, Evaluation.scope, hs]; rfl) rfl fun _ h => by cases h
    next => cases hk
  | element slot index =>
    obtain ⟨s, hs, hsk⟩ := hvalue index (by simp [inputs])
    obtain ⟨k, hk, rfl⟩ := map_eq_ok.1 hkind
    obtain ⟨ki, hki, hk⟩ := bind_eq_ok.1 hk
    obtain rfl := Except.ok.inj (hsk.symm.trans hki)
    cases s with
    | double _ | bool _ => cases hk
    | int w => exact sound_element hs hk huniform
  | unary op a =>
    obtain ⟨s, hs, hsk⟩ := hvalue a (by simp [inputs])
    obtain ⟨k, hk, rfl⟩ := map_eq_ok.1 hkind
    refine .of_operation (by rw [eval, hs]; rfl) (fun reason => ?_)
      fun t => Evaluation.kind_of_unary hk hsk
    rw [Evaluation.unary_eq_error_iff]
    constructor
    · exact .unary hs
    · rintro (⟨hs', h⟩ | _ | _ | _)
      obtain rfl := Except.ok.inj (hs.symm.trans hs')
      exact h
  | binary op a b =>
    obtain ⟨x, hx, hxk⟩ := hvalue a (by simp [inputs])
    obtain ⟨y, hy, hyk⟩ := hvalue b (by simp [inputs])
    obtain ⟨k, hk, rfl⟩ := map_eq_ok.1 hkind
    exact sound_binary hk hx hxk hy hyk
  | compare op a b =>
    obtain ⟨x, hx, -⟩ := hvalue a (by simp [inputs])
    obtain ⟨y, hy, -⟩ := hvalue b (by simp [inputs])
    obtain ⟨k, hk, rfl⟩ := map_eq_ok.1 hkind
    refine .of_ok (by rw [eval, hx, hy]; rfl) ?_ fun _ h => by cases h
    rw [Option.map_some, Typing.kind_of_compare hk]
    rfl
  | select c t f =>
    obtain ⟨b, hb, -⟩ := hvalue c (by simp [inputs])
    obtain ⟨x, hx, hxk⟩ := hvalue t (by simp [inputs])
    obtain ⟨y, hy, hyk⟩ := hvalue f (by simp [inputs])
    obtain ⟨k, hk, rfl⟩ := map_eq_ok.1 hkind
    obtain ⟨hxw, hyw⟩ := kind_of_select hk hxk hyk
    cases htrue : b.isTrue with
    | true =>
      refine .of_ok (v := some (x.widen k)) ?_ (congrArg some hxw) fun _ h => by cases h
      simp [eval, hb, htrue, hx, Evaluation.require, bind, Except.bind, pure, Except.pure]
    | false =>
      refine .of_ok (v := some (y.widen k)) ?_ (congrArg some hyw) fun _ h => by cases h
      simp [eval, hb, htrue, hy, Evaluation.require, bind, Except.bind, pure, Except.pure]
  | deoptIf c =>
    obtain ⟨s, hs, hsk⟩ := hvalue c (by simp [inputs])
    obtain ⟨k, hk, rfl⟩ := map_eq_ok.1 hkind
    have hboolean : s.kind = .boolean :=
      Except.ok.inj (hsk.symm.trans (Typing.boolean_eq_ok_iff.1 hk))
    cases s with
    | int _ | double _ => cases hboolean
    | bool b => exact sound_deoptIf hs
  -- there is no rule for these
  | box _ | unbox _ | frameState _ | typeGuard _ _ => simp [inferKind] at hkind

end Node

namespace Kernel

/-! ## All nodes -/

variable {graph : Graph} {input output : RowType} {scope : Scope} {k : Kernel} {row : List Scalar}

/-- Typing a graph finds for each node the kind that its rule gives with the kinds of all. -/
theorem kind_of_check (h : check graph input output scope = .ok k) :
    k.kinds.size = graph.size ∧
      ∀ (id : NodeId) (node : Node), graph.nodes[id]? = some node →
        node.inferKind id (Typing.ofKinds k.kinds) input scope = .ok (k.kinds.getD id none) := by
  obtain ⟨kinds, hw, hinfer, -, -, rfl⟩ := exists_of_check h
  rw [Typing.inferFrom_eq_fill] at hinfer
  obtain ⟨hsize, -, hnew⟩ := fill_spec hinfer
  refine ⟨by simpa [Graph.size] using hsize, fun id node hid => ?_⟩
  obtain ⟨look, hlook, hkind⟩ := hnew id node hid
  simp only [List.size_toArray, List.length_nil, Nat.zero_add] at hlook hkind
  rw [← hkind]
  refine Node.inferKind_congr fun a ha => ?_
  show Typing.ofLookup (kinds.getD · none) a = Typing.ofLookup look a
  rw [Typing.ofLookup, Typing.ofLookup, hlook a (hw.inputs id node hid a ha)]

/-- A node of a graph that has been typed is sound, if the nodes before it have values of their
kinds. -/
theorem sound_of_check (hcheck : check graph input output scope = .ok k)
    (hrow : row.map Scalar.kind = input.kinds) {id : NodeId} {node : Node}
    (hid : graph.nodes[id]? = some node) (huniform : node.ReadsUniform scope)
    {look : NodeId → Option Scalar}
    (hlook : ∀ a < id, (look a).map Scalar.kind = k.kinds.getD a none) :
    node.Sound (k.kinds.getD id none) (Evaluation.ofLookup look) row scope := by
  refine Node.sound_of_inferKind ((kind_of_check hcheck).2 id node hid) (fun a ha kind hkind => ?_)
    hrow huniform
  obtain ⟨-, hw, -⟩ := exists_of_check hcheck
  have hlt := hw.inputs id node hid a ha
  rw [Typing.ofKinds_eq_ok_iff, ← hlook a hlt, Option.map_eq_some_iff] at hkind
  obtain ⟨s, hs, rfl⟩ := hkind
  exact ⟨s, by rw [Evaluation.ofLookup, hs]; rfl, rfl⟩

/-- The nodes of a kernel with their kinds. -/
theorem getElem?_zip_kinds (hcheck : check graph input output scope = .ok k) {id : NodeId}
    {item : Node × Option Kind} :
    (graph.nodes.zip k.kinds.toList)[id]? = some item ↔
      graph.nodes[id]? = some item.1 ∧ k.kinds.getD id none = item.2 := by
  rw [List.getElem?_zip_eq_some]
  refine and_congr_right fun hnode => ?_
  have hlt : id < k.kinds.size := by
    rw [(kind_of_check hcheck).1]
    exact (List.getElem?_eq_some_iff.1 hnode).1
  simp [Array.getD_eq_getD_getElem?, hlt]

theorem take_zip_kinds (hcheck : check graph input output scope = .ok k) :
    (graph.nodes.zip k.kinds.toList).take graph.size = graph.nodes.zip k.kinds.toList := by
  refine List.take_of_length_le ?_
  simp [(kind_of_check hcheck).1, Graph.size]

/-- The value of each of the first nodes is what evaluation gives with the values of all of them. -/
theorem eval_of_values (hcheck : check graph input output scope = .ok k)
    {n : Nat} {values : Array (Option Scalar)}
    (h : Evaluation.evalFrom row scope #[] ((graph.nodes.zip k.kinds.toList).take n) = .ok values)
    {id : NodeId} {node : Node} (hid : graph.nodes[id]? = some node) (hlt : id < n) :
    node.eval (k.kinds.getD id none) (Evaluation.ofLookup (values.getD · none)) row scope =
      .ok (values.getD id none) := by
  obtain ⟨-, hw, -⟩ := exists_of_check hcheck
  rw [Evaluation.evalFrom_eq_fill] at h
  obtain ⟨-, -, hnew⟩ := fill_spec h
  obtain ⟨look, hlook, heval⟩ := hnew id (node, k.kinds.getD id none) (by
    rw [List.getElem?_take_of_lt hlt]
    exact (getElem?_zip_kinds hcheck).2 ⟨hid, rfl⟩)
  simp only [List.size_toArray, List.length_nil, Nat.zero_add] at hlook heval
  rw [← heval]
  refine Node.eval_congr fun a ha => ?_
  rw [Evaluation.ofLookup, Evaluation.ofLookup, hlook a (hw.inputs id node hid a ha)]

/-- The values of the first nodes of a graph that has been typed are of their kinds. -/
theorem kinds_of_values (hcheck : check graph input output scope = .ok k)
    (hrow : row.map Scalar.kind = input.kinds)
    (huniform : ∀ node ∈ graph.nodes, node.ReadsUniform scope) {n : Nat} (hn : n ≤ graph.size)
    {values : Array (Option Scalar)}
    (h : Evaluation.evalFrom row scope #[] ((graph.nodes.zip k.kinds.toList).take n) =
      .ok values) :
    values.size = n ∧ ∀ id < n, (values.getD id none).map Scalar.kind = k.kinds.getD id none := by
  rw [Evaluation.evalFrom_eq_fill] at h
  obtain ⟨hsize, -, hnew⟩ := fill_spec h
  have hkinds := (kind_of_check hcheck).1
  constructor
  · simp only [Graph.size] at hn hkinds
    simp [hsize, hkinds, hn]
  · -- a node reads nodes with smaller numbers only
    intro id
    induction id using Nat.strongRecOn with
    | ind id ih =>
      intro hid
      have hnode : graph.nodes[id]? = some _ := List.getElem?_eq_getElem (Nat.lt_of_lt_of_le hid hn)
      obtain ⟨look, hlook, heval⟩ := hnew id (_, k.kinds.getD id none) (by
        rw [List.getElem?_take_of_lt hid]
        exact (getElem?_zip_kinds hcheck).2 ⟨hnode, rfl⟩)
      simp only [List.size_toArray, List.length_nil, Nat.zero_add] at hlook heval
      refine (sound_of_check hcheck hrow hnode (huniform _ (List.mem_of_getElem? hnode))
        fun a ha => ?_).typed _ heval
      rw [hlook a ha]
      exact ih a ha (Nat.lt_trans ha hid)

/-- The row is given up at a node: those before it have values, and with these it stops. -/
def StopsAt (k : Kernel) (row : List Scalar) (scope : Scope) (id : NodeId) (reason : GiveUp) :
    Prop :=
  ∃ node values, k.graph.nodes[id]? = some node ∧
    Evaluation.evalFrom row scope #[] ((k.graph.nodes.zip k.kinds.toList).take id) = .ok values ∧
    node.Stops (Evaluation.ofValues values) scope reason

/-- Evaluating the nodes of a kernel stops just where one of them has a reason to. -/
theorem evalFrom_eq_error_iff (hcheck : check graph input output scope = .ok k)
    (hrow : row.map Scalar.kind = input.kinds)
    (huniform : ∀ node ∈ graph.nodes, node.ReadsUniform scope) {reason : GiveUp} :
    Evaluation.evalFrom row scope #[] (k.graph.nodes.zip k.kinds.toList) = .error reason ↔
      ∃ id, k.StopsAt row scope id reason := by
  obtain ⟨hgraph, -⟩ := of_check hcheck
  -- a node stops on the values of those before it just when evaluation says so
  have hstops {id : NodeId} {node : Node} {values : Array (Option Scalar)}
      (hid : graph.nodes[id]? = some node)
      (hvalues : Evaluation.evalFrom row scope #[] ((graph.nodes.zip k.kinds.toList).take id) =
        .ok values) :
      node.eval (k.kinds.getD id none) (Evaluation.ofLookup (values.getD · none)) row scope =
        .error reason ↔ node.Stops (Evaluation.ofValues values) scope reason := by
    have hlt := (List.getElem?_eq_some_iff.1 hid).1
    obtain ⟨-, hkinds⟩ := kinds_of_values hcheck hrow huniform (Nat.le_of_lt hlt) hvalues
    exact (sound_of_check hcheck hrow hid (huniform _ (List.mem_of_getElem? hid)) hkinds).stops _
  rw [Evaluation.evalFrom_eq_fill, fill_eq_error_iff]
  simp only [← Evaluation.evalFrom_eq_fill, StopsAt, hgraph, getElem?_zip_kinds hcheck]
  constructor
  · rintro ⟨id, ⟨node, -⟩, values, ⟨hid, rfl⟩, hvalues, heval⟩
    exact ⟨id, node, values, hid, hvalues, (hstops hid hvalues).1 heval⟩
  · rintro ⟨id, node, values, hid, hvalues, hstop⟩
    exact ⟨id, (node, _), values, ⟨hid, rfl⟩, hvalues, (hstops hid hvalues).2 hstop⟩

/-! ## The output row -/

/-- Outputs that have passed the check and have values of their kinds give a row of the kinds that
were wanted. -/
theorem collect_typed {kinds : Typing.Reader} {values : Evaluation.Reader} {outs : List NodeId}
    {wants : List Kind} (hlength : outs.length = wants.length)
    (hcheck : Typing.checkOutputs kinds outs wants = .ok ())
    (hvalues : ∀ a k, kinds a = .ok k → ∃ s, values a = .ok s ∧ s.kind = k) :
    ∃ out, collect values outs wants = .ok out ∧ out.map Scalar.kind = wants := by
  induction outs generalizing wants with
  | nil =>
    obtain rfl : wants = [] := by simpa [eq_comm] using hlength
    exact ⟨[], rfl, rfl⟩
  | cons o outs ih =>
    cases wants with
    | nil => simp at hlength
    | cons want wants =>
      rw [Typing.checkOutputs, bind_eq_ok] at hcheck
      obtain ⟨kind, hkind, hcheck⟩ := hcheck
      split at hcheck
      next hfit =>
        obtain ⟨s, hs, rfl⟩ := hvalues o kind hkind
        obtain ⟨out, hout, hkinds⟩ := ih (by simpa using hlength) hcheck
        refine ⟨s.widen want :: out, by rw [collect, hs, hout]; rfl, ?_⟩
        rw [List.map_cons, Node.kind_widen hfit, hkinds]
      next => cases hcheck

/-- Values of all nodes that are of their kinds give an output row of the output type. -/
theorem collect_of_kinds (hcheck : check graph input output scope = .ok k)
    {values : Array (Option Scalar)}
    (h : ∀ id < graph.size, (values.getD id none).map Scalar.kind = k.kinds.getD id none) :
    ∃ out, collect (Evaluation.ofValues values) graph.outputs output.kinds = .ok out ∧
      out.map Scalar.kind = output.kinds := by
  have hsize := (kind_of_check hcheck).1
  obtain ⟨kinds, -, -, hwidth, houts, rfl⟩ := exists_of_check hcheck
  refine collect_typed hwidth houts fun a kind hkind => ?_
  rw [Typing.ofKinds_eq_ok_iff] at hkind
  -- a node with a kind is one of the graph
  rw [← h a (hsize ▸ lt_size_of_getD hkind), Option.map_eq_some_iff] at hkind
  obtain ⟨s, hs, rfl⟩ := hkind
  exact ⟨s, Evaluation.require_eq_ok_iff.2 hs, rfl⟩

/-- When all nodes of a kernel have values, there is an output row of the output type. -/
theorem collect_of_values (hcheck : check graph input output scope = .ok k)
    (hrow : row.map Scalar.kind = input.kinds)
    (huniform : ∀ node ∈ graph.nodes, node.ReadsUniform scope) {values : Array (Option Scalar)}
    (h : Evaluation.evalFrom row scope #[] (graph.nodes.zip k.kinds.toList) = .ok values) :
    ∃ out, collect (Evaluation.ofValues values) graph.outputs output.kinds = .ok out ∧
      out.map Scalar.kind = output.kinds := by
  -- the values of all nodes are those of the first `graph.size`
  rw [← take_zip_kinds hcheck] at h
  exact collect_of_kinds hcheck (kinds_of_values hcheck hrow huniform (Nat.le_refl _) h).2

/-- A graph that has been typed, for lists in the captured scope that hold scalars of one kind each:
on a row of the input type its kernel gives a row of the output type, or gives the row up, and it
gives the row up for a reason just when one of its nodes stops for that reason, which is never that
the evaluator meets something which typing did not foresee. -/
theorem run_typed_or_stops (hcheck : check graph input output scope = .ok k)
    (huniform : ∀ node ∈ graph.nodes, node.ReadsUniform scope)
    (hrow : row.map Scalar.kind = input.kinds) :
    (∀ out, k.run row scope = .ok out →
      out.length = output.width ∧ out.map Scalar.kind = output.kinds) ∧
    (∀ reason, k.run row scope = .error reason ↔ ∃ id, k.StopsAt row scope id reason) ∧
    k.run row scope ≠ .error .illTyped := by
  have hstops := @evalFrom_eq_error_iff _ _ _ _ _ _ hcheck hrow huniform
  obtain ⟨hgraph, -, houtput, -⟩ := of_check hcheck
  have hiff : ∀ reason, k.run row scope = .error reason ↔ ∃ id, k.StopsAt row scope id reason := by
    intro reason
    rw [← hstops, run, bind_eq_error]
    refine or_iff_left ?_
    -- once the nodes have values, the outputs are there
    rintro ⟨values, hvalues, herror⟩
    rw [hgraph] at hvalues
    obtain ⟨out, hout, -⟩ := collect_of_values hcheck hrow huniform hvalues
    rw [hgraph, houtput, hout] at herror
    cases herror
  refine ⟨fun out hout => ?_, hiff, fun hill => ?_⟩
  · obtain ⟨values, hvalues, hcollect⟩ := bind_eq_ok.1 hout
    rw [hgraph] at hvalues
    obtain ⟨out', hout', hkinds⟩ := collect_of_values hcheck hrow huniform hvalues
    rw [hgraph, houtput, hout'] at hcollect
    obtain rfl := Except.ok.inj hcollect
    exact ⟨length_of_run hcheck hout, hkinds⟩
  · -- no node stops for that reason
    obtain ⟨id, node, values, -, -, hstop⟩ := (hiff _).1 hill
    cases hstop with
    | unary _ h => cases h
    | binary _ _ h => cases h

/-- The element of a captured list at an index, added to the index. -/
def addElement : Graph where
  nodes := [.param 0, .element 0 0, .binary .add 0 1]
  outputs := [2]
  anchors := []

/-- A list that ends in the greatest word. -/
def someWords : Scope := [.list [.int 1, .int 2147483647]]

theorem run_typed_or_stops_addElement :
    ∃ k, check addElement (.scalar .int) (.scalar .int) someWords = .ok k ∧
      k.run [.int 0] someWords = .ok [.int 1] ∧
      k.run [.int 1] someWords = .error .overflow ∧
      k.run [.int 5] someWords = .error .index ∧
      (∃ id, k.StopsAt [.int 1] someWords id .overflow) ∧
      ∃ id, k.StopsAt [.int 5] someWords id .index := by
  have hcheck : check addElement (.scalar .int) (.scalar .int) someWords = .ok _ := rfl
  have huniform : ∀ node ∈ addElement.nodes, node.ReadsUniform someWords := by
    rintro node - slot index items - hlist
    refine ⟨.int, fun v hv => ?_⟩
    rcases slot with _ | slot
    · simp only [someWords, List.getElem?_cons_zero, Option.some.injEq, Value.list.injEq] at hlist
      subst hlist
      simp only [List.mem_cons, List.not_mem_nil, or_false] at hv
      rcases hv with rfl | rfl <;> rfl
    · simp [someWords] at hlist
  have hrow (w : Int32) : [Scalar.int w].map Scalar.kind = (RowType.scalar .int).kinds := rfl
  obtain ⟨-, hoverflow, -⟩ := run_typed_or_stops hcheck huniform (hrow 1)
  obtain ⟨-, hindex, -⟩ := run_typed_or_stops hcheck huniform (hrow 5)
  exact ⟨_, hcheck, rfl, rfl, rfl, (hoverflow _).1 rfl, (hindex _).1 rfl⟩

end Kernel

end TieredVectors
