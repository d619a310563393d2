import TieredVectors.Kernel.Evaluation
import TieredVectors.Proofs.Except

/-!
# What one node reads

The kind and the value of a node depend on its inputs only, and not on their names: a node whose
inputs are renamed has, among nodes renamed alike, the kind and the value it had.
-/

namespace TieredVectors

namespace Typing

variable (read : Reader) (rename : NodeId → NodeId)

/-! Errors name nodes, so kinds after a renaming are compared without them. -/

theorem toOption_numeric (a : NodeId) :
    (numeric read (rename a)).toOption = (numeric (read ∘ rename) a).toOption := by
  simp only [numeric, toOption_bind, Function.comp_apply]
  refine congrArg _ (funext fun k => ?_)
  cases k <;> rfl

theorem toOption_boolean (a : NodeId) :
    (boolean read (rename a)).toOption = (boolean (read ∘ rename) a).toOption := by
  simp only [boolean, toOption_bind, Function.comp_apply]
  refine congrArg _ (funext fun k => ?_)
  cases k <;> rfl

theorem toOption_promoted (a b : NodeId) :
    (promoted read (rename a) (rename b)).toOption = (promoted (read ∘ rename) a b).toOption := by
  simp only [promoted, toOption_bind, toOption_numeric]

theorem toOption_unary (op : UnaryOp) (a : NodeId) :
    (unary read op (rename a)).toOption = (unary (read ∘ rename) op a).toOption := by
  cases op <;> simp only [unary, toOption_bind, toOption_numeric, toOption_boolean,
    Function.comp_apply]

theorem toOption_binary (op : BinaryOp) (a b : NodeId) :
    (binary read op (rename a) (rename b)).toOption =
      (binary (read ∘ rename) op a b).toOption := by
  cases op <;> simp only [binary, toOption_bind, toOption_promoted, toOption_boolean]

theorem toOption_compare (op : CompareOp) (a b : NodeId) :
    (compare read op (rename a) (rename b)).toOption =
      (compare (read ∘ rename) op a b).toOption := by
  simp only [compare, toOption_bind, Function.comp_apply]
  refine congrArg _ (funext fun ka => congrArg _ (funext fun kb => ?_))
  split
  · rfl
  · simp only [toOption_bind, toOption_promoted]

theorem toOption_select (c t f : NodeId) :
    (select read (rename c) (rename t) (rename f)).toOption =
      (select (read ∘ rename) c t f).toOption := by
  simp only [select, toOption_bind, toOption_boolean, Function.comp_apply]
  refine congrArg _ (funext fun _ => congrArg _ (funext fun kt => congrArg _ (funext fun kf => ?_)))
  split
  · rfl
  · exact toOption_promoted read rename t f

theorem toOption_element (s : Scope) (slot : Nat) (index : NodeId) :
    (element read s slot (rename index)).toOption =
      (element (read ∘ rename) s slot index).toOption := by
  simp only [element, toOption_bind, Function.comp_apply]
  refine congrArg _ (funext fun k => ?_)
  cases k <;> rfl

variable {read}

/-- What has to be a number is read and is no truth value. -/
theorem numeric_eq_ok_iff {a : NodeId} {k : Kind} :
    numeric read a = .ok k ↔ read a = .ok k ∧ k ≠ .boolean := by
  rw [numeric, bind_eq_ok]
  constructor
  · rintro ⟨k', hk', h⟩
    cases k' <;> simp only [pure_eq_ok, throw_ne_ok] at h <;> subst h <;> exact ⟨hk', by decide⟩
  · rintro ⟨hk, hne⟩
    refine ⟨k, hk, ?_⟩
    cases k <;> simp_all [pure_eq_ok]

/-- What has to be a truth value is read and is one. -/
theorem boolean_eq_ok_iff {a : NodeId} {u : Unit} :
    boolean read a = .ok u ↔ read a = .ok .boolean := by
  rw [boolean, bind_eq_ok]
  constructor
  · rintro ⟨k, hk, h⟩
    cases k <;> simp_all [throw_ne_ok]
  · exact fun hk => ⟨.boolean, hk, rfl⟩

/-- Two numbers that are read have the kind of their result. -/
theorem promoted_eq_ok_iff {a b : NodeId} {k : Kind} :
    promoted read a b = .ok k ↔
      ∃ ka kb, numeric read a = .ok ka ∧ numeric read b = .ok kb ∧ promote ka kb = k := by
  simp only [promoted, bind_eq_ok, pure_eq_ok]
  grind

/-- A node can be read among the kinds found so far iff it has one. -/
theorem ofKinds_eq_ok_iff {kinds : Array (Option Kind)} {a : NodeId} {k : Kind} :
    ofKinds kinds a = .ok k ↔ kinds.getD a none = some k := by
  rw [ofKinds]
  split <;> simp_all

/-- Outputs pass the check iff each can be read and its kind is the one wanted, or a word where a
double is. -/
theorem checkOutputs_eq_ok_iff {outs : List NodeId} {wants : List Kind} :
    checkOutputs read outs wants = .ok () ↔
      ∀ (i : Nat) out want, outs[i]? = some out → wants[i]? = some want →
        ∃ k, read out = .ok k ∧ (k = want ∨ k = .int ∧ want = .double) := by
  induction outs generalizing wants with
  | nil => simp [checkOutputs]
  | cons out outs ih =>
    cases wants with
    | nil => simp [checkOutputs]
    | cons want wants =>
      rw [checkOutputs, bind_eq_ok]
      constructor
      · rintro ⟨k, hk, hrest⟩ i o w ho hwant
        split at hrest
        next hfit =>
          cases i with
          | zero =>
            simp only [List.getElem?_cons_zero, Option.some.injEq] at ho hwant
            subst ho hwant
            exact ⟨k, hk, hfit⟩
          | succ i => exact ih.1 hrest i o w (by simpa using ho) (by simpa using hwant)
        next => cases hrest
      · intro h
        obtain ⟨k, hk, hfit⟩ := h 0 out want rfl rfl
        refine ⟨k, hk, ?_⟩
        rw [if_pos hfit, ih]
        exact fun i o w ho hwant => h (i + 1) o w (by simpa using ho) (by simpa using hwant)

/-- Outputs that pass the check, one for each field, have a value. -/
theorem exists_kind_of_checkOutputs {outs : List NodeId} {wants : List Kind}
    (h : checkOutputs read outs wants = .ok ()) (hlength : outs.length = wants.length)
    {out : NodeId} (hout : out ∈ outs) : ∃ k, read out = .ok k := by
  obtain ⟨i, hi⟩ := List.mem_iff_getElem?.1 hout
  have hlt : i < wants.length := hlength ▸ (List.getElem?_eq_some_iff.1 hi).1
  obtain ⟨k, hk, -⟩ := checkOutputs_eq_ok_iff.1 h i out _ hi (List.getElem?_eq_getElem hlt)
  exact ⟨k, hk⟩

/-! A typing rule asks for the kinds of the nodes it names and for no others. -/

variable {read' : Reader} {a b : NodeId}

theorem numeric_congr (h : read a = read' a) : numeric read a = numeric read' a := by
  rw [numeric, numeric, h]

theorem boolean_congr (h : read a = read' a) : boolean read a = boolean read' a := by
  rw [boolean, boolean, h]

theorem promoted_congr (ha : read a = read' a) (hb : read b = read' b) :
    promoted read a b = promoted read' a b := by
  rw [promoted, promoted, numeric_congr ha, numeric_congr hb]

theorem unary_congr (op : UnaryOp) (h : read a = read' a) :
    unary read op a = unary read' op a := by
  unfold unary
  rw [numeric_congr h, boolean_congr h, h]

theorem binary_congr (op : BinaryOp) (ha : read a = read' a) (hb : read b = read' b) :
    binary read op a b = binary read' op a b := by
  unfold binary
  rw [promoted_congr ha hb, boolean_congr ha, boolean_congr hb]

end Typing

namespace Node

variable {node : Node} {id : NodeId} {input : RowType} {scope : Scope} {row : List Scalar}

/-- The kind of a node does not depend on the names of the nodes it reads. -/
theorem toOption_inferKind_mapInputs (node : Node) (id id' : NodeId) (read : Typing.Reader)
    (rename : NodeId → NodeId) (input : RowType) (scope : Scope) :
    ((node.mapInputs rename).inferKind id' read input scope).toOption =
      (node.inferKind id (read ∘ rename) input scope).toOption := by
  cases node <;>
    simp only [mapInputs, inferKind, toOption_map, Typing.toOption_unary, Typing.toOption_binary,
      Typing.toOption_compare, Typing.toOption_select, Typing.toOption_element,
      Typing.toOption_boolean] <;> rfl

/-- The value of a node does not depend on the names of the nodes it reads. -/
theorem eval_mapInputs (kind : Option Kind) (read : Evaluation.Reader) (rename : NodeId → NodeId) :
    (node.mapInputs rename).eval kind read row scope =
      node.eval kind (read ∘ rename) row scope := by
  cases node <;> simp [mapInputs, eval, apply_ite rename]

/-- The kind of a node depends on the kinds of its inputs only. -/
theorem inferKind_congr {read read' : Typing.Reader} (h : ∀ a ∈ node.inputs, read a = read' a) :
    node.inferKind id read input scope = node.inferKind id read' input scope := by
  cases node with
  | element slot index =>
    have hindex := h index List.mem_cons_self
    rw [inferKind, inferKind, Typing.element, Typing.element, hindex]
  | unary op a =>
    rw [inferKind, inferKind, Typing.unary_congr op (h a List.mem_cons_self)]
  | binary op a b =>
    have ha := h a List.mem_cons_self
    have hb := h b (List.mem_cons_of_mem _ List.mem_cons_self)
    rw [inferKind, inferKind, Typing.binary_congr op ha hb]
  | compare op a b =>
    have ha := h a List.mem_cons_self
    have hb := h b (List.mem_cons_of_mem _ List.mem_cons_self)
    rw [inferKind, inferKind, Typing.compare, Typing.compare, ha, hb, Typing.promoted_congr ha hb]
  | select c t f =>
    have hc := h c List.mem_cons_self
    have ht := h t (List.mem_cons_of_mem _ List.mem_cons_self)
    have hf := h f (List.mem_cons_of_mem _ (List.mem_cons_of_mem _ List.mem_cons_self))
    rw [inferKind, inferKind, Typing.select, Typing.select, Typing.boolean_congr hc, ht, hf,
      Typing.promoted_congr ht hf]
  | deoptIf c =>
    rw [inferKind, inferKind, Typing.boolean_congr (h c List.mem_cons_self)]
  | _ => rfl

/-- The value of a node depends on the values of its inputs only. -/
theorem eval_congr {kind : Option Kind} {read read' : Evaluation.Reader}
    (h : ∀ a ∈ node.inputs, read a = read' a) :
    node.eval kind read row scope = node.eval kind read' row scope := by
  cases node with
  | select c t f =>
    -- only one of the branches is read, and either is an input
    have hbranch : ∀ s : Scalar, read (if s.isTrue then t else f) =
        read' (if s.isTrue then t else f) := by
      intro s
      split <;> simp_all [inputs]
    simp_all [eval, inputs]
  | _ => simp_all [eval, inputs]

/-- A node that has been typed reads nodes that have a value. -/
theorem exists_kind_of_inferKind {read : Typing.Reader} {kind : Option Kind}
    (h : node.inferKind id read input scope = .ok kind) {a : NodeId} (ha : a ∈ node.inputs) :
    ∃ k, read a = .ok k := by
  cases node with
  | param _ | const _ | scope _ => simp [inputs] at ha
  | element slot index =>
    simp only [inferKind, map_eq_ok, Typing.element, bind_eq_ok] at h
    obtain ⟨-, ⟨k, hk, -⟩, -⟩ := h
    simp_all [inputs]
  | unary op b =>
    obtain rfl : a = b := by simpa [inputs] using ha
    cases op <;>
      simp only [inferKind, Typing.unary, map_eq_ok, bind_eq_ok, Typing.numeric_eq_ok_iff,
        Typing.boolean_eq_ok_iff] at h <;> grind
  | binary op b c =>
    simp only [inputs, List.mem_cons, List.not_mem_nil, or_false] at ha
    cases op <;>
      simp only [inferKind, Typing.binary, map_eq_ok, bind_eq_ok, Typing.promoted_eq_ok_iff,
        Typing.numeric_eq_ok_iff, Typing.boolean_eq_ok_iff] at h <;> grind
  | compare op b c =>
    simp only [inferKind, Typing.compare, map_eq_ok, bind_eq_ok] at h
    obtain ⟨-, ⟨kb, hb, kc, hc, -⟩, -⟩ := h
    simp only [inputs, List.mem_cons, List.not_mem_nil, or_false] at ha
    rcases ha with rfl | rfl
    · exact ⟨kb, hb⟩
    · exact ⟨kc, hc⟩
  | select c t f =>
    simp only [inferKind, Typing.select, map_eq_ok, bind_eq_ok, Typing.boolean_eq_ok_iff] at h
    obtain ⟨-, ⟨-, hc, kt, ht, kf, hf, -⟩, -⟩ := h
    simp only [inputs, List.mem_cons, List.not_mem_nil, or_false] at ha
    rcases ha with rfl | rfl | rfl
    · exact ⟨.boolean, hc⟩
    · exact ⟨kt, ht⟩
    · exact ⟨kf, hf⟩
  | deoptIf c =>
    simp only [inferKind, map_eq_ok, Typing.boolean_eq_ok_iff] at h
    obtain ⟨-, hc, -⟩ := h
    simp_all [inputs]
  -- shaping removes these, so a kernel has no rule for them
  | box _ | unbox _ | frameState _ | typeGuard _ _ => simp [inferKind] at h

end Node

end TieredVectors
