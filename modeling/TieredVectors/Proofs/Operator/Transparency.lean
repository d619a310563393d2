import TieredVectors.Proofs.Operator.Faithfulness
import TieredVectors.Proofs.Operator.Mapping

/-!
# The device is transparent

If only faithful graphs are registered, mapping a vector gives what the interpreter alone would
give, whichever way the call takes (`Operator.map_eq_interpreted`).
-/

namespace TieredVectors

/-- Map a vector with the interpreter alone: call the body for each element in order, and type the
results by the first of them. -/
def Body.map (body : Body) (x : DataVector) (companions : List DataVector) :
    Except OperatorError DataVector := do
  let z ← (Zipped.make x companions).mapError .type
  let values ← (body.callAll z).mapError .eval
  return (DataVector.ofResults values (values.head?.bind fun v => v.inferOutput.toOption)).1

theorem Body.map_of_make_ok {body : Body} {x : DataVector} {companions : List DataVector}
    {z : Zipped} (hz : Zipped.make x companions = .ok z) :
    body.map x companions = (do
      let values ← (body.callAll z).mapError .eval
      return (DataVector.ofResults values
        (values.head?.bind fun v => v.inferOutput.toOption)).1) := by
  rw [Body.map, hz]
  rfl

namespace Tiering

variable {p : Program} {c : Context} {s : Site} {array : ColumnArray}

/-- An array from the device consists of the interpreted results. -/
theorem FromDevice.exists_callAll (h : FromDevice c s array) (hc : c.Faithful p)
    (hnames : c.detector.Names s.entry.id s.trace) (hhas : p.Has s.entry)
    (hrows : s.elements.Rows s.input) (hpos : 0 < s.elements.length) :
    ∃ values, s.entry.body.callAll s.elements = .ok values ∧
      ColumnArray.ofValues s.output values = .ok array := by
  obtain ⟨hruns, hkernel, -, -, hcomputed⟩ := h
  obtain ⟨e, he, hbody, hgraph, hkernel', hshape, hscope, hwidth⟩ := hc.units _ _ hruns.cached
  -- the trace belongs to one entry, so the kernel is that of a graph faithful to this one
  obtain rfl := hc.detector.eq_of_names he hnames
  obtain rfl := Option.some.inj (hbody.symm.trans hhas)
  obtain rfl := Option.some.inj (hkernel.1.symm.trans hkernel'.1)
  -- the body's result for an element is the row that the kernel has computed for it
  have hresult : ∀ i < s.elements.length, ∃ v out,
      s.entry.body.call (s.elements.arguments i) = .ok v ∧ array.row? i = some out ∧
      ColumnArray.ofValues array.type [v] = .ok (ColumnArray.ofRow array.type out) := by
    intro i hi
    obtain ⟨row, out, hrow, hout, harray⟩ := hcomputed.rows i (hrows.length ▸ hi)
    obtain ⟨row', hrow', hkinds⟩ := hrows.wellFormed.exists_row (hrows.length.symm ▸ hi)
    obtain rfl := Option.some.inj (hrow.symm.trans hrow')
    have hcheck := hkernel.2.1
    rw [hshape, hscope] at hcheck
    rw [hscope] at hout
    rw [← hruns.input] at hkinds
    obtain ⟨v, hv, hvalues⟩ := hgraph _ hbody _ _ _ hwidth hcheck row out hkinds hout
    exact ⟨v, out, hrows.arguments i row hrow ▸ hv, harray, hcomputed.type ▸ hvalues⟩
  obtain ⟨values, hvalues⟩ := Body.exists_callAll fun i hi =>
    (hresult i hi).elim fun v ⟨_, hv, _⟩ => ⟨v, hv⟩
  obtain ⟨hlength, hcalls⟩ := Body.of_callAll_eq_ok hvalues
  refine ⟨values, hvalues, ?_⟩
  rw [← hruns.output, ← hcomputed.type]
  refine ColumnArray.ofValues_eq_ok hcomputed.wellFormed (hcomputed.dense (hrows.length ▸ hpos))
    (hlength.trans (hcomputed.length.trans hrows.length).symm) fun i v hv => ?_
  have hi : i < s.elements.length := hlength ▸ (List.getElem?_eq_some_iff.1 hv).1
  obtain ⟨v', out, hv', hout, hof⟩ := hresult i hi
  obtain rfl := Except.ok.inj (hv'.symm.trans (hcalls i v hv))
  exact ⟨out, hout, hof⟩

end Tiering

namespace Operator

variable {p : Program} {c : Context}

/-! ## A graph that is faithful -/

/-- The kernel of `incrementGraph` for rows of one field of kind `k`. -/
def incrementKernel (k k' : Kind) : Kernel where
  graph := incrementGraph
  input := .scalar k
  output := .scalar k'
  kinds := #[some k, some .int, some k]

/-- The types that the graph can be compiled with: not truth values, and no doubles as words. -/
theorem incrementGraph_check {input output : RowType} {kernel : Kernel} (hwidth : input.width = 1)
    (h : Kernel.check incrementGraph.shape input output [] = .ok kernel) :
    ∃ k k', input = .scalar k ∧ output = .scalar k' ∧ kernel = incrementKernel k k' ∧
      k' ≠ .boolean ∧ (k = .int ∨ k = .double ∧ k' = .double) := by
  cases input with
  | tuple fields harity =>
    have hone : fields.length = 1 := hwidth
    exact absurd hone (by have := harity.1; omega)
  | scalar k =>
    cases output with
    | tuple fields harity =>
      have houtputs : 1 = fields.length := (Kernel.of_check h).2.2.2
      exact absurd houtputs (by have := harity.1; omega)
    | scalar k' =>
      cases k <;> cases k' <;> cases h <;> exact ⟨_, _, rfl, rfl, rfl, by simp, by simp⟩

/-- The kernel adds one and widens the sum. -/
theorem incrementKernel_run (k' : Kind) (w : Int32) :
    (incrementKernel .int k').run [.int w] [] =
      (Evaluation.require .overflow (Word.add? w 1)).map fun z => [(Scalar.int z).widen k'] := by
  cases hw : Word.add? w 1 <;>
    simp [incrementKernel, Kernel.run, incrementGraph, Evaluation.evalFrom, Node.eval,
      Evaluation.require, Evaluation.ofValues, Evaluation.binary, Evaluation.binaryWords,
      Kernel.collect, RowType.kinds, hw, bind, Except.bind, Functor.map, Except.map, pure,
      Except.pure]

/-- Wherever the kernel has a sum, the function has the same. -/
theorem incrementGraph_faithful : incrementGraph.FaithfulTo increment.body 1 := by
  intro input output kernel hwidth hcheck row out hkinds hrun
  obtain ⟨k, k', rfl, rfl, rfl, hk', hk⟩ := incrementGraph_check hwidth hcheck
  obtain ⟨s, rfl, rfl⟩ := List.map_eq_singleton_iff.1 hkinds
  cases s with
  | bool b => simp [Scalar.kind] at hk
  | double x =>
    obtain rfl : k' = .double := by simpa [Scalar.kind] using hk
    obtain rfl := Except.ok.inj hrun
    exact ⟨.double (x + (Scalar.int 1).toDouble), rfl, rfl⟩
  | int w =>
    obtain ⟨z, hz, rfl⟩ := map_eq_ok.1 ((incrementKernel_run k' w).symm.trans hrun)
    refine ⟨.int z, ?_, ?_⟩
    · have hcall : increment.body.call [.int w] = ArithOp.word (Word.add? w 1) := rfl
      cases hw : Word.add? w 1 with
      | none => simp [hw, Evaluation.require] at hz
      | some z' =>
        rw [hw] at hz
        obtain rfl := Except.ok.inj hz
        exact hcall.trans (by rw [hw]; rfl)
    · cases k' with
      | boolean => exact absurd rfl hk'
      | int => rfl
      | double => rfl

/-- The program whose only function is `increment`. -/
def incrementProgram : Program where
  body _ := increment.body

/-! ## Mapping -/

/-- Mapping a vector in a context that may use the device gives what the interpreter alone gives for
the entry that is called for the function: the same vector or the same error. The context may have
been reached in any way, as long as every graph was registered for an entry that it is faithful
to. -/
theorem map_eq_interpreted (h : c.Reachable p.Allows) (hoffload : c.options.execution = .offload)
    (id : FunctionId) (x : DataVector) (companions : List DataVector)
    (harity : (p.body id).arity = 1 + companions.length) :
    ∃ entry, ((Tiering.resolve (p.function id)).run c).result = .ok entry ∧
      entry.id.function = id ∧ p.Has entry ∧
      ((map (.vector x) (p.function id) companions).run c).result =
        .vector <$> entry.body.map x companions := by
  have harity' : (p.function id).arity = 1 + companions.length := harity
  have hsound : c.Sound p.Knows := h.sound fun _ => Program.uses_of_allows
  have hknows : p.Knows (p.function id) := rfl
  obtain ⟨hresolve, entry, hresult, hregistered⟩ := Tiering.resolve_ensures hknows c
  obtain ⟨hid, hhas⟩ :=
    (hresolve.preserves Context.Faithful.step h.faithful).entries _ _ hregistered
  refine ⟨entry, hresult, hid, hhas, ?_⟩
  cases hz : Zipped.make x companions with
  | error e =>
    rw [map_of_make_error harity' hz, Body.map, hz]
    rfl
  | ok z =>
    obtain ⟨hsteps, entry', hentry', outcome, hends, hr⟩ :=
      map_ensures hknows hsound hoffload harity' hz
    obtain rfl := Except.ok.inj (hresult.symm.trans hentry')
    rw [hr, Body.map_of_make_ok hz]
    cases hends with
    | failed he => rw [he]; rfl
    | interpreted hvalues => rw [hvalues]; rfl
    | @device s first array hentry helements hinput hnames hpos hfirst houtput hdevice =>
      -- the rows of the array are the results, and both are typed by the first of them
      subst hentry helements
      have hfaithful := hsteps.preserves Context.Faithful.step h.faithful
      have hrows := Zipped.rows_of_marshal (toOption_eq_some_iff.1 hinput)
      obtain ⟨values, hvalues, harray⟩ :=
        hdevice.exists_callAll hfaithful hnames hhas hrows hpos
      have hvector : DataVector.ofValues s.output values = .ok array.toVector :=
        map_eq_ok.2 ⟨array, harray, rfl⟩
      have htype : (values.head?.bind fun v => v.inferOutput.toOption) = some s.output := by
        rw [Body.head?_of_callAll hvalues hpos hfirst, Option.bind_some, houtput]
        rfl
      have hresults : (DataVector.ofResults values (some s.output)).1 = array.toVector := by
        rw [DataVector.ofResults, hvector]
      calc Except.ok (Operand.vector array.toVector)
        _ = .vector <$> Except.ok (DataVector.ofResults values
              (values.head?.bind fun v => v.inferOutput.toOption)).1 := by
          rw [htype, hresults]
          rfl
        _ = _ := by
          rw [hvalues]
          rfl

theorem map_eq_interpreted_increment :
    hotContext.Reachable incrementProgram.Allows ∧ hotContext.options.execution = .offload ∧
      (incrementProgram.body ⟨0⟩).arity = 1 + ([] : List DataVector).length ∧
      ∃ entry,
        ((Tiering.resolve (incrementProgram.function ⟨0⟩)).run hotContext).result = .ok entry ∧
        entry.id.function = ⟨0⟩ ∧ incrementProgram.Has entry ∧
        ((map (.vector (.int [1, 2, 3])) (incrementProgram.function ⟨0⟩) []).run
          hotContext).result = .vector <$> entry.body.map (.int [1, 2, 3]) [] := by
  have hreach : hotContext.Reachable incrementProgram.Allows := by
    refine hotContext_reachable fun body hbody => ?_
    obtain rfl := Option.some.inj hbody
    exact incrementGraph_faithful
  exact ⟨hreach, rfl, rfl, map_eq_interpreted hreach rfl ⟨0⟩ (.int [1, 2, 3]) [] rfl⟩

end Operator

end TieredVectors
