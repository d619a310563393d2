import TieredVectors.Function.Expr
import TieredVectors.Proofs.Operator.Reachability

/-!
# Mapping a vector

What `Operator.map` gives for a vector in a reachable context that may use the device, whatever
graphs the detector hands out:

* `Operator.map_fails_only` — the only failures are a wrong number of arguments, too many
  companions, a companion of another length, and errors of the function;
* `Operator.map_results_from_one_place` — the results are either all interpreted, or all rows of one
  launch of the kernel that is cached for the function's trace.
-/

namespace TieredVectors

/-- The results of a call as a vector. -/
def Tiering.Outcome.vector : Tiering.Outcome → DataVector
  | .device array => array.toVector
  | .interpreted values type => (DataVector.ofResults values type).1

namespace Zipped

variable {x d : DataVector} {companions : List DataVector}

/-- Too many companions do not fit into a row. -/
theorem make_of_arity (h : maxArity < 1 + companions.length) :
    make x companions = .error (.unsupportedArity (1 + companions.length)) := by
  rw [make, dif_neg (Nat.not_le.2 h)]

/-- The first vector of another length is found, with its position. -/
theorem mismatch?_eq_some {n i : Nat} (hd : companions[i]? = some d) (hlength : d.length ≠ n)
    (hbefore : ∀ j < i, ∀ d', companions[j]? = some d' → d'.length = n) (position : Nat) :
    mismatch? n position companions = some (.lengthMismatch (position + i) n d.length) := by
  induction companions generalizing i position with
  | nil => simp at hd
  | cons d₀ ds ih =>
    rw [mismatch?]
    cases i with
    | zero =>
      obtain rfl : d₀ = d := by simpa using hd
      rw [if_neg hlength, Nat.add_zero]
    | succ i =>
      rw [if_pos (hbefore 0 (by omega) d₀ rfl)]
      have hrest := ih (by simpa using hd) (fun j hj d' hd' => hbefore (j + 1) (by omega) d' hd')
        (position + 1)
      rw [hrest]
      congr 2
      omega

theorem mismatch?_eq_none {n : Nat} (h : ∀ d ∈ companions, d.length = n) (position : Nat) :
    mismatch? n position companions = none := by
  induction companions generalizing position with
  | nil => rfl
  | cons d ds ih =>
    rw [List.forall_mem_cons] at h
    rw [mismatch?, if_pos h.1, ih h.2]

/-- The first companion of another length is refused, with its position. -/
theorem make_of_mismatch {i : Nat} (harity : 1 + companions.length ≤ maxArity)
    (hd : companions[i]? = some d) (hlength : d.length ≠ x.length)
    (hbefore : ∀ j < i, ∀ d', companions[j]? = some d' → d'.length = x.length) :
    make x companions = .error (.lengthMismatch (i + 1) x.length d.length) := by
  have hmismatch := mismatch?_eq_some hd hlength hbefore 1
  rw [Nat.add_comm 1 i] at hmismatch
  rw [make, dif_pos harity]
  split
  next e he =>
    rw [hmismatch] at he
    rw [Option.some.inj he]
  next hnone => simp [hmismatch] at hnone

/-- Companions of the same length are zipped. -/
theorem exists_make (harity : 1 + companions.length ≤ maxArity)
    (h : ∀ d ∈ companions, d.length = x.length) : ∃ z, make x companions = .ok z := by
  have hnone := mismatch?_eq_none h 1
  rw [make, dif_pos harity]
  split
  next e he => simp [hnone] at he
  next => exact ⟨_, rfl⟩

end Zipped

namespace Operator

open TieredVectors.Action

variable {known : Function → Prop} {c : Context} {f : Function} {x v : DataVector}
  {companions : List DataVector} {z : Zipped}

theorem map_of_arity (h : f.arity ≠ 1 + companions.length) (c : Context) :
    ((map (.vector x) f companions).run c).result =
      .error (.argumentCount f.arity (1 + companions.length)) := by
  change (map (.vector x) f companions).Ensures c fun r _ _ => r = _
  rw [map, ensures_bind, checkArity, if_neg h]
  rfl

theorem map_of_make_error {e : TypeError} (harity : f.arity = 1 + companions.length)
    (he : Zipped.make x companions = .error e) (c : Context) :
    ((map (.vector x) f companions).run c).result = .error (.type e) := by
  change (map (.vector x) f companions).Ensures c fun r _ _ => r = _
  rw [map, ensures_bind, checkArity, if_pos harity, ensures_pure, Post.after_ok, ensures_map,
    mapVector, ensures_bind, zip, he]
  rfl

/-- Mapping zipped vectors is a call through the tiers, whose outcome is given as a vector. -/
theorem ensures_map_offload (hoffload : c.options.execution = .offload)
    (harity : f.arity = 1 + companions.length) (hz : Zipped.make x companions = .ok z)
    {post : Except OperatorError Operand → Context → Prop} :
    (map (.vector x) f companions).Ensures c (fun r c' _ => post r c') ↔
      (Tiering.run f z none).Ensures c fun r c' _ =>
        post ((fun outcome => .vector outcome.vector) <$> r) c' := by
  rw [map, ensures_bind, checkArity, if_pos harity, ensures_pure, Post.after_ok, ensures_map,
    mapVector, ensures_bind, zip, hz, ensures_ofExcept, mapError_ok, Post.after_ok,
    ensures_bind, ensures_get, Post.after_ok, hoffload]
  dsimp only
  rw [ensures_bind]
  unfold Ensures
  cases ((Tiering.run f z none).run c).result with
  | error e => exact Iff.rfl
  | ok outcome => cases outcome <;> exact Iff.rfl

/-- Mapping zipped vectors ends as a call through the tiers does. -/
theorem map_ensures (hf : known f) (hc : c.Sound known) (hoffload : c.options.execution = .offload)
    (harity : f.arity = 1 + companions.length) (hz : Zipped.make x companions = .ok z) :
    (map (.vector x) f companions).Ensures c fun r c' _ =>
      Context.Steps known c c' ∧ ∃ entry, ((Tiering.resolve f).run c).result = .ok entry ∧
        ∃ outcome, Tiering.Ends c' entry z (z.primary.marshal z.companions).toOption outcome ∧
          r = (fun o => .vector o.vector) <$> outcome := by
  obtain ⟨rfl, rfl⟩ := Zipped.of_make hz
  have hnone : ∀ a : ColumnArray, none = some a →
      a.WellFormed ∧ a.type.width = 1 + z.companions.length := nofun
  rw [ensures_map_offload hoffload harity hz]
  refine (Tiering.run_ensures hf hc.consistent harity hnone).mono ?_
  rintro r c' es ⟨hsteps, entry, hentry, hends⟩
  exact ⟨hsteps, entry, hentry, r, hends, rfl⟩

/-- A function that adds one. -/
def increment : Function where
  id := ⟨0⟩
  body := (Expr.arith .add (.arg 0) (.const (.int 1))).toBody ["x"] [] none

/-- The graph of `increment`. -/
def incrementGraph : Graph where
  nodes := [.param 0, .const (.int 1), .binary .add 0 1]
  outputs := [2]
  anchors := []

/-- A context with a graph for `increment` that shows at once. -/
def hotContext : Context :=
  (Request.registerGraph increment.ownEntry.id incrementGraph 1).perform
    { detector := .scripted {} }

theorem hotContext_reachable {allowed : Request → Prop}
    (h : allowed (.registerGraph increment.ownEntry.id incrementGraph 1)) :
    hotContext.Reachable allowed :=
  .after (.fresh ⟨rfl, rfl, rfl, rfl, rfl⟩) h

/-- Mapping a vector in a reachable context that may use the device fails for four reasons only,
which are looked at in this order: the function takes another number of arguments; there are more
than three companions; a companion has another length, where the first such is reported; and an
element for which the function has an error. Whatever goes wrong on the way to the device, on it or
on the way back is no reason. -/
theorem map_fails_only (h : c.Reachable fun _ => True) (hoffload : c.options.execution = .offload)
    (x : DataVector) (f : Function) (companions : List DataVector) :
    (f.arity ≠ 1 + companions.length →
      ((map (.vector x) f companions).run c).result =
        .error (.argumentCount f.arity (1 + companions.length))) ∧
    (f.arity = 1 + companions.length → 3 < companions.length →
      ((map (.vector x) f companions).run c).result =
        .error (.type (.unsupportedArity (1 + companions.length)))) ∧
    (f.arity = 1 + companions.length → companions.length ≤ 3 →
      ∀ i d, companions[i]? = some d → d.length ≠ x.length →
      (∀ j < i, ∀ d', companions[j]? = some d' → d'.length = x.length) →
      ((map (.vector x) f companions).run c).result =
        .error (.type (.lengthMismatch (i + 1) x.length d.length))) ∧
    (f.arity = 1 + companions.length → companions.length ≤ 3 →
      (∀ d ∈ companions, d.length = x.length) →
      (∃ v, ((map (.vector x) f companions).run c).result = .ok (.vector v)) ∨
      ∃ entry e i, ((Tiering.resolve f).run c).result = .ok entry ∧ i < x.length ∧
        entry.body.call ((x :: companions).filterMap (·.get? i)) = .error e ∧
        ((map (.vector x) f companions).run c).result = .error (.eval e)) := by
  refine ⟨fun harity => map_of_arity harity c, fun harity hmany => ?_,
    fun harity hfew i d hd hlength hbefore => ?_, fun harity hfew hlengths => ?_⟩
  · exact map_of_make_error harity (Zipped.make_of_arity (by rw [maxArity]; omega)) c
  · have hmake := Zipped.make_of_mismatch (by rw [maxArity]; omega) hd hlength hbefore
    exact map_of_make_error harity hmake c
  · obtain ⟨z, hz⟩ := Zipped.exists_make (by rw [maxArity]; omega) hlengths
    obtain ⟨-, entry, hentry, outcome, hends, hr⟩ :=
      map_ensures trivial h.sound_all hoffload harity hz
    obtain ⟨rfl, rfl⟩ := Zipped.of_make hz
    rw [hr]
    cases hends with
    | failed he =>
      obtain ⟨i, hi, hcall, -⟩ := Body.callFrom_eq_error he
      rw [Nat.zero_add] at hcall
      exact Or.inr ⟨entry, _, i, hentry, hi, hcall, rfl⟩
    | interpreted => exact Or.inl ⟨_, rfl⟩
    | device => exact Or.inl ⟨_, rfl⟩

/-- The second row overflows, so that the kernel gives up and the function has an error. -/
theorem map_fails_only_increment :
    hotContext.Reachable (fun _ => True) ∧ hotContext.options.execution = .offload ∧
      ((∃ v, ((map (.vector (.int [1, 2147483647, 3])) increment []).run hotContext).result =
          .ok (.vector v)) ∨
        ∃ entry e i, ((Tiering.resolve increment).run hotContext).result = .ok entry ∧
          i < (DataVector.int [1, 2147483647, 3]).length ∧
          entry.body.call ([DataVector.int [1, 2147483647, 3]].filterMap (·.get? i)) = .error e ∧
          ((map (.vector (.int [1, 2147483647, 3])) increment []).run hotContext).result =
            .error (.eval e)) := by
  have hmap :=
    map_fails_only (hotContext_reachable trivial) rfl (.int [1, 2147483647, 3]) increment []
  exact ⟨hotContext_reachable trivial, rfl, hmap.2.2.2 rfl (by decide) (by simp)⟩

/-- The vector consists of the interpreted results of all elements. -/
def Interpreted (entry : Entry) (z : Zipped) (v : DataVector) : Prop :=
  ∃ values, (List.range z.length).map (fun i => entry.body.call (z.arguments i)) = values.map .ok ∧
    v = (DataVector.ofResults values (values.head?.bind fun v => v.inferOutput.toOption)).1

/-- The vector is an array of one row per element, each of which the kernel has computed from that
element. The kernel is that of the unit cached for the entry's trace and for the types of this call,
and the flag of the launch is not raised. -/
inductive OnDevice (c : Context) (entry : Entry) (z : Zipped) (v : DataVector) : Prop where
  | intro {trace : TraceId} {unit : CompiledUnit} {kernel : Kernel} {first : Value}
      {input array : ColumnArray} {executor : Executor}
      (htrace : c.detector.Names entry.id trace) (hunit : c.units.get? trace = some unit)
      (hkernel : unit.Compiled kernel)
      (hinput : z.primary.marshal z.companions = .ok input) (hinputType : unit.input = input.type)
      (hfirst : entry.body.call (z.arguments 0) = .ok first)
      (houtputType : first.inferOutput = .ok unit.output)
      (harray : array.WellFormed) (htype : array.type = unit.output)
      (hlength : array.length = z.length)
      (hrows : ∀ i < z.length, ∃ row out, input.row? i = some row ∧
        kernel.run row unit.scope = .ok out ∧ array.row? i = some out)
      (hexecutor : c.executors.get? trace = some executor)
      (hflag : executor.flagRaised c.device = .ok false) (hv : v = array.toVector)

/-- The results of mapping a vector in a reachable context are never merged: they all come from the
interpreter, or they all come from one launch, whose rows are this call's. -/
theorem map_results_from_one_place (h : c.Reachable fun _ => True)
    (hoffload : c.options.execution = .offload) {result : Operand}
    (hr : ((map (.vector x) f companions).run c).result = .ok result) :
    ∃ entry z v, ((Tiering.resolve f).run c).result = .ok entry ∧
      Zipped.make x companions = .ok z ∧ result = .vector v ∧
      (Interpreted entry z v ∨
        OnDevice ((map (.vector x) f companions).run c).context entry z v) := by
  -- there are results, so the arguments have passed the checks
  have harity : f.arity = 1 + companions.length := Decidable.byContradiction fun harity => by
    simp [map_of_arity harity] at hr
  cases hz : Zipped.make x companions with
  | error e => simp [map_of_make_error harity hz] at hr
  | ok z =>
    obtain ⟨-, entry, hentry, outcome, hends, houtcome⟩ :=
      map_ensures trivial h.sound_all hoffload harity hz
    rw [hr] at houtcome
    obtain ⟨o, rfl, rfl⟩ := map_eq_ok.1 houtcome.symm
    refine ⟨entry, z, o.vector, hentry, rfl, rfl, ?_⟩
    cases hends with
    | interpreted hvalues =>
      refine Or.inl ⟨_, ?_, rfl⟩
      rw [List.range_eq_range']
      exact Body.callFrom_eq_ok_iff.1 hvalues
    | device hentry helements hinput hnames _ hfirst houtput hdevice =>
      subst hentry helements
      obtain ⟨hruns, hkernel, hexecutor, hflag, hrows⟩ := hdevice
      have hmarshal := toOption_eq_some_iff.1 hinput
      have hlength := (Zipped.rows_of_marshal hmarshal).length
      refine Or.inr ⟨hnames, hruns.cached, hkernel, hmarshal, hruns.input, hfirst,
        hruns.output ▸ houtput, hrows.wellFormed, hrows.type, hrows.length.trans hlength, ?_,
        hexecutor, hflag, rfl⟩
      rw [← hlength]
      exact hrows.rows

theorem map_results_from_one_place_increment :
    hotContext.Reachable (fun _ => True) ∧ hotContext.options.execution = .offload ∧
      ((map (.vector (.int [1, 2, 3])) increment []).run hotContext).result =
        .ok (.vector (.int [2, 3, 4])) ∧
      ∃ entry z v, ((Tiering.resolve increment).run hotContext).result = .ok entry ∧
        Zipped.make (.int [1, 2, 3]) [] = .ok z ∧ Operand.vector (.int [2, 3, 4]) = .vector v ∧
        (Interpreted entry z v ∨
          OnDevice ((map (.vector (.int [1, 2, 3])) increment []).run hotContext).context
            entry z v) := by
  have hr : ((map (.vector (.int [1, 2, 3])) increment []).run hotContext).result =
      .ok (.vector (.int [2, 3, 4])) := rfl
  exact ⟨hotContext_reachable trivial, rfl, hr,
    map_results_from_one_place (hotContext_reachable trivial) rfl hr⟩

end Operator

end TieredVectors
