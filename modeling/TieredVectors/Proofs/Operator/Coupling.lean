import TieredVectors.Proofs.Operator.Calls
import TieredVectors.Proofs.Stage.Dense

/-!
# Two runs side by side

Two actions are coupled (`Action.Coupled`) if from contexts that stand in one relation they tell the
same, end with results that match, and leave contexts that stand in another. The rules follow the
way in which actions are put together. For a call through the tiers they come down to
`Tiering.Respects`: the few places in which such a call looks at the context or changes it. A
relation that respects these is kept by the whole call (`Tiering.Respects.coupled_callEntry`), also
where the vectors of the two runs differ in their form.
-/

namespace TieredVectors

variable {α β γ : Type} {K L : Context → Context → Prop}

/-! ## Zipped vectors -/

/-- Vectors with the same elements, whether or not as sequences. -/
structure Zipped.Alike (z z' : Zipped) : Prop where
  primary : z.primary.dense = z'.primary.dense
  companions : z.companions.map DataVector.dense = z'.companions.map DataVector.dense

namespace Zipped

variable {z z' : Zipped}

theorem Alike.length_eq (h : z.Alike z') : z.length = z'.length := by
  rw [length, length, ← z.primary.length_dense, h.primary, DataVector.length_dense]

theorem Alike.arguments_eq (h : z.Alike z') (i : Nat) : z.arguments i = z'.arguments i := by
  apply DataVector.filterMap_get?_congr
  rw [List.map_cons, List.map_cons, h.primary, h.companions]

theorem Alike.isEmpty_eq (h : z.Alike z') : z.companions.isEmpty = z'.companions.isEmpty := by
  rw [← List.isEmpty_map (f := DataVector.dense), h.companions, List.isEmpty_map]

theorem Alike.inferRows_eq (h : z.Alike z') :
    z.primary.inferRows z.companions = z'.primary.inferRows z'.companions := by
  rw [← DataVector.inferRows_dense, h.primary, h.companions, DataVector.inferRows_dense]

theorem Alike.ofVectors (h : z.Alike z') (type : RowType) :
    Matches (fun a a' => a.dense = a'.dense) (ColumnArray.ofVectors type z.primary z.companions)
      (ColumnArray.ofVectors type z'.primary z'.companions) := by
  apply matches_of_map_eq
  rw [← ColumnArray.ofVectors_dense, h.primary, h.companions, ColumnArray.ofVectors_dense]

theorem mismatch?_dense (n position : Nat) (cs : List DataVector) :
    mismatch? n position (cs.map DataVector.dense) = mismatch? n position cs := by
  induction cs generalizing position with
  | nil => rfl
  | cons c cs ih => rw [List.map_cons, mismatch?, mismatch?, DataVector.length_dense, ih]

theorem make_alike {v v' : DataVector} {cs cs' : List DataVector} (hv : v.dense = v'.dense)
    (hcs : cs.map DataVector.dense = cs'.map DataVector.dense) :
    Matches Alike (make v cs) (make v' cs') := by
  have hcount : cs.length = cs'.length := by
    rw [← List.length_map DataVector.dense, hcs, List.length_map]
  have hmismatch : mismatch? v.length 1 cs = mismatch? v'.length 1 cs' := by
    rw [← mismatch?_dense, ← v.length_dense, hv, hcs, mismatch?_dense, DataVector.length_dense]
  unfold make
  by_cases harity : 1 + cs.length ≤ maxArity
  · -- both have a mismatch, the same one, or neither has
    rw [dif_pos harity, dif_pos (hcount ▸ harity)]
    split
    next e he =>
      split
      next e' he' =>
        obtain rfl := Option.some.inj (he.symm.trans (hmismatch.trans he'))
        exact matches_error _ _
      next he' => cases he.symm.trans (hmismatch.trans he')
    next he =>
      split
      next e' he' => cases he.symm.trans (hmismatch.trans he')
      next he' => exact matches_ok ⟨hv, hcs⟩
  · rw [dif_neg harity, dif_neg (hcount ▸ harity), hcount]
    exact matches_error _ _

end Zipped

/-! ## Actions -/

/-- From contexts related by `K` the actions tell the same, their results match, and the contexts
after them are related by `L`. -/
def Action.Coupled (K L : Context → Context → Prop) (R : α → β → Prop) (a : Action α)
    (a' : Action β) : Prop :=
  ∀ c c', K c c' → Matches R (a.run c).result (a'.run c').result ∧
    L (a.run c).context (a'.run c').context ∧ (a.run c).events = (a'.run c').events

namespace Action

variable {R : α → β → Prop} {a : Action α} {a' : Action β}

/-- Less may be said of the results. -/
theorem Coupled.mono {S : α → β → Prop} (h : a.Coupled K L R a') (himp : ∀ x y, R x y → S x y) :
    a.Coupled K L S a' := by
  intro c c' hc
  obtain ⟨hresult, hcontext, hevents⟩ := h c c' hc
  exact ⟨hresult.mono himp, hcontext, hevents⟩

/-- Less may be said of the contexts. -/
theorem Coupled.weaken {M : Context → Context → Prop} (h : a.Coupled K L R a')
    (himp : ∀ c c', L c c' → M c c') : a.Coupled K M R a' := by
  intro c c' hc
  obtain ⟨hresult, hcontext, hevents⟩ := h c c' hc
  exact ⟨hresult, himp _ _ hcontext, hevents⟩

theorem coupled_pure {x : α} {y : β} (h : R x y) : Coupled K K R (pure x) (pure y) :=
  fun _ _ hc => ⟨matches_ok h, hc, rfl⟩

theorem coupled_fail (e : OperatorError) : Coupled K K R (fail e) (fail e) :=
  fun _ _ hc => ⟨matches_error R e, hc, rfl⟩

theorem coupled_tell (es : List Event) : Coupled K K Eq (tell es) (tell es) :=
  fun _ _ hc => ⟨matches_ok rfl, hc, rfl⟩

theorem coupled_update {f : Context → α × Context} {f' : Context → β × Context}
    (h : ∀ c c', K c c' → R (f c).1 (f' c').1 ∧ L (f c).2 (f' c').2) :
    Coupled K L R (update f) (update f') :=
  fun c c' hc => ⟨matches_ok (h c c' hc).1, (h c c' hc).2, rfl⟩

theorem coupled_modify {f f' : Context → Context} (h : ∀ c c', K c c' → L (f c) (f' c')) :
    Coupled K L Eq (modify f) (modify f') :=
  fun c c' hc => ⟨matches_ok rfl, h c c' hc, rfl⟩

theorem coupled_ofExcept {ε : Type} (wrap : ε → OperatorError) {x : Except ε α} {y : Except ε β}
    (h : Matches R x y) : Coupled K K R (ofExcept wrap x) (ofExcept wrap y) := by
  rcases h with ⟨e, rfl, rfl⟩ | ⟨x, y, rfl, rfl, h⟩
  · exact coupled_fail _
  · exact coupled_pure h

theorem coupled_ofExcept_self {ε : Type} (wrap : ε → OperatorError) (x : Except ε α) :
    (ofExcept wrap x).Coupled K K Eq (ofExcept wrap x) := by
  cases x with
  | error e => exact coupled_fail _
  | ok x => exact coupled_pure rfl

/-- Actions in a row. A failure of the first ends both. -/
theorem Coupled.andThen {δ : Type} {M : Context → Context → Prop} {S : γ → δ → Prop}
    {f : α → Action γ} {f' : β → Action δ} (ha : a.Coupled K L R a')
    (hf : ∀ x y, R x y → (f x).Coupled L M S (f' y)) (hle : ∀ c c', L c c' → M c c') :
    (a >>= f).Coupled K M S (a' >>= f') := by
  intro c c' hc
  obtain ⟨hresult, hcontext, hevents⟩ := ha c c' hc
  show Matches S ((a.andThen f) c).result ((a'.andThen f') c').result ∧
    M ((a.andThen f) c).context ((a'.andThen f') c').context ∧
    ((a.andThen f) c).events = ((a'.andThen f') c').events
  unfold Action.andThen
  simp only [run] at hresult hcontext hevents
  -- both fail here, or both go on from contexts that are related
  rcases hresult with ⟨e, he, he'⟩ | ⟨x, y, hx, hy, hxy⟩
  · simp only [he, he']
    exact ⟨matches_error S e, hle _ _ hcontext, hevents⟩
  · obtain ⟨hresult', hcontext', hevents'⟩ := hf x y hxy _ _ hcontext
    simp only [hx, hy, append_eq, hevents]
    simp only [run] at hresult' hcontext' hevents'
    exact ⟨hresult', hcontext', by rw [hevents']⟩

theorem Coupled.bind {δ : Type} {S : γ → δ → Prop} {f : α → Action γ} {f' : β → Action δ}
    (ha : a.Coupled K L R a') (hf : ∀ x y, R x y → (f x).Coupled L L S (f' y)) :
    (a >>= f).Coupled K L S (a' >>= f') :=
  ha.andThen hf fun _ _ hc => hc

/-- Actions in a row, of which the first have the same results. -/
theorem Coupled.next {δ : Type} {S : γ → δ → Prop} {a' : Action α} {f : α → Action γ}
    {f' : α → Action δ} (ha : a.Coupled K L Eq a') (hf : ∀ x, (f x).Coupled L L S (f' x)) :
    (a >>= f).Coupled K L S (a' >>= f') := by
  refine ha.bind fun x y hxy => ?_
  obtain rfl := hxy
  exact hf x

/-- After the contexts have been looked at. -/
theorem coupled_get_bind {δ : Type} {S : γ → δ → Prop} {f : Context → Action γ}
    {f' : Context → Action δ} (h : ∀ c c', K c c' → (f c).Coupled K K S (f' c')) :
    (get >>= f).Coupled K K S (get >>= f') :=
  Coupled.bind (fun _ _ hc => ⟨matches_ok hc, hc, rfl⟩) h

theorem Coupled.map {δ : Type} {S : γ → δ → Prop} {f : α → γ} {f' : β → δ}
    (ha : a.Coupled K L R a') (h : ∀ x y, R x y → S (f x) (f' y)) :
    (f <$> a).Coupled K L S (f' <$> a') := by
  rw [map_eq_pure_bind, map_eq_pure_bind]
  exact ha.bind fun x y hxy => coupled_pure (h x y hxy)

/-- An action followed in any case by another. -/
theorem Coupled.thenAlways {last last' : Action Unit} (ha : a.Coupled K L R a')
    (hlast : last.Coupled L L Eq last') :
    (a.thenAlways last).Coupled K L R (a'.thenAlways last') := by
  intro c c' hc
  obtain ⟨hresult, hcontext, hevents⟩ := ha c c' hc
  obtain ⟨-, hcontext', hevents'⟩ := hlast _ _ hcontext
  refine ⟨hresult, hcontext', ?_⟩
  simp only [Action.thenAlways, run, append_eq] at hevents hevents' ⊢
  rw [hevents, hevents']

/-- The columns of zipped vectors. -/
theorem coupled_ofVectors {z z' : Zipped} (hz : z.Alike z') (type : RowType) :
    (some <$> ofExcept .type (ColumnArray.ofVectors type z.primary z.companions)).Coupled K K
      (fun a a' => a.map ColumnArray.dense = a'.map ColumnArray.dense)
      (some <$> ofExcept .type (ColumnArray.ofVectors type z'.primary z'.companions)) := by
  refine (coupled_ofExcept _ (hz.ofVectors type)).map fun a a' ha => ?_
  rw [Option.map_some, Option.map_some, ha]

theorem coupled_results (values : List Value) (type : Option RowType) :
    (results values type).Coupled K K Eq (results values type) :=
  (coupled_tell _).next fun _ => coupled_pure rfl

end Action

open TieredVectors.Action

/-! ## Interpreting -/

namespace Entry

variable {z z' : Zipped} (entry : Entry)

theorem coupled_call (args : List Value) : (entry.call args).Coupled K K Eq (entry.call args) := by
  refine (coupled_tell _).next fun _ => ?_
  cases entry.body.call args with
  | error e => exact coupled_fail _
  | ok v => exact coupled_pure rfl

theorem coupled_callFrom (hz : z.Alike z') (first count : Nat) :
    (entry.callFrom z first count).Coupled K K Eq (entry.callFrom z' first count) := by
  induction count generalizing first with
  | zero => exact coupled_pure rfl
  | succ count ih =>
    rw [callFrom, callFrom, hz.arguments_eq]
    exact (entry.coupled_call _).next fun v => (ih (first + 1)).next fun vs => coupled_pure rfl

theorem coupled_callAll (hz : z.Alike z') :
    (entry.callAll z).Coupled K K Eq (entry.callAll z') := by
  rw [callAll, callAll, hz.length_eq]
  exact entry.coupled_callFrom hz 0 _

theorem coupled_foldFrom (hz : z.Alike z') (acc : Value) (first count : Nat) :
    (entry.foldFrom z acc first count).Coupled K K Eq (entry.foldFrom z' acc first count) := by
  induction count generalizing acc first with
  | zero => exact coupled_pure rfl
  | succ count ih =>
    rw [foldFrom, foldFrom, hz.arguments_eq]
    exact (entry.coupled_call _).next fun acc => ih acc (first + 1)

theorem coupled_fold (hz : z.Alike z') (acc : Value) :
    (entry.fold z acc).Coupled K K Eq (entry.fold z' acc) := by
  rw [fold, fold, hz.length_eq]
  exact entry.coupled_foldFrom hz acc 0 _

theorem coupled_foldValues (acc : Value) (vs : List Value) :
    (entry.foldValues acc vs).Coupled K K Eq (entry.foldValues acc vs) := by
  induction vs generalizing acc with
  | nil => exact coupled_pure rfl
  | cons v vs ih => exact (entry.coupled_call _).next fun acc => ih acc

end Entry

/-! ## Through the tiers -/

namespace Tiering

variable {z z' : Zipped} {s s' : Site}

theorem coupled_columns (hz : z.Alike z') :
    (columns z).Coupled K K (fun a a' => a.map ColumnArray.dense = a'.map ColumnArray.dense)
      (columns z') := by
  unfold columns
  rw [hz.inferRows_eq]
  cases z'.primary.inferRows z'.companions with
  | ok type => exact coupled_ofVectors hz type
  | error e =>
    dsimp only
    split
    · exact (coupled_tell _).next fun _ => coupled_pure rfl
    · exact coupled_fail _

/-- The columns of the same elements are the same. -/
theorem coupled_columns_self (z : Zipped) : (columns z).Coupled K K Eq (columns z) := by
  unfold columns
  split
  · exact (coupled_ofExcept_self _ _).map fun a a' ha => congrArg some ha
  · split
    · exact (coupled_tell _).next fun _ => coupled_pure rfl
    · exact coupled_fail _

theorem coupled_outputType (v : Value) : (outputType v).Coupled K K Eq (outputType v) := by
  unfold outputType
  split
  · exact coupled_pure rfl
  · exact (coupled_tell _).next fun _ => coupled_pure rfl

theorem coupled_interpretRest (entry : Entry) (hz : z.Alike z') (first : Value) (rest : Nat)
    (type : Option RowType) :
    (interpretRest entry z first rest type).Coupled K K Eq
      (interpretRest entry z' first rest type) :=
  (entry.coupled_callFrom hz 1 rest).next fun _ => coupled_pure rfl

/-- What a launch comes to. -/
theorem launch_ensures_attempt (s : Site) (unit : CompiledUnit) (c : Context) {attempt : Attempt}
    (h : ((c.executors.get? s.trace).getD (.ofUnit unit)).attempt c.device s.input = attempt) :
    (launch s unit).Ensures c fun r c' es => r = .ok attempt.result ∧
      c' = { c with
        executors := c.executors.insert s.trace attempt.executor
        device := attempt.device } ∧
      es = (attempt.flag.toList.filter (· ≠ 0)).map fun flag => .flagRaised (flag.toInt - 1) := by
  subst h
  unfold launch
  simp only [ensures_bind, ensures_get, Post.after_ok, ensures_modify]
  cases (((c.executors.get? s.trace).getD (.ofUnit unit)).attempt c.device s.input).flag with
  | none => exact ⟨rfl, rfl, rfl⟩
  | some flag =>
    by_cases hflag : flag = 0 <;> simp [hflag]

/-- The calls differ only in the form of their elements, as far as `view` shows. -/
structure Site.Alike (view : ColumnArray → γ) (s s' : Site) : Prop where
  same : s' = { s with input := s'.input, elements := s'.elements }
  input : view s.input = view s'.input
  elements : s.elements.Alike s'.elements

/-- The places in which a call of the function through the tiers looks at the context or changes it
keep the relation, and see neither what it leaves open nor more of the columns than `view` shows. -/
structure Respects (f : FunctionId) (view : ColumnArray → γ) (K : Context → Context → Prop) :
    Prop where
  type : ∀ {a a'}, view a = view a' → a'.type = a.type
  options : ∀ {c c'}, K c c' → c'.options = c.options
  compiler : ∀ {c c'}, K c c' → c'.compiler = c.compiler
  units : ∀ {c c'}, K c c' → c'.units = c.units
  deviceEnabled : (deviceEnabled f).Coupled K K Eq (deviceEnabled f)
  propose : ∀ entry, (propose f entry).Coupled K K Eq (propose f entry)
  probe : ∀ trace, (probe trace).Coupled K K Eq (probe trace)
  install : ∀ compiler trace unit,
    (update fun c => ((.ok (c.units.install trace unit).1 : Except CompileError CompiledUnit),
      { c with compiler, units := (c.units.install trace unit).2 })).Coupled K K Eq
    (update fun c => (.ok (c.units.install trace unit).1,
      { c with compiler, units := (c.units.install trace unit).2 }))
  launch : ∀ {s s' : Site}, s.Alike view s' → ∀ unit,
    (launch s unit).Coupled K K Eq (launch s' unit)
  sample : ∀ v type,
    (modify fun c => { c with functions := c.functions.recordSample f v type }).Coupled K K Eq
    (modify fun c => { c with functions := c.functions.recordSample f v type })
  deopt :
    (update fun c => ((c.functions.recordDeopt f).1,
      { c with functions := (c.functions.recordDeopt f).2 })).Coupled K K Eq
    (update fun c => ((c.functions.recordDeopt f).1,
      { c with functions := (c.functions.recordDeopt f).2 }))

section

variable {f : FunctionId} {view : ColumnArray → γ} (hK : Respects f view K)
include hK

theorem coupled_tellFailure (e : CompileError) :
    (tellFailure e).Coupled K K Eq (tellFailure e) := by
  refine (coupled_tell _).next fun _ => coupled_get_bind fun c c' hc => ?_
  rw [hK.options hc]
  split
  · exact coupled_tell _
  · exact coupled_pure rfl

theorem coupled_compile (hs : s.Alike view s') (graph : Graph) :
    (compile s graph).Coupled K K Eq (compile s' graph) := by
  have htype : s'.input.type = s.input.type := hK.type hs.input
  rw [hs.same]
  refine coupled_get_bind fun c c' hc => ?_
  dsimp only
  rw [htype, hK.options hc, hK.compiler hc]
  -- what follows is the same whether or not the graph is reported
  cases c.compiler.compile graph.shape s.input.type s.output s.entry.body.scope with
  | error e =>
    dsimp only
    split
    · exact (coupled_tell _).next fun _ => coupled_pure rfl
    · exact coupled_pure rfl
  | ok result =>
    dsimp only
    split
    · exact (coupled_tell _).next fun _ => hK.install _ _ _
    · exact hK.install _ _ _

theorem coupled_deoptimize (hs : s.Alike view s') (hf : s.function = f) (unit : CompiledUnit)
    (reason : String) :
    (deoptimize s unit reason).Coupled K K Eq (deoptimize s' unit reason) := by
  subst hf
  rw [hs.same]
  refine (coupled_tell _).next fun _ => hK.deopt.next fun deopts => ?_
  refine (coupled_tell _).next fun _ => ?_
  exact (s.entry.coupled_callAll hs.elements).next fun _ => coupled_pure rfl

theorem coupled_execute (hs : s.Alike view s') (hf : s.function = f) (unit : CompiledUnit) :
    (execute s unit).Coupled K K Eq (execute s' unit) := by
  refine (coupled_tell _).next fun _ => (hK.launch hs unit).next fun result => ?_
  split
  · exact (coupled_tell _).next fun _ => coupled_pure rfl
  · exact coupled_deoptimize hK hs hf unit _
  · split
    · exact coupled_deoptimize hK hs hf unit _
    · exact coupled_fail _

theorem coupled_trace (hs : s.Alike view s') (first count : Nat) :
    (trace s first count).Coupled K K Eq (trace s' first count) := by
  have hentry : s'.entry = s.entry := by rw [hs.same]
  have htrace : s'.trace = s.trace := by rw [hs.same]
  induction count generalizing first with
  | zero => exact coupled_pure rfl
  | succ count ih =>
    rw [trace, trace, hentry, htrace, hs.elements.arguments_eq]
    refine (s.entry.coupled_call _).next fun v => (hK.probe s.trace).next fun graph? => ?_
    split
    · refine (ih (first + 1)).next fun rest => ?_
      split <;> exact coupled_pure rfl
    · refine (coupled_tell _).next fun _ => (coupled_compile hK hs _).next fun result => ?_
      split
      · exact (coupled_tell _).next fun _ => coupled_pure rfl
      · refine (coupled_tellFailure hK _).next fun _ => ?_
        exact (s.entry.coupled_callFrom hs.elements _ _).next fun _ => coupled_pure rfl

theorem coupled_proceed (hs : s.Alike view s') (hf : s.function = f) (first : Value) (rest : Nat) :
    (proceed s first rest).Coupled K K Eq (proceed s' first rest) := by
  have htype : s'.input.type = s.input.type := hK.type hs.input
  have hentry : s'.entry = s.entry := by rw [hs.same]
  have htrace : s'.trace = s.trace := by rw [hs.same]
  have houtput : s'.output = s.output := by rw [hs.same]
  rw [proceed, proceed, hentry, htrace, houtput, htype]
  refine coupled_get_bind fun c c' hc => ?_
  rw [hK.units hc]
  cases c.units.get? s.trace with
  | some unit =>
    dsimp only
    split
    · exact (coupled_tell _).next fun _ => coupled_execute hK hs hf unit
    · exact (coupled_tell _).next fun _ => coupled_interpretRest s.entry hs.elements first rest _
  | none =>
    refine (coupled_trace hK hs 1 rest).next fun result => ?_
    split
    · exact coupled_execute hK hs hf _
    · exact coupled_pure rfl

theorem coupled_deploy (entry : Entry) (hz : z.Alike z') {a a' : ColumnArray}
    (ha : view a = view a') (output : RowType) (first : Value) (rest : Nat) :
    (deploy f entry z a output first rest).Coupled K K Eq
      (deploy f entry z' a' output first rest) := by
  refine hK.deviceEnabled.next fun enabled => ?_
  split
  · refine (hK.propose entry.id).next fun trace => coupled_proceed hK ?_ rfl first rest
    exact ⟨rfl, ha, hz⟩
  · exact coupled_interpretRest entry hz first rest (some output)

end

/-- Once the entry of the function is known, the whole call keeps a relation that noting a sample
keeps, and what follows the first element of a call that may go to the device. -/
theorem coupled_callEntry {f : FunctionId} {view : ColumnArray → γ} {entry : Entry}
    (hsample : ∀ v type,
      (modify fun c => { c with functions := c.functions.recordSample f v type }).Coupled K K Eq
      (modify fun c => { c with functions := c.functions.recordSample f v type }))
    (hdeploy : ∀ {a a'}, view a = view a' → ∀ output first rest,
      (deploy f entry z a output first rest).Coupled K K Eq
        (deploy f entry z' a' output first rest))
    (hz : z.Alike z') {input input' : Option ColumnArray}
    (hinput : input.map view = input'.map view) :
    (callEntry f entry z input).Coupled K K Eq (callEntry f entry z' input') := by
  rw [callEntry, callEntry, hz.length_eq]
  cases z'.length with
  | zero => exact coupled_pure rfl
  | succ rest =>
    dsimp only
    rw [hz.arguments_eq]
    refine (coupled_tell _).next fun _ => (entry.coupled_call _).next fun first => ?_
    refine (coupled_outputType first).next fun output => (hsample first output).next fun _ => ?_
    have hrest (type : Option RowType) :
        (interpretRest entry z first rest type).Coupled K K Eq
          (interpretRest entry z' first rest type) := coupled_interpretRest entry hz first rest type
    -- there are columns on both sides or on neither
    cases input with
    | none =>
      obtain rfl : input' = none := by simpa using hinput.symm
      exact hrest output
    | some a =>
      obtain ⟨a', rfl, ha⟩ := Option.map_eq_some_iff.1 hinput.symm
      cases output with
      | none => exact hrest none
      | some output => exact hdeploy ha.symm output first rest

theorem Respects.coupled_callEntry {f : FunctionId} {view : ColumnArray → γ}
    (hK : Respects f view K) {entry : Entry} (hz : z.Alike z') {input input' : Option ColumnArray}
    (hinput : input.map view = input'.map view) :
    (callEntry f entry z input).Coupled K K Eq (callEntry f entry z' input') :=
  Tiering.coupled_callEntry hK.sample (fun ha => coupled_deploy hK entry hz ha) hz hinput

/-- A whole call. Once the function has been resolved, more may be known of the contexts. -/
theorem coupled_run {f : Function} {view : ColumnArray → γ} {M : Context → Context → Prop}
    (hK : ∀ c c', K c c' → M c c') (hL : ∀ c c', L c c' → M c c')
    (hresolve : (resolve f).Coupled K L Eq (resolve f))
    (hcolumns : (columns z).Coupled K K (fun a a' => a.map view = a'.map view) (columns z'))
    (hcall : ∀ entry input input', input.map view = input'.map view →
      (callEntry f.id entry z input).Coupled L L Eq (callEntry f.id entry z' input'))
    {input input' : Option ColumnArray} (hinput : input.map view = input'.map view) :
    (run f z input).Coupled K M Eq (run f z' input') := by
  have hentry (input input' : Option ColumnArray) (hinput : input.map view = input'.map view) :
      (resolve f >>= fun entry => callEntry f.id entry z input).Coupled K M Eq
        (resolve f >>= fun entry => callEntry f.id entry z' input') :=
    (hresolve.next fun entry => hcall entry input input' hinput).weaken hL
  cases input with
  | none =>
    -- the columns are made before the function is resolved, and may fail to be
    obtain rfl : input' = none := by simpa using hinput.symm
    rw [run_none, run_none]
    exact hcolumns.andThen hentry hK
  | some a =>
    obtain ⟨a', rfl, ha⟩ := Option.map_eq_some_iff.1 hinput.symm
    rw [run_some, run_some]
    exact hentry _ _ hinput

theorem coupled_toVector (outcome : Outcome) :
    outcome.toVector.Coupled K K Eq outcome.toVector := by
  cases outcome with
  | device array => exact coupled_pure rfl
  | interpreted values type => exact coupled_results values type

end Tiering

end TieredVectors
