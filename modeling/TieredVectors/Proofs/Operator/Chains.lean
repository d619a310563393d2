import TieredVectors.Proofs.Operator.Registering

/-!
# Chains of maps

A chain of maps may be computed at once, link by link, or registered and executed. Where functions
are interpreted, what a chain gives depends on the targets of its functions only
(`Link.value`), and both ways come to that:

* `Operator.mapChain_vector` — mapping a vector link by link;
* `Context.Lists` — what there is once a chain has been registered, whether or not stages are
  computed eagerly (`Context.Lists.registerChain`), and what executing it gives
  (`Context.Lists.execute`);
* `Context.Twins` — what is registered does not depend on when stages are computed;
* `Operator.pendingChain_eq_mapChain` — all of this together.

A stage that is computed eagerly may specialize its function, before the next stage is registered.
If the specialization does not compute what it replaces, and the function comes again in the chain,
the sample of that stage tells (`Operator.pendingChain_after_specializing`).
-/

namespace TieredVectors

variable {p : Program} {scope : Bool} {targets : FunctionId → Target} {c : Context}
  {x : DataVector}

/-! ## What a chain gives -/

/-- One map of a chain: what is called, and with which companions. -/
structure Link where
  function : Function
  companions : List DataVector

namespace Link

/-- What is called for each function once the link has been mapped through the tiers. -/
def resolve (scope : Bool) (targets : FunctionId → Target) (link : Link) : FunctionId → Target :=
  fun g =>
    if scope ∧ g = link.function.id then (targets link.function.id).specialize link.function.id
    else targets g

/-- Map a vector with the interpreter alone. -/
def apply (scope : Bool) (targets : FunctionId → Target) (link : Link) (x : DataVector) :
    Except OperatorError DataVector :=
  (link.resolve scope targets link.function.id).entry.body.map x link.companions

/-- Map a vector link by link, with the interpreter alone. -/
def value (scope : Bool) (targets : FunctionId → Target) :
    List Link → DataVector → Except OperatorError DataVector
  | [], x => .ok x
  | link :: links, x =>
    link.apply scope targets x >>= value scope (link.resolve scope targets) links

/-- What is called for each function once all links have been mapped. -/
def resolveAll (scope : Bool) (targets : FunctionId → Target) (links : List Link) :
    FunctionId → Target :=
  links.foldl (resolve scope) targets

theorem resolveAll_concat (links : List Link) (link : Link) :
    resolveAll scope targets (links ++ [link]) =
      link.resolve scope (resolveAll scope targets links) := by
  simp [resolveAll]

/-- A function is called as it was, or has been specialized by one of the links. -/
theorem resolveAll_cases (scope : Bool) (targets : FunctionId → Target) (links : List Link)
    (f : FunctionId) :
    resolveAll scope targets links f = targets f ∨
      scope = true ∧ f ∈ links.map (·.function.id) ∧
        resolveAll scope targets links f = (targets f).specialize f := by
  induction links using List.reverseRecOn with
  | nil => exact .inl rfl
  | append_singleton links link ih =>
    rw [resolveAll_concat, resolve, List.map_append, List.mem_append]
    split
    next h =>
      obtain ⟨hscope, rfl⟩ := h
      refine .inr ⟨hscope, .inr List.mem_cons_self, ?_⟩
      rcases ih with heq | ⟨-, -, heq⟩
      · rw [heq]
      · rw [heq, Target.specialize_specialize]
    next =>
      rcases ih with heq | ⟨hscope, hmem, heq⟩
      · exact .inl heq
      · exact .inr ⟨hscope, .inl hmem, heq⟩

/-- No function that comes more than once has a specialization that can be told. -/
def Steady (scope : Bool) (targets : FunctionId → Target) (links : List Link) : Prop :=
  scope = true → ∀ f, 1 < (links.map (·.function.id)).count f → (targets f).Steady f

/-- Then a function is called as before when it comes again. -/
theorem Steady.same {links rest : List Link} {link : Link}
    (h : Steady scope targets (links ++ link :: rest)) :
    (resolveAll scope targets links link.function.id).Same (targets link.function.id) := by
  rcases resolveAll_cases scope targets links link.function.id with heq | ⟨hscope, hmem, heq⟩
  · rw [heq]
    exact .refl _
  · rw [heq]
    refine h hscope _ ?_
    have hbefore := List.count_pos_iff.2 hmem
    rw [List.map_append, List.map_cons, List.count_append, List.count_cons_self]
    omega

/-- The last link maps what the others give. -/
theorem value_concat (links : List Link) (link : Link) (x : DataVector) :
    value scope targets (links ++ [link]) x =
      value scope targets links x >>= link.apply scope (resolveAll scope targets links) := by
  induction links generalizing targets x with
  | nil => exact bind_pure _
  | cons first links ih =>
    rw [List.cons_append, value, value, bind_assoc]
    exact bind_congr fun y => ih y

end Link

/-- Functions are interpreted, with the given targets, and specialized first if `scope` says so. -/
structure Context.Interprets (p : Program) (scope : Bool) (targets : FunctionId → Target)
    (c : Context) : Prop where
  bare : c.Bare
  scope : c.options.specializeScope = scope
  targets : c.functions.target p = targets

theorem Context.Bare.interprets (h : c.Bare) :
    c.Interprets p c.options.specializeScope (c.functions.target p) :=
  ⟨h, rfl, rfl⟩

theorem Context.Interprets.of_standing {c' : Context} (h : c.Interprets p scope targets)
    (hstanding : c'.standing p = c.standing p) : c'.Interprets p scope targets :=
  ⟨h.bare.of_standing hstanding, by rw [options_of_standing hstanding, h.scope],
    (target_of_standing hstanding).trans h.targets⟩

namespace Operator

open TieredVectors.Action

variable {link : Link} {links rest : List Link} {handle : StageHandle}

/-- Map link by link. -/
def mapChain : List Link → Operand → Action Operand
  | [], x => pure x
  | link :: links, x => map x link.function link.companions >>= mapChain links

/-- Register a chain of stages that begins with a vector. -/
def pendingChain (x : DataVector) (first : Link) (rest : List Link) : Action Operand := do
  let handle ← pendingMap x first.function first.companions
  mapChain rest (.pending handle)

/-- Register a link that reads the input, and then the rest of the chain. -/
def registerChain (input : StageInput) (first : Link) (rest : List Link) : Action Operand := do
  let handle ← register .map first.function input
  mapChain rest (.pending handle)

theorem mapChain_pending_cases (handle : StageHandle) (link : Link) (rest : List Link) :
    (∃ e, mapChain (link :: rest) (.pending handle) = fail e) ∨
      link.function.arity = 1 + link.companions.length ∧
        mapChain (link :: rest) (.pending handle) =
          registerChain (.parent handle link.companions) link rest := by
  rw [mapChain]
  rcases map_pending_cases handle link.function link.companions with ⟨e, he⟩ | ⟨harity, hmap⟩
  · rw [he]
    exact .inl ⟨e, rfl⟩
  · rw [hmap, bind_map_left]
    exact .inr ⟨harity, rfl⟩

theorem pendingChain_cases (x : DataVector) (first : Link) (rest : List Link) :
    (∃ e, pendingChain x first rest = fail e) ∨
      first.function.arity = 1 + first.companions.length ∧ ∃ columns, pendingChain x first rest =
        registerChain (.source x first.companions columns) first rest := by
  rw [pendingChain]
  rcases pendingMap_cases x first.function first.companions with
    ⟨e, he⟩ | ⟨harity, input, ⟨-, columns⟩, hregister⟩
  · rw [he]
    exact .inl ⟨e, rfl⟩
  · rw [hregister]
    exact .inr ⟨harity, columns, rfl⟩

/-- Mapping a vector calls the target of the function, whether or not there are columns. -/
theorem mapVector_of_interprets (h : c.Interprets p scope targets) (hf : p.Knows link.function)
    (x : DataVector) (columns : Option ColumnArray) :
    (mapVector link.function x link.companions columns).Ensures c fun r c' _ =>
      r = link.apply scope targets x ∧ c'.bystanders = c.bystanders ∧
      ∀ v, r = .ok v → c'.Interprets p scope (link.resolve scope targets) := by
  obtain ⟨hbare, rfl, rfl⟩ := h
  refine ((mapVector_of_bare hbare hf columns).and (computes_mapVector _ _ _ _ c)).mono ?_
  rintro r c' es ⟨⟨hr, hbare', htargets, -⟩, hbystanders, -⟩
  refine ⟨hr, hbystanders, fun v hv => ⟨hbare', ?_, ?_⟩⟩
  · rw [show c'.options = c.options from congrArg (·.2.1) hbystanders]
  · rcases htargets with htargets | ⟨-, e, he⟩
    · exact htargets
    · rw [hv] at he
      cases he

/-- Mapping a vector link by link. -/
theorem mapChain_vector (h : c.Interprets p scope targets)
    (hknown : ∀ link ∈ links, p.Knows link.function)
    (harity : ∀ link ∈ links, link.function.arity = 1 + link.companions.length) (x : DataVector) :
    (mapChain links (.vector x)).Ensures c fun r _ _ =>
      r = .vector <$> Link.value scope targets links x := by
  induction links generalizing c targets x with
  | nil => rfl
  | cons link links ih =>
    rw [List.forall_mem_cons] at hknown harity
    rw [mapChain, ensures_bind, map, checkArity, if_pos harity.1, pure_bind, Link.value,
      ensures_map]
    refine (mapVector_of_interprets h hknown.1 x none).mono ?_
    rintro r c' es ⟨rfl, -, hinterprets⟩
    cases happly : link.apply scope targets x with
    | error e => rfl
    | ok y => exact ih (hinterprets y happly) hknown.2 harity.2 y

end Operator

/-! ## Registering a chain -/

/-- The input is what is left to compute of some links: they have been registered as stages, one
after another, and none has a result. -/
inductive StageRegistry.Chain (r : StageRegistry) (x : DataVector) : List Link → StageInput → Prop
  | source (companions : List DataVector) (columns : Option ColumnArray) :
      Chain r x [] (.source x companions columns)
  | parent {links : List Link} {link : Link} {input : StageInput} {handle : StageHandle}
      {v : Option Value} (hrest : Chain r x links input)
      (hstage : r.get? handle = some (.ofSample .map link.function input v))
      (hcompanions : input.companions = link.companions)
      (hlt : ∀ parent, input.parent? = some parent → parent.index < handle.index)
      (companions : List DataVector) : Chain r x (links ++ [link]) (.parent handle companions)

/-- Registering a stage leaves the chains of earlier ones alone. -/
theorem StageRegistry.Chain.add {r : StageRegistry} {links : List Link} {input : StageInput}
    (h : r.Chain x links input)
    (hle : ∀ parent, input.parent? = some parent → parent.index ≤ r.last) (stage : Stage) :
    (r.add stage).2.Chain x links input := by
  induction h with
  | source companions columns => exact .source companions columns
  | @parent links link input handle v hrest hstage hcompanions hlt companions ih =>
    have hhandle : handle.index ≤ r.last := hle handle rfl
    -- the new stage has a number that none of the chain has
    have hkept : (r.add stage).2.get? handle = r.get? handle := by
      rw [get?_add, if_neg]
      rintro rfl
      exact Nat.not_succ_le_self _ hhandle
    refine .parent (ih fun parent hparent => ?_) (hkept.trans hstage) hcompanions hlt companions
    have := hlt parent hparent
    omega

namespace Operator

open TieredVectors.Action

variable {link : Link} {handle : StageHandle} {input : StageInput}

theorem stageElements_of_ready {stage : Stage} (h : c.stages.Ready x stage.input) :
    (stageElements stage).Ensures c fun r c' _ => r = .ok x ∧ c' = c := by
  unfold stageElements
  cases hinput : stage.input with
  | source primary companions columns =>
    rw [hinput] at h
    exact ⟨congrArg _ h, rfl⟩
  | parent parent companions =>
    rw [hinput] at h
    obtain ⟨stage', hstage', hresult⟩ := h
    exact (ensures_materialize_of_result hstage' hresult).2 ⟨rfl, rfl⟩

/-- A stage that is computed eagerly, from elements that are there, is added with its result. -/
theorem register_of_eager (heager : c.options.stages = .eager)
    (h : c.Interprets p scope targets) (hf : p.Knows link.function)
    (hready : c.stages.Ready x input) (hcompanions : input.companions = link.companions) :
    (register .map link.function input).Ensures c fun r c' _ => ∀ handle, r = .ok handle →
      ∃ v y, c.sampleFor p .map link.function.id input = .ok v ∧
        link.apply scope targets x = .ok y ∧ handle = ⟨c.stages.last + 1⟩ ∧
        c'.stages = (c.stages.add
          { Stage.ofSample .map link.function input v with result := some y }).2 ∧
        c'.Interprets p scope (link.resolve scope targets) ∧ c'.options = c.options := by
  unfold register
  rw [ensures_bind]
  refine (sample_of_knows hf .map input c).mono ?_
  rintro r c₁ es ⟨rfl, ⟨functions, hseen, hrecords⟩, -⟩
  have hstanding : c₁.standing p = c.standing p := hseen ▸ Context.standing_of_records hrecords
  have hstages : c₁.stages = c.stages := by rw [hseen]
  have hoptions : c₁.options = c.options := by rw [hseen]
  cases hsample : c.sampleFor p .map link.function.id input with
  | error e => exact nofun
  | ok v =>
    -- the sample has been taken; now the stage is computed, and added with its result
    rw [Post.after_ok, ensures_bind, ensures_get, Post.after_ok, hoptions, heager]
    dsimp only
    rw [ensures_bind]
    refine (stageElements_of_ready (x := x) (c := c₁) (by rw [hstages]; exact hready)).mono ?_
    rintro r c₂ es' ⟨rfl, rfl⟩
    rw [Post.after_ok, ensures_bind, computeStage]
    dsimp only [Stage.ofSample]
    rw [hcompanions]
    refine (mapVector_of_interprets (h.of_standing hstanding) hf x _).mono ?_
    rintro r c₃ es'' ⟨rfl, hbystanders₃, hinterprets⟩
    cases happly : link.apply scope targets x with
    | error e => exact nofun
    | ok y =>
      have hstages₃ : c₃.stages = c.stages := (congrArg Prod.fst hbystanders₃).trans hstages
      have hoptions₃ : c₃.options = c.options := (congrArg (·.2.1) hbystanders₃).trans hoptions
      obtain ⟨hbare, hscope, htargets⟩ := hinterprets y happly
      rw [Post.after_ok, pure_bind, ensures_update]
      intro handle hhandle
      refine ⟨v, y, rfl, rfl, ?_, ?_, ⟨hbare.congr rfl rfl rfl, hscope, htargets⟩, hoptions₃⟩
      · rw [← Except.ok.inj hhandle, hstages₃]
        rfl
      · rw [hstages₃]

/-- The elements at the end of a chain are what its links give. -/
theorem stageElements_of_chain {links : List Link} {stage : Stage}
    (hchain : c.stages.Chain x links input) (hinput : stage.input = input)
    (h : c.Interprets p scope targets) (hknown : ∀ link ∈ links, p.Knows link.function) :
    (stageElements stage).Ensures c fun r c' _ => r = Link.value scope targets links x ∧
      ∀ v, r = .ok v → c'.Interprets p scope (Link.resolveAll scope targets links) := by
  induction hchain generalizing stage with
  | source companions columns =>
    rw [stageElements, hinput]
    exact ⟨rfl, fun _ _ => h⟩
  | @parent links link input handle v hrest hstage hcompanions hlt companions ih =>
    rw [List.forall_mem_append, List.forall_mem_singleton] at hknown
    -- the stage reads what the links before it give
    have hbefore := @ih (.ofSample .map link.function input v) rfl hknown.1
    have hfinish (y : DataVector) {c₁ : Context} {targets₁ : FunctionId → Target}
        (h₁ : c₁.Interprets p scope targets₁) : (do
          let result ← computeStage (.ofSample .map link.function input v) y
          modify fun c => { c with stages := c.stages.memoize handle result }
          return result).Ensures c₁ fun r c' _ => r = link.apply scope targets₁ y ∧
            ∀ v, r = Except.ok v → c'.Interprets p scope (link.resolve scope targets₁) := by
      rw [ensures_bind, computeStage]
      dsimp only [Stage.ofSample]
      rw [hcompanions]
      refine (mapVector_of_interprets h₁ hknown.2 y _).mono ?_
      rintro r c₂ es ⟨rfl, -, hinterprets⟩
      cases happly : link.apply scope targets₁ y with
      | error e => exact ⟨rfl, fun _ h => by cases h⟩
      | ok result =>
        obtain ⟨hbare, hscope, htargets⟩ := hinterprets result happly
        exact ⟨rfl, fun _ _ => ⟨hbare.congr rfl rfl rfl, hscope, htargets⟩⟩
    rw [stageElements, hinput]
    dsimp only
    rw [ensures_materialize_of_due hstage rfl hlt, ensures_bind, Link.value_concat,
      Link.resolveAll_concat]
    refine hbefore.mono ?_
    rintro r c₁ es ⟨rfl, hinterprets⟩
    cases hvalue : Link.value scope targets links x with
    | error e => exact ⟨rfl, fun _ h => by cases h⟩
    | ok y => exact hfinish y (hinterprets y hvalue)

end Operator

/-- Links have been registered, and a stage that reads the input reads what they give. Either all of
them wait to be computed, or they have been. -/
inductive Context.Lists (p : Program) (scope : Bool) (targets : FunctionId → Target)
    (x : DataVector) (links : List Link) (input : StageInput) (c : Context) : Prop
  | deferred (hmode : c.options.stages = .deferred) (h : c.Interprets p scope targets)
      (hchain : c.stages.Chain x links input)
      (hle : ∀ parent, input.parent? = some parent → parent.index ≤ c.stages.last)
  | eager {y : DataVector} (hmode : c.options.stages = .eager)
      (h : c.Interprets p scope (Link.resolveAll scope targets links))
      (hready : c.stages.Ready y input) (hvalue : Link.value scope targets links x = .ok y)

namespace Context.Lists

open TieredVectors.Action Operator

variable {link : Link} {links rest : List Link} {handle : StageHandle} {input : StageInput}

/-- No link has been registered. -/
theorem source (h : c.Interprets p scope targets) (x : DataVector) (companions : List DataVector)
    (columns : Option ColumnArray) :
    c.Lists p scope targets x [] (.source x companions columns) := by
  cases hmode : c.options.stages with
  | deferred => exact .deferred hmode h (.source companions columns) nofun
  | eager => exact .eager hmode h rfl rfl

/-- Where stages are computed eagerly, all links have been called and the elements are there. -/
theorem of_eager (h : c.Lists p scope targets x links input)
    (heager : c.options.stages = .eager) :
    ∃ y, c.Interprets p scope (Link.resolveAll scope targets links) ∧ c.stages.Ready y input ∧
      Link.value scope targets links x = .ok y := by
  cases h with
  | deferred hmode =>
    rw [heager] at hmode
    cases hmode
  | eager _ h hready hvalue => exact ⟨_, h, hready, hvalue⟩

/-- One more link is registered, with the next number. -/
theorem register (h : c.Lists p scope targets x links input) (hf : p.Knows link.function)
    (hcompanions : input.companions = link.companions) :
    (register .map link.function input).Ensures c fun r c' _ => ∀ handle companions,
      r = .ok handle → c'.Lists p scope targets x (links ++ [link]) (.parent handle companions) ∧
        handle.index = c.stages.last + 1 ∧ c'.stages.last = c.stages.last + 1 ∧
        c'.options = c.options := by
  cases h with
  | deferred hmode h hchain hle =>
    refine (register_of_deferred hmode hf .map input).mono ?_
    rintro r c' es ⟨hstanding, herror, hok⟩ handle companions hhandle
    cases hsample : c.sampleFor p .map link.function.id input with
    | error e =>
      rw [(herror e hsample).1] at hhandle
      cases hhandle
    | ok v =>
      obtain ⟨rfl, hstages⟩ := hok v hsample
      obtain rfl := Except.ok.inj hhandle
      have hoptions := options_of_standing hstanding
      refine ⟨.deferred ((congrArg _ hoptions).trans hmode) (h.of_standing hstanding) ?_
        fun parent hparent => ?_, rfl, by rw [hstages]; rfl, hoptions⟩
      · rw [hstages]
        exact .parent (hchain.add hle _) ((StageRegistry.get?_add ..).trans (if_pos rfl))
          hcompanions
          (fun parent hparent => Nat.lt_succ_of_le (hle parent hparent)) companions
      · obtain rfl := Option.some.inj hparent
        rw [hstages]
        exact Nat.le_refl _
  | eager hmode h hready hvalue =>
    refine (register_of_eager hmode h hf hready hcompanions).mono ?_
    intro r c' es hr handle companions hhandle
    obtain ⟨v, y, -, happly, rfl, hstages, h', hoptions⟩ := hr handle hhandle
    refine ⟨.eager (y := y) ((congrArg _ hoptions).trans hmode) ?_ ?_ ?_, rfl,
      by rw [hstages]; rfl, hoptions⟩
    · rw [Link.resolveAll_concat]
      exact h'
    · rw [hstages]
      exact ⟨_, (StageRegistry.get?_add ..).trans (if_pos rfl), rfl⟩
    · rw [Link.value_concat, hvalue]
      exact happly

/-- More links are registered, with the next numbers. -/
theorem registerChain (h : c.Lists p scope targets x links input) {first : Link}
    (hknown : ∀ link ∈ first :: rest, p.Knows link.function)
    (hcompanions : input.companions = first.companions) :
    (registerChain input first rest).Ensures c fun r c' _ => ∀ last, r = .ok (.pending last) →
      c'.Lists p scope targets x (links ++ first :: rest) (.parent last []) ∧
      (∀ link ∈ rest, link.function.arity = 1 + link.companions.length) ∧
      last.index = c.stages.last + (first :: rest).length ∧ c'.options = c.options := by
  induction rest generalizing c links input first with
  | nil =>
    rw [List.forall_mem_singleton] at hknown
    rw [Operator.registerChain, ensures_bind]
    refine (h.register hknown hcompanions).mono ?_
    intro r c' es hlists
    cases r with
    | error e => exact nofun
    | ok handle =>
      rw [Post.after_ok]
      intro last hlast
      obtain rfl : handle = last := Operand.pending.inj (Except.ok.inj hlast)
      obtain ⟨hlists, hhandle, -, hoptions⟩ := hlists handle [] rfl
      exact ⟨hlists, nofun, hhandle, hoptions⟩
  | cons second rest ih =>
    rw [List.forall_mem_cons] at hknown
    rw [Operator.registerChain, ensures_bind]
    refine (h.register hknown.1 hcompanions).mono ?_
    intro r c' es hlists
    cases r with
    | error e => exact nofun
    | ok handle =>
      rw [Post.after_ok]
      rcases mapChain_pending_cases handle second rest with ⟨e, he⟩ | ⟨harity, hchain⟩
      · rw [he]
        exact nofun
      · rw [hchain]
        obtain ⟨hlists, -, hcount, hoptions⟩ := hlists handle second.companions rfl
        refine (ih hlists hknown.2 rfl).mono ?_
        intro r c'' es' hrest last hlast
        obtain ⟨hlists', harities, hindex, hoptions'⟩ := hrest last hlast
        rw [List.append_assoc, List.singleton_append] at hlists'
        refine ⟨hlists', List.forall_mem_cons.2 ⟨harity, harities⟩, ?_, hoptions'.trans hoptions⟩
        rw [hindex, hcount, List.length_cons (a := first)]
        omega

/-- A whole chain is registered. -/
theorem pendingChain (h : c.Interprets p scope targets) {first : Link}
    (hknown : ∀ link ∈ first :: rest, p.Knows link.function) :
    (pendingChain x first rest).Ensures c fun r c' _ => ∀ last, r = .ok (.pending last) →
      c'.Lists p scope targets x (first :: rest) (.parent last []) ∧
      (∀ link ∈ first :: rest, link.function.arity = 1 + link.companions.length) ∧
      last.index = c.stages.last + (first :: rest).length ∧ c'.options = c.options := by
  rcases pendingChain_cases x first rest with ⟨e, he⟩ | ⟨harity, columns, hchain⟩
  · rw [he]
    exact nofun
  · rw [hchain]
    refine ((source h x first.companions columns).registerChain hknown rfl).mono ?_
    intro r c' es hlists last hlast
    obtain ⟨hlists, harities, hindex, hoptions⟩ := hlists last hlast
    exact ⟨hlists, List.forall_mem_cons.2 ⟨harity, harities⟩, hindex, hoptions⟩

/-- Executing a chain gives what its links give. -/
theorem execute (h : c.Lists p scope targets x links (.parent handle []))
    (hknown : ∀ link ∈ links, p.Knows link.function) :
    ((Operator.execute handle).run c).result = Link.value scope targets links x := by
  -- execution begins as a stage that reads from this one would
  have hreader (stage : Stage) (hinput : stage.input = .parent handle [])
      (h : (stageElements stage).Ensures c fun r _ _ => r = Link.value scope targets links x) :
      ((Operator.execute handle).run c).result = Link.value scope targets links x := by
    rw [stageElements, hinput] at h
    exact h
  cases h with
  | deferred _ h hchain _ =>
    cases hchain with
    | @parent _ link _ _ _ hrest hstage hcompanions hlt =>
      refine hreader (.ofSample .map link.function (.parent handle []) none) rfl ?_
      exact (stageElements_of_chain (.parent hrest hstage hcompanions hlt []) rfl h hknown).mono
        fun _ _ _ h => h.1
  | eager _ _ hready hvalue =>
    obtain ⟨stage, hstage, hresult⟩ := hready
    refine hreader { stage with input := .parent handle [] } rfl ?_
    have hready : c.stages.Ready _ (.parent handle []) := ⟨stage, hstage, hresult⟩
    refine (stageElements_of_ready hready).mono ?_
    rintro r c' es ⟨rfl, -⟩
    exact hvalue.symm

end Context.Lists

/-! ## Eager and deferred stages -/

/-- A stage but for its result. -/
def Stage.plan (stage : Stage) : Stage := { stage with result := none }

namespace StageRegistry

variable {r r' : StageRegistry}

/-- All that is registered, but for the results: handles, functions, inputs, samples and their
types, and what refers to the stages. -/
def plan (r : StageRegistry) :
    (Nat × Option StageHandle × Table FunctionId StageHandle) × (StageHandle → Option Stage) :=
  ((r.last, r.current, r.byFunction), fun handle => (r.get? handle).map Stage.plan)

theorem plan_add (h : r'.plan = r.plan) {stage stage' : Stage} (hstage : stage'.plan = stage.plan) :
    (r'.add stage').2.plan = (r.add stage).2.plan := by
  have hlast : r'.last = r.last := congrArg (·.1.1) h
  have hfunctions : r'.byFunction = r.byFunction := congrArg (·.1.2.2) h
  have hid : stage'.function.id = stage.function.id := congrArg (·.function.id) hstage
  refine Prod.ext ?_ (funext fun handle => ?_)
  · simp only [plan, add, hlast, hfunctions, hid]
  · simp only [plan, get?_add, hlast]
    split
    · exact congrArg some hstage
    · exact congrFun (congrArg Prod.snd h) handle

/-- The sample of a parent does not depend on results. -/
theorem first?_of_plan (h : r'.plan = r.plan) (input : StageInput) :
    input.first? r' = input.first? r := by
  cases input with
  | source primary companions columns => rfl
  | parent handle companions =>
    have hget : (r'.get? handle).map Stage.plan = (r.get? handle).map Stage.plan :=
      congrFun (congrArg Prod.snd h) handle
    simp only [StageInput.first?]
    cases hr' : r'.get? handle with
    | none =>
      rw [hr', Option.map_none, eq_comm, Option.map_eq_none_iff] at hget
      rw [hget]
    | some stage' =>
      rw [hr', Option.map_some, eq_comm] at hget
      obtain ⟨stage, hr, hplan⟩ := Option.map_eq_some_iff.1 hget
      have hsample : stage'.plan.sample = stage.plan.sample := congrArg Stage.sample hplan.symm
      rw [hr]
      exact congrArg Except.ok hsample

end StageRegistry

theorem Target.sample_congr {t t' : Target} (h : t.Same t') (task : StageTask)
    (companions : List DataVector) (first : Option Value) :
    t.sample task companions first = t'.sample task companions first := by
  cases first with
  | none => rfl
  | some v => simp only [sample, h.call]

/-- Two contexts have the same stages registered. In the first stages are computed when they are
registered, in the second when they are executed. -/
structure Context.Twins (p : Program) (scope : Bool) (targets : FunctionId → Target)
    (c d : Context) : Prop where
  eager : c.options.stages = .eager
  deferred : d.options.stages = .deferred
  interprets : d.Interprets p scope targets
  plan : d.stages.plan = c.stages.plan

namespace Context.Twins

open TieredVectors.Action Operator

variable {d : Context} {link : Link} {links rest : List Link} {handle : StageHandle}
  {input : StageInput}

/-- A stage that can be registered in the first context can be registered in the second, if its
function is called as before. -/
theorem register (h : c.Twins p scope targets d) (hlists : c.Lists p scope targets x links input)
    (hf : p.Knows link.function) (hcompanions : input.companions = link.companions)
    (hsame : (Link.resolveAll scope targets links link.function.id).Same
      (targets link.function.id)) :
    (register .map link.function input).Ensures c fun r c' _ => ∀ handle, r = .ok handle →
      (register .map link.function input).Ensures d fun r' d' _ =>
        r' = .ok handle ∧ c'.Twins p scope targets d' := by
  obtain ⟨elements, hinterprets, hready, -⟩ := hlists.of_eager h.eager
  refine (register_of_eager h.eager hinterprets hf hready hcompanions).mono ?_
  intro r c' es hr handle hhandle
  obtain ⟨v, y, hsample, -, rfl, hstages, -, hoptions⟩ := hr handle hhandle
  have hsample' : d.sampleFor p .map link.function.id input = .ok v := by
    rw [← hsample, sampleFor, sampleFor, StageRegistry.first?_of_plan h.plan,
      h.interprets.targets, hinterprets.targets]
    exact bind_congr fun first => Target.sample_congr hsame.symm .map _ first
  refine (register_of_deferred h.deferred hf .map input).mono ?_
  rintro r' d' es' ⟨hstanding, -, hok⟩
  obtain ⟨rfl, hstages'⟩ := hok v hsample'
  refine ⟨?_, ⟨by rw [hoptions, h.eager], ?_, h.interprets.of_standing hstanding, ?_⟩⟩
  · rw [show d.stages.last = c.stages.last from congrArg (·.1.1) h.plan]
  · rw [options_of_standing hstanding, h.deferred]
  · rw [hstages, hstages']
    exact StageRegistry.plan_add h.plan rfl

/-- Links that can be registered in the first context can be registered in the second. -/
theorem registerChain (h : c.Twins p scope targets d)
    (hlists : c.Lists p scope targets x links input) {first : Link}
    (hknown : ∀ link ∈ first :: rest, p.Knows link.function)
    (hcompanions : input.companions = first.companions)
    (hsteady : Link.Steady scope targets (links ++ first :: rest)) :
    (registerChain input first rest).Ensures c fun r c' _ => ∀ last, r = .ok (.pending last) →
      (Operator.registerChain input first rest).Ensures d fun r' d' _ =>
        r' = .ok (.pending last) ∧ c'.Twins p scope targets d' := by
  induction rest generalizing c d links input first with
  | nil =>
    rw [List.forall_mem_singleton] at hknown
    rw [Operator.registerChain, ensures_bind]
    refine (h.register hlists hknown hcompanions hsteady.same).mono ?_
    intro r c' es htwins
    cases r with
    | error e => exact nofun
    | ok handle =>
      rw [Post.after_ok]
      intro last hlast
      obtain rfl : handle = last := Operand.pending.inj (Except.ok.inj hlast)
      rw [ensures_bind]
      refine (htwins handle rfl).mono ?_
      rintro r' d' es' ⟨rfl, htwins'⟩
      exact ⟨rfl, htwins'⟩
  | cons second rest ih =>
    rw [List.forall_mem_cons] at hknown
    rw [Operator.registerChain, ensures_bind]
    refine ((hlists.register hknown.1 hcompanions).and
      (h.register hlists hknown.1 hcompanions hsteady.same)).mono ?_
    rintro r c' es ⟨hnext, htwins⟩
    cases r with
    | error e => exact nofun
    | ok handle =>
      rw [Post.after_ok]
      rcases mapChain_pending_cases handle second rest with ⟨e, he⟩ | ⟨-, hchain⟩
      · rw [he]
        exact nofun
      · rw [hchain]
        rw [← List.singleton_append, ← List.append_assoc] at hsteady
        -- the second context is only known once the first has come to the end of the chain
        have hrest : (Operator.registerChain (.parent handle second.companions) second
            rest).Ensures c' fun r c'' _ => ∀ d', c'.Twins p scope targets d' →
              ∀ last, r = .ok (.pending last) →
                (Operator.registerChain (.parent handle second.companions) second rest).Ensures d'
                  fun r' d'' _ => r' = .ok (.pending last) ∧ c''.Twins p scope targets d'' :=
          fun d' htwins' => ih htwins' (hnext handle _ rfl).1 hknown.2 rfl hsteady
        refine hrest.mono fun r c'' es' hr last hlast => ?_
        rw [ensures_bind]
        refine (htwins handle rfl).mono ?_
        rintro r' d' es'' ⟨rfl, htwins'⟩
        rw [Post.after_ok, hchain]
        exact hr d' htwins' last hlast

/-- A chain that can be registered in the first context can be registered in the second. -/
theorem pendingChain (h : c.Twins p scope targets d) (hinterprets : c.Interprets p scope targets)
    {first : Link} (hknown : ∀ link ∈ first :: rest, p.Knows link.function)
    (hsteady : Link.Steady scope targets (first :: rest)) :
    (pendingChain x first rest).Ensures c fun r c' _ => ∀ last, r = .ok (.pending last) →
      (Operator.pendingChain x first rest).Ensures d fun r' d' _ =>
        r' = .ok (.pending last) ∧ c'.Twins p scope targets d' := by
  rcases pendingChain_cases x first rest with ⟨e, he⟩ | ⟨-, columns, hchain⟩
  · rw [he]
    exact nofun
  · rw [hchain]
    exact h.registerChain (Lists.source hinterprets x first.companions columns) hknown rfl hsteady

end Context.Twins

/-- The context, with stages computed when the mode says. -/
def Context.inStageMode (c : Context) (mode : StageMode) : Context :=
  { c with options := { c.options with stages := mode } }

namespace Operator

open TieredVectors.Action

/-- A chain of maps may as well be registered and executed. Take a context that interprets its
functions, a vector and links.

* If the chain can be registered, executing its last stage gives the vector, or the error, that
  mapping link by link gives.
* If the chain can be registered with stages that are computed eagerly and with stages that are
  deferred, it has the same handles in both cases, and executing the last stage gives the same
  vector.
* If it can be registered with stages that are computed eagerly then it can be with stages that are
  deferred, and the same is registered, but for the results: samples and types as well as handles.
  If functions are specialized, this takes it that the specialization cannot be told of a function
  that comes more than once. -/
theorem pendingChain_eq_mapChain (hbare : c.Bare) {first : Link} {rest : List Link}
    (hknown : ∀ link ∈ first :: rest, p.Knows link.function) (x : DataVector) :
    (∀ last, ((pendingChain x first rest).run c).result = .ok (.pending last) →
      .vector <$> ((execute last).run ((pendingChain x first rest).run c).context).result =
        ((mapChain (first :: rest) (.vector x)).run c).result) ∧
    (∀ last last',
      ((pendingChain x first rest).run (c.inStageMode .eager)).result = .ok (.pending last) →
      ((pendingChain x first rest).run (c.inStageMode .deferred)).result = .ok (.pending last') →
      last' = last ∧ ∃ v,
        ((execute last).run
          ((pendingChain x first rest).run (c.inStageMode .eager)).context).result = .ok v ∧
        ((execute last).run
          ((pendingChain x first rest).run (c.inStageMode .deferred)).context).result = .ok v) ∧
    ((c.options.specializeScope = true → ∀ f,
        1 < ((first :: rest).map (·.function.id)).count f → (c.functions.target p f).Steady f) →
      ∀ last,
        ((pendingChain x first rest).run (c.inStageMode .eager)).result = .ok (.pending last) →
        ((pendingChain x first rest).run (c.inStageMode .deferred)).result = .ok (.pending last) ∧
        ((pendingChain x first rest).run (c.inStageMode .deferred)).context.stages.plan =
          ((pendingChain x first rest).run (c.inStageMode .eager)).context.stages.plan) := by
  have hinterprets (mode : StageMode) : (c.inStageMode mode).Interprets p c.options.specializeScope
      (c.functions.target p) :=
    (hbare.congr rfl rfl rfl : (c.inStageMode mode).Bare).interprets
  refine ⟨fun last hlast => ?_, fun last last' heager hdeferred => ?_,
    fun hsteady last heager => ?_⟩
  · obtain ⟨hlists, harity, -⟩ := Context.Lists.pendingChain hbare.interprets hknown last hlast
    rw [hlists.execute hknown]
    exact (mapChain_vector hbare.interprets hknown harity x).symm
  · obtain ⟨hlists, -, hlast, hoptions⟩ :=
      Context.Lists.pendingChain (hinterprets .eager) hknown last heager
    obtain ⟨hlists', -, hlast', -⟩ :=
      Context.Lists.pendingChain (hinterprets .deferred) hknown last' hdeferred
    obtain rfl : last' = last := by
      cases last
      cases last'
      exact congrArg StageHandle.mk (hlast'.trans hlast.symm)
    obtain ⟨v, -, -, hv⟩ := hlists.of_eager (by rw [hoptions]; rfl)
    exact ⟨rfl, v, (hlists.execute hknown).trans hv, (hlists'.execute hknown).trans hv⟩
  · have htwins : (c.inStageMode .eager).Twins p c.options.specializeScope (c.functions.target p)
        (c.inStageMode .deferred) := ⟨rfl, rfl, hinterprets .deferred, rfl⟩
    obtain ⟨hdeferred, htwins'⟩ :=
      htwins.pendingChain (hinterprets .eager) hknown hsteady last heager
    exact ⟨hdeferred, htwins'.plan⟩

/-- A function with a captured value, and a specialization into which the value is worked. -/
def offset : Function where
  id := ⟨0⟩
  body := (Expr.arith .add (.arg 0) (.scope 0)).toBody ["x"] [.int 10]
    (some ((Expr.arith .add (.arg 0) (.const (.int 10))).toBody ["x"] [] none))

/-- The program of `offset`. -/
def offsetProgram : Program where
  body _ := offset.body

/-- The function comes twice, and is specialized when it has been mapped with. -/
theorem pendingChain_eq_mapChain_offset :
    Context.specializing.Bare ∧ Context.specializing.options.specializeScope = true ∧
      (∀ link ∈ [(⟨offset, []⟩ : Link), ⟨offset, []⟩], offsetProgram.Knows link.function) ∧
      (Context.specializing.functions.target offsetProgram offset.id).Steady offset.id ∧
      ((pendingChain (.int [1, 2]) ⟨offset, []⟩ [⟨offset, []⟩]).run
        (Context.specializing.inStageMode .eager)).result = .ok (.pending ⟨2⟩) ∧
      ((pendingChain (.int [1, 2]) ⟨offset, []⟩ [⟨offset, []⟩]).run
        (Context.specializing.inStageMode .deferred)).result = .ok (.pending ⟨2⟩) ∧
      Operand.vector <$> ((execute ⟨2⟩).run
          ((pendingChain (.int [1, 2]) ⟨offset, []⟩ [⟨offset, []⟩]).run
            Context.specializing).context).result = .ok (.vector (.int [21, 22])) := by
  have hknown : ∀ link ∈ [(⟨offset, []⟩ : Link), ⟨offset, []⟩],
      offsetProgram.Knows link.function := by
    simp [Program.Knows, offsetProgram]
  have hsteady (f : FunctionId) :
      (Context.specializing.functions.target offsetProgram f).Steady f := ⟨rfl, rfl⟩
  have heager : ((pendingChain (.int [1, 2]) ⟨offset, []⟩ [⟨offset, []⟩]).run
      (Context.specializing.inStageMode .eager)).result = .ok (.pending ⟨2⟩) := by
    unfold pendingChain mapChain map register stageElements materialize
    rfl
  obtain ⟨hexecute, -, hmodes⟩ :=
    pendingChain_eq_mapChain Context.specializing_bare hknown (.int [1, 2])
  refine ⟨Context.specializing_bare, rfl, hknown, hsteady _, heager,
    (hmodes (fun _ f _ => hsteady f) ⟨2⟩ heager).1, ?_⟩
  rw [hexecute ⟨2⟩ rfl]
  rfl

/-- A function that adds one, but for a specialization that adds ten. -/
def driftingIncrement : Function where
  id := ⟨0⟩
  body := (Expr.arith .add (.arg 0) (.const (.int 1))).toBody ["x"] []
    (some ((Expr.arith .add (.arg 0) (.const (.int 10))).toBody ["x"] [] none))

/-- The same, but it fails at two unless it has been specialized. -/
def brittleIncrement : Function where
  id := ⟨0⟩
  body := (Expr.cond (.eq (.arg 0) (.const (.int 2))) (.fail "two")
      (.arith .add (.arg 0) (.const (.int 1)))).toBody ["x"] []
    (some ((Expr.arith .add (.arg 0) (.const (.int 10))).toBody ["x"] [] none))

/-- A specialization that does not compute what it replaces shows in a chain in which the function
comes twice. With stages that are computed eagerly the second sample is taken from the specialized
function. With stages that are deferred it is another, or there is none and the chain cannot be
registered. -/
theorem pendingChain_after_specializing :
    Context.specializing.Bare ∧ (∃ p : Program, p.Knows driftingIncrement) ∧
      (∃ p : Program, p.Knows brittleIncrement) ∧
      ((pendingChain (.int [1]) ⟨driftingIncrement, []⟩ [⟨driftingIncrement, []⟩]).run
        (Context.specializing.inStageMode .eager)).result = .ok (.pending ⟨2⟩) ∧
      ((pendingChain (.int [1]) ⟨driftingIncrement, []⟩ [⟨driftingIncrement, []⟩]).run
        (Context.specializing.inStageMode .deferred)).result = .ok (.pending ⟨2⟩) ∧
      (((pendingChain (.int [1]) ⟨driftingIncrement, []⟩ [⟨driftingIncrement, []⟩]).run
        (Context.specializing.inStageMode .eager)).context.stages.get? ⟨2⟩).bind (·.sample) =
          some (.int 12) ∧
      (((pendingChain (.int [1]) ⟨driftingIncrement, []⟩ [⟨driftingIncrement, []⟩]).run
        (Context.specializing.inStageMode .deferred)).context.stages.get? ⟨2⟩).bind (·.sample) =
          some (.int 3) ∧
      ((pendingChain (.int [1]) ⟨brittleIncrement, []⟩ [⟨brittleIncrement, []⟩]).run
        (Context.specializing.inStageMode .eager)).result = .ok (.pending ⟨2⟩) ∧
      ∃ e, ((pendingChain (.int [1]) ⟨brittleIncrement, []⟩ [⟨brittleIncrement, []⟩]).run
        (Context.specializing.inStageMode .deferred)).result = .error (.eval e) := by
  refine ⟨Context.specializing_bare, ⟨⟨fun _ => driftingIncrement.body⟩, rfl⟩,
    ⟨⟨fun _ => brittleIncrement.body⟩, rfl⟩, ?_, rfl, ?_, rfl, ?_, _, rfl⟩
  all_goals
    unfold pendingChain mapChain map register stageElements materialize
    rfl

end Operator

end TieredVectors
