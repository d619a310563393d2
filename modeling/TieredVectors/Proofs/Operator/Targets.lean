import TieredVectors.Proofs.Operator.Computing
import TieredVectors.Proofs.Operator.Provenance

/-!
# What is called for a function

Of all that the registry notes of a function, two things have a say in how the function is
interpreted: the entry that is called, and whether a specialization may still replace it. Together
they are its target; a function that has not been seen yet has one too.

* `FunctionRegistry.target_lookup` — looking a function up changes no target;
* `Tiering.resolve_targets` — a call through the tiers may specialize the function, and changes no
  target but that;
* `Target.Same`, `Target.Steady` — calls of two targets cannot be told apart, and no specialization
  can be told apart from what it replaces.
-/

namespace TieredVectors

/-- What is called for a function. -/
structure Target where
  entry : Entry
  /-- Whether a specialization has been tried. -/
  tried : Bool

namespace Target

variable {t t' t'' : Target} {f : FunctionId}

/-- What is called for the function once a specialization has been tried. -/
def specialize (t : Target) (f : FunctionId) : Target :=
  if t.tried then t
  else
    match t.entry.body.specialized with
    | some body => ⟨⟨{ function := f, revision := t.entry.id.revision + 1 }, body⟩, true⟩
    | none => ⟨t.entry, true⟩

/-- Calls of the two cannot be told apart. -/
structure Same (t t' : Target) : Prop where
  function : t.entry.id.function = t'.entry.id.function
  call : t.entry.body.call = t'.entry.body.call

theorem Same.refl (t : Target) : t.Same t := ⟨rfl, rfl⟩

theorem Same.symm (h : t.Same t') : t'.Same t := ⟨h.function.symm, h.call.symm⟩

theorem Same.trans (h : t.Same t') (h' : t'.Same t'') : t.Same t'' :=
  ⟨h.function.trans h'.function, h.call.trans h'.call⟩

/-- Specializing the function cannot be told from not specializing it. -/
def Steady (t : Target) (f : FunctionId) : Prop := (t.specialize f).Same t

/-- A specialization is tried once. -/
theorem specialize_specialize (t : Target) (f : FunctionId) :
    (t.specialize f).specialize f = t.specialize f := by
  have htried : (t.specialize f).tried = true := by
    unfold specialize
    split
    next h => exact h
    next => split <;> rfl
  rw [specialize, if_pos htried]

theorem steady_specialize : (t.specialize f).Steady f := by
  rw [Steady, specialize_specialize]
  exact .refl _

end Target

/-- What is called for the function of a record. -/
def FunctionRecord.target (record : FunctionRecord) : Target :=
  ⟨record.entry, record.specializationTried⟩

/-- What is called for a function of the program that has not been seen yet. -/
def Program.target (p : Program) (f : FunctionId) : Target := ⟨(p.function f).ownEntry, false⟩

namespace FunctionRegistry

variable {p : Program} {r : FunctionRegistry} {f : Function}

/-- What is called for a function of the program. -/
def target (p : Program) (r : FunctionRegistry) (f : FunctionId) : Target :=
  ((r.get? f).map FunctionRecord.target).getD (p.target f)

theorem get?_modify (r : FunctionRegistry) (f : FunctionId)
    (change : FunctionRecord → FunctionRecord) (g : FunctionId) :
    (r.modify f change).get? g = if g = f then (r.get? g).map change else r.get? g :=
  Table.get?_modify ..

theorem get?_update (r : FunctionRegistry) (f : Function) (body : Body) (g : FunctionId) :
    (r.update f body).2.get? g =
      if g = f.id then some { entry := (r.update f body).1, specializationTried := true }
      else r.get? g :=
  Table.get?_insert ..

/-- A function that is looked up has been seen, and the others have not been touched. -/
theorem get?_lookup (r : FunctionRegistry) (f : Function) (g : FunctionId) :
    (r.lookup f).2.get? g =
      if g = f.id then some ((r.get? g).getD { entry := f.ownEntry }) else r.get? g := by
  cases h : r.get? f.id with
  | some record =>
    have hlookup : (r.lookup f).2 = r := by simp [lookup, h]
    by_cases hg : g = f.id <;> simp [hlookup, hg, h]
  | none =>
    have hlookup : (r.lookup f).2 =
        { records := r.records.insert f.id { entry := f.ownEntry } } := by simp [lookup, h]
    by_cases hg : g = f.id
    · subst hg
      rw [hlookup, if_pos rfl, h]
      exact (Table.get?_insert ..).trans (if_pos rfl)
    · rw [hlookup, if_neg hg]
      exact (Table.get?_insert ..).trans (if_neg hg)

theorem target_own (hf : p.Knows f) : p.target f.id = ⟨f.ownEntry, false⟩ := by
  rw [Program.target, Function.ownEntry, Function.ownEntry, Program.function, hf]

/-- The target's entry is what is found when the function is looked up. -/
theorem lookup_fst (hf : p.Knows f) : (r.lookup f).1 = (r.target p f.id).entry := by
  cases h : r.get? f.id <;> simp [lookup, target, h, target_own hf, FunctionRecord.target]

/-- Looking a function up changes no target. -/
theorem target_lookup (hf : p.Knows f) : (r.lookup f).2.target p = r.target p := by
  funext g
  rw [target, target, get?_lookup]
  split
  next hg =>
    subst hg
    cases r.get? f.id <;> simp [target_own hf, FunctionRecord.target]
  next => rfl

/-- What else is noted of a function changes no target. -/
theorem target_modify {change : FunctionRecord → FunctionRecord} (f : FunctionId)
    (h : ∀ record, (change record).target = record.target) :
    (r.modify f change).target p = r.target p := by
  funext g
  rw [target, target, get?_modify]
  split
  · cases r.get? g <;> simp [h]
  · rfl

@[simp]
theorem target_recordSample (f : FunctionId) (v : Value) (type : Option RowType) :
    (r.recordSample f v type).target p = r.target p :=
  target_modify f fun record => by split <;> rfl

@[simp]
theorem target_markCandidate (f : FunctionId) : (r.markCandidate f).2.target p = r.target p := by
  unfold markCandidate
  split
  · split
    · rfl
    · exact target_modify f fun _ => rfl
  · rfl

/-- That a specialization has been tried is noted in the record. -/
theorem target_markSpecializationTried {f : FunctionId} {record : FunctionRecord}
    (h : r.get? f = some record) (g : FunctionId) :
    (r.markSpecializationTried f).target p g =
      if g = f then ⟨record.entry, true⟩ else r.target p g := by
  rw [target, markSpecializationTried, get?_modify]
  split
  next hg => simp [hg, h, FunctionRecord.target]
  next => rfl

theorem target_update (r : FunctionRegistry) (f : Function) (body : Body) (g : FunctionId) :
    (r.update f body).2.target p g =
      if g = f.id then ⟨(r.update f body).1, true⟩ else r.target p g := by
  rw [target, get?_update]
  split <;> rfl

end FunctionRegistry

/-- What is called for each function once the given one has been called through the tiers. -/
def Context.resolved (p : Program) (c : Context) (f : FunctionId) (g : FunctionId) : Target :=
  if c.options.specializeScope ∧ g = f then (c.functions.target p f).specialize f
  else c.functions.target p g

/-- What is found for a function that is called through the tiers, and what that changes. -/
theorem Tiering.resolve_targets {p : Program} {f : Function} (hf : p.Knows f) (c : Context) :
    (resolve f).Ensures c fun r c' es => r = .ok (c.resolved p f.id f.id).entry ∧
      c'.functions.target p = c.resolved p f.id ∧ c'.detector = c.detector ∧ c'.units = c.units ∧
      es = [] := by
  -- once the function has been looked up, its record tells the target
  obtain ⟨record, hrecord⟩ : ∃ record, (c.functions.lookup f).2.get? f.id = some record :=
    ⟨_, (FunctionRegistry.get?_lookup ..).trans (if_pos rfl)⟩
  have htarget : c.functions.target p f.id = record.target := by
    rw [← FunctionRegistry.target_lookup hf, FunctionRegistry.target, hrecord]
    rfl
  have hentry : (c.functions.lookup f).1 = record.entry := by
    rw [FunctionRegistry.lookup_fst hf, htarget]
    rfl
  have hothers : (c.functions.lookup f).2.target p = c.functions.target p :=
    FunctionRegistry.target_lookup hf
  unfold resolve Action.lookup
  simp only [Action.ensures_bind, Action.ensures_update, Action.Post.after_ok, Action.ensures_get,
    FunctionRegistry.awaitsSpecialization, hrecord, Option.any_some, Bool.and_eq_true,
    Bool.not_eq_true']
  split
  next hawaits =>
    -- the one try is made now, and noted whether or not there is a specialization
    obtain ⟨hscope, htried⟩ := hawaits
    simp only [Action.ensures_bind, Action.ensures_modify, Action.Post.after_ok, hentry]
    have hspecialize : (c.functions.target p f.id).specialize f.id =
        (⟨record.entry, false⟩ : Target).specialize f.id := by
      rw [htarget, FunctionRecord.target, htried]
    have hresolved (g : FunctionId) : c.resolved p f.id g =
        if g = f.id then (⟨record.entry, false⟩ : Target).specialize f.id
        else c.functions.target p g := by
      simp only [Context.resolved, hscope, true_and, hspecialize]
    have htried' (g : FunctionId) := FunctionRegistry.target_markSpecializationTried (p := p)
      hrecord g
    rw [hothers] at htried'
    have hfind : ((c.functions.lookup f).2.markSpecializationTried f.id).find? f.id =
        some record.entry := by
      rw [FunctionRegistry.find?_markSpecializationTried, FunctionRegistry.find?, hrecord]
      rfl
    split
    next body hbody =>
      have hbody' : (⟨record.entry, false⟩ : Target).specialize f.id =
          ⟨(((c.functions.lookup f).2.markSpecializationTried f.id).update f body).1, true⟩ := by
        rw [FunctionRegistry.update_fst hfind]
        simp [Target.specialize, hbody]
      rw [Action.ensures_update]
      refine ⟨by rw [hresolved, if_pos rfl, hbody'], funext fun g => ?_, rfl, rfl, rfl⟩
      rw [hresolved, FunctionRegistry.target_update, htried', hbody']
      split <;> rfl
    next hbody =>
      have hbody' : (⟨record.entry, false⟩ : Target).specialize f.id = ⟨record.entry, true⟩ := by
        simp [Target.specialize, hbody]
      rw [Action.ensures_pure]
      refine ⟨by rw [hresolved, if_pos rfl, hbody'], funext fun g => ?_, rfl, rfl, rfl⟩
      rw [hresolved, htried', hbody']
  next hnot =>
    rw [Action.ensures_pure]
    have hresolved (g : FunctionId) : c.resolved p f.id g = c.functions.target p g := by
      rw [Context.resolved]
      split
      next h =>
        -- the option is on, so a specialization has been tried before
        obtain ⟨hscope, rfl⟩ := h
        have htried : record.specializationTried = true := by simpa [hscope] using hnot
        rw [Target.specialize, htarget, FunctionRecord.target, if_pos htried]
      next => rfl
    exact ⟨by rw [hresolved, htarget, hentry]; rfl, by rw [hothers, funext hresolved], rfl, rfl, rfl⟩

end TieredVectors
