import TieredVectors.Proofs.Operator.Courses
import TieredVectors.Proofs.Operator.Mapping

/-!
# The budget of abandoned runs

Along a history of requests that leaves the options alone, the passes are counted off against the
records of functions (`Reckoning`): the count in a record is the number of passes that abandoned an
attempt for its entry. One pass keeps this up (`Reckoning.pass`), and so does a history. As no
attempt is made once the count has reached the limit, no entry is abandoned more often than that,
and `Context.deopts_within_budget` says what becomes of the passes after it.
-/

namespace TieredVectors

variable {limit : Nat} {passes : List Pass} {c c' : Context} {es : List Event}

/-- How often running an entry on the device was abandoned in these passes. -/
def abandonments (passes : List Pass) (entry : EntryId) : Nat :=
  passes.countP fun a => a.entry.id = entry ∧ a.abandoned

theorem abandonments_concat (passes : List Pass) (a : Pass) (entry : EntryId) :
    abandonments (passes ++ [a]) entry =
      abandonments passes entry + if a.entry.id = entry ∧ a.abandoned then 1 else 0 := by
  simp [abandonments, List.countP_append, List.countP_singleton]

/-- An entry that was not called was not abandoned. -/
theorem abandonments_eq_zero {entry : EntryId} (h : ∀ a ∈ passes, a.entry.id ≠ entry) :
    abandonments passes entry = 0 :=
  List.countP_eq_zero.2 fun a ha => by simp [h a ha]

/-- After these passes the records count what was abandoned, within the limit, and a function has
been called with its present entry and with earlier ones only. -/
structure Reckoning (limit : Nat) (passes : List Pass) (c : Context) : Prop where
  limit_eq : c.options.deoptLimit = limit
  records : ∀ f record, c.functions.get? f = some record →
    record.entry.id.function = f ∧ record.deopts = abandonments passes record.entry.id
  called : ∀ a ∈ passes, ∃ record, c.functions.get? a.entry.id.function = some record ∧
    a.entry.id.revision ≤ record.entry.id.revision
  within : ∀ entry, abandonments passes entry ≤ limit

namespace Reckoning

/-- Only the limit and the records matter. -/
theorem congr (h : Reckoning limit passes c)
    (hoptions : c'.options.deoptLimit = c.options.deoptLimit)
    (hfunctions : c'.functions = c.functions) : Reckoning limit passes c' :=
  ⟨hoptions.trans h.limit_eq, hfunctions ▸ h.records, hfunctions ▸ h.called, h.within⟩

/-- A record that starts over counts from zero, as its entry has not been called. -/
theorem of_renews (h : Reckoning limit passes c) {functions : FunctionRegistry} {f : FunctionId}
    {record : FunctionRecord} (hothers : ∀ g, g ≠ f → functions.get? g = c.functions.get? g)
    (hrecord : functions.get? f = some record)
    (hrenews : Tiering.Renews f (c.functions.get? f) record) :
    Reckoning limit passes { c with functions } := by
  refine ⟨h.limit_eq, fun g record' hrecord' => ?_, fun a ha => ?_, h.within⟩
  · by_cases hg : g = f
    · subst hg
      obtain rfl : record = record' := Option.some.inj (hrecord.symm.trans hrecord')
      rcases hrenews with ⟨before, hbefore, hentry, hdeopts⟩ | ⟨hfunction, hdeopts, hlater⟩
      · rw [hentry, hdeopts]
        exact h.records g before hbefore
      · -- the passes so far called entries of earlier revisions
        refine ⟨hfunction, ?_⟩
        rw [hdeopts, abandonments_eq_zero]
        intro a ha heq
        obtain ⟨before, hbefore, hle⟩ := h.called a ha
        rw [heq, hfunction] at hbefore
        have hlt := hlater before hbefore
        rw [← heq] at hlt
        omega
    · exact h.records g record' ((hothers g hg).symm.trans hrecord')
  · obtain ⟨before, hbefore, hle⟩ := h.called a ha
    by_cases hg : a.entry.id.function = f
    · refine ⟨record, hg ▸ hrecord, Nat.le_trans hle ?_⟩
      rw [hg] at hbefore
      rcases hrenews with ⟨before', hbefore', hentry, -⟩ | ⟨-, -, hlater⟩
      · obtain rfl : before = before' := Option.some.inj (hbefore.symm.trans hbefore')
        exact Nat.le_of_eq (by rw [hentry])
      · exact Nat.le_of_lt (hlater before hbefore)
    · exact ⟨before, (hothers _ hg).trans hbefore, hle⟩

theorem lookup (h : Reckoning limit passes c) (f : Function) :
    Reckoning limit passes { c with functions := (c.functions.lookup f).2 } := by
  refine h.of_renews (fun g hg => by rw [FunctionRegistry.get?_lookup, if_neg hg])
    ((FunctionRegistry.get?_lookup ..).trans (if_pos rfl)) ?_
  cases c.functions.get? f.id with
  | some before => exact .inl ⟨before, rfl, rfl, rfl⟩
  | none => exact .inr ⟨rfl, rfl, fun _ hnone => by cases hnone⟩

theorem resolved {a : Pass} (h : Reckoning limit passes a.start) :
    Reckoning limit passes a.resolved.context := by
  obtain ⟨⟨functions, hresolved⟩, hothers, record, -, hrecord, hrenews⟩ :=
    Tiering.resolve_record a.function a.start
  have hcontext : a.resolved.context = { a.start with functions } := hresolved
  rw [hresolved] at hothers hrecord
  rw [hcontext]
  exact h.of_renews hothers hrecord hrenews

/-- When the entry is called, its count is what the passes before come to. -/
theorem deopts_resolved {a : Pass} (h : Reckoning limit passes a.start) :
    a.resolved.context.deopts a.function.id = abandonments passes a.entry.id := by
  obtain ⟨record, hentry, -, hrecord, -⟩ := a.resolved_record
  rw [Context.deopts_eq hrecord, (h.resolved.records _ record hrecord).2, hentry]

/-- A pass keeps the reckoning. -/
theorem pass {a : Pass} (h : Reckoning limit passes a.start) :
    Reckoning limit (passes ++ [a]) a.run.context := by
  obtain ⟨record, hentry, -, hrecord, -⟩ := a.resolved_record
  have haccount := a.account
  obtain ⟨hfunction, hdeopts⟩ := h.resolved.records _ record hrecord
  obtain ⟨record', hrecord', hentry', hdeopts'⟩ := haccount.functions.record record hrecord
  have hothers := haccount.functions.others
  rw [← hentry] at hfunction hdeopts hentry'
  refine ⟨?_, fun g kept hkept => ?_, fun b hb => ?_, fun entry => ?_⟩
  · rw [haccount.options, h.limit_eq]
  · rw [abandonments_concat]
    by_cases hg : g = a.function.id
    · -- the record of the entry that was called
      subst hg
      obtain rfl : record' = kept := Option.some.inj (hrecord'.symm.trans hkept)
      rw [hentry', hdeopts', hdeopts]
      exact ⟨hfunction, by simp⟩
    · obtain ⟨hkept', hcount⟩ := h.resolved.records g kept ((hothers g hg).symm.trans hkept)
      have hne : a.entry.id ≠ kept.entry.id := by
        intro heq
        rw [heq, hkept'] at hfunction
        exact hg hfunction
      exact ⟨hkept', by simp [hcount, hne]⟩
  · rcases List.mem_append.1 hb with hb | hb
    · obtain ⟨kept, hkept, hle⟩ := h.resolved.called b hb
      by_cases hg : b.entry.id.function = a.function.id
      · rw [hg] at hkept ⊢
        obtain rfl : record = kept := Option.some.inj (hrecord.symm.trans hkept)
        exact ⟨record', hrecord', by rw [hentry', hentry]; exact hle⟩
      · exact ⟨kept, (hothers _ hg).trans hkept, hle⟩
    · obtain rfl := List.mem_singleton.1 hb
      exact ⟨record', hfunction ▸ hrecord', Nat.le_of_eq (by rw [hentry'])⟩
  · rw [abandonments_concat]
    split
    next habandoned =>
      -- an attempt was made, so the budget was not spent
      have hattempt : a.attempt? ≠ none := by
        intro hnone
        simp [Pass.abandoned, hnone] at habandoned
      have hlt := (haccount.admitted hattempt).2
      rw [h.deopts_resolved, habandoned.1, h.resolved.limit_eq] at hlt
      exact hlt
    next => exact h.within entry

/-- An entry that has been abandoned up to the limit has spent its budget. -/
theorem spent {a : Pass} (h : Reckoning limit passes a.start)
    (hlimit : abandonments passes a.entry.id = limit) : a.Spent := by
  rintro ⟨-, hlt⟩
  rw [h.deopts_resolved, hlimit, h.resolved.limit_eq] at hlt
  exact absurd hlt (Nat.lt_irrefl _)

end Reckoning

/-! ## Histories -/

/-- The reckoning is right now, and was at the beginning of each pass. -/
structure Ledger (limit : Nat) (passes : List Pass) (c : Context) : Prop where
  now : Reckoning limit passes c
  before : ∀ earlier a later, passes = earlier ++ a :: later → Reckoning limit earlier a.start

namespace Ledger

theorem congr (h : Ledger limit passes c) (hoptions : c'.options.deoptLimit = c.options.deoptLimit)
    (hfunctions : c'.functions = c.functions) : Ledger limit passes c' :=
  ⟨h.now.congr hoptions hfunctions, h.before⟩

theorem pass {a : Pass} (h : Ledger limit passes a.start) :
    Ledger limit (passes ++ [a]) a.run.context := by
  refine ⟨h.now.pass, fun earlier b later heq => ?_⟩
  -- the pass is the last one, or comes before it
  rcases later.eq_nil_or_concat with rfl | ⟨later, last, rfl⟩
  · obtain ⟨rfl, hlast⟩ := List.append_inj' heq rfl
    obtain rfl := List.head_eq_of_cons_eq hlast
    exact h.now
  · rw [List.concat_eq_append, ← List.cons_append, ← List.append_assoc] at heq
    exact h.before earlier b later (List.append_inj' heq rfl).1

/-- What comes about on a course keeps the ledger. -/
theorem course (h : Ledger limit passes c) {passes' : List Pass}
    (hcourse : c.Course es passes' c') : Ledger limit (passes ++ passes') c' := by
  induction hcourse with
  | here => simpa using h
  | tell _ _ ih => exact ih
  | lookup _ f ih => exact ⟨ih.now.lookup f, ih.before⟩
  | stages _ stages ih => exact ih.congr rfl rfl
  | pools _ pools ih => exact ih.congr rfl rfl
  | pass a _ ih =>
    rw [← List.append_assoc]
    exact ih.pass

end Ledger

namespace Context

variable {requests : List Request}

/-- These are the passes that the operators of a history make. -/
inductive Passes (c : Context) : List Request → List Pass → Prop where
  | nil : Passes c [] []
  | operate {requests : List Request} {passes passes' : List Pass} {op : Operation}
      (h : Passes c requests passes)
      (hcourse : (c.after requests).Course (op.events (c.after requests)) passes'
        (op.perform (c.after requests))) :
      Passes c (requests ++ [.operate op]) (passes ++ passes')
  | other {requests : List Request} {passes : List Pass} {request : Request}
      (h : Passes c requests passes) (hrequest : ∀ op, request ≠ .operate op) :
      Passes c (requests ++ [request]) passes

/-- Every history makes passes. -/
theorem exists_passes (c : Context) (requests : List Request) :
    ∃ passes, c.Passes requests passes := by
  induction requests using List.reverseRecOn with
  | nil => exact ⟨[], .nil⟩
  | append_singleton requests request ih =>
    obtain ⟨passes, hpasses⟩ := ih
    cases request with
    | operate op =>
      obtain ⟨passes', hcourse⟩ := op.course (c.after requests)
      exact ⟨passes ++ passes', .operate hpasses hcourse⟩
    | _ => exact ⟨passes, .other hpasses fun _ h => by cases h⟩

/-- A history that leaves the limit alone keeps the ledger. -/
theorem Passes.ledger (h : c.Passes requests passes) (hnew : c.functions = {})
    (hlimit : ∀ options, .setOptions options ∈ requests →
      options.deoptLimit = c.options.deoptLimit) :
    Ledger c.options.deoptLimit passes (c.after requests) := by
  induction h with
  | nil =>
    have hnone (f : FunctionId) : c.functions.get? f = none := by
      rw [hnew, FunctionRegistry.get?, Table.get?_empty]
    refine ⟨⟨rfl, fun f record hrecord => ?_, fun a ha => ?_, fun _ => Nat.zero_le _⟩, ?_⟩
    · rw [after_nil, hnone] at hrecord
      cases hrecord
    · cases ha
    · intro earlier a later heq
      simp at heq
  | operate _ hcourse ih =>
    rw [after_concat]
    exact (ih fun options hmem => hlimit options (List.mem_append_left _ hmem)).course hcourse
  | @other requests passes request _ hrequest ih =>
    rw [after_concat]
    have hledger := ih fun options hmem => hlimit options (List.mem_append_left _ hmem)
    cases request with
    | operate op => exact absurd rfl (hrequest op)
    | setOptions options =>
      -- other options may change, but not the limit
      have hsame := hlimit options (List.mem_append_right _ (List.mem_singleton_self _))
      exact hledger.congr (hsame.trans hledger.now.limit_eq.symm) rfl
    | _ => exact hledger.congr rfl rfl

/-- After any history of requests in a context without records, in which the limit for abandoned
runs stays the same, whatever passes the history has made:

* the count in each record is the number of passes that abandoned an attempt for its entry, and is
  at most the limit;
* a pass enters execution on the device once for the one attempt that it makes, if it makes any, and
  what becomes of the device is what the attempt leaves;
* so it was at the beginning of each pass. If the entry that is called had been abandoned up to the
  limit by then, the pass makes no attempt and gives the interpreted results; it would go the same
  whatever the detector, the compiler, the cached units, the executors and the device were, and
  leaves them as they are. -/
theorem deopts_within_budget (hnew : c.functions = {}) {requests : List Request}
    (hlimit : ∀ options, .setOptions options ∈ requests →
      options.deoptLimit = c.options.deoptLimit) :
    (∃ passes, c.Passes requests passes) ∧
    ∀ passes, c.Passes requests passes →
      (∀ f record, (c.after requests).functions.get? f = some record →
        record.deopts = abandonments passes record.entry.id ∧
        record.deopts ≤ c.options.deoptLimit) ∧
      (∀ a ∈ passes, Event.launches a.run.events = a.attempt?.toList.length ∧
        Event.launches a.run.events ≤ 1 ∧
        a.run.context.device = (a.attempt?.map Attempt.device).getD a.start.device) ∧
      ∀ earlier a later, passes = earlier ++ a :: later →
        (∀ f record, a.start.functions.get? f = some record →
          record.deopts = abandonments earlier record.entry.id ∧
          record.deopts ≤ c.options.deoptLimit) ∧
        (abandonments earlier a.entry.id = c.options.deoptLimit → a.attempt? = none ∧
          a.run.result = (a.entry.body.outcome a.elements).mapError .eval ∧
          ∀ d, (Tiering.run a.function a.elements a.columns).run (a.start.equip d) =
            { a.run with context := a.run.context.equip d }) := by
  refine ⟨c.exists_passes requests, fun passes hpasses => ?_⟩
  have hledger := hpasses.ledger hnew hlimit
  -- what the reckoning says of a record at any time
  have hcounts {passes : List Pass} {c' : Context} (h : Reckoning c.options.deoptLimit passes c')
      (f : FunctionId) (record : FunctionRecord) (hrecord : c'.functions.get? f = some record) :
      record.deopts = abandonments passes record.entry.id ∧
        record.deopts ≤ c.options.deoptLimit := by
    have hdeopts := (h.records f record hrecord).2
    exact ⟨hdeopts, hdeopts ▸ h.within _⟩
  refine ⟨hcounts hledger.now, fun a _ => ?_, fun earlier a later heq => ?_⟩
  · have hone : a.attempt?.toList.length ≤ 1 := by cases a.attempt? <;> simp
    exact ⟨a.account.launches, a.account.launches ▸ hone, a.account.device⟩
  · have hbefore := hledger.before earlier a later heq
    refine ⟨hcounts hbefore, fun hspent => ?_⟩
    have hspent' := hbefore.spent hspent
    exact ⟨a.attempt?_of_spent hspent', a.result_of_spent hspent', Pass.idle_of_spent hspent'⟩

/-- A context in which one abandoned run is enough. -/
def strictContext : Context := { initial with options := { deoptLimit := 1 } }

/-- The device is told to give up, and `increment` is called again after it has done so. -/
def abandonedHistory : List Request :=
  [.setForceDeopt true, .registerGraph Operator.increment.ownEntry.id Operator.incrementGraph 1,
    .operate (.map (.vector (.int [1, 2, 3])) Operator.increment []),
    .operate (.map (.vector (.int [4, 5])) Operator.increment [])]

theorem deopts_within_budget_increment :
    strictContext.functions = {} ∧
      (∀ options, .setOptions options ∈ abandonedHistory →
        options.deoptLimit = strictContext.options.deoptLimit) ∧
      ∃ record, (strictContext.after abandonedHistory).functions.get? Operator.increment.id =
          some record ∧
        record.deopts = 1 ∧
        ∃ passes, strictContext.Passes abandonedHistory passes ∧
          abandonments passes record.entry.id = 1 := by
  have hlimit : ∀ options, .setOptions options ∈ abandonedHistory →
      options.deoptLimit = strictContext.options.deoptLimit := by
    simp [abandonedHistory]
  obtain ⟨⟨passes, hpasses⟩, hcounts⟩ := deopts_within_budget rfl hlimit
  obtain ⟨record, hrecord, hdeopts⟩ : ∃ record,
      (strictContext.after abandonedHistory).functions.get? Operator.increment.id = some record ∧
        record.deopts = 1 :=
    ⟨_, rfl, rfl⟩
  refine ⟨rfl, hlimit, record, hrecord, hdeopts, passes, hpasses, ?_⟩
  rw [← ((hcounts passes hpasses).1 _ record hrecord).1, hdeopts]

end Context

end TieredVectors
