import TieredVectors.Proofs.Executor.Alike
import TieredVectors.Proofs.Operator.Coupling

/-!
# Calls that go the same way

Two contexts are alike (`Context.Alike`) if they differ in nothing but the form in which stages and
buffers keep their words, and in the bytes written. Two actions are alike (`Action.Alike`) if they
are coupled by this relation. For each place in which a call looks at the context one lemma says
that it does not see the form of vectors; `Tiering.alike_run` is the whole call.
-/

namespace TieredVectors

variable {α β γ : Type}

/-! ## Contexts -/

/-- The contexts differ only in the form in which stages and buffers keep their words, and in the
bytes written. -/
structure Context.Alike (c c' : Context) : Prop where
  same : c' = { c with stages := c'.stages, device := c'.device }
  stages : c.stages.dense = c'.stages.dense
  fleet : Executor.FleetAlike c.executors c.device c'.device

/-! ## Actions -/

/-- From contexts that are alike the actions tell the same, their results match, and the contexts
after them are alike. -/
abbrev Action.Alike (R : α → β → Prop) (a : Action α) (a' : Action β) : Prop :=
  a.Coupled Context.Alike Context.Alike R a'

namespace Action

/-- After the context has been looked at. -/
theorem alike_get_bind {δ : Type} {S : γ → δ → Prop} {f : Context → Action γ}
    {f' : Context → Action δ}
    (h : ∀ c stages device, c.Alike { c with stages, device } →
      (f c).Alike S (f' { c with stages, device })) : (get >>= f).Alike S (get >>= f') := by
  refine coupled_get_bind fun c c' hc => ?_
  have hnext := h c c'.stages c'.device
  rw [← hc.same] at hnext
  exact hnext hc

/-- A change that has nothing to do with stages, executors or the device. -/
theorem alike_update {f : Context → α × Context}
    (hsame : ∀ c stages device,
      f { c with stages, device } = ((f c).1, { (f c).2 with stages, device }))
    (hkeeps : ∀ c, (f c).2.stages = c.stages ∧ (f c).2.executors = c.executors ∧
      (f c).2.device = c.device) : (update f).Alike Eq (update f) := by
  refine coupled_update fun c c' hc => ?_
  obtain ⟨hstages, hexecutors, hdevice⟩ := hkeeps c
  have hrun : f c' = ((f c).1, { (f c).2 with stages := c'.stages, device := c'.device }) := by
    rw [← hsame, ← hc.same]
  rw [hrun]
  refine ⟨rfl, rfl, hstages ▸ hc.stages, ?_⟩
  rw [hexecutors, hdevice]
  exact hc.fleet

theorem alike_modify {f : Context → Context}
    (hsame : ∀ c stages device, f { c with stages, device } = { f c with stages, device })
    (hkeeps : ∀ c, (f c).stages = c.stages ∧ (f c).executors = c.executors ∧
      (f c).device = c.device) : (modify f).Alike Eq (modify f) :=
  alike_update (f := fun c => ((), f c)) (fun c stages device => by rw [hsame]) hkeeps

theorem alike_lookup (f : Function) : (lookup f).Alike Eq (lookup f) :=
  alike_update (fun _ _ _ => rfl) fun _ => ⟨rfl, rfl, rfl⟩

theorem alike_pool (threads : Nat) : (pool threads).Alike Eq (pool threads) := by
  refine alike_get_bind fun c stages device _ => ?_
  dsimp only
  split
  · exact coupled_pure rfl
  · split
    · exact coupled_fail _
    · refine (coupled_tell _).next fun _ => .next ?_ fun _ => coupled_pure rfl
      exact alike_modify (fun _ _ _ => rfl) fun _ => ⟨rfl, rfl, rfl⟩

end Action

open TieredVectors.Action

namespace Pool

variable {z z' : Zipped} {task task' : Nat → Action α}

theorem alike_finish (htask : ∀ i, (task i).Alike Eq (task' i)) (order : List Nat) :
    (finish task order).Alike Eq (finish task' order) := by
  induction order with
  | nil => exact coupled_pure rfl
  | cons i order ih => exact (htask i).next fun x => ih.next fun xs => coupled_pure rfl

/-- Tasks that are alike finish in the order of one schedule. -/
theorem alike_compute (blank : α) (n : Nat) (htask : ∀ i, (task i).Alike Eq (task' i)) :
    (compute blank n task).Alike Eq (compute blank n task') :=
  alike_get_bind fun c _ _ _ =>
    (alike_finish htask (c.schedule.order n)).next fun _ => coupled_pure rfl

theorem alike_callAll (entry : Entry) (hz : z.Alike z') :
    (callAll entry z).Alike Eq (callAll entry z') := by
  rw [callAll, callAll, hz.length_eq]
  refine alike_compute _ _ fun i => ?_
  rw [hz.arguments_eq]
  exact entry.coupled_call _

theorem alike_fold (threads : Nat) (entry : Entry) (hz : z.Alike z') (neutral : Value) :
    (fold threads entry z neutral).Alike Eq (fold threads entry z' neutral) := by
  unfold fold
  rw [hz.isEmpty_eq, hz.length_eq]
  split
  · exact entry.coupled_fold hz neutral
  · refine (alike_compute _ _ fun i => ?_).next fun partials => ?_
    · exact entry.coupled_foldFrom hz neutral _ _
    · exact (coupled_tell _).next fun _ => entry.coupled_foldValues neutral partials

end Pool

/-! ## Through the tiers -/

namespace Tiering

variable {z z' : Zipped} {s s' : Site} {unit : CompiledUnit}

theorem alike_resolve (f : Function) : (resolve f).Alike Eq (resolve f) := by
  refine (alike_lookup f).next fun entry => alike_get_bind fun c _ _ _ => ?_
  dsimp only
  split
  · refine .next (alike_modify (fun _ _ _ => rfl) fun _ => ⟨rfl, rfl, rfl⟩) fun _ => ?_
    split
    · exact alike_update (fun _ _ _ => rfl) fun _ => ⟨rfl, rfl, rfl⟩
    · exact coupled_pure rfl
  · exact coupled_pure rfl

theorem alike_deviceEnabled (f : FunctionId) : (deviceEnabled f).Alike Eq (deviceEnabled f) := by
  refine alike_get_bind fun c _ _ _ => ?_
  dsimp only
  split
  · exact coupled_pure rfl
  · split
    · exact (coupled_tell _).next fun _ => coupled_pure rfl
    · exact coupled_pure rfl

theorem alike_propose (f : FunctionId) (entry : EntryId) :
    (propose f entry).Alike Eq (propose f entry) :=
  alike_update (fun _ _ _ => rfl) fun _ => ⟨rfl, rfl, rfl⟩

theorem alike_probe (trace : TraceId) : (probe trace).Alike Eq (probe trace) :=
  alike_update (fun _ _ _ => rfl) fun _ => ⟨rfl, rfl, rfl⟩

/-- The elements go to the device in their own form, and nobody can tell. -/
theorem alike_launch (hs : s.Alike ColumnArray.dense s') (unit : CompiledUnit) :
    (launch s unit).Alike Eq (launch s' unit) := by
  intro c c' hc
  obtain ⟨device, hattempt, hfleet⟩ := hc.fleet.attempt s.trace unit hs.input rfl
  have htrace : s'.trace = s.trace := by rw [hs.same]
  have hexecutors : c'.executors = c.executors := by rw [hc.same]
  rw [← htrace, ← hexecutors] at hattempt
  obtain ⟨hr, hcontext, hevents⟩ := launch_ensures_attempt s unit c rfl
  obtain ⟨hr', hcontext', hevents'⟩ := launch_ensures_attempt s' unit c' hattempt
  rw [hr, hcontext, hevents, hr', hcontext', hevents', htrace, hexecutors]
  refine ⟨matches_ok rfl, ⟨?_, hc.stages, hfleet⟩, rfl⟩
  dsimp only
  rw [hc.same]

theorem respects_alike (f : FunctionId) : Respects f ColumnArray.dense Context.Alike where
  type h := (ColumnArray.dense_eq_dense_iff.1 h).1.symm
  options hc := by rw [hc.same]
  compiler hc := by rw [hc.same]
  units hc := by rw [hc.same]
  deviceEnabled := alike_deviceEnabled f
  propose := alike_propose f
  probe := alike_probe
  install _ _ _ := alike_update (fun _ _ _ => rfl) fun _ => ⟨rfl, rfl, rfl⟩
  launch := alike_launch
  sample _ _ := alike_modify (fun _ _ _ => rfl) fun _ => ⟨rfl, rfl, rfl⟩
  deopt := alike_update (fun _ _ _ => rfl) fun _ => ⟨rfl, rfl, rfl⟩

theorem alike_run (f : Function) (hz : z.Alike z') {input input' : Option ColumnArray}
    (hinput : input.map ColumnArray.dense = input'.map ColumnArray.dense) :
    (run f z input).Alike Eq (run f z' input') :=
  coupled_run (fun _ _ hc => hc) (fun _ _ hc => hc) (alike_resolve f) (coupled_columns hz)
    (fun _ _ _ => (respects_alike f.id).coupled_callEntry hz) hinput

end Tiering

end TieredVectors
