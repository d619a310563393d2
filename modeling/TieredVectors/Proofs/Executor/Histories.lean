import Mathlib.Data.List.Induction
import TieredVectors.Proofs.Executor.Fleet
import TieredVectors.Proofs.Kernel.Units

/-!
# Executors and their histories

A bench is a device with the executors that use it. Executors are made, copy rows in, launch, copy
rows out and are dropped, in any order and with any success, and the device may be told to give up
every launch. Whatever has happened on a bench, what an executor then computes for an input depends
on the input alone:

* `Executor.of_copyIn_run` — what can be read after rows have been copied in and launched;
* `Bench.fleet_after` — the executors on a bench form a fleet after any history;
* `Bench.undisturbed_after` — what the others do changes nothing about an executor and its buffers;
* `Bench.results_fresh` — the flag and the rows that an executor answers with are the kernel's for
  the rows copied in last.
-/

namespace TieredVectors

/-- The unit's kernel was typed for the unit's row types. -/
def CompiledUnit.Runs (u : CompiledUnit) (k : Kernel) : Prop :=
  u.kernel.kernel? = some k ∧ ∃ graph scope, Kernel.check graph u.input u.output scope = .ok k

namespace Executor

variable {e e₁ : Executor} {d d₁ d₂ d₃ : Device} {kernel : Kernel} {input : ColumnArray}
  {flag : Int32}

/-- What can be read after rows have been copied in and launched. In between nothing has happened to
the executor's buffers. -/
theorem of_copyIn_run (h : e.Ready d) (hkernel : e.unit.Runs kernel) (hinput : input.WellFormed)
    (hcopied : e.copyIn d input = (.ok (), e₁, d₁)) (hquiet : e₁.Undisturbed d₁ d₂)
    (hrun : e₁.run d₂ = (.ok flag, d₃)) :
    ∃ raised, e₁.flagRaised d₃ = .ok raised ∧
      (raised = true ↔ d₂.forceDeopt = true ∨ ∃ i row reason, i < input.length ∧
        input.row? i = some row ∧ kernel.run row e.scope = .error reason) ∧
      (raised = false → ∃ a, e₁.copyOut d₃ = .ok a ∧ a.type = e.unit.output ∧
        a.length = input.length ∧ ∀ i < input.length, ∃ row out, input.row? i = some row ∧
          kernel.run row e.scope = .ok out ∧ a.row? i = some out) := by
  obtain ⟨hcode, graph, scope, hcheck⟩ := hkernel
  obtain ⟨hevolves, hready₁, -, hok⟩ := copyIn_eq h hcopied
  obtain ⟨hflag, halloc, hlength, hinputs⟩ := hok rfl
  obtain ⟨b, hb⟩ := Option.isSome_iff_exists.1 hflag
  have hready₂ := hquiet.ready hready₁
  have hcolumns : input.columns.length = e₁.inputs.length := by
    rw [(hready₁.inputs hflag).length_eq, hevolves.unit, input_type_of_copyIn hcopied, ← hinput.kinds,
      List.length_map]
  have hread := hquiet.readInputs_eq_ok (hinputs hcolumns)
  have hcode₁ : e₁.unit.kernel.kernel? = some kernel := hevolves.unit ▸ hcode
  obtain ⟨rows, stop, hcompute, hflagEq, hraised, -⟩ := run_eq_ok hready₂ hb hcode₁ hread hrun
  rw [hlength, hevolves.scope] at hcompute
  refine ⟨flag != 0, hraised, ?_, fun hlow => ?_⟩
  · rw [bne_iff_ne, Ne, hflagEq, Launch.flag_eq_zero_iff, not_and_or, Bool.not_eq_false]
    exact or_congr_right (Launch.exists_giveUp_iff hcompute).symm
  · rw [hlow] at hraised
    obtain ⟨touched, -, htouch⟩ := e₁.run_touches d₂
    rw [hrun] at htouch
    obtain ⟨a, ha, hwf, htype, hlen, -⟩ :=
      copyOut_eq_ok (hready₂.touches htouch) hflag (halloc.trans hlength.symm)
    obtain ⟨-, -, hrows⟩ :=
      copyOut_of_run hready₂ hb (halloc.trans hlength.symm) hcode₁ hread hrun hraised ha
    rw [hlength, hevolves.scope] at hrows
    rw [hevolves.unit] at htype
    refine ⟨a, ha, htype, hlen.trans hlength, fun i hi => ?_⟩
    obtain ⟨row, out, hrow, hout, hcells⟩ := hrows i hi
    refine ⟨row, out, hrow, hout, ColumnArray.row?_eq_some_of_cells ?_ hcells⟩
    rw [Kernel.length_of_run hcheck hout, ← htype, RowType.width, ← hwf.kinds, List.length_map]

end Executor

/-- A device and the executors that use it, by number. -/
structure Bench where
  device : Device
  executors : Table Nat Executor := ∅

namespace Bench

/-- What may be asked for on a bench. -/
inductive Request where
  /-- Make an executor for a unit, if the number is not in use. -/
  | make (executor : Nat) (unit : CompiledUnit)
  | copyIn (executor : Nat) (input : ColumnArray)
  | run (executor : Nat)
  | copyOut (executor : Nat)
  | readFlag (executor : Nat)
  /-- Drop an executor, which gives its buffers back. -/
  | drop (executor : Nat)
  /-- Have the device give up every launch, or no longer. -/
  | setForceDeopt (force : Bool)

/-- What an executor answers. -/
inductive Answer where
  | done (result : Except TierError Unit)
  | rows (result : Except TierError ColumnArray)
  | flag (result : Except TierError Bool)

namespace Request

/-- The executor that a request is for. -/
def executor? : Request → Option Nat
  | make n _ | copyIn n _ | run n | copyOut n | readFlag n | drop n => some n
  | setForceDeopt _ => none

/-- The answer to a request, from an executor that is there. -/
def answer (b : Bench) : Request → Option Answer
  | copyIn n input => (b.executors.get? n).map fun e => .done (e.copyIn b.device input).1
  | run n => (b.executors.get? n).map fun e => .done ((fun _ => ()) <$> (e.run b.device).1)
  | copyOut n => (b.executors.get? n).map fun e => .rows (e.copyOut b.device)
  | readFlag n => (b.executors.get? n).map fun e => .flag (e.flagRaised b.device)
  | make _ _ | drop _ | setForceDeopt _ => none

/-- The bench after a request. What is asked of an executor that is not there changes nothing, nor
does reading. -/
def perform (b : Bench) : Request → Bench
  | make n unit =>
    if b.executors.contains n then b
    else { b with executors := b.executors.insert n (Executor.ofUnit unit) }
  | copyIn n input =>
    match b.executors.get? n with
    | none => b
    | some e =>
      let (_, e, device) := e.copyIn b.device input
      { device, executors := b.executors.insert n e }
  | run n =>
    match b.executors.get? n with
    | none => b
    | some e => { b with device := (e.run b.device).2 }
  | copyOut _ | readFlag _ => b
  | drop n =>
    match b.executors.get? n with
    | none => b
    | some e => { device := (e.release b.device).2, executors := b.executors.erase n }
  | setForceDeopt force => { b with device := { b.device with forceDeopt := force } }

end Request

/-- The executors on the bench form a fleet. -/
abbrev Fleet (b : Bench) : Prop := Executor.Fleet b.executors b.device

/-- The executor of the given number is the same on both benches and finds its buffers as they
were. -/
def Undisturbed (n : Nat) (b b' : Bench) : Prop :=
  ∀ e, b.executors.get? n = some e →
    b'.executors.get? n = some e ∧ e.Undisturbed b.device b'.device

theorem Undisturbed.refl (n : Nat) (b : Bench) : Undisturbed n b b :=
  fun e he => ⟨he, .refl e b.device⟩

theorem Undisturbed.trans {n : Nat} {b b' b'' : Bench} (h : Undisturbed n b b')
    (h' : Undisturbed n b' b'') : Undisturbed n b b'' := by
  intro e he
  obtain ⟨he', hquiet⟩ := h e he
  obtain ⟨he'', hquiet'⟩ := h' e he'
  exact ⟨he'', hquiet.trans hquiet'⟩

/-- All that a request can do, with the executor that it is for: nothing that an executor would
notice; or one executor evolves, or leaves. -/
inductive Change (b b' : Bench) : Option Nat → Prop where
  | keep (executor? : Option Nat) (hexecutors : b'.executors = b.executors)
      (hbuffers : b'.device.buffers = b.device.buffers)
      (hlast : b'.device.lastId = b.device.lastId) : Change b b' executor?
  | evolve {n : Nat} {e e' : Executor} (hothers : Executor.OthersApart b.executors n e)
      (hscope : e.scope = e.unit.boundScope) (hevolves : e.Evolves b.device e' b'.device)
      (hready : e'.Ready b'.device)
      (hexecutors : ∀ k, b'.executors.get? k = (b.executors.insert n e').get? k) :
      Change b b' (some n)
  | leave {n : Nat} {e e' : Executor} (hothers : Executor.OthersApart b.executors n e)
      (hevolves : e.Evolves b.device e' b'.device)
      (hexecutors : b'.executors = b.executors.erase n) : Change b b' (some n)

theorem Request.change {b : Bench} (h : b.Fleet) (request : Request) :
    Change b (request.perform b) request.executor? := by
  cases request with
  | make n unit =>
    rw [perform]
    split
    · exact .keep _ rfl rfl rfl
    · exact .evolve (Executor.othersApart_ofUnit _ n unit) rfl (.refl _ _)
        (Executor.ready_ofUnit unit b.device) fun _ => rfl
  | copyIn n input =>
    rw [perform]
    split
    next => exact .keep _ rfl rfl rfl
    next e he =>
      rcases hc : e.copyIn b.device input with ⟨r, e', d'⟩
      obtain ⟨hevolves, hready, -⟩ := Executor.copyIn_eq (h.ready n e he) hc
      exact .evolve (h.othersApart he) (h.scope n e he) hevolves hready fun _ => rfl
  | run n =>
    rw [perform]
    split
    next => exact .keep _ rfl rfl rfl
    next e he =>
      obtain ⟨touched, hown, htouch⟩ := e.run_touches b.device
      refine .evolve (h.othersApart he) (h.scope n e he)
        (Executor.evolves_of_touches htouch hown) ((h.ready n e he).touches htouch) fun k => ?_
      -- the executor itself stays as it is
      rw [Table.get?_insert]
      split
      next hk => rw [hk, he]
      next => rfl
  | copyOut n => exact .keep _ rfl rfl rfl
  | readFlag n => exact .keep _ rfl rfl rfl
  | drop n =>
    rw [perform]
    split
    next => exact .keep _ rfl rfl rfl
    next e he => exact .leave (h.othersApart he) (e.release_evolves b.device) rfl
  | setForceDeopt force => exact .keep _ rfl rfl rfl

/-- A request keeps the executors a fleet. -/
theorem Change.fleet {b b' : Bench} {executor? : Option Nat} (hchange : Change b b' executor?)
    (h : b.Fleet) : b'.Fleet := by
  cases hchange with
  | keep _ hexecutors hbuffers hlast =>
    rw [Fleet, hexecutors]
    exact h.of_buffers_eq hbuffers hlast
  | evolve hothers hscope hevolves hready hexecutors =>
    exact (h.evolve hothers hscope hevolves hready).congr hexecutors
  | leave hothers hevolves hexecutors =>
    rw [Fleet, hexecutors]
    exact h.erase hothers hevolves

/-- A request disturbs no executor but the one that it is for. -/
theorem Change.undisturbed {b b' : Bench} {executor? : Option Nat}
    (hchange : Change b b' executor?) (h : b.Fleet) {n : Nat} (hother : executor? ≠ some n) :
    Undisturbed n b b' := by
  intro f hf
  cases hchange with
  | keep _ hexecutors hbuffers hlast =>
    exact ⟨hexecutors ▸ hf, Nat.le_of_eq hlast.symm, fun _ _ => by rw [hbuffers]⟩
  | @evolve m e e' hothers _ hevolves _ hexecutors =>
    have hne : n ≠ m := fun heq => hother (congrArg some heq.symm)
    refine ⟨?_, h.undisturbed hothers hevolves hne hf⟩
    rw [hexecutors, Table.get?_insert, if_neg hne, hf]
  | @leave m e e' hothers hevolves hexecutors =>
    have hne : n ≠ m := fun heq => hother (congrArg some heq.symm)
    refine ⟨?_, h.undisturbed hothers hevolves hne hf⟩
    rw [hexecutors, Table.get?_erase, if_neg hne, hf]

/-- The bench after a history of requests, oldest first. -/
def after (b : Bench) (requests : List Request) : Bench := requests.foldl Request.perform b

theorem after_cons (b : Bench) (request : Request) (later : List Request) :
    b.after (request :: later) = (request.perform b).after later :=
  rfl

theorem after_append (b : Bench) (requests later : List Request) :
    b.after (requests ++ later) = (b.after requests).after later :=
  List.foldl_append

/-- The executors form a fleet after any history. -/
theorem Fleet.after {b : Bench} (h : b.Fleet) (requests : List Request) :
    (b.after requests).Fleet := by
  induction requests generalizing b with
  | nil => exact h
  | cons request requests ih => exact ih ((request.change h).fleet h)

/-- A history of requests for others does not disturb an executor. -/
theorem Fleet.undisturbed_after {b : Bench} (h : b.Fleet) {n : Nat} {requests : List Request}
    (hothers : ∀ request ∈ requests, request.executor? ≠ some n) :
    Undisturbed n b (b.after requests) := by
  induction requests generalizing b with
  | nil => exact .refl n b
  | cons request requests ih =>
    rw [List.forall_mem_cons] at hothers
    have hchange := request.change h
    exact (hchange.undisturbed h hothers.1).trans (ih (hchange.fleet h) hothers.2)

/-- A device that no executor uses yet. -/
theorem fleet_of_device (device : Device) : Fleet { device } := by
  have hnone (n : Nat) (e : Executor) : (∅ : Table Nat Executor).get? n ≠ some e := by simp
  exact ⟨fun n e he => absurd he (hnone n e), fun n e he => absurd he (hnone n e),
    fun n _ e _ _ he => absurd he (hnone n e)⟩

/-- What an executor computes does not depend on its history. On any bench, if rows are copied in
and a launch then succeeds, the flag is raised just if the device gave up the launch or the kernel
gives up one of these rows; and if it is not raised, the rows copied out are the kernel's results
for them. Requests for other executors may come in between at any point. -/
theorem results_fresh (device : Device) (earlier meanwhile later : List Request) {n : Nat}
    {e : Executor} (he : (after { device } earlier).executors.get? n = some e) {kernel : Kernel}
    (hkernel : e.unit.Runs kernel) {input : ColumnArray} (hinput : input.WellFormed)
    (hcopied : (Request.copyIn n input).answer (after { device } earlier) = some (.done (.ok ())))
    (hmeanwhile : ∀ request ∈ meanwhile, request.executor? ≠ some n)
    (hrun : (Request.run n).answer
      (after { device } (earlier ++ .copyIn n input :: meanwhile)) = some (.done (.ok ())))
    (hlater : ∀ request ∈ later, request.executor? ≠ some n) :
    ∃ raised, (Request.readFlag n).answer
        (after { device } (earlier ++ .copyIn n input :: meanwhile ++ .run n :: later)) =
          some (.flag (.ok raised)) ∧
      (raised = true ↔
        (after { device } (earlier ++ .copyIn n input :: meanwhile)).device.forceDeopt = true ∨
        ∃ i row reason, i < input.length ∧ input.row? i = some row ∧
          kernel.run row e.unit.boundScope = .error reason) ∧
      (raised = false → ∃ a, (Request.copyOut n).answer
          (after { device } (earlier ++ .copyIn n input :: meanwhile ++ .run n :: later)) =
            some (.rows (.ok a)) ∧
        a.type = e.unit.output ∧ a.length = input.length ∧
        ∀ i < input.length, ∃ row out, input.row? i = some row ∧
          kernel.run row e.unit.boundScope = .ok out ∧ a.row? i = some out) := by
  simp only [after_append, after_cons] at hrun ⊢
  generalize hb : after { device } earlier = b at he hcopied hrun ⊢
  have hfleet : b.Fleet := hb ▸ (fleet_of_device device).after earlier
  rcases hc : e.copyIn b.device input with ⟨r, e₁, d₁⟩
  obtain rfl : r = .ok () := by simpa [Request.answer, he, hc] using hcopied
  have hcopy : (Request.copyIn n input).perform b =
      { device := d₁, executors := b.executors.insert n e₁ } := by simp [Request.perform, he, hc]
  have hfleet₁ := ((Request.copyIn n input).change hfleet).fleet hfleet
  rw [hcopy] at hfleet₁ hrun ⊢
  -- until the launch the others do not disturb the executor that rows have been copied in by
  obtain ⟨he₁, hquiet⟩ := hfleet₁.undisturbed_after hmeanwhile e₁ (by simp)
  have hfleet₂ := hfleet₁.after meanwhile
  generalize after { device := d₁, executors := b.executors.insert n e₁ } meanwhile = b₂
    at he₁ hquiet hrun hfleet₂ ⊢
  rcases hl : e₁.run b₂.device with ⟨r, d₃⟩
  obtain ⟨flag, rfl⟩ : ∃ flag, r = .ok flag := by
    cases r with
    | error err => simp [Request.answer, he₁, hl, Functor.map, Except.map] at hrun
    | ok flag => exact ⟨flag, rfl⟩
  have hlaunch : (Request.run n).perform b₂ = { b₂ with device := d₃ } := by
    simp [Request.perform, he₁, hl]
  have hfleet₃ := ((Request.run n).change hfleet₂).fleet hfleet₂
  rw [hlaunch] at hfleet₃ ⊢
  -- and so after the launch, until the results are read
  obtain ⟨he₃, hquiet₃⟩ := hfleet₃.undisturbed_after hlater e₁ he₁
  obtain ⟨raised, hraised, hiff, hrows⟩ :=
    Executor.of_copyIn_run (hfleet.ready n e he) hkernel hinput hc hquiet hl
  rw [hfleet.scope n e he] at hiff hrows
  refine ⟨raised, ?_, hiff, fun hlow => ?_⟩
  · simp only [Request.answer, he₃, Option.map_some, hquiet₃.flagRaised_eq, hraised]
  · obtain ⟨a, ha, hresults⟩ := hrows hlow
    refine ⟨a, ?_, hresults⟩
    simp only [Request.answer, he₃, Option.map_some, hquiet₃.copyOut_eq, ha]

/-- The unit of `Kernel.doublingWords`. -/
def doubling : CompiledUnit where
  kernel := { id := ⟨1⟩, code := .host Kernel.doublingWords }
  input := .scalar .int
  output := .scalar .int
  scope := []
  bindings := []

/-- Rows of one word each. -/
def words (ws : List Int32) : ColumnArray :=
  { type := .scalar .int, columns := [.int ws], length := ws.length }

/-- A launch that is given up, rows that do not fit, and a launch of another executor. -/
def troubledHistory : List Request :=
  [.make 0 doubling, .make 1 doubling, .copyIn 0 (words [7, 2147483647, 1]), .run 0,
    .copyIn 0 (words (List.replicate 20 1)), .setForceDeopt true, .copyIn 1 (words [5, 6]), .run 1,
    .setForceDeopt false]

theorem results_fresh_doubling :
    (Request.copyIn 0 (words [1, 2, 3])).answer
        (after { device := { capacity := some 64 } } troubledHistory) = some (.done (.ok ())) ∧
      (Request.run 0).answer (after { device := { capacity := some 64 } }
        (troubledHistory ++ .copyIn 0 (words [1, 2, 3]) :: [.run 1])) = some (.done (.ok ())) ∧
      ∃ a, (Request.copyOut 0).answer (after { device := { capacity := some 64 } }
          (troubledHistory ++ .copyIn 0 (words [1, 2, 3]) :: [.run 1] ++ .run 0 :: [.drop 1])) =
            some (.rows (.ok a)) ∧
        a.type = .scalar .int ∧ a.length = 3 ∧ ∀ i < 3, ∃ row out,
          (words [1, 2, 3]).row? i = some row ∧ Kernel.doublingWords.run row [] = .ok out ∧
          a.row? i = some out := by
  have hcopied : (Request.copyIn 0 (words [1, 2, 3])).answer
      (after { device := { capacity := some 64 } } troubledHistory) = some (.done (.ok ())) := rfl
  have hrun : (Request.run 0).answer (after { device := { capacity := some 64 } }
      (troubledHistory ++ .copyIn 0 (words [1, 2, 3]) :: [.run 1])) = some (.done (.ok ())) := rfl
  have hlow : (Request.readFlag 0).answer (after { device := { capacity := some 64 } }
      (troubledHistory ++ .copyIn 0 (words [1, 2, 3]) :: [.run 1] ++ .run 0 :: [.drop 1])) =
        some (.flag (.ok false)) := rfl
  obtain ⟨e, he, hunit⟩ : ∃ e, (after { device := { capacity := some 64 } }
      troubledHistory).executors.get? 0 = some e ∧ e.unit = doubling := ⟨_, rfl, rfl⟩
  have hkernel : e.unit.Runs Kernel.doublingWords :=
    hunit ▸ ⟨rfl, Kernel.doublingWords.graph, [], rfl⟩
  have hinput : (words [1, 2, 3]).WellFormed := ⟨rfl, by simp [words, Column.length]⟩
  obtain ⟨raised, hraised, -, hrows⟩ := results_fresh { capacity := some 64 } troubledHistory
    [.run 1] [.drop 1] he hkernel hinput hcopied (by simp [Request.executor?]) hrun
    (by simp [Request.executor?])
  obtain rfl : false = raised := by simpa using hlow.symm.trans hraised
  rw [hunit] at hrows
  exact ⟨hcopied, hrun, hrows rfl⟩

end Bench

end TieredVectors
