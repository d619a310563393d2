import Mathlib.Data.List.Induction
import TieredVectors.Proofs.Operator.Moves

/-!
# Reachable contexts

What may happen to a context between two calls: operators are called, options change, the device is
told to give up or not to, graphs are registered, or another detector takes over. A context is
reachable if a sequence of such requests leads to it from a fresh one.

* `Operation.steps` — an operator call takes steps only;
* `Context.Reachable.sound` — reachable contexts are sound.
-/

namespace TieredVectors

open Context (Steps)

variable {known : Function → Prop} {c : Context}

/-- An operator with its arguments. -/
inductive Operation where
  | map (x : Operand) (f : Function) (companions : List DataVector)
  | apply (x : DataVector) (f : Function) (workers : Nat) (companions : List DataVector)
  | terminalReduce (x : Operand) (f : Function) (neutral : Value) (companions : List DataVector)
  | pendingMap (x : DataVector) (f : Function) (companions : List DataVector)
  | reduce (x : Operand) (f : Function) (neutral : Value) (companions : List DataVector)
  | execute (handle : StageHandle)

namespace Operation

/-- The function that the operator is called with. -/
def function? : Operation → Option Function
  | map _ f _ | apply _ f _ _ | terminalReduce _ f _ _ | pendingMap _ f _ | reduce _ f _ _ => some f
  | execute _ => none

/-- The context after the operator has been called. -/
def perform : Operation → Context → Context
  | map x f companions, c => ((Operator.map x f companions).run c).context
  | apply x f workers companions, c => ((Operator.apply x f workers companions).run c).context
  | terminalReduce x f neutral companions, c =>
    ((Operator.terminalReduce x f neutral companions).run c).context
  | pendingMap x f companions, c => ((Operator.pendingMap x f companions).run c).context
  | reduce x f neutral companions, c => ((Operator.reduce x f neutral companions).run c).context
  | execute handle, c => ((Operator.execute handle).run c).context

/-- What happens while the operator runs. -/
def events : Operation → Context → List Event
  | map x f companions, c => ((Operator.map x f companions).run c).events
  | apply x f workers companions, c => ((Operator.apply x f workers companions).run c).events
  | terminalReduce x f neutral companions, c =>
    ((Operator.terminalReduce x f neutral companions).run c).events
  | pendingMap x f companions, c => ((Operator.pendingMap x f companions).run c).events
  | reduce x f neutral companions, c => ((Operator.reduce x f neutral companions).run c).events
  | execute handle, c => ((Operator.execute handle).run c).events

/-- Calling an operator takes steps only. -/
theorem steps {op : Operation} (hknown : ∀ f, op.function? = some f → known f)
    (hc : c.Sound known) : Steps known c (op.perform c) := by
  cases op with
  | map x f companions => exact Operator.map_moves (hknown f rfl) x companions c hc
  | apply x f workers companions =>
    exact Operator.apply_moves (hknown f rfl) x workers companions c hc
  | terminalReduce x f neutral companions =>
    exact Operator.terminalReduce_moves (hknown f rfl) x neutral companions c hc
  | pendingMap x f companions => exact Operator.pendingMap_moves (hknown f rfl) x companions c hc
  | reduce x f neutral companions =>
    exact Operator.reduce_moves (hknown f rfl) x neutral companions c hc
  | execute handle => exact Operator.execute_moves handle c hc

end Operation

/-- What may happen to a context. -/
inductive Request where
  | operate (op : Operation)
  | setOptions (options : Options)
  /-- Have the device give up every launch, or no longer. -/
  | setForceDeopt (force : Bool)
  /-- Hold a graph in readiness for an entry, if the detector is a scripted one. -/
  | registerGraph (entry : EntryId) (graph : Graph) (hotAfter : Nat)
  /-- Another detector takes over, which may hand out any graphs. -/
  | setDetector (detector : Detector)
  /-- Whether workers start, and the order in which their tasks finish, is up to them. -/
  | reschedule (schedule : Schedule)

/-- Hold a graph in readiness for an entry, if the detector is a scripted one. -/
def Detector.register (d : Detector) (entry : EntryId) (graph : Graph) (hotAfter : Nat) :
    Detector :=
  match d with
  | .never => .never
  | .scripted s => .scripted (s.register entry graph hotAfter).2

/-- An entry keeps its trace when a graph is registered. -/
theorem Detector.Names.register {d : Detector} {e : EntryId} {t : TraceId} (h : d.Names e t)
    (entry : EntryId) (graph : Graph) (hotAfter : Nat) :
    (d.register entry graph hotAfter).Names e t := by
  cases d with
  | never => exact h
  | scripted s => exact h.traceOf entry

namespace Request

/-- The context after a request. -/
def perform : Request → Context → Context
  | operate op, c => op.perform c
  | setOptions options, c => { c with options }
  | setForceDeopt force, c => { c with device := { c.device with forceDeopt := force } }
  | registerGraph entry graph hotAfter, c =>
    { c with detector := c.detector.register entry graph hotAfter }
  | setDetector detector, c => { c with detector }
  | reschedule schedule, c => { c with schedule }

/-- Operators are called with known functions only. -/
def Uses (known : Function → Prop) : Request → Prop
  | operate op => ∀ f, op.function? = some f → known f
  | _ => True

/-- Requests keep a context sound. -/
theorem sound {request : Request} (huses : request.Uses known) (hc : c.Sound known) :
    (request.perform c).Sound known := by
  cases request with
  | operate op => exact hc.steps (Operation.steps huses hc)
  | setForceDeopt force =>
    -- no buffer is touched
    have hfleet : Executor.Fleet c.executors { c.device with forceDeopt := force } :=
      hc.consistent.fleet.of_buffers_eq rfl rfl
    obtain ⟨hscope, hready, hapart⟩ := hfleet
    exact ⟨⟨hc.consistent.units, hc.consistent.owner, hscope, hready, hapart⟩, hc.stages⟩
  | _ =>
    obtain ⟨⟨hunits, howner, hscope, hready, hapart⟩, hstages⟩ := hc
    exact ⟨⟨hunits, howner, hscope, hready, hapart⟩, hstages⟩

end Request

namespace Context

/-- Nothing has been called yet. Options, compiler, device, pools and schedule may be any. -/
structure Fresh (c : Context) : Prop where
  functions : c.functions = {}
  units : c.units = ∅
  executors : c.executors = ∅
  stages : c.stages = {}
  detector : c.detector = .scripted {}

/-- A fresh context with the usual options. -/
def initial : Context := { detector := .scripted {} }

theorem initial_fresh : initial.Fresh := ⟨rfl, rfl, rfl, rfl, rfl⟩

/-- The contexts that allowed requests lead to. -/
inductive Reachable (allowed : Request → Prop) : Context → Prop where
  | fresh {c : Context} (h : c.Fresh) : Reachable allowed c
  | after {c : Context} {request : Request} (hc : Reachable allowed c) (h : allowed request) :
      Reachable allowed (request.perform c)

/-- The context after a history of requests, oldest first. -/
def after (c : Context) (requests : List Request) : Context :=
  requests.foldl (fun c request => request.perform c) c

@[simp]
theorem after_nil (c : Context) : c.after [] = c := rfl

@[simp]
theorem after_concat (c : Context) (requests : List Request) (request : Request) :
    c.after (requests ++ [request]) = request.perform (c.after requests) := by
  simp [after]

/-- What a history of allowed requests leads to is reachable. -/
theorem Fresh.reachable_after {allowed : Request → Prop} (h : c.Fresh) {requests : List Request}
    (hallowed : ∀ request ∈ requests, allowed request) : (c.after requests).Reachable allowed := by
  induction requests using List.reverseRecOn with
  | nil => exact .fresh h
  | append_singleton requests request ih =>
    rw [List.forall_mem_append] at hallowed
    rw [after_concat]
    exact .after (ih hallowed.1) (hallowed.2 request (List.mem_singleton_self request))

theorem Fresh.sound (h : c.Fresh) : c.Sound known := by
  have hexecutor (t : TraceId) : c.executors.get? t = none := by simp [h.executors]
  refine ⟨⟨?_, ?_, ?_, ?_, ?_⟩, ?_⟩
  · intro t u hu
    simp [h.units] at hu
  · exact fun t e he => by simp [hexecutor] at he
  · exact fun t e he => by simp [hexecutor] at he
  · exact fun t e he => by simp [hexecutor] at he
  · exact fun t t' e e' _ he => by simp [hexecutor] at he
  · intro handle stage hstage
    simp [h.stages, StageRegistry.get?] at hstage

/-- What is kept between calls fits together in every reachable context. -/
theorem Reachable.sound {allowed : Request → Prop} (h : Reachable allowed c)
    (huses : ∀ request, allowed request → request.Uses known) : c.Sound known := by
  induction h with
  | fresh h => exact h.sound
  | after _ hallowed ih => exact Request.sound (huses _ hallowed) ih

/-- In particular so where operators may be called with any function. -/
theorem Reachable.sound_all {allowed : Request → Prop} (h : Reachable allowed c) :
    c.Sound fun _ => True :=
  h.sound fun request _ => by cases request <;> simp [Request.Uses]

end Context

end TieredVectors
