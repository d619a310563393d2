import TieredVectors.Executor.Basic
import TieredVectors.Executor.Detector
import TieredVectors.Function.Registry
import TieredVectors.Operator.Error
import TieredVectors.Operator.Event

/-!
# Contexts and actions

A `Context` is all that operators remember from one call to the next. An `Action` is a step of an
operator: it reads and changes the context, tells what happens as events, and succeeds or fails. A
failure keeps the changes made and the events told before it.
-/

namespace TieredVectors

/-- What is up to the workers of a pool. Tasks may finish in any order, and a pool may not start. -/
structure Schedule where
  /-- For every number of tasks, an order in which they finish. -/
  order : Nat → List Nat
  /-- Every task finishes exactly once. -/
  complete : ∀ n : Nat, (order n).Perm (List.range n)
  /-- Why a pool of a given size does not start, if it does not. -/
  failure? : Nat → Option String := fun _ => none

namespace Schedule

/-- Tasks finish in the order in which they are numbered, and every pool starts. -/
def inOrder : Schedule where
  order := List.range
  complete := fun n => List.Perm.refl (List.range n)

instance : Inhabited Schedule := ⟨inOrder⟩

end Schedule

/-- What operators remember between calls. -/
structure Context where
  options : Options := {}
  functions : FunctionRegistry := {}
  units : UnitCache := ∅
  executors : ExecutorCache := ∅
  stages : StageRegistry := {}
  detector : Detector := .never
  compiler : Compiler := {}
  device : Device := {}
  /-- The sizes of the worker pools that have been started. -/
  pools : List Nat := []
  /-- What the workers will do. -/
  schedule : Schedule := .inOrder

/-- The description of a context. -/
def Context.text (c : Context) : String :=
  "RuntimeContext \x7b options: " ++ c.options.text ++ ", functions: " ++
    toString c.functions.size ++ ", units: " ++ toString c.units.size ++ ", executors: " ++
    toString c.executors.size ++ ", pools: " ++ toString c.pools.length ++ " \x7d"

/-- How an action went: its result, the context after it, and what happened. -/
structure Run (α : Type) where
  result : Except OperatorError α
  context : Context
  events : List Event

/-- A step of an operator. -/
def Action (α : Type) : Type := Context → Run α

namespace Action

variable {α β : Type}

/-- Run an action in a context. -/
def run (a : Action α) (c : Context) : Run α := a c

/-- Succeed at once. -/
def succeed (x : α) : Action α := fun c => { result := .ok x, context := c, events := [] }

/-- Fail at once. -/
def fail (e : OperatorError) : Action α := fun c =>
  { result := .error e, context := c, events := [] }

/-- Events and later ones. -/
def append (events : List Event) : List Event → List Event
  | [] => events
  | later => events ++ later

theorem append_eq (events later : List Event) : append events later = events ++ later := by
  cases later <;> simp [append]

/-- Run an action and then, if it succeeds, another one. -/
def andThen (a : Action α) (f : α → Action β) : Action β := fun c =>
  let first := a c
  match first.result with
  | .error e => { result := .error e, context := first.context, events := first.events }
  | .ok x =>
    let second := f x first.context
    { second with events := append first.events second.events }

instance : Monad Action where
  pure := succeed
  bind := andThen

theorem succeed_bind (x : α) (f : α → Action β) : (succeed x).andThen f = f x := by
  funext c
  simp [andThen, succeed, append_eq]

theorem bind_succeed (a : Action α) : a.andThen succeed = a := by
  funext c
  unfold andThen succeed
  rcases h : a c with ⟨_ | _, _, _⟩ <;> simp [append_eq]

theorem bind_assoc {γ : Type} (a : Action α) (f : α → Action β) (g : β → Action γ) :
    (a.andThen f).andThen g = a.andThen fun x => (f x).andThen g := by
  funext c
  unfold andThen
  rcases h : a c with ⟨_ | x, d, es⟩
  · simp
  · rcases h' : f x d with ⟨_ | _, _, _⟩ <;> simp [h', append_eq, List.append_assoc]

/-- Actions in a row may be grouped in any way: results, contexts and events are the same. -/
instance : LawfulMonad Action :=
  LawfulMonad.mk' Action bind_succeed succeed_bind bind_assoc

/-- The context. -/
def get : Action Context := fun c => { result := .ok c, context := c, events := [] }

/-- Change the context. -/
def modify (f : Context → Context) : Action Unit := fun c =>
  { result := .ok (), context := f c, events := [] }

/-- Change the context and give a result. -/
def update (f : Context → α × Context) : Action α := fun c =>
  { result := .ok (f c).1, context := (f c).2, events := [] }

/-- Tell what happens. -/
def tell (events : List Event) : Action Unit := fun c => { result := .ok (), context := c, events }

/-- Do what may fail. -/
def ofExcept {ε : Type} (wrap : ε → OperatorError) : Except ε α → Action α
  | .ok x => succeed x
  | .error e => fail (wrap e)

/-- Run an action and then, whether it succeeds or fails, another one; the result is that of the
first. -/
def thenAlways (a : Action α) (last : Action Unit) : Action α := fun c =>
  let first := a c
  let second := last first.context
  { result := first.result, context := second.context, events := append first.events second.events }

/-- The entry of a function. -/
def lookup (f : Function) : Action Entry :=
  update fun c =>
    let (entry, functions) := c.functions.lookup f
    (entry, { c with functions })

/-- Have a worker pool of the given size, but of one worker at least; the result is the size. A pool
is started when it is first asked for, which may fail. -/
def pool (threads : Nat) : Action Nat := do
  let size := max threads 1
  let c ← get
  if size ∈ c.pools then
    return size
  else
    match c.schedule.failure? size with
    | some reason => fail (.workerPool size reason)
    | none =>
      tell [.poolStarted size]
      modify fun c => { c with pools := size :: c.pools }
      return size

end Action

end TieredVectors
