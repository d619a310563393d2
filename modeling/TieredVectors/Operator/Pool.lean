import TieredVectors.Operator.Interpreter

/-!
# Worker pools

A pool computes tasks in whatever order they finish, and puts every result in the place of its task.
A fold is cut into at most as many chunks as there are workers: each chunk is folded on its own, and
the partial results are folded in turn.
-/

namespace TieredVectors

/-- Consecutive elements. -/
structure Chunk where
  first : Nat
  length : Nat
deriving DecidableEq, Repr, Inhabited

namespace Pool

variable {α : Type}

/-- Compute tasks in the given order; every result comes with the number of its task. -/
def finish (task : Nat → Action α) : List Nat → Action (List (Nat × α))
  | [] => return []
  | i :: rest => do
    let x ← task i
    let xs ← finish task rest
    return (i, x) :: xs

/-- The results of `n` tasks in the order of the tasks, with `blank` for a task that has none. -/
def assemble (blank : α) (n : Nat) (finished : List (Nat × α)) : List α :=
  (List.range n).map fun i => (finished.lookup i).getD blank

/-- Compute `n` tasks in the order of the context's schedule. -/
def compute (blank : α) (n : Nat) (task : Nat → Action α) : Action (List α) := do
  let c ← Action.get
  let finished ← finish task (c.schedule.order n)
  return assemble blank n finished

/-- Call a function for each element. -/
def callAll (entry : Entry) (z : Zipped) : Action (List Value) :=
  compute .null z.length fun i => entry.call (z.arguments i)

/-- Cut `count` elements from index `first` on into chunks of `size + 1` elements; the last one may
be shorter. -/
def cut (size first count : Nat) : List Chunk :=
  if _h : count = 0 then []
  else
    let length := min (size + 1) count
    ⟨first, length⟩ :: cut size (first + length) (count - length)
termination_by count
decreasing_by omega

/-- At most `threads` chunks, of which all but the last have one length. -/
def chunks (threads length : Nat) : List Chunk :=
  let workers := max threads 1
  cut ((length + workers - 1) / workers - 1) 0 length

/-- Fold the elements of a vector. With companions, or with fewer than two elements, there is
nothing to be combined. -/
def fold (threads : Nat) (entry : Entry) (z : Zipped) (neutral : Value) : Action Value := do
  if !z.companions.isEmpty || z.length < 2 then
    entry.fold z neutral
  else
    let chunks := chunks threads z.length
    let partials ← compute .null chunks.length fun i =>
      let chunk := chunks.getD i default
      entry.foldFrom z neutral chunk.first chunk.length
    Action.tell [.partialsCombined partials.length]
    entry.foldValues neutral partials

end Pool

end TieredVectors
