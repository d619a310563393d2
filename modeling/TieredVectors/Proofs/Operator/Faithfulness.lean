import TieredVectors.Proofs.Columns.Results
import TieredVectors.Proofs.Operator.Provenance

/-!
# Faithful graphs

A graph is faithful to a body if its kernel, wherever it has a result, has the result of the body.
If only faithful graphs are registered, every cached unit holds the kernel of a faithful graph of
the one entry that owns its trace (`Context.Faithful`), in every reachable context
(`Context.Reachable.faithful`).
-/

namespace TieredVectors

/-- Whenever the kernel of the shaped graph has a result for a row of `arity` fields, the body has a
result for the boxed row, which as a row of the output type is that of the kernel. This is so for
all types that the graph can be compiled with. -/
def Graph.FaithfulTo (graph : Graph) (body : Body) (arity : Nat) : Prop :=
  ∀ input output kernel, input.width = arity →
    Kernel.check graph.shape input output body.scope = .ok kernel →
    ∀ row out, row.map Scalar.kind = input.kinds → kernel.run row body.scope = .ok out →
      ∃ v, body.call (row.map Value.ofScalar) = .ok v ∧
        ColumnArray.ofValues output [v] = .ok (ColumnArray.ofRow output out)

namespace Program

variable {p : Program}

/-- The graph is faithful to the entry, if there is such an entry. -/
def Faithful (p : Program) (id : EntryId) (graph : Graph) : Prop :=
  ∀ body, p.entryBody? id.function id.revision = some body →
    graph.FaithfulTo body (p.body id.function).arity

/-- Operators are called with the program's functions, and graphs are registered for entries that
they are faithful to. The detector stays the scripted one. -/
def Allows (p : Program) : Request → Prop
  | .operate op => ∀ f, op.function? = some f → p.Knows f
  | .registerGraph entry graph _ => p.Faithful entry graph
  | .setDetector _ => False
  | .setOptions _ | .setForceDeopt _ | .reschedule _ => True

theorem asks_of_allows {request : Request} (h : p.Allows request) : p.Asks request := by
  cases request <;> simp_all [Allows, Asks]

theorem uses_of_allows {request : Request} (h : p.Allows request) : request.Uses p.Knows :=
  uses_of_asks (asks_of_allows h)

end Program

namespace Context

variable {p : Program} {c c' : Context}

/-- Entries are the program's, and every cached unit was made for the one entry that owns its trace,
from a graph that is faithful to it. -/
abbrev Faithful (p : Program) (c : Context) : Prop := c.Traced p p.Faithful

theorem Faithful.step (h : c.Faithful p) (hs : Step p.Knows c c') : c'.Faithful p := Traced.step h hs

/-- Where only faithful graphs are registered, every cached unit is faithful. -/
theorem Reachable.faithful (h : c.Reachable p.Allows) : c.Faithful p := by
  induction h with
  | fresh h => exact h.traced
  | after hc hallowed ih =>
    refine ih.request (hc.sound fun _ => Program.uses_of_allows) (Program.asks_of_allows hallowed) ?_
    rintro e g hotAfter rfl
    exact hallowed

end Context

end TieredVectors
