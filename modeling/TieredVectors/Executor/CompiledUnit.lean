import TieredVectors.Kernel.Basic
import TieredVectors.Table

/-!
# Compiled units

A kernel together with the types and the captured scope that it was compiled for. At most one unit
is kept per trace, the first one, and it is never replaced.
-/

namespace TieredVectors

/-- The identity of a traced computation. -/
structure TraceId where
  index : Nat
deriving DecidableEq, Repr, Inhabited

def TraceId.text (id : TraceId) : String := "trace#" ++ toString id.index

/-- A kernel and all that is needed to launch it. -/
structure CompiledUnit where
  kernel : KernelHandle
  input : RowType
  output : RowType
  /-- The captured values at the time of compilation. -/
  scope : Scope
  /-- The reads of the captured scope. -/
  bindings : List ScopeBinding

namespace CompiledUnit

/-- The captured scope with everything that the kernel does not read made null. -/
def boundScope (u : CompiledUnit) : Scope :=
  u.scope.mapIdx fun slot v => if u.bindings.any (·.slot == slot) then v else .null

end CompiledUnit

/-- The compiled units by trace. -/
abbrev UnitCache := Table TraceId CompiledUnit

/-- Keep a unit for a trace unless there is one already; the result is the one that is kept. -/
def UnitCache.install (cache : UnitCache) (trace : TraceId) (unit : CompiledUnit) :
    CompiledUnit × UnitCache :=
  match cache.get? trace with
  | some kept => (kept, cache)
  | none => (unit, cache.insert trace unit)

end TieredVectors
