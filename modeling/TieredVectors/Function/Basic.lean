import TieredVectors.Kernel.Typing
import TieredVectors.Report

/-!
# Functions

The operators apply functions of the interpreted language. A function is known by its number; what
runs when it is called is its entry. At first that is the function's own body, and a specialization
gives the function a new entry, which is told apart from the earlier ones by its revision.
-/

namespace TieredVectors

/-- An error raised by a function of the interpreted language. -/
structure EvalError where
  message : String
deriving DecidableEq, Repr

/-- What is told about an evaluation error: what the function said. -/
def EvalError.report (e : EvalError) : Report where
  message := e.message
  code := "E6001"

/-- The number of a function. -/
structure FunctionId where
  index : Nat
deriving DecidableEq, Repr, Inhabited

def FunctionId.text (id : FunctionId) : String := "fn#" ++ toString id.index

/-- The identity of an entry: a function and how often its body has been replaced. -/
structure EntryId where
  function : FunctionId
  revision : Nat := 0
deriving DecidableEq, Repr, Inhabited

/-- The body of a function. -/
structure Body where
  /-- The names of the arguments. -/
  parameters : List String
  /-- The values captured from around the function. -/
  scope : Scope
  /-- The result for given arguments. It depends on nothing else. -/
  call : List Value → Except EvalError Value
  /-- The same function with its captured values worked in, if there is such a body. -/
  specialized : Option Body

namespace Body

/-- The number of arguments. -/
def arity (b : Body) : Nat := b.parameters.length

/-- The description of a body. -/
def text (b : Body) : String :=
  "NativeFunction \x7b arg_names: [" ++ ", ".intercalate (b.parameters.map Text.quoted) ++
    "], scope: [" ++ ", ".intercalate (b.scope.map Value.text) ++ "] \x7d"

end Body

/-- A function and its own body. -/
structure Function where
  id : FunctionId
  body : Body

/-- What runs when a function is called. -/
structure Entry where
  id : EntryId
  body : Body

/-- Whether the entry is the function's own. -/
def Entry.isOwn (e : Entry) : Bool := e.id.revision == 0

namespace Function

/-- The number of arguments. -/
def arity (f : Function) : Nat := f.body.arity

/-- The function's own entry. -/
def ownEntry (f : Function) : Entry := { id := { function := f.id }, body := f.body }

end Function

end TieredVectors
