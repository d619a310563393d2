import TieredVectors.Report

/-!
# Options

How the operators run. `Options.ofLookup` reads them from named settings, in a fixed order, and
reports the first setting that it does not understand. Blanks at the ends of a setting do not count.
-/

namespace TieredVectors

namespace Text

/-- Whether `c` has the Unicode property `White_Space`. -/
def isBlank (c : Char) : Bool :=
  let n := c.toNat
  (9 ≤ n && n ≤ 13) || n == 0x20 || n == 0x85 || n == 0xa0 || n == 0x1680 ||
    (0x2000 ≤ n && n ≤ 0x200a) || n == 0x2028 || n == 0x2029 || n == 0x202f || n == 0x205f ||
    n == 0x3000

/-- A text without the blanks at its ends. -/
def trim (s : List Char) : List Char :=
  ((s.dropWhile isBlank).reverse.dropWhile isBlank).reverse

/-- A text with its ASCII capitals in lower case. -/
def foldCase (s : List Char) : List Char := s.map Char.toLower

end Text

/-- A setting that is not understood. -/
structure ConfigError where
  setting : String
  value : String
  expected : String
deriving DecidableEq, Repr

/-- What is told about a setting that is not understood. -/
def ConfigError.report (e : ConfigError) : Report where
  message := "invalid value '" ++ e.value ++ "' for " ++ e.setting ++ ": expected " ++ e.expected
  code := "E6101"

/-- Where the work on elements is done. -/
inductive ExecutionMode where
  /-- By the interpreter at first, and on the device once a function is hot. -/
  | offload
  /-- By a pool of workers; nothing is compiled. -/
  | pool (threads : Nat)
deriving DecidableEq, Repr, Inhabited

/-- When stages are computed. -/
inductive StageMode where
  /-- When their chain is executed. -/
  | deferred
  /-- When they are registered. -/
  | eager
deriving DecidableEq, Repr, Inhabited

/-- Whether a result brought back from the device gets storage of its own. The elements are the same
either way. -/
inductive Materialization where
  | copy
  | view
deriving DecidableEq, Repr, Inhabited

/-- How the operators run. -/
structure Options where
  execution : ExecutionMode := .offload
  stages : StageMode := .deferred
  materialization : Materialization := .copy
  /-- After how many abandoned runs a function stays with the interpreter. -/
  deoptLimit : Nat := 3
  /-- Whether a function's captured values are worked into its body before it is traced. -/
  specializeScope : Bool := false
  /-- Whether graphs and compile errors are reported in full. -/
  dumpKernels : Bool := false
deriving DecidableEq, Repr, Inhabited

namespace Options

/-- Work with a pool of `threads` workers, or without a pool if there are none. -/
def withWorkers (o : Options) (threads : Nat) : Options :=
  { o with execution := if threads = 0 then .offload else .pool threads }

/-- The number written in decimal, below `bound`; a plus sign may come first. -/
def parseNat? (bound : Nat) (s : List Char) : Option Nat :=
  let digits :=
    match s with
    | '+' :: rest => rest
    | s => s
  if !digits.isEmpty && digits.all Char.isDigit then
    let n := digits.foldl (fun n c => 10 * n + (c.toNat - '0'.toNat)) 0
    if n < bound then some n else none
  else none

/-- The truth value of a word for one. -/
def parseBool? (s : List Char) : Option Bool :=
  let word := String.ofList (Text.foldCase s)
  if word ∈ ["1", "true", "yes", "on"] then some true
  else if word ∈ ["0", "false", "no", "off"] then some false
  else none

/-- How results are materialized. -/
def parseMaterialization? (s : List Char) : Option Materialization :=
  let word := String.ofList (Text.foldCase s)
  if word = "copy" then some .copy else if word = "view" then some .view else none

/-- Read one setting, if it is there, from its text without the blanks around it. -/
def readSetting {α : Type} (lookup : String → Option String) (setting expected : String)
    (parse : List Char → Option α) (o : Options) (apply : Options → α → Options) :
    Except ConfigError Options :=
  match lookup setting with
  | none => .ok o
  | some value =>
    match parse (Text.trim value.toList) with
    | some a => .ok (apply o a)
    | none => .error { setting, value, expected }

/-- The default options with what the settings say instead. -/
def ofLookup (lookup : String → Option String) : Except ConfigError Options := do
  let number := "a non-negative integer"
  let truth := "a boolean"
  let o : Options := {}
  let o ← readSetting lookup "OFFLOAD_THREADS" number (parseNat? (Nat.pow 2 64)) o withWorkers
  let o ← readSetting lookup "OFFLOAD_ASYNC" truth parseBool? o fun o deferred =>
    { o with stages := if deferred then .deferred else .eager }
  let o ← readSetting lookup "OFFLOAD_MATERIALIZE" "'copy' or 'view'" parseMaterialization? o
    fun o materialization => { o with materialization }
  let o ← readSetting lookup "OFFLOAD_DEOPT_LIMIT" number (parseNat? (Nat.pow 2 32)) o
    fun o deoptLimit => { o with deoptLimit }
  let o ← readSetting lookup "OFFLOAD_SPECIALIZE_SCOPE" truth parseBool? o fun o specializeScope =>
    { o with specializeScope }
  readSetting lookup "OFFLOAD_DUMP_KERNELS" truth parseBool? o fun o dumpKernels =>
    { o with dumpKernels }

/-- The description of options. -/
def text (o : Options) : String :=
  let execution :=
    match o.execution with
    | .offload => "Offload"
    | .pool threads => "WorkerPool \x7b threads: " ++ toString threads ++ " \x7d"
  let stages :=
    match o.stages with
    | .deferred => "Deferred"
    | .eager => "Eager"
  let materialization :=
    match o.materialization with
    | .copy => "Copy"
    | .view => "View"
  "OffloadOptions \x7b execution: " ++ execution ++ ", composition: " ++ stages ++
    ", materialization: " ++ materialization ++ ", deopt_limit: " ++ toString o.deoptLimit ++
    ", specialize_scope: " ++ toString o.specializeScope ++ ", dump_kernels: " ++
    toString o.dumpKernels ++ " \x7d"

end Options

end TieredVectors
