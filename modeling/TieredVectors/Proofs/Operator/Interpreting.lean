import TieredVectors.Operator.Pool
import TieredVectors.Proofs.Except
import TieredVectors.Proofs.Operator.Ensures

/-!
# Interpreting

Interpreting a function changes nothing in the context.

* `Body.callFrom`, `Body.foldFrom` — the results of a body for neighbouring elements, or its first
  error; `Body.callsFrom` and `Body.foldCalls` are the arguments that it is called with on the way;
* `Entry.callFrom_ensures`, `Entry.foldFrom_ensures` — calling an entry for elements gives just
  that, and makes just these calls;
* `Action.Quiet` — an action that leaves the context as it is, as all calls and folds do.
-/

namespace TieredVectors

namespace Event

/-- The function that is called and its arguments, if the event is a call. -/
def call? : Event → Option (FunctionId × List Value)
  | .called entry args => some (entry.function, args)
  | _ => none

/-- The calls among events, in order. -/
def calls (events : List Event) : List (FunctionId × List Value) := events.filterMap call?

@[simp] theorem calls_nil : calls [] = [] := rfl

@[simp] theorem calls_append (es es' : List Event) : calls (es ++ es') = calls es ++ calls es' :=
  List.filterMap_append

@[simp] theorem calls_called_cons (entry : EntryId) (args : List Value) (es : List Event) :
    calls (.called entry args :: es) = (entry.function, args) :: calls es := rfl

/-- The phase that is entered. -/
def phase? : Event → Option Phase
  | .entered phase => some phase
  | _ => none

/-- How often execution on the device is entered. -/
def launches (es : List Event) : Nat := es.countP fun e => e.phase? = some .executing

@[simp] theorem launches_nil : launches [] = 0 := rfl

@[simp] theorem launches_append (es es' : List Event) :
    launches (es ++ es') = launches es + launches es' :=
  List.countP_append

theorem launches_eq_zero {es : List Event} (h : ∀ e ∈ es, e.phase? ≠ some .executing) :
    launches es = 0 :=
  List.countP_eq_zero.2 fun e he => by simpa using h e he

end Event

/-- The entry is called with one list of arguments after another. -/
def Entry.calling (entry : Entry) (arguments : List (List Value)) :
    List (FunctionId × List Value) :=
  arguments.map (entry.id.function, ·)

namespace Body

variable {body : Body} {z : Zipped} {first count : Nat}

/-- The results for the elements from index `first` on, as many as asked for, or the first error. -/
def callFrom (body : Body) (z : Zipped) (first count : Nat) : Except EvalError (List Value) :=
  (List.range' first count).mapM fun i => body.call (z.arguments i)

/-- The arguments of the calls for these elements; none is made after an error. -/
def callsFrom (body : Body) (z : Zipped) (first : Nat) : Nat → List (List Value)
  | 0 => []
  | count + 1 =>
    z.arguments first ::
      match body.call (z.arguments first) with
      | .ok _ => body.callsFrom z (first + 1) count
      | .error _ => []

/-- Fold the elements from index `first` on, as many as asked for, or stop at the first error. -/
def foldFrom (body : Body) (z : Zipped) (acc : Value) (first : Nat) : Nat → Except EvalError Value
  | 0 => .ok acc
  | count + 1 => do
    let acc ← body.call (acc :: z.arguments first)
    body.foldFrom z acc (first + 1) count

/-- The arguments of the calls that fold these elements; none is made after an error. -/
def foldCalls (body : Body) (z : Zipped) (acc : Value) (first : Nat) : Nat → List (List Value)
  | 0 => []
  | count + 1 =>
    (acc :: z.arguments first) ::
      match body.call (acc :: z.arguments first) with
      | .ok acc => body.foldCalls z acc (first + 1) count
      | .error _ => []

/-- The results for all elements, or the first error. -/
def callAll (body : Body) (z : Zipped) : Except EvalError (List Value) := body.callFrom z 0 z.length

theorem callFrom_zero (body : Body) (z : Zipped) (first : Nat) : body.callFrom z first 0 = .ok [] :=
  rfl

theorem callFrom_succ (body : Body) (z : Zipped) (first count : Nat) :
    body.callFrom z first (count + 1) = do
      let v ← body.call (z.arguments first)
      let vs ← body.callFrom z (first + 1) count
      return v :: vs := by
  rw [callFrom, List.range'_succ, List.mapM_cons]
  rfl

/-- The results, once that of the first element is known. -/
theorem callFrom_of_first {v : Value} (hfirst : body.call (z.arguments first) = .ok v)
    (count : Nat) :
    body.callFrom z first (count + 1) = (v :: ·) <$> body.callFrom z (first + 1) count := by
  rw [callFrom_succ, hfirst]
  rfl

/-- An error for the first element is the error of all. -/
theorem callFrom_of_error {e : EvalError} (hfirst : body.call (z.arguments first) = .error e)
    (count : Nat) : body.callFrom z first (count + 1) = .error e := by
  rw [callFrom_succ, hfirst]
  rfl

/-- There are results iff every call has one. -/
theorem callFrom_eq_ok_iff {values : List Value} :
    body.callFrom z first count = .ok values ↔
      (List.range' first count).map (fun i => body.call (z.arguments i)) = values.map .ok :=
  mapM_eq_ok_iff

theorem callAll_eq_ok_iff {values : List Value} :
    body.callAll z = .ok values ↔
      (List.range z.length).map (fun i => body.call (z.arguments i)) = values.map .ok := by
  rw [List.range_eq_range']
  exact callFrom_eq_ok_iff

/-- The error is that of a call, and the calls before it have results. -/
theorem callFrom_eq_error {e : EvalError} (h : body.callFrom z first count = .error e) :
    ∃ i < count, body.call (z.arguments (first + i)) = .error e ∧
      ∀ j < i, ∃ v, body.call (z.arguments (first + j)) = .ok v := by
  induction count generalizing first with
  | zero => cases h
  | succ count ih =>
    rw [callFrom_succ, bind_eq_error] at h
    rcases h with h | ⟨v, hv, h⟩
    · exact ⟨0, by omega, h, fun j hj => by omega⟩
    · rcases bind_eq_error.1 h with h | ⟨vs, -, h⟩
      · obtain ⟨i, hi, herr, hbefore⟩ := ih h
        refine ⟨i + 1, by omega, by rwa [show first + (i + 1) = first + 1 + i by omega], ?_⟩
        intro j hj
        cases j with
        | zero => exact ⟨v, hv⟩
        | succ j =>
          rw [show first + (j + 1) = first + 1 + j by omega]
          exact hbefore j (by omega)
      · cases h

/-- There are results for all elements if there is one for each. -/
theorem exists_callAll (h : ∀ i < z.length, ∃ v, body.call (z.arguments i) = .ok v) :
    ∃ values, body.callAll z = .ok values := by
  cases hall : body.callAll z with
  | ok values => exact ⟨values, rfl⟩
  | error e =>
    obtain ⟨i, hi, he, -⟩ := callFrom_eq_error hall
    obtain ⟨v, hv⟩ := h i hi
    rw [Nat.zero_add, hv] at he
    cases he

/-- The results for all elements are in their order. -/
theorem of_callAll_eq_ok {values : List Value} (h : body.callAll z = .ok values) :
    values.length = z.length ∧ ∀ i v, values[i]? = some v → body.call (z.arguments i) = .ok v := by
  have hall := callAll_eq_ok_iff.1 h
  have hlength : values.length = z.length := by simpa using (congrArg List.length hall).symm
  refine ⟨hlength, fun i v hv => ?_⟩
  have hlt : i < z.length := hlength ▸ (List.getElem?_eq_some_iff.1 hv).1
  simpa [hv, hlt] using congrArg (·[i]?) hall

/-- The results for all elements, once that of the first one is known. -/
theorem callAll_of_first {v : Value} {rest : Nat} (hlength : z.length = rest + 1)
    (hfirst : body.call (z.arguments 0) = .ok v) :
    body.callAll z = (v :: ·) <$> body.callFrom z 1 rest := by
  rw [callAll, hlength]
  exact callFrom_of_first hfirst rest

/-- The first of the results is that of the first element. -/
theorem head?_of_callAll {values : List Value} {v : Value} (h : body.callAll z = .ok values)
    (hpos : 0 < z.length) (hfirst : body.call (z.arguments 0) = .ok v) :
    values.head? = some v := by
  obtain ⟨rest, hrest⟩ := Nat.exists_eq_succ_of_ne_zero (Nat.ne_of_gt hpos)
  obtain ⟨vs, -, rfl⟩ := map_eq_ok.1 ((callAll_of_first hrest hfirst).symm.trans h)
  rfl

end Body

namespace Action

variable {α β : Type}

/-- The context stays as it is. -/
def Quiet (a : Action α) : Prop := ∀ c, a.Ensures c fun _ c' _ => c' = c

theorem quiet_pure (x : α) : (pure x : Action α).Quiet := fun _ => rfl

theorem quiet_tell (es : List Event) : (tell es).Quiet := fun _ => rfl

theorem Quiet.bind {a : Action α} {f : α → Action β} (ha : a.Quiet) (hf : ∀ x, (f x).Quiet) :
    (a >>= f).Quiet := by
  intro c
  rw [ensures_bind]
  refine (ha c).mono fun r c' es hc' => ?_
  cases r with
  | error e => exact hc'
  | ok x => exact (hf x c').mono fun _ _ _ h => h.trans hc'

/-- An action that leaves every view of the context alone leaves the context alone. -/
theorem quiet_of_contained {a : Action α}
    (h : a.Contained (fun c => c) fun _ => True) : a.Quiet :=
  fun c => (h c).mono fun _ _ _ h => h.1

end Action

namespace Entry

variable (entry : Entry) (z : Zipped)

/-- A call gives the body's result. -/
theorem call_ensures (args : List Value) (c : Context) :
    (entry.call args).Ensures c fun r c' es =>
      c' = c ∧ r = (entry.body.call args).mapError .eval ∧ es = [.called entry.id args] := by
  simp [call]

/-- Calls for neighbouring elements give the body's results, or its first error. -/
theorem callFrom_ensures (first count : Nat) (c : Context) :
    (entry.callFrom z first count).Ensures c fun r c' es =>
      c' = c ∧ r = (entry.body.callFrom z first count).mapError .eval ∧
        Event.calls es = entry.calling (entry.body.callsFrom z first count) := by
  induction count generalizing first c with
  | zero => exact ⟨rfl, rfl, rfl⟩
  | succ count ih =>
    rw [callFrom, Body.callFrom_succ, Body.callsFrom, Action.ensures_bind]
    refine (entry.call_ensures (z.arguments first) c).mono ?_
    rintro r c' es ⟨rfl, rfl, rfl⟩
    cases hv : entry.body.call (z.arguments first) with
    | error e => exact ⟨rfl, rfl, rfl⟩
    | ok v =>
      rw [mapError_ok, Action.Post.after_ok, Action.ensures_bind]
      refine (ih (first + 1) c').mono ?_
      rintro r c'' es' ⟨rfl, rfl, hcalls⟩
      cases entry.body.callFrom z (first + 1) count with
      | error e => exact ⟨rfl, rfl, by simp [hcalls, calling]⟩
      | ok vs =>
        rw [mapError_ok, Action.Post.after_ok, Action.ensures_pure]
        exact ⟨rfl, rfl, by simp [hcalls, calling]⟩

/-- Calls for all elements give the body's results, or its first error. -/
theorem callAll_ensures (c : Context) :
    (entry.callAll z).Ensures c fun r c' es =>
      c' = c ∧ r = (entry.body.callAll z).mapError .eval ∧
        Event.calls es = entry.calling (entry.body.callsFrom z 0 z.length) :=
  entry.callFrom_ensures z 0 z.length c

/-- Folding gives the body's result, or its first error. -/
theorem foldFrom_ensures (acc : Value) (first count : Nat) (c : Context) :
    (entry.foldFrom z acc first count).Ensures c fun r c' es =>
      c' = c ∧ r = (entry.body.foldFrom z acc first count).mapError .eval ∧
        Event.calls es = entry.calling (entry.body.foldCalls z acc first count) := by
  induction count generalizing acc first c with
  | zero => exact ⟨rfl, rfl, rfl⟩
  | succ count ih =>
    rw [foldFrom, Body.foldFrom, Body.foldCalls, Action.ensures_bind]
    refine (entry.call_ensures (acc :: z.arguments first) c).mono ?_
    rintro r c' es ⟨rfl, rfl, rfl⟩
    cases entry.body.call (acc :: z.arguments first) with
    | error e => exact ⟨rfl, rfl, rfl⟩
    | ok acc =>
      rw [mapError_ok, Action.Post.after_ok]
      refine (ih acc (first + 1) c').mono ?_
      rintro r c'' es' ⟨rfl, rfl, hcalls⟩
      exact ⟨rfl, rfl, by simp [hcalls, calling]⟩

section

variable {γ : Type} {view : Context → γ} {errors : OperatorError → Prop}
  (heval : ∀ e, errors (.eval e))
include heval

/-- A call leaves the context alone and fails with errors of the function only. -/
theorem contained_call (args : List Value) : (entry.call args).Contained view errors :=
  (Action.contained_tell _).bind fun _ => Action.contained_ofExcept heval _

theorem contained_callFrom (first count : Nat) :
    (entry.callFrom z first count).Contained view errors := by
  induction count generalizing first with
  | zero => exact Action.contained_pure []
  | succ count ih =>
    exact (entry.contained_call heval _).bind fun _ => (ih _).bind fun _ => Action.contained_pure _

theorem contained_foldFrom (acc : Value) (first count : Nat) :
    (entry.foldFrom z acc first count).Contained view errors := by
  induction count generalizing acc first with
  | zero => exact Action.contained_pure acc
  | succ count ih => exact (entry.contained_call heval _).bind fun v => ih v _

theorem contained_foldValues (acc : Value) (values : List Value) :
    (entry.foldValues acc values).Contained view errors := by
  induction values generalizing acc with
  | nil => exact Action.contained_pure acc
  | cons v vs ih => exact (entry.contained_call heval _).bind fun acc => ih acc

end

theorem quiet_call (args : List Value) : (entry.call args).Quiet :=
  Action.quiet_of_contained (entry.contained_call (fun _ => trivial) args)

theorem quiet_callAll : (entry.callAll z).Quiet :=
  Action.quiet_of_contained (entry.contained_callFrom z (fun _ => trivial) 0 z.length)

theorem quiet_foldFrom (acc : Value) (first count : Nat) :
    (entry.foldFrom z acc first count).Quiet :=
  Action.quiet_of_contained (entry.contained_foldFrom z (fun _ => trivial) acc first count)

end Entry

namespace Pool

section

variable {α γ : Type} {view : Context → γ} {errors : OperatorError → Prop}

theorem contained_finish {task : Nat → Action α} (h : ∀ i, (task i).Contained view errors)
    (order : List Nat) : (finish task order).Contained view errors := by
  induction order with
  | nil => exact Action.contained_pure []
  | cons i rest ih => exact (h i).bind fun _ => ih.bind fun _ => Action.contained_pure _

theorem contained_compute (blank : α) (n : Nat) {task : Nat → Action α}
    (h : ∀ i, (task i).Contained view errors) : (compute blank n task).Contained view errors :=
  Action.contained_get.bind fun _ => (contained_finish h _).bind fun _ => Action.contained_pure _

/-- Calls on a pool leave the context alone and fail with errors of the function only. -/
theorem contained_callAll (heval : ∀ e, errors (.eval e)) (entry : Entry) (z : Zipped) :
    (callAll entry z).Contained view errors :=
  contained_compute _ _ fun _ => entry.contained_call heval _

theorem contained_fold (heval : ∀ e, errors (.eval e)) (threads : Nat) (entry : Entry) (z : Zipped)
    (neutral : Value) : (fold threads entry z neutral).Contained view errors := by
  have hchunk (first count : Nat) : (entry.foldFrom z neutral first count).Contained view errors :=
    entry.contained_foldFrom z heval neutral first count
  rw [fold]
  split
  · exact hchunk 0 z.length
  · exact (contained_compute _ _ fun _ => hchunk _ _).bind fun _ =>
      (Action.contained_tell _).bind fun _ => entry.contained_foldValues heval _ _

end

theorem quiet_callAll (entry : Entry) (z : Zipped) : (callAll entry z).Quiet :=
  Action.quiet_of_contained (contained_callAll (fun _ => trivial) entry z)

theorem quiet_fold (threads : Nat) (entry : Entry) (z : Zipped) (neutral : Value) :
    (fold threads entry z neutral).Quiet :=
  Action.quiet_of_contained (contained_fold (fun _ => trivial) threads entry z neutral)

end Pool

namespace Action

theorem contained_results {γ : Type} {view : Context → γ} {errors : OperatorError → Prop}
    (values : List Value) (type : Option RowType) : (results values type).Contained view errors :=
  (contained_tell _).bind fun _ => contained_pure _

theorem quiet_results (values : List Value) (type : Option RowType) :
    (results values type).Quiet :=
  quiet_of_contained (contained_results values type)

end Action

end TieredVectors
