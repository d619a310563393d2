import TieredVectors.Operator.Context

/-!
# What an action ensures

`Action.Ensures a c post` says that `post` holds of how `a` goes in the context `c`: of its result,
of the context after it and of what it tells. The rules follow the way in which actions are put
together, so that what an operator ensures is found from what its steps ensure.

`Action.Contained view errors a` is the form in which most frames are said: whatever the context,
`a` leaves one view of it alone and fails in certain ways only.
-/

namespace TieredVectors

namespace Action

variable {α β : Type} {a : Action α} {c : Context}

/-- A property of how an action goes. -/
abbrev Post (α : Type) := Except OperatorError α → Context → List Event → Prop

/-- `post` holds of how the action goes in the context. -/
def Ensures (a : Action α) (c : Context) (post : Post α) : Prop :=
  post (a.run c).result (a.run c).context (a.run c).events

/-- What is ensured may be weakened. -/
theorem Ensures.mono {post post' : Post α} (h : a.Ensures c post)
    (himp : ∀ r c' es, post r c' es → post' r c' es) : a.Ensures c post' :=
  himp _ _ _ h

theorem Ensures.and {post post' : Post α} (h : a.Ensures c post) (h' : a.Ensures c post') :
    a.Ensures c fun r c' es => post r c' es ∧ post' r c' es :=
  ⟨h, h'⟩

/-- What holds after `a`, if `post` is to hold after `a` and then `f`. -/
def Post.after (post : Post β) (f : α → Action β) : Post α
  | .error e, c, es => post (.error e) c es
  | .ok x, c, es => (f x).Ensures c fun r c' es' => post r c' (es ++ es')

@[simp]
theorem Post.after_ok {post : Post β} {f : α → Action β} {x : α} {es : List Event} :
    post.after f (.ok x) c es ↔ (f x).Ensures c fun r c' es' => post r c' (es ++ es') :=
  Iff.rfl

@[simp]
theorem Post.after_error {post : Post β} {f : α → Action β} {e : OperatorError} {es : List Event} :
    post.after f (.error e) c es ↔ post (.error e) c es :=
  Iff.rfl

/-- Actions in a row. -/
@[simp]
theorem ensures_bind {f : α → Action β} {post : Post β} :
    (a >>= f).Ensures c post ↔ a.Ensures c (post.after f) := by
  change Ensures (a.andThen f) c post ↔ _
  unfold Ensures Post.after andThen run
  cases h : (a c).result with
  | error e => simp [h]
  | ok x => simp [h, Ensures, run, append_eq]

@[simp]
theorem ensures_pure {x : α} {post : Post α} :
    (pure x : Action α).Ensures c post ↔ post (.ok x) c [] :=
  Iff.rfl

@[simp]
theorem ensures_map {f : α → β} {post : Post β} :
    (f <$> a).Ensures c post ↔ a.Ensures c fun r c' es => post (f <$> r) c' es := by
  rw [map_eq_pure_bind, ensures_bind]
  unfold Ensures
  cases (a.run c).result <;>
    simp [Post.after, Ensures, run, pure, succeed, Functor.map, Except.map]

@[simp]
theorem ensures_fail {e : OperatorError} {post : Post α} :
    (fail e : Action α).Ensures c post ↔ post (.error e) c [] :=
  Iff.rfl

@[simp]
theorem ensures_get {post : Post Context} : get.Ensures c post ↔ post (.ok c) c [] :=
  Iff.rfl

@[simp]
theorem ensures_modify {f : Context → Context} {post : Post Unit} :
    (modify f).Ensures c post ↔ post (.ok ()) (f c) [] :=
  Iff.rfl

@[simp]
theorem ensures_update {f : Context → α × Context} {post : Post α} :
    (update f).Ensures c post ↔ post (.ok (f c).1) (f c).2 [] :=
  Iff.rfl

@[simp]
theorem ensures_tell {es : List Event} {post : Post Unit} :
    (tell es).Ensures c post ↔ post (.ok ()) c es :=
  Iff.rfl

@[simp]
theorem ensures_ofExcept {ε : Type} {wrap : ε → OperatorError} {x : Except ε α} {post : Post α} :
    (ofExcept wrap x).Ensures c post ↔ post (x.mapError wrap) c [] := by
  cases x <;> exact Iff.rfl

/-- An action followed in any case by another. -/
theorem ensures_thenAlways {last : Action Unit} {post : Post α} :
    (a.thenAlways last).Ensures c post ↔
      a.Ensures c fun r c' es => last.Ensures c' fun _ c'' es' => post r c'' (es ++ es') := by
  simp only [Ensures, thenAlways, run, append_eq]

/-! ## What an action leaves alone -/

variable {γ : Type} {view : Context → γ} {errors : OperatorError → Prop}

/-- In every context the action leaves `view` of it as it is, and fails with `errors` only. -/
def Contained (view : Context → γ) (errors : OperatorError → Prop) (a : Action α) : Prop :=
  ∀ c, a.Ensures c fun r c' _ => view c' = view c ∧ ∀ e, r = .error e → errors e

/-- Less may be said to be left alone, and more errors allowed. -/
theorem Contained.mono {δ : Type} {view' : Context → δ} {errors' : OperatorError → Prop}
    (h : a.Contained view errors) (hview : ∀ c c', view c' = view c → view' c' = view' c)
    (herrors : ∀ e, errors e → errors' e) : a.Contained view' errors' := fun c =>
  (h c).mono fun _ c' _ h => ⟨hview c c' h.1, fun e he => herrors e (h.2 e he)⟩

theorem contained_pure (x : α) : (pure x : Action α).Contained view errors :=
  fun _ => ⟨rfl, nofun⟩

theorem contained_get : get.Contained view errors :=
  fun _ => ⟨rfl, nofun⟩

theorem contained_tell (es : List Event) : (tell es).Contained view errors :=
  fun _ => ⟨rfl, nofun⟩

theorem contained_fail {e : OperatorError} (h : errors e) :
    (fail e : Action α).Contained view errors := by
  intro c
  refine ⟨rfl, fun e' he => ?_⟩
  obtain rfl := Except.error.inj he
  exact h

theorem contained_ofExcept {ε : Type} {wrap : ε → OperatorError} (h : ∀ e, errors (wrap e))
    (x : Except ε α) : (ofExcept wrap x).Contained view errors := by
  cases x with
  | ok x => exact contained_pure x
  | error e => exact contained_fail (h e)

theorem contained_modify {f : Context → Context} (h : ∀ c, view (f c) = view c) :
    (modify f).Contained view errors :=
  fun c => ⟨h c, nofun⟩

theorem contained_update {f : Context → α × Context} (h : ∀ c, view (f c).2 = view c) :
    (update f).Contained view errors :=
  fun c => ⟨h c, nofun⟩

/-- Actions in a row leave alone what each of them does. -/
theorem Contained.bind {f : α → Action β} (ha : a.Contained view errors)
    (hf : ∀ x, (f x).Contained view errors) : (a >>= f).Contained view errors := by
  intro c
  rw [ensures_bind]
  refine (ha c).mono fun r c' es hr => ?_
  cases r with
  | error e => exact ⟨hr.1, fun e' he => hr.2 e' (by simpa using he)⟩
  | ok x =>
    rw [Post.after_ok]
    exact (hf x c').mono fun _ _ _ h => ⟨h.1.trans hr.1, h.2⟩

theorem Contained.map (ha : a.Contained view errors) (f : α → β) :
    (f <$> a).Contained view errors := by
  rw [map_eq_pure_bind]
  exact ha.bind fun x => contained_pure (f x)

end Action

end TieredVectors
