/-!
# Results that may be missing

How a chain of fallible steps succeeds or fails, step by step, and how a list of them does: mapping
a list with a fallible function succeeds iff the function does on every item.

`Matches R` says that two results fail in the same way or are related.
-/

namespace TieredVectors

variable {ε α β : Type}

/-- A step followed by another succeeds iff both do. -/
theorem bind_eq_ok {x : Except ε α} {f : α → Except ε β} {b : β} :
    (x >>= f) = .ok b ↔ ∃ a, x = .ok a ∧ f a = .ok b := by
  cases x <;> simp [bind, Except.bind]

/-- A step followed by another fails iff one of them does. -/
theorem bind_eq_error {x : Except ε α} {f : α → Except ε β} {e : ε} :
    (x >>= f) = .error e ↔ x = .error e ∨ ∃ a, x = .ok a ∧ f a = .error e := by
  cases x <;> simp [bind, Except.bind]

/-- A mapped result is there iff the result is. -/
theorem map_eq_ok {x : Except ε α} {f : α → β} {b : β} :
    (f <$> x) = .ok b ↔ ∃ a, x = .ok a ∧ f a = b := by
  cases x <;> simp [Functor.map, Except.map]

/-- Mapping a result keeps its error. -/
theorem map_eq_error {x : Except ε α} {f : α → β} {e : ε} :
    (f <$> x) = .error e ↔ x = .error e := by
  cases x <;> simp [Functor.map, Except.map]

@[simp]
theorem mapError_ok {ε' : Type} (f : ε → ε') (a : α) :
    (Except.ok a : Except ε α).mapError f = .ok a :=
  rfl

@[simp]
theorem mapError_error {ε' : Type} (f : ε → ε') (e : ε) :
    (Except.error e : Except ε α).mapError f = .error (f e) :=
  rfl

theorem pure_eq_ok {a b : α} : (pure a : Except ε α) = .ok b ↔ a = b := by
  simp [pure, Except.pure]

theorem throw_ne_ok {e : ε} {a : α} : (throw e : Except ε α) ≠ .ok a := by
  simp [throw, throwThe, MonadExceptOf.throw]

theorem mapM_eq_ok_iff {f : α → Except ε β} {xs : List α} {ys : List β} :
    xs.mapM f = .ok ys ↔ xs.map f = ys.map .ok := by
  induction xs generalizing ys with
  | nil => cases ys <;> simp [pure, Except.pure]
  | cons x xs ih =>
    rw [List.mapM_cons, bind_eq_ok]
    constructor
    · rintro ⟨y, hy, hrest⟩
      obtain ⟨zs, hzs, hys⟩ := bind_eq_ok.1 hrest
      rw [← pure_eq_ok.1 hys, List.map_cons, List.map_cons, hy, ih.1 hzs]
    · intro h
      cases ys with
      | nil => simp at h
      | cons y ys =>
        rw [List.map_cons, List.map_cons, List.cons.injEq] at h
        exact ⟨y, h.1, bind_eq_ok.2 ⟨ys, ih.2 h.2, rfl⟩⟩

/-- An error is that of one of the steps. -/
theorem exists_of_mapM_eq_error {f : α → Except ε β} {xs : List α} {e : ε}
    (h : xs.mapM f = .error e) : ∃ x ∈ xs, f x = .error e := by
  induction xs with
  | nil => cases h
  | cons x xs ih =>
    rw [List.mapM_cons] at h
    rcases bind_eq_error.1 h with h | ⟨y, -, h⟩
    · exact ⟨x, List.mem_cons_self, h⟩
    · rcases bind_eq_error.1 h with h | ⟨ys, -, h⟩
      · obtain ⟨x', hx', he⟩ := ih h
        exact ⟨x', List.mem_cons_of_mem _ hx', he⟩
      · cases h

theorem mapM_eq_some_iff {f : α → Option β} {xs : List α} {ys : List β} :
    xs.mapM f = some ys ↔ xs.map f = ys.map some := by
  induction xs generalizing ys with
  | nil => cases ys <;> simp
  | cons x xs ih =>
    rw [List.mapM_cons]
    cases ys with
    | nil => cases hx : f x <;> cases hxs : xs.mapM f <;> simp
    | cons y ys =>
      rw [List.map_cons, List.map_cons, List.cons.injEq, ← ih]
      cases hx : f x <;> cases hxs : xs.mapM f <;> simp

theorem toOption_bind (x : Except ε α) (f : α → Except ε β) :
    (x >>= f).toOption = x.toOption.bind fun a => (f a).toOption := by
  cases x <;> rfl

theorem toOption_map (f : α → β) (x : Except ε α) : (f <$> x).toOption = x.toOption.map f := by
  cases x <;> rfl

/-- A result without its error is there iff the result is. -/
theorem toOption_eq_some_iff {x : Except ε α} {a : α} : x.toOption = some a ↔ x = .ok a := by
  cases x <;> simp [Except.toOption]

/-! ## Two results -/

/-- Both fail with one error, or both succeed with results that are related. -/
def Matches (R : α → β → Prop) (x : Except ε α) (y : Except ε β) : Prop :=
  (∃ e, x = .error e ∧ y = .error e) ∨ ∃ a b, x = .ok a ∧ y = .ok b ∧ R a b

theorem matches_ok {R : α → β → Prop} {a : α} {b : β} (h : R a b) :
    Matches R (.ok a : Except ε α) (.ok b) :=
  .inr ⟨a, b, rfl, rfl, h⟩

theorem matches_error (R : α → β → Prop) (e : ε) :
    Matches R (.error e : Except ε α) (.error e : Except ε β) :=
  .inl ⟨e, rfl, rfl⟩

/-- Results that become the same match, and their preimages are what is related. -/
theorem matches_of_map_eq {γ : Type} {f : α → γ} {g : β → γ} {x : Except ε α} {y : Except ε β}
    (h : x.map f = y.map g) : Matches (fun a b => f a = g b) x y := by
  cases x with
  | error e =>
    cases y with
    | error e' =>
      obtain rfl : e = e' := Except.error.inj h
      exact matches_error _ e
    | ok b => cases h
  | ok a =>
    cases y with
    | error e => cases h
    | ok b => exact matches_ok (Except.ok.inj h)

/-- Less may be said of the results. -/
theorem Matches.mono {R S : α → β → Prop} {x : Except ε α} {y : Except ε β} (h : Matches R x y)
    (himp : ∀ a b, R a b → S a b) : Matches S x y := by
  rcases h with ⟨e, he, he'⟩ | ⟨a, b, ha, hb, hab⟩
  · exact .inl ⟨e, he, he'⟩
  · exact .inr ⟨a, b, ha, hb, himp a b hab⟩

theorem Matches.eq {x y : Except ε α} (h : Matches Eq x y) : x = y := by
  rcases h with ⟨e, rfl, rfl⟩ | ⟨a, b, rfl, rfl, rfl⟩ <;> rfl

end TieredVectors
