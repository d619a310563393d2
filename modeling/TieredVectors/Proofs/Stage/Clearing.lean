import Mathlib.Data.List.Perm.Subperm
import TieredVectors.Proofs.Stage.Leaves
import TieredVectors.Proofs.Tables

/-!
# Which stages go with a chain

Clearing a chain goes from a stage to its parent, from there to the parent's parent and so on, for
as long as no stage that is left reads from the parent. A stage may be registered with any parent,
so the way may lead to a stage that is missing, to one that is shared, or back to one that has just
been dropped.

* `StageRegistry.removeAll` — what is left when stages are dropped one after another;
* `StageRegistry.PrivateChain` — stages on the way from one stage through its parents, from each of
  which only stages before it read;
* `StageRegistry.exists_clearChain_eq` — clearing drops such a chain, and stops where it has to;
* `StageRegistry.clears_private_chain` — there is no longer one, and nothing else goes.
-/

namespace TieredVectors.StageRegistry

variable {r : StageRegistry} {handle child parent h : StageHandle} {chain chain' : List StageHandle}

/-! ## Dropping stages -/

theorem get?_remove_eq (r : StageRegistry) (handle h : StageHandle) :
    (r.remove handle).get? h = if h = handle then none else r.get? h :=
  Table.get?_erase ..

theorem byFunction_remove (r : StageRegistry) (handle : StageHandle) (f : FunctionId) :
    (r.remove handle).byFunction.get? f = (r.byFunction.get? f).filter (· ≠ handle) := by
  rw [remove, Table.get?_filterValues]
  cases r.byFunction.get? f with
  | none => rfl
  | some h => by_cases hh : h = handle <;> simp [hh, Option.filter_some]

theorem current_remove (r : StageRegistry) (handle : StageHandle) :
    (r.remove handle).current = r.current.filter (· ≠ handle) := by
  rw [remove]
  cases r.current with
  | none => rfl
  | some h => by_cases hh : h = handle <;> simp [hh, Option.filter_some]

/-- Drop stages one after another, and what refers to them. -/
def removeAll (r : StageRegistry) (handles : List StageHandle) : StageRegistry :=
  handles.foldl remove r

theorem filter_ne_filter_notMem (o : Option StageHandle) (handle : StageHandle)
    (handles : List StageHandle) :
    (o.filter (· ≠ handle)).filter (· ∉ handles) = o.filter (· ∉ handle :: handles) := by
  cases o with
  | none => rfl
  | some h => by_cases hh : h = handle <;> simp [hh]

section RemoveAll

variable (r : StageRegistry) (handles : List StageHandle)

theorem get?_removeAll (h : StageHandle) :
    (r.removeAll handles).get? h = if h ∈ handles then none else r.get? h := by
  induction handles generalizing r with
  | nil => rfl
  | cons handle handles ih =>
    refine (ih (r.remove handle)).trans ?_
    rw [get?_remove_eq]
    by_cases hh : h = handle <;> simp [hh]

theorem byFunction_removeAll (f : FunctionId) :
    (r.removeAll handles).byFunction.get? f = (r.byFunction.get? f).filter (· ∉ handles) := by
  induction handles generalizing r with
  | nil => cases hf : r.byFunction.get? f <;> simp [removeAll, hf, Option.filter_some]
  | cons handle handles ih =>
    refine (ih (r.remove handle)).trans ?_
    rw [byFunction_remove, filter_ne_filter_notMem]

theorem current_removeAll :
    (r.removeAll handles).current = r.current.filter (· ∉ handles) := by
  induction handles generalizing r with
  | nil => cases hc : r.current <;> simp [removeAll, hc, Option.filter_some]
  | cons handle handles ih =>
    refine (ih (r.remove handle)).trans ?_
    rw [current_remove, filter_ne_filter_notMem]

end RemoveAll

/-! ## Private chains -/

/-- Registered stages, of which the first is the given one, each further one is the parent of the
one before it, and no stage reads from it but those before it. -/
structure PrivateChain (r : StageRegistry) (handle : StageHandle) (chain : List StageHandle) :
    Prop where
  registered : ∀ h ∈ chain, r.input? h ≠ none
  first : ∀ h, chain[0]? = some h → h = handle
  parent : ∀ i h parent, chain[i]? = some h → chain[i + 1]? = some parent → r.Reads h parent
  unshared : ∀ i parent, chain[i + 1]? = some parent →
    ∀ child, r.Reads child parent → child ∈ chain.take (i + 1)

/-- The chain cannot be made longer: the last stage on it reads from no stage, from one that is on
it or missing, or from one that another stage reads from as well. -/
def Stops (r : StageRegistry) (chain : List StageHandle) : Prop :=
  ∀ h ∈ chain.getLast?, ∀ parent, r.Reads h parent →
    parent ∈ chain ∨ r.input? parent = none ∨ ∃ child, child ∉ chain ∧ r.Reads child parent

/-- A stage has one parent at most. -/
theorem Reads.unique {parent' : StageHandle} (h : r.Reads child parent)
    (h' : r.Reads child parent') : parent = parent' := by
  obtain ⟨input, hinput, hparent⟩ := h
  obtain ⟨input', hinput', hparent'⟩ := h'
  obtain rfl := Option.some.inj (hinput.symm.trans hinput')
  exact Option.some.inj (hparent.symm.trans hparent')

namespace PrivateChain

theorem nil (r : StageRegistry) (handle : StageHandle) : r.PrivateChain handle [] :=
  ⟨by simp, by simp, by simp, by simp⟩

theorem singleton (h : r.input? handle ≠ none) : r.PrivateChain handle [handle] := by
  refine ⟨by simpa using h, ?_, by simp, by simp⟩
  intro h hh
  exact (Option.some.inj hh).symm

/-- Once a stage has been dropped, a private chain of its parent continues that of the stage. -/
theorem cons (hreads : r.Reads handle parent)
    (hchildless : ∀ child, ¬ (r.remove handle).Reads child parent)
    (h : (r.remove handle).PrivateChain parent chain) :
    r.PrivateChain handle (handle :: chain) := by
  have hkept {k : StageHandle} (hk : k ∈ chain) : k ≠ handle ∧ r.input? k ≠ none := by
    obtain ⟨input, hinput⟩ := Option.ne_none_iff_exists'.1 (h.registered k hk)
    obtain ⟨hne, hinput⟩ := input?_remove_eq_some_iff.1 hinput
    exact ⟨hne, by simp [hinput]⟩
  -- whoever else reads from a stage on the chain still does when the first stage is gone
  have hrest {child k : StageHandle} (hr : r.Reads child k) :
      child = handle ∨ (r.remove handle).Reads child k := by
    by_cases hc : child = handle
    · exact .inl hc
    · exact .inr (reads_remove_iff.2 ⟨hc, hr⟩)
  refine ⟨?_, ?_, ?_, ?_⟩
  · obtain ⟨input, hinput, -⟩ := hreads
    exact List.forall_mem_cons.2 ⟨by simp [hinput], fun k hk => (hkept hk).2⟩
  · intro k hk
    exact (Option.some.inj hk).symm
  · intro i a b ha hb
    rw [List.getElem?_cons_succ] at hb
    cases i with
    | zero =>
      obtain rfl : handle = a := Option.some.inj ha
      rw [h.first b hb]
      exact hreads
    | succ i =>
      rw [List.getElem?_cons_succ] at ha
      exact (reads_remove_iff.1 (h.parent i a b ha hb)).2
  · intro i b hb child hchild
    rw [List.getElem?_cons_succ] at hb
    rw [List.take_succ_cons, List.mem_cons]
    refine (hrest hchild).imp_right fun hchild => ?_
    cases i with
    | zero =>
      rw [h.first b hb] at hchild
      exact absurd hchild (hchildless child)
    | succ i => exact h.unshared i b hb child hchild

/-- A chain that stops has a stage on it if all that read from the stage are on it. -/
theorem mem_of_reads {a k : StageHandle} (h : r.PrivateChain handle chain) (hstops : r.Stops chain)
    (ha : a ∈ chain) (hreads : r.Reads a k) (hregistered : r.input? k ≠ none)
    (hprivate : ∀ child, r.Reads child k → child ∈ chain) : k ∈ chain := by
  obtain ⟨j, hj⟩ := List.mem_iff_getElem?.1 ha
  cases hnext : chain[j + 1]? with
  | some b =>
    rw [hreads.unique (h.parent j a b hj hnext)]
    exact List.mem_of_getElem? hnext
  | none =>
    have hlast : chain.getLast? = some a := by
      have hlt := (List.getElem?_eq_some_iff.1 hj).1
      have hle := List.getElem?_eq_none_iff.1 hnext
      rw [List.getLast?_eq_getElem?, show chain.length - 1 = j by omega, hj]
    rcases hstops a hlast k hreads with hk | hmissing | ⟨child, hchild, hother⟩
    · exact hk
    · exact absurd hmissing hregistered
    · exact absurd (hprivate child hother) hchild

/-- A chain that stops has on it whatever is on another one. -/
theorem subset_of_stops (h' : r.PrivateChain handle chain') (h : r.PrivateChain handle chain)
    (hstart : chain = [] → r.input? handle = none) (hstops : r.Stops chain) : chain' ⊆ chain := by
  -- on how much of the other chain has been followed
  have htake (n : Nat) : chain'.take n ⊆ chain := by
    induction n with
    | zero => simp
    | succ n ih =>
      rw [List.take_add_one, List.append_subset]
      refine ⟨ih, fun k hk => ?_⟩
      have hk : chain'[n]? = some k := by simpa using hk
      have hregistered : r.input? k ≠ none := h'.registered k (List.mem_of_getElem? hk)
      cases n with
      | zero =>
        obtain rfl := h'.first k hk
        cases chain with
        | nil => exact absurd (hstart rfl) hregistered
        | cons a chain =>
          rw [h.first a rfl]
          exact List.mem_cons_self
      | succ m =>
        -- the stage before it is on the chain, as are all that read from it
        obtain ⟨a, ha⟩ : ∃ a, chain'[m]? = some a := by
          have hlt := (List.getElem?_eq_some_iff.1 hk).1
          exact ⟨_, List.getElem?_eq_getElem (Nat.lt_of_succ_lt hlt)⟩
        have hmem : a ∈ chain := by
          refine ih (List.mem_of_getElem? (i := m) ?_)
          rw [List.getElem?_take_of_lt (Nat.lt_succ_self m), ha]
        exact h.mem_of_reads hstops hmem (h'.parent m a k ha hk) hregistered fun child hchild =>
          ih (h'.unshared m k hk child hchild)
  rw [← List.take_length (l := chain')]
  exact htake _

/-- Two chains go the same way as far as both go. -/
theorem getElem?_eq (h : r.PrivateChain handle chain) (h' : r.PrivateChain handle chain') {i : Nat}
    (hi : i < chain.length) (hi' : i < chain'.length) : chain[i]? = chain'[i]? := by
  induction i with
  | zero =>
    obtain ⟨a, ha⟩ : ∃ a, chain[0]? = some a := ⟨_, List.getElem?_eq_getElem hi⟩
    obtain ⟨b, hb⟩ : ∃ b, chain'[0]? = some b := ⟨_, List.getElem?_eq_getElem hi'⟩
    rw [ha, hb, h.first a ha, h'.first b hb]
  | succ i ih =>
    have hsame := ih (Nat.lt_of_succ_lt hi) (Nat.lt_of_succ_lt hi')
    obtain ⟨a, ha⟩ : ∃ a, chain[i]? = some a :=
      ⟨_, List.getElem?_eq_getElem (Nat.lt_of_succ_lt hi)⟩
    obtain ⟨b, hb⟩ : ∃ b, chain[i + 1]? = some b := ⟨_, List.getElem?_eq_getElem hi⟩
    obtain ⟨b', hb'⟩ : ∃ b', chain'[i + 1]? = some b' := ⟨_, List.getElem?_eq_getElem hi'⟩
    have hreads := h.parent i a b ha hb
    rw [hb, hb', hreads.unique (h'.parent i a b' (hsame ▸ ha) hb')]

/-- Without a repetition, a chain is the beginning of every chain that has on it what it has. -/
theorem prefix_of_subset (h' : r.PrivateChain handle chain') (h : r.PrivateChain handle chain)
    (hsubset : chain' ⊆ chain) (hnodup : chain'.Nodup) : chain' <+: chain := by
  have hle : chain'.length ≤ chain.length := (hnodup.subperm hsubset).length_le
  refine List.prefix_iff_getElem?.2 fun i hi => ?_
  rw [← h'.getElem?_eq h hi (Nat.lt_of_lt_of_le hi hle), List.getElem?_eq_getElem hi]

end PrivateChain

/-! ## Clearing -/

/-- A chain that stops in a registry without a stage stops in the registry if it goes on from there,
or if the parent of the stage is missing. -/
theorem Stops.cons (hreads : r.Reads handle parent)
    (hstart : chain = [] → (r.remove handle).input? parent = none)
    (h : (r.remove handle).PrivateChain parent chain) (hstops : (r.remove handle).Stops chain) :
    r.Stops (handle :: chain) := by
  have hmissing {k : StageHandle} (hk : (r.remove handle).input? k = none) :
      k ∈ handle :: chain ∨ r.input? k = none := by
    by_cases hne : k = handle
    · exact .inl (hne ▸ List.mem_cons_self)
    · refine .inr (Option.eq_none_iff_forall_ne_some.2 fun input hinput => ?_)
      rw [input?_remove_eq_some_iff.2 ⟨hne, hinput⟩] at hk
      cases hk
  intro a ha p hp
  cases chain with
  | nil =>
    obtain rfl : handle = a := by simpa using ha
    rw [← hreads.unique hp]
    exact (hmissing (hstart rfl)).imp_right .inl
  | cons b chain =>
    have ha : a ∈ (b :: chain).getLast? := by simpa using ha
    have hne : a ≠ handle := by
      have hregistered := h.registered a (List.mem_of_getLast? ha)
      obtain ⟨input, hinput⟩ := Option.ne_none_iff_exists'.1 hregistered
      exact (input?_remove_eq_some_iff.1 hinput).1
    rcases hstops a ha p (reads_remove_iff.2 ⟨hne, hp⟩) with hmem | hnone | ⟨child, hchild, hother⟩
    · exact .inl (List.mem_cons_of_mem _ hmem)
    · exact (hmissing hnone).imp_right .inl
    · obtain ⟨hfirst, hother⟩ := reads_remove_iff.1 hother
      exact .inr (.inr ⟨child, by simp [hfirst, hchild], hother⟩)

/-- Clearing drops the stages of a private chain that stops, and counts them. -/
theorem exists_clearChain_eq (r : StageRegistry) (handle : StageHandle) :
    ∃ chain, r.PrivateChain handle chain ∧ r.Stops chain ∧ chain.Nodup ∧
      (chain = [] ↔ r.input? handle = none) ∧
      r.clearChain handle = (chain.length, r.removeAll chain) := by
  fun_induction clearChain r handle with
  | case1 r handle hnone =>
    exact ⟨[], .nil r handle, by simp [Stops], .nil, by simpa using hnone, rfl⟩
  | case2 r handle stage hstage rest hroot =>
    have hregistered : r.input? handle ≠ none := by simp [input?, hstage]
    refine ⟨[handle], .singleton hregistered, ?_, by simp, by simpa using hregistered, rfl⟩
    intro a ha parent hreads
    obtain rfl : handle = a := by simpa using ha
    rw [reads_iff_of_get? hstage, hroot] at hreads
    cases hreads
  | case3 r handle stage hstage rest parent hparent hchild =>
    have hregistered : r.input? handle ≠ none := by simp [input?, hstage]
    refine ⟨[handle], .singleton hregistered, ?_, by simp, by simpa using hregistered, rfl⟩
    intro a ha p hreads
    obtain rfl : handle = a := by simpa using ha
    rw [reads_iff_of_get? hstage, hparent] at hreads
    obtain rfl := Option.some.inj hreads
    -- the parent is shared with another stage
    obtain ⟨child, hother⟩ := hasChild_iff.1 hchild
    obtain ⟨hne, hother⟩ := reads_remove_iff.1 hother
    exact .inr (.inr ⟨child, by simpa using hne, hother⟩)
  | case4 r handle stage hstage rest parent hparent hchild removed r' hrest ih =>
    -- the walk goes on from the parent, in the registry without the stage
    obtain ⟨chain, hchain, hstops, hnodup, hnil, heq⟩ := ih
    have hreads : r.Reads handle parent := (reads_iff_of_get? hstage).2 hparent
    have hnew : handle ∉ chain := by
      intro hmem
      obtain ⟨input, hinput⟩ := Option.ne_none_iff_exists'.1 (hchain.registered handle hmem)
      exact (input?_remove_eq_some_iff.1 hinput).1 rfl
    obtain ⟨rfl, rfl⟩ : removed = chain.length ∧ r' = rest.removeAll chain := by
      simpa [hrest] using heq
    have hunshared (child : StageHandle) : ¬ (r.remove handle).Reads child parent := fun h =>
      hchild (hasChild_iff.2 ⟨child, h⟩)
    refine ⟨handle :: chain, .cons hreads hunshared hchain, .cons hreads hnil.1 hchain hstops,
      List.nodup_cons.2 ⟨hnew, hnodup⟩, ?_, rfl⟩
    simp [hstage]

/-- Clearing the chain of a stage drops the longest private chain of the stage, and nothing else,
whatever the stages read from.

* The stages that go are those of one private chain. Whatever else is a private chain of the stage
  has no other stage on it, and if it has none on it twice, it is a beginning of that one. In a
  circle the walk ends where it began.
* The stages that go are counted, and none goes exactly if the stage is not registered.
* All other stages stay as they are, with their results.
* A function loses the stage that it has in the index exactly if that one goes, and so does the
  registry its current stage. -/
theorem clears_private_chain (r : StageRegistry) (handle : StageHandle) :
    let removed := (r.clearChain handle).1
    let r' := (r.clearChain handle).2
    ∃ chain, (r.PrivateChain handle chain ∧ chain.Nodup) ∧
      (∀ chain', r.PrivateChain handle chain' →
        chain' ⊆ chain ∧ (chain'.Nodup → chain' <+: chain)) ∧
      (removed = chain.length ∧ (removed = 0 ↔ r.get? handle = none)) ∧
      (∀ h, r'.get? h = if h ∈ chain then none else r.get? h) ∧
      (∀ f, r'.byFunction.get? f = (r.byFunction.get? f).filter (· ∉ chain)) ∧
      r'.current = r.current.filter (· ∉ chain) := by
  intro removed r'
  obtain ⟨chain, hchain, hstops, hnodup, hnil, heq⟩ := r.exists_clearChain_eq handle
  have hremoved : removed = chain.length := congrArg Prod.fst heq
  have hr' : r' = r.removeAll chain := congrArg Prod.snd heq
  refine ⟨chain, ⟨hchain, hnodup⟩, fun chain' hchain' => ?_, ⟨hremoved, ?_⟩, ?_, ?_, ?_⟩
  · have hsubset := hchain'.subset_of_stops hchain hnil.1 hstops
    exact ⟨hsubset, hchain'.prefix_of_subset hchain hsubset⟩
  · rw [hremoved, List.length_eq_zero_iff, hnil, input?_eq_none_iff]
  · rw [hr']
    exact r.get?_removeAll chain
  · rw [hr']
    exact r.byFunction_removeAll chain
  · rw [hr']
    exact r.current_removeAll chain

/-- A stage that reads from the given one. -/
def readerOf (parent : StageHandle) : Stage where
  task := .map
  function := ⟨⟨1⟩, ⟨["x"], [], fun args => .ok (args.headD .null), none⟩⟩
  input := .parent parent []

/-- Two stages that read from each other, and one that reads from a stage that is missing. -/
def circle : StageRegistry :=
  (((add {} (readerOf ⟨2⟩)).2.add (readerOf ⟨1⟩)).2.add (readerOf ⟨7⟩)).2

theorem clears_private_chain_circle :
    circle.PrivateChain ⟨1⟩ [⟨1⟩, ⟨2⟩] ∧ 2 ≤ (circle.clearChain ⟨1⟩).1 ∧
      (circle.clearChain ⟨1⟩).2.get? ⟨1⟩ = none ∧ (circle.clearChain ⟨1⟩).2.get? ⟨2⟩ = none := by
  have hround : circle.PrivateChain ⟨1⟩ [⟨1⟩, ⟨2⟩] := by
    refine .cons ⟨_, rfl, rfl⟩ (fun child hreads => ?_) (.singleton fun hnone => by cases hnone)
    have hchild := hasChild_iff.2 ⟨child, hreads⟩
    revert hchild
    decide
  obtain ⟨chain, -, hlongest, ⟨hcount, -⟩, hget, -⟩ := clears_private_chain circle ⟨1⟩
  obtain ⟨hsubset, hbeginning⟩ := hlongest _ hround
  refine ⟨hround, ?_, ?_, ?_⟩
  · rw [hcount]
    exact (hbeginning (by decide)).length_le
  · rw [hget, if_pos (hsubset (by simp))]
  · rw [hget, if_pos (hsubset (by simp))]

end TieredVectors.StageRegistry
