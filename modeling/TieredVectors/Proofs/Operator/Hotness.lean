import TieredVectors.Proofs.Operator.Mapping
import TieredVectors.Proofs.Operator.Provenance

/-!
# When a graph shows

A detector is asked for traces and graphs, told of candidates, and given graphs to hold in
readiness, for any entries and in any order. What it answers for the trace of an entry is a matter
of the script that it holds for that entry (`ScriptedDetector.scriptOf`), and of what has been asked
since the script was registered:

* `ScriptedDetector.scriptOf_perform` — what one request does to the script of an entry;
* `ScriptedDetector.scriptOf_after` — what any requests do to it that do not register it anew;
* `ScriptedDetector.shown_once_marked` — which of the requests for its graph are granted;
* `ScriptedDetector.early_mark_is_lost` — a mark does not outlive the next registration.
-/

namespace TieredVectors

namespace Script

/-- The answer to the next request for the graph. -/
def answer (s : Script) : Option Graph :=
  if s.candidate then if s.hotAfter ≤ s.probes + 1 then some s.graph else none else none

/-- The script once its graph has been asked for: only a candidate's is counted. -/
def asked (s : Script) : Script := if s.candidate then { s with probes := s.probes + 1 } else s

end Script

namespace ScriptedDetector

/-- What may be asked of a detector. -/
inductive Request where
  | register (entry : EntryId) (graph : Graph) (hotAfter : Nat)
  | mark (entry : EntryId)
  | traceOf (entry : EntryId)
  | probe (trace : TraceId)

namespace Request

/-- The detector after a request. -/
def perform (d : ScriptedDetector) : Request → ScriptedDetector
  | register entry graph hotAfter => (d.register entry graph hotAfter).2
  | mark entry => d.mark entry
  | traceOf entry => (d.traceOf entry).2
  | probe trace => (d.probe trace).2

/-- The request registers a graph for the entry. -/
def Registers (entry : EntryId) (request : Request) : Prop :=
  ∃ graph hotAfter, request = register entry graph hotAfter

/-- Whether the request asks for the graph of the trace. -/
def asks (trace : TraceId) : Request → Bool
  | probe asked => asked == trace
  | _ => false

/-- What a request that does not register the script of an entry anew notes in it. -/
def note (entry : EntryId) (trace : TraceId) (s : Script) : Request → Script
  | mark marked => if marked = entry then { s with candidate := true } else s
  | probe asked => if asked = trace then s.asked else s
  | _ => s

end Request

/-- The detector after a history of requests, oldest first. -/
def after (d : ScriptedDetector) (requests : List Request) : ScriptedDetector :=
  requests.foldl Request.perform d

/-- The script held in readiness for an entry. -/
def scriptOf (d : ScriptedDetector) (entry : EntryId) : Option Script :=
  (d.traces.get? entry).bind fun trace => d.scripts.get? trace

variable {d : ScriptedDetector} {e e' : EntryId} {t : TraceId} {request : Request}
  {requests : List Request} {registered : EntryId → Graph → Prop}

theorem scriptOf_of_trace (h : d.traces.get? e = some t) : d.scriptOf e = d.scripts.get? t := by
  rw [scriptOf, h, Option.bind_some]

theorem traceOf_of_trace (h : d.traces.get? e = some t) : d.traceOf e = (t, d) := by
  rw [traceOf, h]

/-- The trace of an entry is the entry's from then on. -/
theorem get?_traceOf (d : ScriptedDetector) (e : EntryId) :
    (d.traceOf e).2.traces.get? e = some (d.traceOf e).1 :=
  Detector.names_traceOf (.scripted d) e

/-- No script is held for a trace that no entry has been given yet. -/
theorem Owned.get?_next (h : d.Owned registered) : d.scripts.get? ⟨d.lastTrace + 1⟩ = none := by
  cases hscript : d.scripts.get? ⟨d.lastTrace + 1⟩ with
  | none => rfl
  | some script =>
    obtain ⟨e, he, -⟩ := h.scripts _ script hscript
    have hle : d.lastTrace + 1 ≤ d.lastTrace := h.bounded e _ he
    omega

/-! ## One request -/

/-- Giving an entry a trace changes no script. -/
theorem scriptOf_traceOf (h : d.Owned registered) (e' e : EntryId) :
    (d.traceOf e').2.scriptOf e = d.scriptOf e := by
  unfold traceOf
  split
  next => rfl
  next hnone =>
    simp only [scriptOf, Table.get?_insert]
    split
    next he =>
      -- the new trace has no script either
      rw [he, hnone, Option.bind_some, Option.bind_none]
      exact h.get?_next
    next => rfl

/-- A note in the script of one entry is in that of no other. -/
theorem scriptOf_modify (h : d.Owned registered) (ht : d.traces.get? e' = some t)
    (change : Script → Script) (marks : Nat) (e : EntryId) :
    scriptOf { d with scripts := d.scripts.modify t change, marks } e =
      if e = e' then (d.scriptOf e).map change else d.scriptOf e := by
  simp only [scriptOf]
  cases he : d.traces.get? e with
  | none => split <;> rfl
  | some t' =>
    rw [Option.bind_some, Option.bind_some, Table.get?_modify]
    by_cases hee : e = e'
    · subst hee
      obtain rfl := Option.some.inj (he.symm.trans ht)
      rw [if_pos rfl, if_pos rfl]
    · have hne : t' ≠ t := fun htt => hee (h.injective e e' t (htt ▸ he) ht)
      rw [if_neg hee, if_neg hne]

theorem scriptOf_mark (h : d.Owned registered) (e' e : EntryId) :
    (d.mark e').scriptOf e =
      if e = e' then (d.scriptOf e).map fun s => { s with candidate := true }
      else d.scriptOf e := by
  have hnote := scriptOf_modify (h.traceOf e') (d.get?_traceOf e')
    (fun s => { s with candidate := true }) ((d.traceOf e').2.marks + 1) e
  rw [scriptOf_traceOf h] at hnote
  exact hnote

/-- A script that is registered starts over. -/
theorem scriptOf_register (h : d.Owned registered) (e' : EntryId) (graph : Graph) (hotAfter : Nat)
    (e : EntryId) :
    (d.register e' graph hotAfter).2.scriptOf e =
      if e = e' then some { graph, hotAfter } else d.scriptOf e := by
  have ht := d.get?_traceOf e'
  have howned := h.traceOf e'
  rw [← scriptOf_traceOf h e' e]
  simp only [register, scriptOf]
  cases he : (d.traceOf e').2.traces.get? e with
  | none =>
    have hne : e ≠ e' := by
      rintro rfl
      rw [ht] at he
      cases he
    rw [if_neg hne]
    rfl
  | some t' =>
    rw [Option.bind_some, Option.bind_some, Table.get?_insert]
    by_cases hee : e = e'
    · subst hee
      obtain rfl := Option.some.inj (he.symm.trans ht)
      rw [if_pos rfl, if_pos rfl]
    · have hne : t' ≠ (d.traceOf e').1 := fun htt => hee (howned.injective e e' _ (htt ▸ he) ht)
      rw [if_neg hee, if_neg hne]

/-- A request for a graph is noted in the script of the trace, if that is a candidate's. -/
theorem scripts_probe (d : ScriptedDetector) (asked t : TraceId) :
    (d.probe asked).2.scripts.get? t =
      if t = asked then (d.scripts.get? t).map Script.asked else d.scripts.get? t := by
  unfold probe
  cases hscript : d.scripts.get? asked with
  | none => split <;> simp_all
  | some s =>
    by_cases ht : t = asked
    · subst ht
      by_cases hcandidate : s.candidate <;> simp [hscript, Script.asked, hcandidate]
    · by_cases hcandidate : s.candidate <;> simp [ht, hcandidate]

theorem traces_probe (d : ScriptedDetector) (asked : TraceId) :
    (d.probe asked).2.traces = d.traces := by
  unfold probe
  split
  · rfl
  · split <;> rfl

/-- The answer for the trace of an entry is that of the entry's script, if there is one. -/
theorem probe_traceOf (h : d.Owned registered) (e : EntryId) :
    (d.probe (d.traceOf e).1).1 = (d.scriptOf e).bind Script.answer := by
  have hprobe (t : TraceId) : (d.probe t).1 = (d.scripts.get? t).bind Script.answer := by
    unfold probe
    cases d.scripts.get? t with
    | none => rfl
    | some s => by_cases hcandidate : s.candidate <;> simp [Script.answer, hcandidate]
  cases ht : d.traces.get? e with
  | some t => rw [traceOf_of_trace ht, scriptOf_of_trace ht, hprobe]
  | none =>
    -- an entry that has no trace would be given a new one
    have hnext : (d.traceOf e).1 = ⟨d.lastTrace + 1⟩ := by rw [traceOf, ht]
    rw [hnext, hprobe, h.get?_next, scriptOf, ht]
    rfl

/-- Traces keep their owners, whatever is asked. -/
theorem Owned.perform (h : d.Owned fun _ _ => True) (request : Request) :
    (request.perform d).Owned fun _ _ => True := by
  cases request with
  | register entry graph hotAfter => exact h.register trivial hotAfter
  | mark entry => exact h.mark entry
  | traceOf entry => exact h.traceOf entry
  | probe trace => exact h.probe trace

/-- An entry that has a trace keeps it. -/
theorem traces_perform (ht : d.traces.get? e = some t) (request : Request) :
    (request.perform d).traces.get? e = some t := by
  have hnames : (Detector.scripted d).Names e t := ht
  cases request with
  | register entry graph hotAfter => exact hnames.traceOf entry
  | mark entry => exact hnames.mark entry
  | traceOf entry => exact hnames.traceOf entry
  | probe trace => exact hnames.probe trace

/-- What a request does to the script of an entry, unless it registers it anew. -/
theorem scriptOf_perform (h : d.Owned registered) (hnot : ¬ request.Registers e) :
    (request.perform d).scriptOf e =
      (d.scriptOf e).map fun s => request.note e (d.traceOf e).1 s := by
  cases request with
  | register e' graph hotAfter =>
    have hne : e ≠ e' := by
      rintro rfl
      exact hnot ⟨graph, hotAfter, rfl⟩
    rw [Request.perform, scriptOf_register h, if_neg hne]
    exact Option.map_id'.symm
  | mark e' =>
    rw [Request.perform, scriptOf_mark h]
    by_cases he : e' = e
    · simp [Request.note, he]
    · simp [Request.note, he, Ne.symm he]
  | traceOf e' =>
    rw [Request.perform, scriptOf_traceOf h]
    exact Option.map_id'.symm
  | probe asked =>
    rw [Request.perform]
    cases ht : d.traces.get? e with
    | none =>
      rw [scriptOf, scriptOf, traces_probe, ht]
      rfl
    | some t =>
      rw [scriptOf, traces_probe, ht, Option.bind_some, scripts_probe, traceOf_of_trace ht,
        scriptOf_of_trace ht]
      by_cases hasked : t = asked
      · simp [Request.note, hasked]
      · simp [Request.note, hasked, Ne.symm hasked]

/-! ## Histories of requests -/

theorem after_cons (d : ScriptedDetector) (request : Request) (later : List Request) :
    d.after (request :: later) = (request.perform d).after later :=
  rfl

theorem after_append (d : ScriptedDetector) (earlier later : List Request) :
    d.after (earlier ++ later) = (d.after earlier).after later :=
  List.foldl_append

theorem Owned.after (h : d.Owned fun _ _ => True) (requests : List Request) :
    (d.after requests).Owned fun _ _ => True := by
  induction requests generalizing d with
  | nil => exact h
  | cons request later ih => exact ih (h.perform request)

theorem traces_after (ht : d.traces.get? e = some t) (requests : List Request) :
    (d.after requests).traces.get? e = some t := by
  induction requests generalizing d with
  | nil => exact ht
  | cons request later ih => exact ih (traces_perform ht request)

/-- No script comes from nowhere. -/
theorem scriptOf_after_of_none (h : d.Owned fun _ _ => True) (hnone : d.scriptOf e = none)
    (hnot : ∀ request ∈ requests, ¬ request.Registers e) :
    (d.after requests).scriptOf e = none := by
  induction requests generalizing d with
  | nil => exact hnone
  | cons request later ih =>
    rw [List.forall_mem_cons] at hnot
    refine ih (h.perform request) ?_ hnot.2
    rw [scriptOf_perform h hnot.1, hnone, Option.map_none]

/-- Requests are noted one after the other in a script that is not registered anew. -/
theorem scriptOf_after (h : d.Owned fun _ _ => True) (ht : d.traces.get? e = some t) {s : Script}
    (hs : d.scriptOf e = some s) (hnot : ∀ request ∈ requests, ¬ request.Registers e) :
    (d.after requests).scriptOf e = some (requests.foldl (Request.note e t) s) := by
  -- each request leaves a script with one more note, and the trace of the entry as it was
  induction requests generalizing d s with
  | nil => exact hs
  | cons request later ih =>
    rw [List.forall_mem_cons] at hnot
    refine ih (h.perform request) (traces_perform ht request) ?_ hnot.2
    rw [scriptOf_perform h hnot.1, hs, Option.map_some, traceOf_of_trace ht]

/-! ## Notes in a script -/

/-- As long as its entry is not marked, nothing is noted in a new script. -/
theorem foldl_note_of_unmarked {s : Script} (hs : s.candidate = false)
    (hnot : Request.mark e ∉ requests) : requests.foldl (Request.note e t) s = s := by
  induction requests with
  | nil => rfl
  | cons request later ih =>
    rw [List.mem_cons, not_or] at hnot
    have hnote : request.note e t s = s := by
      cases request with
      | mark marked =>
        have hne : marked ≠ e := fun he => hnot.1 (he ▸ rfl)
        rw [Request.note, if_neg hne]
      | probe asked => simp [Request.note, Script.asked, hs]
      | _ => rfl
    rw [List.foldl_cons, hnote]
    exact ih hnot.2

/-- Once its entry is marked, a script counts how often its graph is asked for. -/
theorem foldl_note_of_marked {s : Script} (hs : s.candidate = true) :
    requests.foldl (Request.note e t) s =
      { s with probes := s.probes + requests.countP (Request.asks t) } := by
  induction requests generalizing s with
  | nil => rfl
  | cons request later ih =>
    have hnote : request.note e t s =
        { s with probes := s.probes + if request.asks t then 1 else 0 } := by
      cases request with
      | mark marked =>
        -- another mark changes nothing
        have hmarked : { s with candidate := true } = s := by rw [← hs]
        simp [Request.note, Request.asks, hmarked]
      | probe asked =>
        by_cases ht : asked = t
        · simp [Request.note, Request.asks, Script.asked, hs, ht]
        · simp only [Request.note, Request.asks, ht, beq_iff_eq, if_false, Nat.add_zero]
      | _ => rfl
    rw [List.foldl_cons, ih (by rw [hnote]; exact hs), hnote, List.countP_cons]
    simp only [Script.mk.injEq, true_and, and_true]
    omega

/-- Of the requests that register a graph for an entry one is the last. -/
theorem exists_last_registration (h : ∃ request ∈ requests, request.Registers e) :
    ∃ before graph hotAfter since, requests = before ++ .register e graph hotAfter :: since ∧
      ∀ request ∈ since, ¬ request.Registers e := by
  induction requests with
  | nil =>
    obtain ⟨request, hmem, -⟩ := h
    cases hmem
  | cons request later ih =>
    by_cases hlater : ∃ request ∈ later, request.Registers e
    · obtain ⟨before, graph, hotAfter, since, rfl, hlast⟩ := ih hlater
      exact ⟨request :: before, graph, hotAfter, since, rfl, hlast⟩
    · obtain ⟨request', hmem, hregisters⟩ := h
      rcases List.mem_cons.1 hmem with rfl | hmem
      · obtain ⟨graph, hotAfter, rfl⟩ := hregisters
        exact ⟨[], graph, hotAfter, later, rfl,
          fun request hmem hreg => hlater ⟨request, hmem, hreg⟩⟩
      · exact absurd ⟨request', hmem, hregisters⟩ hlater

/-- What has been asked since a script was registered last is all that is noted in it. -/
theorem scriptOf_of_last_registration {before since : List Request} {graph : Graph} {hotAfter : Nat}
    (hsplit : requests = before ++ .register e graph hotAfter :: since)
    (hlast : ∀ request ∈ since, ¬ request.Registers e) :
    (after {} requests).scriptOf e = some
      (since.foldl (Request.note e ((after {} requests).traceOf e).1) { graph, hotAfter }) := by
  have howned : (after {} before).Owned fun _ _ => True := (Owned.empty _).after before
  have hafter : after {} requests =
      ((Request.register e graph hotAfter).perform (after {} before)).after since := by
    rw [hsplit, after_append]
    rfl
  have ht : ((Request.register e graph hotAfter).perform (after {} before)).traces.get? e =
      some ((after {} before).traceOf e).1 := get?_traceOf _ e
  have hnew : ((Request.register e graph hotAfter).perform (after {} before)).scriptOf e =
      some { graph, hotAfter } := by
    rw [Request.perform, scriptOf_register howned, if_pos rfl]
  rw [hafter, traceOf_of_trace (traces_after ht since)]
  exact scriptOf_after (howned.perform _) ht hnew hlast

/-! ## Which requests are granted -/

/-- Take any requests to a new detector, and ask it then for the graph of an entry's trace.

* It has none to give if the entry was never marked, or no graph was ever registered for it.
* Otherwise the graph registered last counts. As long as the entry has not been marked since, the
  graph does not show, whether or not the entry was marked before.
* From the first mark since then on, requests for the graph are counted: the `max 1 hotAfter`-th and
  every later one is granted, and those before it are not. -/
theorem shown_once_marked (requests : List Request) (e : EntryId) :
    let d := after {} requests
    let answer := (d.probe (d.traceOf e).1).1
    (.mark e ∉ requests ∨ (∀ request ∈ requests, ¬ request.Registers e) → answer = none) ∧
    ∀ before graph hotAfter since, requests = before ++ .register e graph hotAfter :: since →
      (∀ request ∈ since, ¬ request.Registers e) →
      (.mark e ∉ since → answer = none) ∧
      ∀ idle counted, since = idle ++ .mark e :: counted → .mark e ∉ idle →
        answer = if max 1 hotAfter ≤ counted.countP (Request.asks (d.traceOf e).1) + 1
          then some graph else none := by
  intro d answer
  have howned : d.Owned fun _ _ => True := (Owned.empty _).after requests
  have hanswer : answer = (d.scriptOf e).bind Script.answer := probe_traceOf howned e
  -- only marks since the last registration count
  have hunmarked (before : List Request) (graph : Graph) (hotAfter : Nat) (since : List Request)
      (hsplit : requests = before ++ .register e graph hotAfter :: since)
      (hlast : ∀ request ∈ since, ¬ request.Registers e) (hnot : .mark e ∉ since) :
      answer = none := by
    rw [hanswer, scriptOf_of_last_registration hsplit hlast, foldl_note_of_unmarked rfl hnot]
    rfl
  refine ⟨fun hnever => ?_, fun before graph hotAfter since hsplit hlast =>
    ⟨hunmarked before graph hotAfter since hsplit hlast, fun idle counted hsince hidle => ?_⟩⟩
  · by_cases hregistered : ∀ request ∈ requests, ¬ request.Registers e
    · rw [hanswer, scriptOf_after_of_none (.empty _) rfl hregistered]
      rfl
    · have hmark := hnever.resolve_right hregistered
      have hexists : ∃ request ∈ requests, request.Registers e := by
        by_contra hnone
        exact hregistered fun request hmem hreg => hnone ⟨request, hmem, hreg⟩
      obtain ⟨before, graph, hotAfter, since, hsplit, hlast⟩ := exists_last_registration hexists
      refine hunmarked before graph hotAfter since hsplit hlast fun hmem => hmark ?_
      rw [hsplit]
      exact List.mem_append_right _ (List.mem_cons_of_mem _ hmem)
  · have hnotes : since.foldl (Request.note e (d.traceOf e).1) { graph, hotAfter } =
        { graph, hotAfter, probes := counted.countP (Request.asks (d.traceOf e).1),
          candidate := true } := by
      rw [hsince, List.foldl_append, foldl_note_of_unmarked rfl hidle, List.foldl_cons,
        Request.note, if_pos rfl, foldl_note_of_marked rfl]
      simp
    rw [hanswer, scriptOf_of_last_registration hsplit hlast, hnotes, Option.bind_some,
      Script.answer, if_pos rfl]
    -- the request itself is the first, so that nothing shows before the first one
    have hfirst (count : Nat) : hotAfter ≤ count + 1 ↔ max 1 hotAfter ≤ count + 1 := by omega
    exact if_congr (hfirst _) rfl rfl

/-- The requests of a run in which `increment` is marked both before and after its graph is
registered, while the graph of another entry is asked for as well. -/
def hotHistory : List Request :=
  [.mark ⟨⟨0⟩, 0⟩, .register ⟨⟨0⟩, 0⟩ Operator.incrementGraph 2, .probe ⟨1⟩, .mark ⟨⟨1⟩, 0⟩,
    .mark ⟨⟨0⟩, 0⟩, .probe ⟨1⟩, .probe ⟨2⟩]

theorem shown_once_marked_increment :
    let d := after {} hotHistory
    (∀ request ∈ hotHistory.drop 2, ¬ request.Registers ⟨⟨0⟩, 0⟩) ∧
      .mark ⟨⟨0⟩, 0⟩ ∉ (hotHistory.drop 2).take 2 ∧
      (d.probe (d.traceOf ⟨⟨0⟩, 0⟩).1).1 = some Operator.incrementGraph ∧
      (d.probe (d.traceOf ⟨⟨1⟩, 0⟩).1).1 = none := by
  have hlast : ∀ request ∈ hotHistory.drop 2, ¬ request.Registers ⟨⟨0⟩, 0⟩ := by
    simp [hotHistory, Request.Registers]
  have hidle : .mark ⟨⟨0⟩, 0⟩ ∉ (hotHistory.drop 2).take 2 := by simp [hotHistory]
  have hother : ∀ request ∈ hotHistory, ¬ request.Registers ⟨⟨1⟩, 0⟩ := by
    simp [hotHistory, Request.Registers]
  refine ⟨hlast, hidle, ?_, (shown_once_marked hotHistory ⟨⟨1⟩, 0⟩).1 (.inr hother)⟩
  exact ((shown_once_marked hotHistory ⟨⟨0⟩, 0⟩).2 [.mark ⟨⟨0⟩, 0⟩] Operator.incrementGraph 2
    (hotHistory.drop 2) rfl hlast).2 ((hotHistory.drop 2).take 2) [.probe ⟨1⟩, .probe ⟨2⟩] rfl hidle

/-- A mark does not wait for a graph: an entry that was marked before its graph was registered is no
candidate, however often the graph is asked for. -/
theorem early_mark_is_lost :
    let d := after {} [.mark ⟨⟨0⟩, 0⟩, .register ⟨⟨0⟩, 0⟩ Operator.incrementGraph 1]
    (d.traceOf ⟨⟨0⟩, 0⟩).1 = ⟨1⟩ ∧
      ∀ asked, ((d.after (List.replicate asked (.probe ⟨1⟩))).probe ⟨1⟩).1 = none := by
  intro d
  refine ⟨rfl, fun asked => ?_⟩
  -- without a mark since the registration, the detector stays as it is
  have hsame : d.after (List.replicate asked (.probe ⟨1⟩)) = d := by
    induction asked with
    | zero => rfl
    | succ asked ih => exact ih
  rw [hsame]
  rfl

end ScriptedDetector

end TieredVectors
