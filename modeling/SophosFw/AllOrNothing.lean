import SophosFw.Runs
import Mathlib.Data.List.Basic
import Mathlib.Data.List.ReduceOption

/-!
Running awaitables concurrently, all or nothing: `_all_or_nothing` on top of `asyncio.gather`.

The tasks end in any order and in any way, also after they were asked to stop, some of them
already when they are made; the caller may be cancelled at any time, more than once.
-/

namespace SophosFw.AllOrNothing

open SophosFw.Runs

inductive Exc (E : Type)
  | error (e : E)
  | cancelledError

/-- How a task ends, and a gathering, too. -/
abbrev End (α E : Type) := Except (Exc E) α

/-- Where `_all_or_nothing` is. -/
inductive Phase (α E : Type)
  /-- `await asyncio.gather(*tasks)` -/
  | gathering
  /-- `await asyncio.gather(*tasks, return_exceptions=True)`, about to raise `exc` again -/
  | clearing (exc : Exc E)
  | ended (result : End (List α) E)

structure Task (α E : Type) where
  result : Option (End α E)
  /-- It was cancelled while it ran. -/
  asked : Bool

/-- The gathering that is awaited, and the tasks. -/
structure State (α E : Type) where
  tasks : List (Task α E)
  phase : Phase α E
  /-- `outer` of `gather`. -/
  outer : Option (End (List α) E)
  /-- The gathering was cancelled while it waited. -/
  cancelRequested : Bool
  /-- The caller was cancelled when there was nothing left to wait for. -/
  mustCancel : Bool

inductive Event (α E : Type)
  | finish (k : ℕ) (result : End α E)
  | cancel
  | resume

variable {α E : Type}

namespace Task

def done (t : Task α E) : Bool := t.result.isSome

/-- `task.cancel()`. -/
def cancel (t : Task α E) : Task α E :=
  match t.result with
  | some _ => t
  | none => { t with asked := true }

end Task

/-- The results in order, if every task returned. -/
def results : List (Task α E) → Option (List α)
  | [] => some []
  | t :: tasks =>
    match t.result with
    | some (.ok a) => (results tasks).map fun rs => a :: rs
    | _ => none

/-- `_done_callback` of `gather`, for a task that ended like this; `tasks` already says so. -/
def doneCallback (tasks : List (Task α E)) (cancelRequested : Bool)
    (outer : Option (End (List α) E)) (result : End α E) : Option (End (List α) E) :=
  match outer, result with
  | some r, _ => some r
  | none, .error exc => some (.error exc)
  | none, .ok _ =>
    match results tasks with
    | none => none
    | some rs => if cancelRequested then some (.error .cancelledError) else some (.ok rs)

/-- `_done_callback` of `gather(..., return_exceptions=True)`; what the tasks returned is not
looked at. -/
def doneCallbackAll (tasks : List (Task α E)) (cancelRequested : Bool)
    (outer : Option (End (List α) E)) : Option (End (List α) E) :=
  match outer with
  | some r => some r
  | none =>
    if tasks.all Task.done then
      some (if cancelRequested then .error .cancelledError else .ok [])
    else none

/-- `ensure_future` and `gather`; a task may end before it is awaited. -/
def start (early : List (Option (End α E))) : State α E :=
  let tasks := early.map fun r => ⟨r, false⟩
  { tasks
    phase := .gathering
    outer :=
      if early.isEmpty then some (.ok [])
      else early.reduceOption.foldl (doneCallback tasks false) none
    cancelRequested := false
    mustCancel := false }

namespace State

/-- The `except` branch: every task is cancelled, and a second gathering waits for them. -/
def clear (s : State α E) (exc : Exc E) : State α E where
  tasks := s.tasks.map Task.cancel
  phase := .clearing exc
  outer := doneCallbackAll (s.tasks.map Task.cancel) false none
  cancelRequested := false
  mustCancel := false

/-- The caller of `_all_or_nothing` goes on. -/
def wake (s : State α E) (r : End (List α) E) : State α E :=
  let r := if s.mustCancel then .error .cancelledError else r
  match s.phase, r with
  | .gathering, .ok rs => { s with phase := .ended (.ok rs), mustCancel := false }
  | .gathering, .error exc => s.clear exc
  | .clearing exc, .ok _ => { s with phase := .ended (.error exc), mustCancel := false }
  | .clearing _, .error exc => { s with phase := .ended (.error exc), mustCancel := false }
  | .ended _, _ => s

def step (s : State α E) : Event α E → Option (State α E)
  | .finish k result =>
    match s.tasks[k]? with
    | some t =>
      if t.done then none
      else
        let tasks := s.tasks.set k { t with result := some result }
        let outer := match s.phase with
          | .gathering => doneCallback tasks s.cancelRequested s.outer result
          | .clearing _ => doneCallbackAll tasks s.cancelRequested s.outer
          | .ended _ => s.outer
        some { s with tasks, outer }
    | none => none
  | .cancel =>
    match s.phase, s.outer with
    | .ended _, _ => none
    | _, some _ => some { s with mustCancel := true }
    | _, none => some { s with tasks := s.tasks.map Task.cancel, cancelRequested := true }
  | .resume =>
    match s.phase, s.outer with
    | .ended _, _ => none
    | _, some r => some (s.wake r)
    | _, none => none

end State

def errorOf : End α E → Option (Exc E)
  | .ok _ => none
  | .error exc => some exc

/-- How the event ends a task. -/
def Event.result : Event α E → Option (End α E)
  | .finish _ r => some r
  | .cancel | .resume => none

/-- The failures of the tasks, in the order in which they ended. -/
def failures (early : List (Option (End α E))) (es : List (Event α E)) : List (Exc E) :=
  (early.reduceOption ++ es.filterMap Event.result).filterMap errorOf

/-- What may be raised: the first failure, or the cancellation of the caller. -/
def Blamed (early : List (Option (End α E))) (es : List (Event α E)) (exc : Exc E) : Prop :=
  (failures early es).head? = some exc ∨ (exc = .cancelledError ∧ .cancel ∈ es)

section Failures

variable {early : List (Option (End α E))} {es : List (Event α E)} {exc : Exc E}

lemma failures_snoc (e : Event α E) :
    failures early (es ++ [e]) = failures early es ++ (e.result.bind errorOf).toList := by
  unfold failures
  rw [List.filterMap_append (l := es), ← List.append_assoc, List.filterMap_append]
  congr 1
  cases h : e.result with
  | none => simp [h]
  | some r => cases hr : errorOf r <;> simp [h, hr]

lemma Blamed.snoc (h : Blamed early es exc) (e : Event α E) : Blamed early (es ++ [e]) exc := by
  rcases h with h | ⟨rfl, h⟩
  · left
    rw [failures_snoc, List.head?_append, h]
    rfl
  · exact Or.inr ⟨rfl, List.mem_append_left _ h⟩

lemma blamed_finish {k : ℕ} (h : failures early es = []) :
    Blamed early (es ++ [.finish k (.error exc)]) exc := by
  left
  rw [failures_snoc, h]
  rfl

lemma results_eq_some {tasks : List (Task α E)} {rs : List α} :
    results tasks = some rs ↔ tasks.map (·.result) = rs.map fun r => some (.ok r) := by
  induction tasks generalizing rs with
  | nil => cases rs <;> simp [results]
  | cons t tasks ih =>
    rcases ht : t.result with _ | _ | a
    · cases rs <;> simp [results, ht]
    · cases rs <;> simp [results, ht]
    · cases rs with
      | nil => simp [results, ht]
      | cons r rs =>
        have hcomm : a = r ∧ results tasks = some rs ↔ results tasks = some rs ∧ a = r := and_comm
        simp [results, ht, ← ih, hcomm]

lemma exists_of_results_none {tasks : List (Task α E)} (h : results tasks = none) :
    ∃ t ∈ tasks, t.result = none ∨ ∃ exc, t.result = some (.error exc) := by
  induction tasks with
  | nil => simp [results] at h
  | cons t tasks ih =>
    rcases ht : t.result with _ | exc | a
    · exact ⟨t, List.mem_cons_self, Or.inl ht⟩
    · exact ⟨t, List.mem_cons_self, Or.inr ⟨exc, ht⟩⟩
    · obtain ⟨u, hu, hres⟩ := ih (by simpa [results, ht] using h)
      exact ⟨u, List.mem_cons_of_mem _ hu, hres⟩

end Failures

/-! ### What holds at every moment -/

section Invariant

variable {early : List (Option (End α E))} {es : List (Event α E)} {s s' : State α E}

/-- What the awaited gathering says of the tasks. -/
def Gathered (early : List (Option (End α E))) (es : List (Event α E))
    (tasks : List (Task α E)) : Option (End (List α) E) → Prop
  | none => failures early es = [] ∧ ∃ t ∈ tasks, t.done = false
  | some (.ok rs) => results tasks = some rs
  | some (.error exc) => Blamed early es exc

/-- What the second gathering says of them. -/
def Cleared (es : List (Event α E)) (tasks : List (Task α E)) :
    Option (End (List α) E) → Prop
  | none => ∃ t ∈ tasks, t.done = false
  | some r => (∀ t ∈ tasks, t.done = true) ∧
      ∀ exc, r = .error exc → exc = .cancelledError ∧ .cancel ∈ es

def InPhase (early : List (Option (End α E))) (es : List (Event α E)) (tasks : List (Task α E))
    (outer : Option (End (List α) E)) : Phase α E → Prop
  | .gathering => Gathered early es tasks outer
  | .clearing exc => Blamed early es exc ∧ Cleared es tasks outer ∧
      ∀ t ∈ tasks, t.done = true ∨ t.asked = true
  | .ended (.ok rs) => results tasks = some rs
  | .ended (.error exc) => Blamed early es exc ∧ ∀ t ∈ tasks, t.done = true

structure Inv (early : List (Option (End α E))) (es : List (Event α E)) (s : State α E) :
    Prop where
  inPhase : InPhase early es s.tasks s.outer s.phase
  /-- The tasks that failed are among the failures. -/
  failed : ∀ t ∈ s.tasks, ∀ exc, t.result = some (.error exc) → exc ∈ failures early es
  requested : s.cancelRequested = true → .cancel ∈ es
  must : s.mustCancel = true → .cancel ∈ es

lemma done_of_results {tasks : List (Task α E)} {rs : List α} (h : results tasks = some rs) :
    ∀ t ∈ tasks, t.done = true := by
  intro t ht
  have hmem : t.result ∈ rs.map fun r => (some (.ok r) : Option (End α E)) := by
    rw [← results_eq_some.mp h]
    exact List.mem_map_of_mem ht
  obtain ⟨r, -, hr⟩ := List.mem_map.mp hmem
  simp [Task.done, ← hr]

lemma running_of_results_none {tasks : List (Task α E)} {fs : List (Exc E)}
    (h : results tasks = none) (hfs : fs = [])
    (hfailed : ∀ t ∈ tasks, ∀ exc, t.result = some (.error exc) → exc ∈ fs) :
    ∃ t ∈ tasks, t.done = false := by
  obtain ⟨t, ht, hnone | ⟨exc, hexc⟩⟩ := exists_of_results_none h
  · exact ⟨t, ht, by simp [Task.done, hnone]⟩
  · have hmem := hfailed t ht exc hexc
    simp [hfs] at hmem

/-- The callbacks of the tasks that were done when the gathering was made. -/
lemma foldl_doneCallback (tasks : List (Task α E)) (ends : List (End α E)) :
    match ends.foldl (doneCallback tasks false) none with
    | none => ends.filterMap errorOf = [] ∧ (ends = [] ∨ results tasks = none)
    | some (.ok rs) => results tasks = some rs
    | some (.error exc) => (ends.filterMap errorOf).head? = some exc := by
  have stays (r : End (List α) E) (ends : List (End α E)) :
      ends.foldl (doneCallback tasks false) (some r) = some r := by
    induction ends with
    | nil => rfl
    | cons e ends ih => exact ih
  induction ends with
  | nil => exact ⟨rfl, Or.inl rfl⟩
  | cons e ends ih =>
    rw [List.foldl_cons]
    cases e with
    | error exc =>
      rw [doneCallback, stays]
      rfl
    | ok a =>
      cases hr : results tasks with
      | some rs =>
        simp only [doneCallback, hr, Bool.false_eq_true, if_false, stays]
      | none =>
        -- nothing is decided by this task; the others decide
        rw [show doneCallback tasks false none (.ok a) = none by simp only [doneCallback, hr]]
        rcases ho : ends.foldl (doneCallback tasks false) none with _ | exc | rs
        · rw [ho] at ih
          exact ⟨ih.1, Or.inr rfl⟩
        · rw [ho] at ih
          exact ih
        · rw [ho] at ih
          exact hr.symm.trans ih

lemma failed_early {t : Task α E} {exc : Exc E}
    (ht : t ∈ early.map fun r => (⟨r, false⟩ : Task α E)) (hexc : t.result = some (.error exc)) :
    exc ∈ early.reduceOption.filterMap errorOf := by
  obtain ⟨r, hr, rfl⟩ := List.mem_map.mp ht
  have hr' : r = some (.error exc) := hexc
  refine List.mem_filterMap.mpr ⟨.error exc, ?_, rfl⟩
  rw [List.reduceOption_mem_iff, ← hr']
  exact hr

lemma inv_start : Inv early [] (start early) where
  inPhase := by
    cases early with
    | nil => exact rfl
    | cons r early =>
      set tasks : List (Task α E) := (r :: early).map fun r => ⟨r, false⟩ with htasks
      have hgather := foldl_doneCallback tasks (r :: early).reduceOption
      have hfailures : failures (r :: early) ([] : List (Event α E)) =
          (r :: early).reduceOption.filterMap errorOf := by simp [failures]
      change Gathered (r :: early) [] tasks
        ((r :: early).reduceOption.foldl (doneCallback tasks false) none)
      rcases ho : (r :: early).reduceOption.foldl (doneCallback tasks false) none
        with _ | exc | rs
      · rw [ho] at hgather
        obtain ⟨hnone, hends⟩ := hgather
        refine ⟨hfailures.trans hnone, ?_⟩
        rcases hends with hends | hres
        · -- no task was done yet
          refine ⟨⟨r, false⟩, List.mem_cons_self, ?_⟩
          cases r with
          | none => rfl
          | some r => simp [List.reduceOption] at hends
        · exact running_of_results_none hres hnone fun t ht exc hexc => failed_early ht hexc
      · rw [ho] at hgather
        exact Or.inl (by rw [hfailures]; exact hgather)
      · rw [ho] at hgather
        exact hgather
  failed t ht exc hexc := by simpa [failures] using failed_early ht hexc
  requested h := nomatch h
  must h := nomatch h

lemma done_cancel (t : Task α E) : t.cancel.done = t.done := by
  unfold Task.cancel
  split <;> rfl

lemma result_cancel (t : Task α E) : t.cancel.result = t.result := by
  unfold Task.cancel
  split <;> rfl

lemma asked_cancel (t : Task α E) : t.cancel.done = true ∨ t.cancel.asked = true := by
  unfold Task.cancel
  split
  · next r hr => exact Or.inl (by simp [Task.done, hr])
  · exact Or.inr rfl

lemma exists_running_cancel {tasks : List (Task α E)} (h : ∃ t ∈ tasks, t.done = false) :
    ∃ t ∈ tasks.map Task.cancel, t.done = false := by
  obtain ⟨t, ht, hdone⟩ := h
  exact ⟨t.cancel, List.mem_map_of_mem ht, (done_cancel t).trans hdone⟩

lemma Inv.failed_cancel (h : Inv early es s) (e : Event α E) :
    ∀ t ∈ s.tasks.map Task.cancel, ∀ exc, t.result = some (.error exc) →
      exc ∈ failures early (es ++ [e]) := by
  intro t ht exc hexc
  obtain ⟨u, hu, rfl⟩ := List.mem_map.mp ht
  rw [failures_snoc]
  exact List.mem_append_left _ (h.failed u hu exc ((result_cancel u).symm.trans hexc))

lemma Gathered.idle {tasks : List (Task α E)} {outer : Option (End (List α) E)}
    {e : Event α E} (h : Gathered early es tasks outer) (he : e.result = none) :
    Gathered early (es ++ [e]) tasks outer := by
  rcases outer with _ | exc | rs
  · exact ⟨by simpa [failures_snoc, he] using h.1, h.2⟩
  · exact Blamed.snoc h e
  · exact h

lemma Cleared.mono {tasks : List (Task α E)} {outer : Option (End (List α) E)} (e : Event α E)
    (h : Cleared es tasks outer) : Cleared (es ++ [e]) tasks outer := by
  cases outer with
  | none => exact h
  | some r =>
    refine ⟨h.1, fun exc hr => ?_⟩
    obtain ⟨hexc, hmem⟩ := h.2 exc hr
    exact ⟨hexc, List.mem_append_left _ hmem⟩

lemma Inv.failed_snoc (h : Inv early es s) (e : Event α E) :
    ∀ t ∈ s.tasks, ∀ exc, t.result = some (.error exc) → exc ∈ failures early (es ++ [e]) := by
  intro t ht exc hexc
  rw [failures_snoc]
  exact List.mem_append_left _ (h.failed t ht exc hexc)

lemma Inv.cancel (h : Inv early es s) (hs : s.step .cancel = some s') :
    Inv early (es ++ [.cancel]) s' := by
  have hmem : Event.cancel ∈ es ++ [(.cancel : Event α E)] := by simp
  have hin := h.inPhase
  cases hp : s.phase with
  | ended r => simp [State.step, hp] at hs
  | gathering =>
    rw [hp] at hin
    cases ho : s.outer with
    | some r =>
      obtain rfl : { s with mustCancel := true } = s' := by simpa [State.step, hp, ho] using hs
      refine ⟨?_, h.failed_snoc _, fun _ => hmem, fun _ => hmem⟩
      rw [hp]
      exact Gathered.idle hin rfl
    | none =>
      obtain rfl : { s with tasks := s.tasks.map Task.cancel, cancelRequested := true } = s' := by
        simpa [State.step, hp, ho] using hs
      refine ⟨?_, h.failed_cancel _, fun _ => hmem, fun _ => hmem⟩
      rw [ho] at hin
      have hgathered : Gathered early es s.tasks none := hin
      obtain ⟨hnone, hrun⟩ := hgathered.idle (e := .cancel) rfl
      simp only [hp, ho]
      exact ⟨hnone, exists_running_cancel hrun⟩
  | clearing exc =>
    rw [hp] at hin
    obtain ⟨hblamed, hcleared, hasked⟩ := hin
    cases ho : s.outer with
    | some r =>
      obtain rfl : { s with mustCancel := true } = s' := by simpa [State.step, hp, ho] using hs
      refine ⟨?_, h.failed_snoc _, fun _ => hmem, fun _ => hmem⟩
      rw [hp]
      exact ⟨hblamed.snoc _, hcleared.mono _, hasked⟩
    | none =>
      obtain rfl : { s with tasks := s.tasks.map Task.cancel, cancelRequested := true } = s' := by
        simpa [State.step, hp, ho] using hs
      refine ⟨?_, h.failed_cancel _, fun _ => hmem, fun _ => hmem⟩
      rw [ho] at hcleared
      simp only [hp, ho]
      exact ⟨hblamed.snoc _, exists_running_cancel hcleared,
        List.forall_mem_map.mpr fun t _ => asked_cancel t⟩

lemma cleared_doneCallbackAll {tasks : List (Task α E)} {cancelRequested : Bool} {e : Event α E}
    (hc : cancelRequested = true → .cancel ∈ es) :
    Cleared (es ++ [e]) tasks (doneCallbackAll tasks cancelRequested none) := by
  unfold doneCallbackAll
  by_cases hall : tasks.all Task.done = true
  · simp only [hall, if_true]
    refine ⟨List.all_eq_true.mp hall, fun exc hexc => ?_⟩
    by_cases hreq : cancelRequested = true
    · simp only [hreq, if_true, Except.error.injEq] at hexc
      exact ⟨hexc.symm, List.mem_append_left _ (hc hreq)⟩
    · simp [hreq] at hexc
  · simp only [hall, Bool.false_eq_true, if_false]
    simpa [Cleared] using hall

lemma Inv.resume (h : Inv early es s) (hs : s.step .resume = some s') :
    Inv early (es ++ [.resume]) s' := by
  have hin := h.inPhase
  have hcancelled : s.mustCancel = true → Blamed early (es ++ [.resume]) .cancelledError :=
    fun hm => Or.inr ⟨rfl, List.mem_append_left _ (h.must hm)⟩
  cases hp : s.phase with
  | ended r => simp [State.step, hp] at hs
  | gathering =>
    rw [hp] at hin
    cases ho : s.outer with
    | none => simp [State.step, hp, ho] at hs
    | some r =>
      obtain rfl : s.wake r = s' := by simpa [State.step, hp, ho] using hs
      rw [ho] at hin
      have hclear (exc : Exc E) (hexc : Blamed early (es ++ [.resume]) exc) :
          Inv early (es ++ [.resume]) (s.clear exc) :=
        ⟨⟨hexc, cleared_doneCallbackAll (by simp),
            List.forall_mem_map.mpr fun t _ => asked_cancel t⟩, h.failed_cancel _,
          by simp [State.clear], by simp [State.clear]⟩
      by_cases hm : s.mustCancel = true
      · simpa [State.wake, hp, hm] using hclear _ (hcancelled hm)
      · cases r with
        | error exc => simpa [State.wake, hp, hm] using hclear exc (Blamed.snoc hin _)
        | ok rs =>
          have hres : results s.tasks = some rs := hin
          simp only [State.wake, hp, hm]
          exact ⟨hres, h.failed_snoc _, fun hc => List.mem_append_left _ (h.requested hc), by simp⟩
  | clearing exc =>
    rw [hp] at hin
    obtain ⟨hblamed, hcleared, hasked⟩ := hin
    cases ho : s.outer with
    | none => simp [State.step, hp, ho] at hs
    | some r =>
      obtain rfl : s.wake r = s' := by simpa [State.step, hp, ho] using hs
      rw [ho] at hcleared
      obtain ⟨hdone, herr⟩ := hcleared
      have hend (exc : Exc E) (hexc : Blamed early (es ++ [.resume]) exc) :
          Inv early (es ++ [.resume])
            { s with phase := .ended (.error exc), mustCancel := false } :=
        ⟨⟨hexc, hdone⟩, h.failed_snoc _, fun hc => List.mem_append_left _ (h.requested hc), by simp⟩
      by_cases hm : s.mustCancel = true
      · simpa [State.wake, hp, hm] using hend _ (hcancelled hm)
      · cases r with
        | ok rs => simpa [State.wake, hp, hm] using hend exc (hblamed.snoc _)
        | error exc' =>
          obtain ⟨rfl, hmem⟩ := herr exc' rfl
          simpa [State.wake, hp, hm] using
            hend .cancelledError (Or.inr ⟨rfl, List.mem_append_left _ hmem⟩)

lemma Gathered.finish {tasks tasks' : List (Task α E)} {cancelRequested : Bool} {k : ℕ}
    {r : End α E} (h : Gathered early es tasks none)
    (hc : cancelRequested = true → .cancel ∈ es)
    (hfailed : ∀ t ∈ tasks', ∀ exc, t.result = some (.error exc) →
      exc ∈ failures early (es ++ [.finish k r])) :
    Gathered early (es ++ [.finish k r]) tasks'
      (doneCallback tasks' cancelRequested none r) := by
  obtain ⟨hnone, -⟩ := h
  cases r with
  | error exc => exact blamed_finish hnone
  | ok a =>
    have hnone' : failures early (es ++ [.finish k (.ok a)]) = [] := by
      rw [failures_snoc, hnone]
      rfl
    unfold doneCallback
    cases hr : results tasks' with
    | none => exact ⟨hnone', running_of_results_none hr hnone' hfailed⟩
    | some rs =>
      by_cases hreq : cancelRequested = true
      · simp only [hreq, if_true]
        exact Or.inr ⟨rfl, List.mem_append_left _ (hc hreq)⟩
      · simp only [hreq, Bool.false_eq_true, if_false]
        exact hr

lemma Inv.finish (h : Inv early es s) {k : ℕ} {r : End α E}
    (hs : s.step (.finish k r) = some s') : Inv early (es ++ [.finish k r]) s' := by
  have hin := h.inPhase
  simp only [State.step] at hs
  split at hs
  · next t ht =>
    by_cases hrun : t.done = true
    · simp [hrun] at hs
    · have htmem : t ∈ s.tasks := List.mem_of_getElem? ht
      have hnot : ¬ ∀ u ∈ s.tasks, u.done = true := fun hall => hrun (hall t htmem)
      simp only [hrun, Bool.false_eq_true, if_false, Option.some.injEq] at hs
      subst hs
      have hfailed : ∀ u ∈ s.tasks.set k { t with result := some r }, ∀ exc,
          u.result = some (.error exc) → exc ∈ failures early (es ++ [.finish k r]) := by
        intro u hu exc hexc
        rcases List.mem_or_eq_of_mem_set hu with hu | rfl
        · exact h.failed_snoc _ u hu exc hexc
        · obtain rfl : r = .error exc := by simpa using hexc
          rw [failures_snoc]
          simp [Event.result, errorOf]
      refine ⟨?_, hfailed, fun hc => List.mem_append_left _ (h.requested hc),
        fun hc => List.mem_append_left _ (h.must hc)⟩
      cases hp : s.phase with
      | gathering =>
        rw [hp] at hin
        rcases ho : s.outer with _ | exc | rs
        · rw [ho] at hin
          have hgathered : Gathered early es s.tasks none := hin
          exact hgathered.finish h.requested hfailed
        · rw [ho] at hin
          exact Blamed.snoc hin _
        · rw [ho] at hin
          exact absurd (done_of_results hin) hnot
      | clearing exc =>
        rw [hp] at hin
        obtain ⟨hblamed, hcleared, hasked⟩ := hin
        rcases ho : s.outer with _ | r'
        · refine ⟨hblamed.snoc _, cleared_doneCallbackAll h.requested, fun u hu => ?_⟩
          rcases List.mem_or_eq_of_mem_set hu with hu | rfl
          · exact hasked u hu
          · exact Or.inl rfl
        · rw [ho] at hcleared
          exact absurd hcleared.1 hnot
      | ended r' =>
        rw [hp] at hin
        cases r' with
        | ok rs => exact absurd (done_of_results hin) hnot
        | error exc => exact absurd hin.2 hnot
  · cases hs

lemma Inv.step (h : Inv early es s) {e : Event α E} (hs : s.step e = some s') :
    Inv early (es ++ [e]) s' := by
  cases e with
  | finish k r => exact h.finish hs
  | cancel => exact h.cancel hs
  | resume => exact h.resume hs

theorem inv_run (h : Run State.step (start early) es s) : Inv early es s :=
  h.invariant inv_start fun _ _ _ _ _ hi hs => hi.step hs

/-- **All or nothing.** However its tasks end and however often its caller is cancelled,
`_all_or_nothing` leaves no task running. It returns only if every task returned, with the
results in the order of the awaitables; otherwise it raises the first failure, or it was
cancelled. While it waits for the others after a failure, all of them have been asked to stop. -/
theorem all_or_nothing (h : Run State.step (start early) es s) :
    match s.phase with
    | .gathering => True
    | .clearing exc => Blamed early es exc ∧ ∀ t ∈ s.tasks, t.done = true ∨ t.asked = true
    | .ended (.ok rs) => s.tasks.map (·.result) = rs.map fun r => some (.ok r)
    | .ended (.error exc) => Blamed early es exc ∧ ∀ t ∈ s.tasks, t.done = true := by
  have hin := (inv_run h).inPhase
  split
  · trivial
  · next exc hp =>
    rw [hp] at hin
    exact ⟨hin.1, hin.2.2⟩
  · next rs hp =>
    rw [hp] at hin
    exact results_eq_some.mp hin
  · next exc hp =>
    rw [hp] at hin
    exact hin

/-- The second of three walks times out; the third returns although it was cancelled. -/
theorem all_or_nothing_timeout :
    ∃ s : State ℕ String, replay State.step (start [none, none, none])
        [.finish 1 (.error (.error "timeout")), .resume, .cancel,
          .finish 0 (.error .cancelledError), .finish 2 (.ok 5)] = some s ∧
      s.phase = .clearing (.error "timeout") ∧ ∀ t ∈ s.tasks, t.done = true ∨ t.asked = true := by
  obtain ⟨s, hs, hp⟩ : ∃ s : State ℕ String, replay State.step (start [none, none, none])
        [.finish 1 (.error (.error "timeout")), .resume, .cancel,
          .finish 0 (.error .cancelledError), .finish 2 (.ok 5)] = some s ∧
      s.phase = .clearing (.error "timeout") := ⟨_, rfl, rfl⟩
  have h := all_or_nothing (run_of_replay hs)
  rw [hp] at h
  exact ⟨s, hs, hp, h.2⟩

/-- **It ends with its tasks.** Until it has ended, it can go on or one of its tasks still
runs. -/
theorem goes_on (h : Run State.step (start early) es s) (hp : ∀ r, s.phase ≠ .ended r) :
    (∃ s', s.step .resume = some s') ∨ ∃ t ∈ s.tasks, t.done = false := by
  have hin := (inv_run h).inPhase
  cases ho : s.outer with
  | some r =>
    cases hq : s.phase with
    | ended r => exact absurd hq (hp r)
    | gathering => exact Or.inl ⟨s.wake r, by simp [State.step, hq, ho]⟩
    | clearing exc => exact Or.inl ⟨s.wake r, by simp [State.step, hq, ho]⟩
  | none =>
    right
    rw [ho] at hin
    cases hq : s.phase with
    | ended r => exact absurd hq (hp r)
    | gathering =>
      rw [hq] at hin
      exact hin.2
    | clearing exc =>
      rw [hq] at hin
      exact hin.2.1

end Invariant

end SophosFw.AllOrNothing
