import Mathlib.Data.List.Chain
import SophosFw.CycleRun
import SophosFw.Sources

/-!
What a coordinator logs about its endpoints.

A failure is logged once, and so is the recovery from it. While the whole source is down, nothing
is logged per endpoint. Over a run, what is logged about an endpoint is what an observer of that
endpoint alone would log.
-/

namespace SophosFw.Coordinator

open SophosFw.PyDict SophosFw.Runs

variable {V σ : Type}

inductive LogLine
  /-- `"%s: fetching %s failed: %s"` -/
  | warning (error : FetchError)
  /-- `"%s: unexpected error fetching %s"` -/
  | error (exc : FetchError)
  /-- `"%s: %s is available again"` -/
  | info
  deriving DecidableEq

def LogLine.isFailure : LogLine → Bool
  | .warning _ | .error _ => true
  | .info => false

/-- The lines about one endpoint. -/
def linesOf (key : String) (log : List (String × LogLine)) : List LogLine :=
  (log.filter fun p => p.1 = key).map Prod.snd

lemma linesOf_append (key : String) (log log' : List (String × LogLine)) :
    linesOf key (log ++ log') = linesOf key log ++ linesOf key log' := by
  simp [linesOf]

lemma linesOf_own (key k : String) (line : Option LogLine) :
    linesOf key (line.toList.map (k, ·)) = if key = k then line.toList else [] := by
  rcases line with _ | line
  · simp [linesOf]
  · by_cases hk : key = k
    · simp [linesOf, hk]
    · have hkey : ¬ k = key := fun h => hk h.symm
      simp [linesOf, hk, hkey]

section Source

variable (expectedErrors : FetchError → Bool)

def failureLine (e : FetchError) : LogLine := if expectedErrors e then .warning e else .error e

@[simp] lemma failureLine_isFailure (e : FetchError) :
    (failureLine expectedErrors e).isFailure = true := by
  unfold failureLine
  split <;> rfl

/-- What `_set_endpoint_state` logs, given whether a failure is logged already. -/
def endpointLog (log logged : Bool) : Option FetchError → Option LogLine
  | none => if logged then some .info else none
  | some e => if !log || logged then none else some (failureLine expectedErrors e)

/-- `_set_endpoint_state`, with its log. -/
def setEndpointStateLog (log : Bool) (p : State V σ × List (String × LogLine)) (key : String)
    (error : Option FetchError) : State V σ × List (String × LogLine) :=
  (p.1.setEndpointState log key error,
    p.2 ++ (endpointLog expectedErrors log (p.1.failureLogged key) error).toList.map (key, ·))

/-- `recordResults`, with its log. -/
def recordLog (c : SophosCoordinator V σ) (s : State V σ) (plan : Plan c) (done : ℚ)
    (updates : Updates V) (failures : Failures) : State V σ × List (String × LogLine) :=
  let s := updates.keys.foldl (State.markFetched plan done) s
  let p := updates.keys.foldl (fun p key => setEndpointStateLog expectedErrors true p key none)
    (s, [])
  failures.entries.foldl (fun p x =>
    setEndpointStateLog expectedErrors (!c.isOutage updates failures) p x.1 (some x.2)) p

/-- What a cycle came to for an endpoint: `outage` when the whole source was down. -/
inductive Outcome
  | success
  | failure (error : FetchError)
  | outage

/-- Whether a failure is logged after an outcome, and what the outcome logs. -/
def journalStep (logged : Bool) : Outcome → Bool × Option LogLine
  | .success => (false, if logged then some .info else none)
  | .failure e => (true, if logged then none else some (failureLine expectedErrors e))
  | .outage => (logged, none)

def loggedAfter : Bool → List Outcome → Bool :=
  List.foldl fun logged o => (journalStep expectedErrors logged o).1

/-- What is logged about an endpoint with these outcomes. -/
def journal : Bool → List Outcome → List LogLine
  | _, [] => []
  | logged, o :: l => (journalStep expectedErrors logged o).2.toList ++
      journal (journalStep expectedErrors logged o).1 l

/-- Since its last success the endpoint failed in a cycle that was no outage. -/
def Failing (l : List Outcome) : Prop :=
  ∃ before e after, l = before ++ .failure e :: after ∧ .success ∉ after

lemma journal_append (logged : Bool) (l l' : List Outcome) :
    journal expectedErrors logged (l ++ l') = journal expectedErrors logged l ++
      journal expectedErrors (loggedAfter expectedErrors logged l) l' := by
  induction l generalizing logged with
  | nil => rfl
  | cons o l ih =>
    rw [List.cons_append, journal, journal, ih, List.append_assoc]
    rfl

lemma loggedAfter_append (logged : Bool) (l l' : List Outcome) :
    loggedAfter expectedErrors logged (l ++ l') =
      loggedAfter expectedErrors (loggedAfter expectedErrors logged l) l' := List.foldl_append ..

lemma journal_alternates (logged : Bool) (l : List Outcome) :
    (∀ line, (journal expectedErrors logged l).head? = some line → line.isFailure = !logged) ∧
      (journal expectedErrors logged l).IsChain fun a b => a.isFailure ≠ b.isFailure := by
  induction l generalizing logged with
  | nil => exact ⟨nofun, .nil⟩
  | cons o l ih =>
    cases o with
    | success =>
      cases logged with
      | false => exact ih false
      | true =>
        obtain ⟨hhead, hchain⟩ := ih false
        refine ⟨fun line hline => ?_, List.isChain_cons.mpr ⟨fun line hline => ?_, hchain⟩⟩
        · rw [← Option.some.inj hline]
          rfl
        · rw [hhead line hline]
          simp [LogLine.isFailure]
    | failure e =>
      cases logged with
      | true => exact ih true
      | false =>
        obtain ⟨hhead, hchain⟩ := ih true
        refine ⟨fun line hline => ?_, List.isChain_cons.mpr ⟨fun line hline => ?_, hchain⟩⟩
        · rw [← Option.some.inj hline, failureLine_isFailure]
          rfl
        · rw [hhead line hline, failureLine_isFailure]
          simp
    | outage => exact ih logged

lemma journal_of_no_success {l : List Outcome} (h : .success ∉ l) :
    journal expectedErrors true l = [] ∧ loggedAfter expectedErrors true l = true := by
  induction l with
  | nil => exact ⟨rfl, rfl⟩
  | cons o l ih =>
    rw [List.mem_cons, not_or] at h
    cases o with
    | success => exact absurd rfl h.1
    | failure e => exact ih h.2
    | outage => exact ih h.2

/-- The flag is set by the first failure after a success, and the line about it is the last. -/
lemma journal_last (l : List Outcome) :
    (loggedAfter expectedErrors false l = true → ∃ before e after,
      l = before ++ .failure e :: after ∧ .success ∉ after ∧
        loggedAfter expectedErrors false before = false) ∧
    (loggedAfter expectedErrors false l = false →
      ∀ line, (journal expectedErrors false l).getLast? = some line → line = .info) := by
  induction l using List.reverseRecOn with
  | nil => exact ⟨nofun, nofun⟩
  | append_singleton l o ih =>
    rw [loggedAfter_append, journal_append]
    rcases hl : loggedAfter expectedErrors false l with _ | _
    · have hinfo := ih.2 hl
      cases o with
      | success =>
        refine ⟨nofun, fun _ line hline => hinfo line ?_⟩
        simpa [journal, journalStep] using hline
      | failure e => exact ⟨fun _ => ⟨l, e, [], rfl, by simp, hl⟩, nofun⟩
      | outage =>
        refine ⟨nofun, fun _ line hline => hinfo line ?_⟩
        simpa [journal, journalStep] using hline
    · obtain ⟨before, e, after, rfl, hafter, hbefore⟩ := ih.1 hl
      cases o with
      | success =>
        refine ⟨nofun, fun _ line hline => ?_⟩
        simp [journal, journalStep] at hline
        exact hline.symm
      | failure e' =>
        refine ⟨fun _ => ⟨before, e, after ++ [.failure e'], by simp, ?_, hbefore⟩, nofun⟩
        simpa using hafter
      | outage =>
        refine ⟨fun _ => ⟨before, e, after ++ [.outage], by simp, ?_, hbefore⟩, nofun⟩
        simpa using hafter

lemma loggedAfter_iff (l : List Outcome) :
    loggedAfter expectedErrors false l = true ↔ Failing l := by
  constructor
  · intro h
    obtain ⟨before, e, after, hl, hafter, -⟩ := (journal_last expectedErrors l).1 h
    exact ⟨before, e, after, hl, hafter⟩
  · rintro ⟨before, e, after, rfl, hafter⟩
    rw [loggedAfter_append]
    exact (journal_of_no_success expectedErrors hafter).2

/-- The last line tells whether the endpoint is failing, and since which failure. -/
lemma journal_getLast {l : List Outcome} {line : LogLine} (hline : line.isFailure = true) :
    (journal expectedErrors false l).getLast? = some line ↔
      ∃ before e after, l = before ++ .failure e :: after ∧ .success ∉ after ∧ ¬ Failing before ∧
        line = failureLine expectedErrors e := by
  have hlast {before after : List Outcome} {e : FetchError} (hafter : .success ∉ after)
      (hbefore : loggedAfter expectedErrors false before = false) :
      (journal expectedErrors false (before ++ .failure e :: after)).getLast? =
        some (failureLine expectedErrors e) := by
    rw [journal_append, hbefore, journal]
    change (_ ++ ([failureLine expectedErrors e] ++ journal expectedErrors true after)).getLast? = _
    rw [(journal_of_no_success expectedErrors hafter).1, List.append_nil, List.getLast?_append]
    rfl
  constructor
  · intro h
    rcases hl : loggedAfter expectedErrors false l with _ | _
    · rw [(journal_last expectedErrors l).2 hl line h] at hline
      cases hline
    · obtain ⟨before, e, after, rfl, hafter, hbefore⟩ := (journal_last expectedErrors l).1 hl
      refine ⟨before, e, after, rfl, hafter, ?_, ?_⟩
      · rw [← loggedAfter_iff expectedErrors, hbefore]
        simp
      · rw [hlast hafter hbefore] at h
        exact (Option.some.inj h).symm
  · rintro ⟨before, e, after, rfl, hafter, hbefore, rfl⟩
    refine hlast hafter ?_
    rw [← loggedAfter_iff expectedErrors, Bool.not_eq_true] at hbefore
    exact hbefore

lemma foldl_log_fst {ι : Type} (log : Bool) (f : ι → String × Option FetchError) (items : List ι)
    (p : State V σ × List (String × LogLine)) :
    (items.foldl (fun p i => setEndpointStateLog expectedErrors log p (f i).1 (f i).2) p).1 =
      items.foldl (fun s i => s.setEndpointState log (f i).1 (f i).2) p.1 := by
  induction items generalizing p with
  | nil => rfl
  | cons i items ih => exact ih _

lemma recordLog_fst (c : SophosCoordinator V σ) (s : State V σ) (plan : Plan c) (done : ℚ)
    (updates : Updates V) (failures : Failures) :
    (recordLog expectedErrors c s plan done updates failures).1 =
      c.recordResults s plan done updates failures := by
  unfold recordLog SophosCoordinator.recordResults
  dsimp only
  rw [foldl_log_fst expectedErrors _ (fun x : String × FetchError => (x.1, some x.2)),
    foldl_log_fst expectedErrors _ (fun key : String => (key, none))]

lemma setEndpointState_failureLogged (log : Bool) (s : State V σ) (key k : String)
    (error : Option FetchError) :
    (s.setEndpointState log key error).failureLogged k =
      if k = key then error.isSome && (log || s.failureLogged key) else s.failureLogged k := by
  by_cases hk : k = key
  · subst hk
    cases error <;> cases log <;> cases hl : s.failureLogged k <;>
      simp [State.setEndpointState, hl]
  · rw [if_neg hk]
    cases error with
    | none => simp [State.setEndpointState, hk]
    | some e =>
      simp only [State.setEndpointState]
      split
      · rfl
      · rw [Function.update_of_ne hk]

lemma foldl_log {ι : Type} (log : Bool) (f : ι → String × Option FetchError) {items : List ι}
    (hn : (items.map fun i => (f i).1).Nodup) (p : State V σ × List (String × LogLine))
    (key : String) :
    let q := items.foldl (fun p i => setEndpointStateLog expectedErrors log p (f i).1 (f i).2) p
    (q.1.failureLogged key = match (items.map f).lookup key with
      | none => p.1.failureLogged key
      | some error => error.isSome && (log || p.1.failureLogged key)) ∧
    linesOf key q.2 = linesOf key p.2 ++ (((items.map f).lookup key).bind fun error =>
      endpointLog expectedErrors log (p.1.failureLogged key) error).toList := by
  induction items generalizing p with
  | nil => simp
  | cons i items ih =>
    rw [List.map_cons, List.nodup_cons] at hn
    obtain ⟨hflag, hlines⟩ := ih hn.2 (setEndpointStateLog expectedErrors log p (f i).1 (f i).2)
    rw [List.foldl_cons, List.map_cons, List.lookup_cons]
    dsimp only
    rw [hflag, hlines]
    simp only [setEndpointStateLog, setEndpointState_failureLogged, linesOf_append, linesOf_own]
    by_cases hk : key = (f i).1
    · have hlookup : (items.map f).lookup key = none := by
        refine List.lookup_eq_none_iff.mpr fun x hx => ?_
        obtain ⟨j, hj, rfl⟩ := List.mem_map.mp hx
        rw [bne_iff_ne, hk]
        exact fun h => hn.1 (List.mem_map.mpr ⟨j, hj, h.symm⟩)
      rw [hlookup, hk]
      simp
    · have hbeq : (key == (f i).1) = false := by simpa using hk
      rw [hbeq]
      simp [hk]

/-- What a cycle came to for an endpoint. -/
def outcomeIn (c : SophosCoordinator V σ) (key : String) (updates : Updates V)
    (failures : Failures) : Option Outcome :=
  if key ∈ updates.keys then some .success
  else (failures.get key).map fun e =>
    if c.isOutage updates failures then .outage else .failure e

lemma lookup_map_snd {α β : Type} (g : α → β) (l : List (String × α)) (key : String) :
    (l.map fun x => (x.1, g x.2)).lookup key = (l.lookup key).map g := by
  induction l with
  | nil => rfl
  | cons x l ih =>
    rw [List.map_cons, List.lookup_cons, List.lookup_cons, ih]
    split <;> rfl

/-- The flag and the lines of an endpoint after a cycle are those of its observer. -/
lemma recordLog_key (c : SophosCoordinator V σ) (s : State V σ) (plan : Plan c) (done : ℚ)
    {updates : Updates V} {failures : Failures} {key : String}
    (hdisjoint : key ∈ updates.keys → key ∉ failures.keys) :
    (recordLog expectedErrors c s plan done updates failures).1.failureLogged key =
      loggedAfter expectedErrors (s.failureLogged key) (outcomeIn c key updates failures).toList ∧
    linesOf key (recordLog expectedErrors c s plan done updates failures).2 =
      journal expectedErrors (s.failureLogged key) (outcomeIn c key updates failures).toList := by
  set marked := updates.keys.foldl (State.markFetched plan done) s with hmarked
  have hflags : marked.failureLogged = s.failureLogged := by rw [hmarked, foldl_markFetched]
  have hkeys : updates.keys = updates.entries.map Prod.fst := rfl
  -- first the endpoints that succeeded, then those that failed
  obtain ⟨hflag, hlines⟩ := foldl_log expectedErrors true
    (fun x : String × V => ((x.1, none) : String × Option FetchError)) updates.nodup
    (marked, []) key
  obtain ⟨hflag', hlines'⟩ := foldl_log expectedErrors (!c.isOutage updates failures)
    (fun x : String × FetchError => (x.1, some x.2)) failures.nodup
    (updates.keys.foldl (fun p key => setEndpointStateLog expectedErrors true p key none)
      (marked, [])) key
  have hfirst := lookup_map_snd (fun _ : V => (none : Option FetchError)) updates.entries key
  have hsecond := lookup_map_snd (some : FetchError → Option FetchError) failures.entries key
  change _ = Option.map _ (updates.get key) at hfirst
  change _ = Option.map _ (failures.get key) at hsecond
  rw [hfirst] at hflag hlines
  rw [hsecond, hkeys, List.foldl_map] at hflag' hlines'
  unfold recordLog
  dsimp only
  rw [← hmarked, hkeys, List.foldl_map, hflag', hlines', hflag, hlines, hflags]
  unfold outcomeIn
  by_cases hk : key ∈ updates.keys
  · obtain ⟨v, hv⟩ := Option.isSome_iff_exists.mp (updates.get_isSome_iff.mpr hk)
    rw [failures.get_eq_none_iff.mpr (hdisjoint hk), hv, if_pos hk]
    cases hs : s.failureLogged key <;>
      simp [loggedAfter, journal, journalStep, endpointLog, linesOf]
  · rw [updates.get_eq_none_iff.mpr hk, if_neg hk]
    rcases failures.get key with _ | e
    · simp [loggedAfter, journal, linesOf]
    · cases c.isOutage updates failures <;> cases s.failureLogged key <;>
        simp [loggedAfter, journal, journalStep, endpointLog, linesOf]

/-! ### Runs -/

variable {c : SophosCoordinator V σ}

/-- A coordinator with what it has logged about its endpoints. -/
structure Logging (c : SophosCoordinator V σ) where
  sys : Sys c
  log : List (String × LogLine)

namespace Logging

def init (c : SophosCoordinator V σ) (clock : ℚ) : Logging c := ⟨.init c clock, []⟩

/-- What an event logs: a cycle that is not cut off logs while it records its results. -/
def newLines (y : Sys c) : Event V → List (String × LogLine)
  | .finish attempt =>
    match y.running with
    | none => []
    | some plan =>
      match (c.collect plan attempt).result with
      | .error _ => []
      | .ok (updates, failures) =>
        (recordLog expectedErrors c y.state plan y.clock updates failures).2
  | _ => []

def step (w : Logging c) (e : Event V) : Option (Logging c) :=
  (w.sys.step e).map fun y => ⟨y, w.log ++ newLines expectedErrors w.sys e⟩

end Logging

/-- What an ended cycle came to for an endpoint; nothing if it was cut off. -/
def outcomeOf (c : SophosCoordinator V σ) (key : String) (r : CycleRecord V σ) : Option Outcome :=
  match r.result with
  | .error _ => none
  | .ok (updates, failures) => outcomeIn c key updates failures

def outcomes (c : SophosCoordinator V σ) (key : String) (history : List (CycleRecord V σ)) :
    List Outcome :=
  history.filterMap (outcomeOf c key)

lemma outcomes_snoc (key : String) (history : List (CycleRecord V σ)) (r : CycleRecord V σ) :
    outcomes c key (history ++ [r]) = outcomes c key history ++ (outcomeOf c key r).toList := by
  unfold outcomes
  rw [List.filterMap_append, List.filterMap_cons, List.filterMap_nil]
  rcases outcomeOf c key r with _ | o <;> rfl

/-- Flag and log of every endpoint are those of its observer. -/
def LogInv (w : Logging c) : Prop :=
  ∀ key,
    w.sys.state.failureLogged key =
      loggedAfter expectedErrors false (outcomes c key w.sys.history) ∧
    linesOf key w.log = journal expectedErrors false (outcomes c key w.sys.history)

namespace LogInv

variable {expectedErrors : FetchError → Bool} {w w' : Logging c}

lemma finish (h : LogInv expectedErrors w) {plan : Plan c} (hp : w.sys.running = some plan)
    (attempt : ℕ → String → Result V) :
    LogInv expectedErrors ⟨w.sys.finish plan attempt,
      w.log ++ Logging.newLines expectedErrors w.sys (.finish attempt)⟩ := by
  intro key
  obtain ⟨hflag, hlines⟩ := h key
  change (c.endCycle w.sys.state plan attempt w.sys.clock).failureLogged key =
      loggedAfter expectedErrors false
        (outcomes c key (w.sys.history ++ [w.sys.finishRecord plan attempt])) ∧
    linesOf key (w.log ++ Logging.newLines expectedErrors w.sys (.finish attempt)) =
      journal expectedErrors false
        (outcomes c key (w.sys.history ++ [w.sys.finishRecord plan attempt]))
  rw [outcomes_snoc, loggedAfter_append, journal_append, linesOf_append, ← hflag, ← hlines]
  unfold Logging.newLines outcomeOf Sys.finishRecord
  simp only [hp]
  rcases hc : (c.collect plan attempt).result with e | ⟨updates, failures⟩
  · have he : (c.endCycle w.sys.state plan attempt w.sys.clock) =
        { w.sys.state with lastUpdateSuccess := false } := by
      rcases endCycle_cases w.sys.state plan w.sys.clock attempt with
        ⟨_, -, he⟩ | ⟨_, _, hc', -⟩ | ⟨_, _, hc', -⟩
      · exact he
      · cases hc.symm.trans hc'
      · cases hc.symm.trans hc'
    rw [he]
    exact ⟨rfl, rfl⟩
  · obtain ⟨hnew, hadded⟩ := recordLog_key expectedErrors c w.sys.state plan w.sys.clock
      (fun hk : key ∈ updates.keys => (collect_reflects plan attempt hc).not_failed hk)
    refine ⟨?_, by rw [hadded]⟩
    rw [← hnew, recordLog_fst]
    rcases endCycle_cases w.sys.state plan w.sys.clock attempt with
      ⟨_, hc', -⟩ | ⟨updates', failures', hc', -, he⟩ | ⟨updates', failures', hc', he⟩
    · cases hc.symm.trans hc'
    · obtain ⟨rfl, rfl⟩ := Prod.mk.inj (Except.ok.inj (hc.symm.trans hc'))
      rw [he]
    · obtain ⟨rfl, rfl⟩ := Prod.mk.inj (Except.ok.inj (hc.symm.trans hc'))
      rw [he]

lemma step (h : LogInv expectedErrors w) {e : Event V}
    (hs : w.step expectedErrors e = some w') : LogInv expectedErrors w' := by
  obtain ⟨y, hy, rfl⟩ := Option.map_eq_some_iff.mp hs
  rcases Sys.step_cases hy with
    ⟨now, rfl, -, rfl⟩ | ⟨restrictTo, rfl, -, -, hb⟩ | ⟨keys, rfl, rfl⟩ |
    ⟨attempt, plan, rfl, hp, rfl⟩
  · intro key
    have hnone : Logging.newLines expectedErrors w.sys (.tick now) = [] := rfl
    rw [hnone, List.append_nil]
    exact h key
  · intro key
    have hnone : Logging.newLines expectedErrors w.sys (.start restrictTo) = [] := rfl
    rw [hnone, List.append_nil]
    rcases hb with ⟨-, rfl⟩ | ⟨plan, -, rfl⟩
    · have hidle : outcomeOf c key w.sys.idleRecord = none := rfl
      change w.sys.state.failureLogged key = loggedAfter expectedErrors false
          (outcomes c key (w.sys.history ++ [w.sys.idleRecord])) ∧
        linesOf key w.log = journal expectedErrors false
          (outcomes c key (w.sys.history ++ [w.sys.idleRecord]))
      rw [outcomes_snoc, hidle, Option.toList_none, List.append_nil]
      exact h key
    · exact h key
  · intro key
    have hnone : Logging.newLines expectedErrors w.sys (.invalidate keys) = [] := rfl
    rw [hnone, List.append_nil]
    dsimp only
    rw [State.invalidate_eq]
    exact h key
  · exact h.finish hp attempt

lemma run {clock : ℚ} {es : List (Event V)}
    (h : Run (Logging.step expectedErrors) (Logging.init c clock) es w) :
    LogInv expectedErrors w :=
  h.invariant (I := fun _ w => LogInv expectedErrors w) (fun _ => ⟨rfl, rfl⟩)
    fun _ _ _ _ _ hi hs => hi.step hs

end LogInv

/-- **What is logged about an endpoint.** In every run, the log about an endpoint is the one its
own outcomes give, in which a cycle that is an outage leaves no line. Failures and recoveries
alternate in it, a failure first. It ends with a failure if and only if the endpoint has failed
since its last success, and then it names the first failure since. Failing in an outage, as all that
is tried then, does not count as a failure. -/
theorem failures_logged_once (expectedErrors : FetchError → Bool) {clock : ℚ} {es : List (Event V)}
    {w : Logging c} (h : Run (Logging.step expectedErrors) (Logging.init c clock) es w)
    (key : String) :
    let past := outcomes c key w.sys.history
    let lines := linesOf key w.log
    lines = journal expectedErrors false past ∧
    (∀ line, lines.head? = some line → line.isFailure = true) ∧
    (lines.IsChain fun a b => a.isFailure ≠ b.isFailure) ∧
    ∀ line, line.isFailure = true → (lines.getLast? = some line ↔
      ∃ before e after, past = before ++ .failure e :: after ∧ .success ∉ after ∧
        ¬ Failing before ∧ line = failureLine expectedErrors e) := by
  intro past lines
  have hlines : lines = journal expectedErrors false past := (LogInv.run h key).2
  rw [hlines]
  obtain ⟨hhead, hchain⟩ := journal_alternates expectedErrors false past
  exact ⟨rfl, hhead, hchain, fun line hline => journal_getLast expectedErrors hline⟩

end Source

/-- An endpoint fails alone, then with all others, then twice more alone, and recovers: two
lines. -/
theorem failures_logged_once_outage :
    let failing : String → ℕ → String → Result (Sources.SnmpValue Unit) := fun text _ key =>
      if key = "services" then .exception (.unexpected text) else .value (.other ())
    let events : List (Event (Sources.SnmpValue Unit)) := [.start none, .finish (failing "a"),
      .tick 30, .start none, .finish fun _ _ => .exception (.connection "timeout"), .tick 60,
      .start none, .finish (failing "b"), .tick 90, .start none, .finish (failing "c"), .tick 120,
      .start none, .finish fun _ _ => .value (.other ())]
    ∃ w, Run (Logging.step Sources.isConnection)
        (Logging.init (Sources.snmpCoordinator Unit ⟨"fw", fun _ => none⟩) 0) events w ∧
      linesOf "services" w.log = [.error (.unexpected "a"), .info] ∧
      (linesOf "services" w.log).IsChain fun a b => a.isFailure ≠ b.isFailure := by
  intro failing events
  have hreplay : (replay (Logging.step Sources.isConnection)
      (Logging.init (Sources.snmpCoordinator Unit ⟨"fw", fun _ => none⟩) 0) events).map
        (fun w => linesOf "services" w.log) = some [.error (.unexpected "a"), .info] := by
    decide +kernel
  obtain ⟨w, hw, hlines⟩ := Option.map_eq_some_iff.mp hreplay
  have hrun := run_of_replay hw
  exact ⟨w, hrun, hlines, (failures_logged_once Sources.isConnection hrun "services").2.2.1⟩

end SophosFw.Coordinator
