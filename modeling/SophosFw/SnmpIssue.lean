import SophosFw.CycleOutcome
import SophosFw.CycleRun

/-!
The issue about an agent that never answered.

What raises it only sees whether a cycle raised and which endpoints are flagged as available. Over
a run that comes to what the endpoints themselves did: it is raised while nothing has ever been
fetched, cycles fail often and long enough, and never after the first answer.
-/

namespace SophosFw.Sources

open SophosFw.PyDict SophosFw.Coordinator SophosFw.Runs

variable {V σ : Type}

def snmpIssueAfterAttempts : ℕ := 3

def snmpIssueAfterSeconds : ℚ := 600

/-- `ISSUE_SNMP_UNREACHABLE` -/
def issueSnmpUnreachable : String := "snmp_unreachable"

/-- The attributes of `SophosSnmpCoordinator` that watch for the first answer. -/
structure Watch where
  reached : Bool
  failedAttempts : ℕ
  firstFailure : Option ℚ

def Watch.init : Watch := ⟨false, 0, none⟩

/-- `any(self._ok.values())`: only endpoints have flags. -/
def anyOk (ok : String → Option Bool) : Bool := snmpEndpoints.any fun ep => ok ep.key = some true

/-- `SophosSnmpCoordinator._async_update_data` after the cycle: what the cycle raised, if anything,
and what becomes of the attributes and the issue. -/
def Watch.update (w : Watch) (ok : String → Option Bool) (raised : Option CycleError) (now : ℚ) :
    Watch × List IssueAction :=
  match raised with
  | some (.updateFailed _ _) =>
    if w.reached then (w, [])
    else
      let firstFailure := w.firstFailure.getD now
      let failedAttempts := w.failedAttempts + 1
      ({ w with failedAttempts := failedAttempts, firstFailure := some firstFailure },
        if snmpIssueAfterAttempts ≤ failedAttempts ∧ snmpIssueAfterSeconds ≤ now - firstFailure then
          [.raise issueSnmpUnreachable []]
        else [])
  | some _ => (w, [])
  | none =>
    if !w.reached && anyOk ok then
      ({ w with reached := true }, [.clear issueSnmpUnreachable])
    else (w, [])

/-- An ended cycle: when it ended, what it tried and came to, what it raised, and what became of the
issue. -/
structure SnmpCycle (V : Type) where
  time : ℚ
  attempts : List (String × Result (SnmpValue V))
  result : Except CycleError (Updates (SnmpValue V) × Failures)
  raised : Option CycleError
  issues : List IssueAction

namespace SnmpCycle

/-- The cycle raised `UpdateFailed`. -/
def failed (r : SnmpCycle V) : Bool :=
  match r.raised with
  | some (.updateFailed _ _) => true
  | _ => false

/-- The cycle fetched an endpoint, and was not cut off. -/
def Fetched (r : SnmpCycle V) (key : String) : Prop :=
  (∃ x, r.result = .ok x) ∧ ∃ v, lastAttempt r.attempts key = some (.value v)

def Raises (r : SnmpCycle V) : Prop := .raise issueSnmpUnreachable [] ∈ r.issues

def Clears (r : SnmpCycle V) : Prop := .clear issueSnmpUnreachable ∈ r.issues

end SnmpCycle

/-- The SNMP coordinator with its wrapper, and the cycles that have ended, oldest first. -/
structure Guarded (V : Type) (entry : ConfigEntry) where
  sys : Sys (snmpCoordinator V entry)
  watch : Watch
  log : List (SnmpCycle V)

namespace Guarded

variable {entry : ConfigEntry}

def init (V : Type) (entry : ConfigEntry) (clock : ℚ) : Guarded V entry :=
  ⟨.init (snmpCoordinator V entry) clock, .init, []⟩

/-- What an outcome raises. -/
def raisedOf {α : Type} : Except CycleError α → Option CycleError
  | .error e => some e
  | .ok _ => none

/-- The cycle an event ends that leads from `y` to `y'`, with what it raises. -/
def ended (y y' : Sys (snmpCoordinator V entry)) :
    Event (SnmpValue V) → Option (CycleRecord (SnmpValue V) SnmpExtra × Option CycleError)
  | .start _ => if y'.running.isSome then none else some (y.idleRecord, none)
  | .finish attempt => y.running.map fun plan =>
      (y.finishRecord plan attempt, raisedOf (outcome y.state plan attempt y.clock))
  | _ => none

/-- The wrapper goes on where the cycle ends. -/
def conclude (g : Guarded V entry) (y : Sys (snmpCoordinator V entry))
    (record : CycleRecord (SnmpValue V) SnmpExtra) (raised : Option CycleError) :
    Guarded V entry :=
  { sys := y
    watch := (g.watch.update y.state.ok raised y.clock).1
    log := g.log ++ [⟨y.clock, record.attempts, record.result, raised,
      (g.watch.update y.state.ok raised y.clock).2⟩] }

def step (g : Guarded V entry) (e : Event (SnmpValue V)) : Option (Guarded V entry) :=
  (g.sys.step e).map fun y =>
    match ended g.sys y e with
    | none => { g with sys := y }
    | some (record, raised) => g.conclude y record raised

end Guarded

/-! ### The law -/

/-- What a cycle does to the issue, given the cycles before it. -/
structure IssueLaw (before : List (SnmpCycle V)) (r : SnmpCycle V) : Prop where
  raises : r.Raises ↔ r.failed = true ∧ (∀ r' ∈ before ++ [r], ∀ key, ¬ r'.Fetched key) ∧
    snmpIssueAfterAttempts ≤ ((before ++ [r]).filter SnmpCycle.failed).length ∧
    ∃ first, (before ++ [r]).find? SnmpCycle.failed = some first ∧
      snmpIssueAfterSeconds ≤ r.time - first.time
  clears : r.Clears ↔ (∃ key, r.Fetched key) ∧ ∀ r' ∈ before, ∀ key, ¬ r'.Fetched key

/-- What the wrapper relies on of a cycle: one that fetches something returns and leaves a flag, and
one that fetches nothing sets none. -/
structure CycleFacts (ok ok' : String → Option Bool) (r : SnmpCycle V) : Prop where
  fetched : (∃ key, r.Fetched key) → r.raised = none ∧ anyOk ok' = true
  unfetched : (∀ key, ¬ r.Fetched key) → ∀ key, ok' key = some true → ok key = some true

/-- What the attributes say of the cycles so far. -/
structure WatchInv (w : Watch) (ok : String → Option Bool) (log : List (SnmpCycle V)) : Prop where
  reached : w.reached = true ↔ ∃ r ∈ log, ∃ key, r.Fetched key
  counts : w.reached = false →
    w.failedAttempts = (log.filter SnmpCycle.failed).length ∧
      w.firstFailure = (log.find? SnmpCycle.failed).map SnmpCycle.time
  flags : w.reached = false → ∀ key, ok key ≠ some true

lemma Watch.update_of_reached {w : Watch} (h : w.reached = true) (ok : String → Option Bool)
    (raised : Option CycleError) (now : ℚ) : w.update ok raised now = (w, []) := by
  unfold update
  split
  · rw [if_pos h]
  · rfl
  · rw [h, Bool.not_true, Bool.false_and, if_neg Bool.false_ne_true]

lemma anyOk_eq_false {ok : String → Option Bool} (h : ∀ key, ok key ≠ some true) :
    anyOk ok = false := by
  unfold anyOk
  rw [List.any_eq_false]
  exact fun ep _ => by simpa using h ep.key

section Law

variable {w : Watch} {ok ok' : String → Option Bool} {log : List (SnmpCycle V)} {r : SnmpCycle V}

/-- After the first answer nothing happens to the issue. -/
lemma WatchInv.of_reached (h : WatchInv w ok log) (hw : w.reached = true)
    (hissues : r.issues = (w.update ok' r.raised r.time).2) :
    WatchInv (w.update ok' r.raised r.time).1 ok' (log ++ [r]) ∧ IssueLaw log r := by
  obtain ⟨r', hr', key, hfetched⟩ := h.reached.mp hw
  rw [Watch.update_of_reached hw] at hissues ⊢
  refine ⟨⟨?_, ?_, ?_⟩, ?_, ?_⟩
  · exact ⟨fun _ => ⟨r', List.mem_append_left _ hr', key, hfetched⟩, fun _ => hw⟩
  · exact fun hno => absurd hw (Bool.eq_false_iff.mp hno)
  · exact fun hno => absurd hw (Bool.eq_false_iff.mp hno)
  · constructor
    · intro hraises
      rw [SnmpCycle.Raises, hissues] at hraises
      cases hraises
    · exact fun hall => absurd hfetched (hall.2.1 r' (List.mem_append_left _ hr') key)
  · constructor
    · intro hclears
      rw [SnmpCycle.Clears, hissues] at hclears
      cases hclears
    · exact fun hall => absurd hfetched (hall.2 r' hr' key)

lemma WatchInv.of_fetched (h : WatchInv w ok log) (hw : w.reached = false)
    (hfacts : CycleFacts ok ok' r) (hr : ∃ key, r.Fetched key)
    (hissues : r.issues = (w.update ok' r.raised r.time).2) :
    WatchInv (w.update ok' r.raised r.time).1 ok' (log ++ [r]) ∧ IssueLaw log r := by
  have hno : ∀ r' ∈ log, ∀ key, ¬ r'.Fetched key := fun r' hr' key hf =>
    absurd (h.reached.mpr ⟨r', hr', key, hf⟩) (by simp [hw])
  obtain ⟨hnone, hany⟩ := hfacts.fetched hr
  have hupdate : w.update ok' r.raised r.time =
      ({ w with reached := true }, [.clear issueSnmpUnreachable]) := by
    rw [hnone]
    simp [Watch.update, hw, hany]
  rw [hupdate] at hissues ⊢
  obtain ⟨key, hkey⟩ := hr
  refine ⟨⟨?_, nofun, nofun⟩, ?_, ?_⟩
  · exact ⟨fun _ => ⟨r, by simp, key, hkey⟩, fun _ => rfl⟩
  · constructor
    · intro hraises
      rw [SnmpCycle.Raises, hissues] at hraises
      simp at hraises
    · exact fun hall => absurd hkey (hall.2.1 r (by simp) key)
  · refine ⟨fun _ => ⟨⟨key, hkey⟩, hno⟩, fun _ => ?_⟩
    rw [SnmpCycle.Clears, hissues]
    exact List.mem_singleton_self _

lemma SnmpCycle.failed_eq_false (h : ∀ key placeholders,
    r.raised ≠ some (.updateFailed key placeholders)) : r.failed = false := by
  unfold SnmpCycle.failed
  split
  · next key placeholders hr => exact absurd hr (h key placeholders)
  · rfl

lemma WatchInv.none_fetched (h : WatchInv w ok log) (hw : w.reached = false)
    (hr : ∀ key, ¬ r.Fetched key) : ∀ r' ∈ log ++ [r], ∀ key, ¬ r'.Fetched key := by
  intro r' hr' key hf
  rcases List.mem_append.mp hr' with hr' | hr'
  · exact Bool.eq_false_iff.mp hw (h.reached.mpr ⟨r', hr', key, hf⟩)
  · obtain rfl := List.mem_singleton.mp hr'
    exact hr key hf

lemma WatchInv.flags_of_unfetched (h : WatchInv w ok log) (hw : w.reached = false)
    (hfacts : CycleFacts ok ok' r) (hr : ∀ key, ¬ r.Fetched key) :
    ∀ key, ok' key ≠ some true := fun key hkey =>
  h.flags hw key (hfacts.unfetched hr key hkey)

lemma WatchInv.of_unreached (hw : w.reached = false) (hno : ∀ r ∈ log, ∀ key, ¬ r.Fetched key)
    (hattempts : w.failedAttempts = (log.filter SnmpCycle.failed).length)
    (hfirst : w.firstFailure = (log.find? SnmpCycle.failed).map SnmpCycle.time)
    (hflags : ∀ key, ok key ≠ some true) : WatchInv w ok log where
  reached := iff_of_false (Bool.eq_false_iff.mp hw) fun ⟨r, hr, key, hf⟩ => hno r hr key hf
  counts _ := ⟨hattempts, hfirst⟩
  flags _ := hflags

lemma WatchInv.of_failed (h : WatchInv w ok log) (hw : w.reached = false)
    (hfacts : CycleFacts ok ok' r) (hr : ∀ key, ¬ r.Fetched key) {key : String}
    {placeholders : List (String × String)}
    (hraised : r.raised = some (.updateFailed key placeholders))
    (hissues : r.issues = (w.update ok' r.raised r.time).2) :
    WatchInv (w.update ok' r.raised r.time).1 ok' (log ++ [r]) ∧ IssueLaw log r := by
  have hno := h.none_fetched hw hr
  obtain ⟨hcount, hfirst⟩ := h.counts hw
  have hrf : r.failed = true := by simp [SnmpCycle.failed, hraised]
  have hcount' : ((log ++ [r]).filter SnmpCycle.failed).length = w.failedAttempts + 1 := by
    simp [List.filter_append, hrf, hcount]
  obtain ⟨first, hfind, htime⟩ : ∃ first, (log ++ [r]).find? SnmpCycle.failed = some first ∧
      w.firstFailure.getD r.time = first.time := by
    rw [List.find?_append, hfirst]
    cases hf : log.find? SnmpCycle.failed with
    | none => exact ⟨r, by simp [hrf], rfl⟩
    | some first => exact ⟨first, rfl, rfl⟩
  have hupdate : w.update ok' r.raised r.time =
      ({ w with failedAttempts := w.failedAttempts + 1, firstFailure := some first.time },
        if snmpIssueAfterAttempts ≤ w.failedAttempts + 1 ∧
            snmpIssueAfterSeconds ≤ r.time - first.time then
          [.raise issueSnmpUnreachable []]
        else []) := by
    rw [hraised, ← htime]
    simp only [Watch.update, hw, Bool.false_eq_true, if_false]
  rw [hupdate] at hissues ⊢
  refine ⟨.of_unreached hw hno hcount'.symm ?_ (h.flags_of_unfetched hw hfacts hr), ?_, ?_⟩
  · rw [hfind, Option.map_some]
  · rw [hcount', hfind, SnmpCycle.Raises, hissues]
    constructor
    · intro hraises
      split at hraises
      · next hlong => exact ⟨hrf, hno, hlong.1, first, rfl, hlong.2⟩
      · cases hraises
    · rintro ⟨-, -, hattempts, first', hfirst', hseconds⟩
      obtain rfl := Option.some.inj hfirst'
      rw [if_pos ⟨hattempts, hseconds⟩]
      exact List.mem_singleton_self _
  · rw [SnmpCycle.Clears, hissues]
    refine ⟨fun hclears => ?_, fun hall => absurd hall.1 fun ⟨key, hf⟩ => hr key hf⟩
    split at hclears <;> simp at hclears

lemma WatchInv.of_not_failed (h : WatchInv w ok log) (hw : w.reached = false)
    (hfacts : CycleFacts ok ok' r) (hr : ∀ key, ¬ r.Fetched key)
    (hraised : ∀ key placeholders, r.raised ≠ some (.updateFailed key placeholders))
    (hissues : r.issues = (w.update ok' r.raised r.time).2) :
    WatchInv (w.update ok' r.raised r.time).1 ok' (log ++ [r]) ∧ IssueLaw log r := by
  obtain ⟨hcount, hfirst⟩ := h.counts hw
  have hflags := h.flags_of_unfetched hw hfacts hr
  have hrf := SnmpCycle.failed_eq_false hraised
  have hupdate : w.update ok' r.raised r.time = (w, []) := by
    unfold Watch.update
    split
    · next key placeholders he => exact absurd he (hraised key placeholders)
    · rfl
    · rw [anyOk_eq_false hflags, Bool.and_false, if_neg Bool.false_ne_true]
  rw [hupdate] at hissues ⊢
  refine ⟨.of_unreached hw (h.none_fetched hw hr) ?_ ?_ hflags, ?_, ?_⟩
  · simp [List.filter_append, hrf, hcount]
  · simp [List.find?_append, hrf, hfirst]
  · rw [SnmpCycle.Raises, hissues, hrf]
    simp
  · rw [SnmpCycle.Clears, hissues]
    exact ⟨nofun, fun hall => absurd hall.1 fun ⟨key, hf⟩ => hr key hf⟩

end Law

section Cycle

variable {c : SophosCoordinator V σ} (s : State V σ) (plan : Plan c)
  (attempt : ℕ → String → Result V) (done : ℚ)

lemma exists_outcome_ok {updates : Updates V} {failures : Failures}
    (h : (c.collect plan attempt).result = .ok (updates, failures))
    (hne : updates.isEmpty = false) : ∃ data, outcome s plan attempt done = .ok data := by
  unfold outcome SophosCoordinator.finishUpdate SophosCoordinator.isOutage
  rw [h]
  simp [hne]

end Cycle

section Snmp

variable {entry : ConfigEntry} {r : SnmpCycle V}

lemma cycleFacts_finish (y : Sys (snmpCoordinator V entry)) (plan : Plan (snmpCoordinator V entry))
    (attempt : ℕ → String → Result (SnmpValue V))
    (hattempts : r.attempts = (y.finishRecord plan attempt).attempts)
    (hresult : r.result = (y.finishRecord plan attempt).result)
    (hraised : r.raised = Guarded.raisedOf (outcome y.state plan attempt y.clock)) :
    CycleFacts y.state.ok (y.finish plan attempt).state.ok r where
  fetched := by
    rintro ⟨key, ⟨⟨updates, failures⟩, hx⟩, v, hv⟩
    rw [hresult] at hx
    rw [hattempts] at hv
    have hreflects := collect_reflects plan attempt hx
    have hget := hreflects.update_iff.mpr hv
    have hmem : key ∈ updates.keys := updates.get_isSome_iff.mp (by rw [hget]; rfl)
    have hne : updates.isEmpty = false := Bool.eq_false_iff.mpr fun hempty =>
      Dict.not_mem_keys_of_isEmpty hempty key hmem
    constructor
    · obtain ⟨data, hdata⟩ := exists_outcome_ok y.state plan attempt y.clock hx hne
      rw [hraised, hdata]
      rfl
    · obtain ⟨ep, hep, rfl⟩ :=
        List.mem_map.mp (collect_attempts plan attempt _ (mem_of_lastAttempt hv))
      have hflag : (y.finish plan attempt).state.ok ep.key = some true :=
        (endCycle_recorded y.state plan y.clock hx ep.key).1.trans
          (by rw [if_neg (hreflects.not_failed hmem), if_pos hmem])
      exact List.any_eq_true.mpr
        ⟨ep, plan.mem_endpoints (List.mem_append.mp hep), decide_eq_true hflag⟩
  unfetched hno key hkey := by
    change (SophosCoordinator.endCycle _ y.state plan attempt y.clock).ok key = _ at hkey
    rcases hx : ((snmpCoordinator V entry).collect plan attempt).result with e | ⟨updates, failures⟩
    · rcases endCycle_cases y.state plan y.clock attempt with
        ⟨_, -, he⟩ | ⟨_, _, hc, -⟩ | ⟨_, _, hc, -⟩
      · rwa [he] at hkey
      · rw [hx] at hc
        cases hc
      · rw [hx] at hc
        cases hc
    · have hmem : key ∉ updates.keys := fun hmem => by
        obtain ⟨v, hv⟩ := Option.isSome_iff_exists.mp (updates.get_isSome_iff.mpr hmem)
        refine hno key ⟨⟨_, hresult.trans hx⟩, v, ?_⟩
        rw [hattempts]
        exact (collect_reflects plan attempt hx).update_iff.mp hv
      rw [(endCycle_recorded y.state plan y.clock hx key).1, if_neg hmem] at hkey
      split at hkey
      · cases hkey
      · exact hkey

lemma cycleFacts_idle {ok : String → Option Bool} (h : r.attempts = []) : CycleFacts ok ok r where
  fetched := by
    rintro ⟨key, -, v, hv⟩
    rw [h] at hv
    cases hv
  unfetched _ _ hkey := hkey

variable {g g' : Guarded V entry}

/-- The attributes are right, and every cycle so far did to the issue what it should. -/
structure GuardedInv (g : Guarded V entry) : Prop where
  watch : WatchInv g.watch g.sys.state.ok g.log
  law : ∀ before r after, g.log = before ++ r :: after → IssueLaw before r

lemma GuardedInv.init (clock : ℚ) : GuardedInv (Guarded.init V entry clock) where
  watch := ⟨⟨nofun, nofun⟩, fun _ => ⟨rfl, rfl⟩, fun _ _ => nofun⟩
  law before r after h := by
    exact absurd h (by simp [Guarded.init])

lemma WatchInv.update {w : Watch} {ok ok' : String → Option Bool} {log : List (SnmpCycle V)}
    (h : WatchInv w ok log) (hfacts : CycleFacts ok ok' r)
    (hissues : r.issues = (w.update ok' r.raised r.time).2) :
    WatchInv (w.update ok' r.raised r.time).1 ok' (log ++ [r]) ∧ IssueLaw log r := by
  cases hw : w.reached with
  | true => exact h.of_reached hw hissues
  | false =>
    by_cases hr : ∃ key, r.Fetched key
    · exact h.of_fetched hw hfacts hr hissues
    · have hno := not_exists.mp hr
      by_cases hfailed : ∃ key placeholders, r.raised = some (.updateFailed key placeholders)
      · obtain ⟨key, placeholders, hraised⟩ := hfailed
        exact h.of_failed hw hfacts hno hraised hissues
      · exact h.of_not_failed hw hfacts hno
          (fun key placeholders he => hfailed ⟨key, placeholders, he⟩) hissues

lemma GuardedInv.conclude (h : GuardedInv g) {y : Sys (snmpCoordinator V entry)}
    {record : CycleRecord (SnmpValue V) SnmpExtra} {raised : Option CycleError}
    (hfacts : ∀ issues, CycleFacts g.sys.state.ok y.state.ok
      ⟨y.clock, record.attempts, record.result, raised, issues⟩) :
    GuardedInv (g.conclude y record raised) := by
  obtain ⟨hwatch, hlaw⟩ := h.watch.update
    (hfacts (g.watch.update y.state.ok raised y.clock).2) rfl
  refine ⟨hwatch, fun before r after hsplit => ?_⟩
  rcases List.eq_nil_or_concat after with rfl | ⟨after, last, rfl⟩
  · obtain ⟨rfl, hr⟩ := List.append_inj' hsplit rfl
    obtain rfl := (List.cons.inj hr).1
    exact hlaw
  · rw [List.concat_eq_append, ← List.cons_append, ← List.append_assoc] at hsplit
    exact h.law before r after (List.append_inj' hsplit rfl).1

lemma GuardedInv.step (h : GuardedInv g) {e : Event (SnmpValue V)} (hstep : g.step e = some g') :
    GuardedInv g' := by
  obtain ⟨y, hy, rfl⟩ := Option.map_eq_some_iff.mp hstep
  rcases Sys.step_cases hy with
    ⟨now, rfl, -, rfl⟩ | ⟨restrictTo, rfl, hidle, -, hb⟩ | ⟨keys, rfl, rfl⟩ |
      ⟨attempt, plan, rfl, hp, rfl⟩
  · exact ⟨h.watch, h.law⟩
  · rcases hb with ⟨-, rfl⟩ | ⟨plan, -, rfl⟩
    · simp only [Guarded.ended, hidle, Option.isSome_none, Bool.false_eq_true, if_false]
      exact h.conclude fun issues => cycleFacts_idle rfl
    · exact ⟨h.watch, h.law⟩
  · -- an invalidation does not touch the flags
    have hok := g.sys.state.invalidate_ok keys
    simp only [Guarded.ended]
    exact ⟨hok ▸ h.watch, h.law⟩
  · simp only [Guarded.ended, hp, Option.map_some]
    exact h.conclude fun issues => cycleFacts_finish g.sys plan attempt rfl rfl rfl

lemma GuardedInv.run {clock : ℚ} {es : List (Event (SnmpValue V))}
    (h : Run Guarded.step (Guarded.init V entry clock) es g) : GuardedInv g :=
  h.invariant (I := fun _ g => GuardedInv g) (init clock) fun _ _ _ _ _ hi hs => hi.step hs

/-- **The issue over a run.** It is raised by the cycles that raise `UpdateFailed` while nothing has
been fetched so far, from the third failed one on, if the first is ten minutes ago; the first cycle
that fetches anything clears it; and after that it is never raised again. -/
theorem snmp_issue_over_run {clock : ℚ} {es : List (Event (SnmpValue V))}
    (h : Run Guarded.step (Guarded.init V entry clock) es g) :
    ∀ before r after, g.log = before ++ r :: after →
      (r.Raises ↔ r.failed = true ∧ (∀ r' ∈ before ++ [r], ∀ key, ¬ r'.Fetched key) ∧
        snmpIssueAfterAttempts ≤ ((before ++ [r]).filter SnmpCycle.failed).length ∧
        ∃ first, (before ++ [r]).find? SnmpCycle.failed = some first ∧
          snmpIssueAfterSeconds ≤ r.time - first.time) ∧
      (r.Clears ↔ (∃ key, r.Fetched key) ∧ ∀ r' ∈ before, ∀ key, ¬ r'.Fetched key) ∧
      ((∃ key, r.Fetched key) → ∀ r' ∈ after, ¬ r'.Raises) := by
  intro before r after hlog
  have hlaw := (GuardedInv.run h).law
  refine ⟨(hlaw before r after hlog).raises, (hlaw before r after hlog).clears, ?_⟩
  rintro ⟨key, hfetched⟩ r' hr' hraises
  obtain ⟨between, rest, rfl⟩ := List.append_of_mem hr'
  rw [← List.cons_append, ← List.append_assoc] at hlog
  have hnever := ((hlaw _ r' rest hlog).raises.mp hraises).2.1
  exact hnever r (by simp) key hfetched

/-- Three failed cycles within ten minutes and one just after, an answer of one endpoint, and an
outage. -/
theorem snmp_issue_over_run_outage :
    let silent : ℕ → String → Result (SnmpValue Unit) := fun _ _ => .exception (.connection "")
    let device : ℕ → String → Result (SnmpValue Unit) := fun _ key =>
      if key = "device" then .value (.other ()) else .exception (.connection "")
    let events : List (Event (SnmpValue Unit)) := [.start none, .finish silent, .tick 30,
      .start none, .finish silent, .tick 60, .start none, .finish silent, .tick 600, .start none,
      .finish silent, .tick 630, .start none, .finish device, .tick 2000, .start none,
      .finish silent]
    ∃ g, Run Guarded.step (Guarded.init Unit ⟨"fw", fun _ => none⟩ 0) events g ∧
      g.log.map (fun r => (r.failed, r.issues)) =
        [(true, []), (true, []), (true, []), (true, [.raise issueSnmpUnreachable []]),
          (false, [.clear issueSnmpUnreachable]), (true, [])] ∧
      ∀ before r after, g.log = before ++ r :: after →
        (∃ key, r.Fetched key) → ∀ r' ∈ after, ¬ r'.Raises := by
  intro silent device events
  have hreplay : (replay Guarded.step (Guarded.init Unit ⟨"fw", fun _ => none⟩ 0) events).map
      (fun g => g.log.map fun r => (r.failed, r.issues)) =
      some [(true, []), (true, []), (true, []), (true, [.raise issueSnmpUnreachable []]),
        (false, [.clear issueSnmpUnreachable]), (true, [])] := by decide +kernel
  obtain ⟨g, hg, hlog⟩ := Option.map_eq_some_iff.mp hreplay
  exact ⟨g, run_of_replay hg, hlog,
    fun before r after h => (snmp_issue_over_run (run_of_replay hg) before r after h).2.2⟩

end Snmp

end SophosFw.Sources
