import SophosFw.CycleRun
import SophosFw.Periods
import SophosFw.Sources

/-!
How often the endpoints are polled.

The runs of a coordinator follow each other as Home Assistant schedules them, and whatever else
happens meanwhile leaves the endpoint alone. Then the schedule keeps it polled by elapsed time.
-/

namespace SophosFw.Coordinator

open SophosFw.PyDict SophosFw.Runs SophosFw.Periods

variable {V σ : Type} {c : SophosCoordinator V σ} {key : String}

/-- Time goes by, or other endpoints are invalidated. -/
def Quiet (key : String) : Event V → Prop
  | .tick _ => True
  | .invalidate keys => key ∉ keys
  | .start _ => False
  | .finish _ => False

/-- Nothing happens that concerns the endpoint. -/
def Waits (key : String) (y y' : Sys c) : Prop :=
  ∃ es, Run Sys.step y es y' ∧ ∀ e ∈ es, Quiet key e

/-- What a coordinator keeps of an endpoint while nothing concerns it. -/
structure Keeps (key : String) (y y' : Sys c) : Prop where
  running : y'.running = y.running
  history : y'.history = y.history
  last : y'.state.scheduler.last key = y.state.scheduler.last key
  generation : y'.state.generation key = y.state.generation key
  runtimeDisabled : y'.state.runtimeDisabled = y.state.runtimeDisabled

lemma Quiet.keeps {y y' : Sys c} {e : Event V} (hq : Quiet key e) (h : y.step e = some y') :
    Keeps key y y' := by
  rcases Sys.step_cases h with
    ⟨now, -, -, rfl⟩ | ⟨_, rfl, -⟩ | ⟨keys, rfl, rfl⟩ | ⟨_, _, rfl, -⟩
  · exact ⟨rfl, rfl, rfl, rfl, rfl⟩
  · exact hq.elim
  · refine ⟨rfl, rfl, ?_, State.invalidate_generation y.state hq, ?_⟩
    · dsimp only
      rw [State.invalidate_last, if_neg hq]
    · exact State.invalidate_runtimeDisabled y.state keys
  · exact hq.elim

lemma Waits.keeps {y y' : Sys c} (h : Waits key y y') : Keeps key y y' := by
  obtain ⟨es, hrun, hquiet⟩ := h
  induction hrun with
  | start => exact ⟨rfl, rfl, rfl, rfl, rfl⟩
  | snoc hr hs ih =>
    have hbefore := ih fun e he => hquiet e (List.mem_append_left _ he)
    have hlast := Quiet.keeps (hquiet _ (by simp)) hs
    exact ⟨hlast.running.trans hbefore.running, hlast.history.trans hbefore.history,
      hlast.last.trans hbefore.last, hlast.generation.trans hbefore.generation,
      hlast.runtimeDisabled.trans hbefore.runtimeDisabled⟩

/-- The schedule has the intervals of the options, and half the shortest as tolerance. -/
structure Scheduled (y : Sys c) : Prop where
  intervals : y.state.scheduler.intervals = intervals c.entry
  tolerance : y.state.scheduler.tolerance = (Coordinator.intervals c.entry .realtime : ℚ) / 2

lemma scheduled_init (clock : ℚ) : Scheduled (Sys.init c clock) := ⟨rfl, rfl⟩

lemma State.invalidate_intervals (s : State V σ) (keys : List String) :
    (s.invalidate keys).scheduler.intervals = s.scheduler.intervals ∧
      (s.invalidate keys).scheduler.tolerance = s.scheduler.tolerance := by
  induction keys generalizing s with
  | nil => exact ⟨rfl, rfl⟩
  | cons k keys ih => exact ih (s.invalidateKey k)

lemma Scheduled.step {y y' : Sys c} {e : Event V} (hi : Scheduled y) (h : y.step e = some y') :
    Scheduled y' := by
  rcases Sys.step_cases h with
    ⟨now, -, -, rfl⟩ | ⟨_, -, -, -, ⟨-, rfl⟩ | ⟨plan, -, rfl⟩⟩ | ⟨keys, -, rfl⟩ |
    ⟨attempt, plan, -, -, rfl⟩
  · exact ⟨hi.intervals, hi.tolerance⟩
  · exact ⟨hi.intervals, hi.tolerance⟩
  · exact ⟨hi.intervals, hi.tolerance⟩
  · obtain ⟨h1, h2⟩ := y.state.invalidate_intervals keys
    exact ⟨h1.trans hi.intervals, h2.trans hi.tolerance⟩
  · obtain ⟨-, h1, h2⟩ := endCycle_frame y.state plan y.clock attempt
    exact ⟨h1.trans hi.intervals, h2.trans hi.tolerance⟩

lemma Scheduled.waits {y y' : Sys c} (hi : Scheduled y) (h : Waits key y y') : Scheduled y' := by
  obtain ⟨es, hrun, -⟩ := h
  exact hrun.invariant (I := fun _ y => Scheduled y) hi fun _ _ _ _ _ hi hs => hi.step hs

/-- One run of the coordinator. It starts at `r` and is over at `e`. If something is due, the
fetches are over at `t`. -/
inductive RunOf (key : String) (r t e : ℚ) (y y' : Sys c) : Prop
  | idle (y₁ y₂ : Sys c) (hbefore : Waits key y y₁) (hr : y₁.clock = r)
      (hstart : y₁.step (.start none) = some y₂) (hidle : y₂.running = none)
      (hafter : Waits key y₂ y') (he : y'.clock = e)
  | cycle (y₁ y₂ y₃ y₄ : Sys c) (attempt : ℕ → String → Result V) (hbefore : Waits key y y₁)
      (hr : y₁.clock = r) (hstart : y₁.step (.start none) = some y₂) (hduring : Waits key y₂ y₃)
      (ht : y₃.clock = t) (hfinish : y₃.step (.finish attempt) = some y₄)
      (hafter : Waits key y₄ y') (he : y'.clock = e)

/-- The run that led from `y` to `y'` tried to fetch the endpoint. -/
def Fetches (key : String) (y y' : Sys c) : Prop :=
  ∃ record, y'.history = y.history ++ [record] ∧ lastAttempt record.attempts key ≠ none

/-- The run that led from `y` to `y'` got a value for the endpoint. -/
def Succeeds (key : String) (y y' : Sys c) : Prop :=
  ∃ record updates failures, y'.history = y.history ++ [record] ∧
    record.result = .ok (updates, failures) ∧ key ∈ updates.keys

section Run

variable {ep : Endpoint} {r t e : ℚ} {y y' : Sys c}

lemma fetches_iff {record : CycleRecord V σ} (h : y'.history = y.history ++ [record]) :
    Fetches key y y' ↔ lastAttempt record.attempts key ≠ none := by
  constructor
  · rintro ⟨record', h', hl⟩
    obtain rfl : record = record' := by simpa using h.symm.trans h'
    exact hl
  · exact fun hl => ⟨record, h, hl⟩

lemma Succeeds.result {record : CycleRecord V σ} (hs : Succeeds key y y')
    (h : y'.history = y.history ++ [record]) :
    ∃ updates failures, record.result = .ok (updates, failures) ∧ key ∈ updates.keys := by
  obtain ⟨record', updates, failures, h', hr, hk⟩ := hs
  obtain rfl : record = record' := by simpa using h.symm.trans h'
  exact ⟨updates, failures, hr, hk⟩

lemma Scheduled.isDue_iff (hi : Scheduled y) (hen : c.endpointEnabled y.state ep.key = true) :
    c.isDue y.state y.clock ep = true ↔ ∀ l, y.state.scheduler.last ep.key = some l →
      (Coordinator.intervals c.entry ep.tier : ℚ) -
        (Coordinator.intervals c.entry .realtime : ℚ) / 2 ≤ y.clock - l := by
  unfold SophosCoordinator.isDue TierScheduler.isDue
  rw [hen, Bool.true_and, hi.intervals, hi.tolerance]
  rcases y.state.scheduler.last ep.key with _ | l
  · simp
  · simp

lemma lastAttempt_collect_iff {s : State V σ} {now : ℚ} {plan : Plan c}
    (hb : c.beginUpdate s none now = some plan) (hep : ep ∈ c.endpoints)
    (attempt : ℕ → String → Result V) :
    lastAttempt (c.collect plan attempt).attempts ep.key ≠ none ↔ c.isDue s now ep = true := by
  obtain ⟨hlater, hdue⟩ := (beginUpdate_some hb).2.2.2 rfl
  constructor
  · intro htried
    by_contra hno
    refine htried (lastAttempt_none_of_keys (collect_attempts plan attempt) ?_)
    rw [hlater, hdue, List.append_nil]
    intro hmem
    obtain ⟨ep', hep', hk⟩ := List.mem_map.mp hmem
    obtain ⟨hin, hd⟩ := List.mem_filter.mp hep'
    rw [List.inj_on_of_nodup_map c.keys_nodup hin hep hk] at hd
    exact hno hd
  · intro hd
    refine lastAttempt_collect_ne_none plan attempt ?_
    rw [hdue]
    exact List.mem_filter.mpr ⟨hep, hd⟩

lemma Scheduled.isDue_iff_of_waits (hi : Scheduled y)
    (hen : c.endpointEnabled y.state ep.key = true) {y₁ : Sys c} (hw : Waits ep.key y y₁) :
    c.isDue y₁.state y₁.clock ep = true ↔ ∀ l, y.state.scheduler.last ep.key = some l →
      (Coordinator.intervals c.entry ep.tier : ℚ) -
        (Coordinator.intervals c.entry .realtime : ℚ) / 2 ≤ y₁.clock - l := by
  have hen₁ : c.endpointEnabled y₁.state ep.key = true := by
    unfold SophosCoordinator.endpointEnabled at hen ⊢
    rw [hw.keeps.runtimeDisabled]
    exact hen
  rw [(hi.waits hw).isDue_iff hen₁, hw.keeps.last]

lemma endCycle_stamps {s : State V σ} {plan : Plan c} {done : ℚ}
    {attempt : ℕ → String → Result V} {updates : Updates V} {failures : Failures}
    (hc : (c.collect plan attempt).result = .ok (updates, failures)) (hk : key ∈ updates.keys)
    (hg : s.generation key = plan.generation key) :
    (c.endCycle s plan attempt done).scheduler.last key = some done := by
  rw [(endCycle_recorded s plan done hc key).2.1, if_pos ⟨hk, hg⟩]

lemma RunOf.scheduled (h : RunOf key r t e y y') (hi : Scheduled y) : Scheduled y' := by
  cases h with
  | idle y₁ y₂ hbefore hr hstart hidle hafter he =>
    exact ((hi.waits hbefore).step hstart).waits hafter
  | cycle y₁ y₂ y₃ y₄ attempt hbefore hr hstart hduring ht hfinish hafter he =>
    exact ((((hi.waits hbefore).step hstart).waits hduring).step hfinish).waits hafter

/-- What a run that starts from `y₁` records, and what stamp it leaves. -/
structure Recorded (ep : Endpoint) (t : ℚ) (y y₁ y' : Sys c) (record : CycleRecord V σ) : Prop where
  history : y'.history = y.history ++ [record]
  tried : lastAttempt record.attempts ep.key ≠ none ↔ c.isDue y₁.state y₁.clock ep = true
  stamp : (lastAttempt record.attempts ep.key ≠ none ∧
    y'.state.scheduler.last ep.key = some t) ∨
      y'.state.scheduler.last ep.key = y.state.scheduler.last ep.key
  stamped : ∀ updates failures, record.result = .ok (updates, failures) → ep.key ∈ updates.keys →
    y'.state.scheduler.last ep.key = some t

lemma recorded_of_idle {y₁ y₂ : Sys c} (hep : ep ∈ c.endpoints) (hbefore : Waits ep.key y y₁)
    (hstart : y₁.step (.start none) = some y₂) (hidle : y₂.running = none)
    (hafter : Waits ep.key y₂ y') : Recorded ep t y y₁ y' y₁.idleRecord := by
  obtain ⟨-, -, hb⟩ := Sys.step_start hstart
  rcases hb with ⟨hb, rfl⟩ | ⟨plan, -, rfl⟩
  · have hnotdue : ¬ c.isDue y₁.state y₁.clock ep = true := fun hd => by
      have hmem : ep ∈ c.endpoints.filter (c.isDue y₁.state y₁.clock) :=
        List.mem_filter.mpr ⟨hep, hd⟩
      rw [beginUpdate_none hb] at hmem
      cases hmem
    refine ⟨?_, ?_, .inr (hafter.keeps.last.trans hbefore.keeps.last), ?_⟩
    · rw [hafter.keeps.history, ← hbefore.keeps.history]
    · exact iff_of_false (fun htried => htried rfl) hnotdue
    · intro updates failures hresult hk
      cases hresult
      cases hk
  · cases hidle

lemma recorded_of_cycle {y₁ y₂ y₃ y₄ : Sys c} {attempt : ℕ → String → Result V}
    (hep : ep ∈ c.endpoints) (hbefore : Waits ep.key y y₁)
    (hstart : y₁.step (.start none) = some y₂) (hduring : Waits ep.key y₂ y₃)
    (ht : y₃.clock = t) (hfinish : y₃.step (.finish attempt) = some y₄)
    (hafter : Waits ep.key y₄ y') : ∃ record, Recorded ep t y y₁ y' record := by
  obtain ⟨hnone, -, hb⟩ := Sys.step_start hstart
  obtain ⟨plan', hplan', rfl⟩ := Sys.step_finish hfinish
  rw [hduring.keeps.running] at hplan'
  rcases hb with ⟨-, rfl⟩ | ⟨plan, hb, rfl⟩
  · cases hnone.symm.trans hplan'
  obtain rfl := Option.some.inj hplan'
  have hlast : y₃.state.scheduler.last ep.key = y.state.scheduler.last ep.key :=
    hduring.keeps.last.trans hbefore.keeps.last
  refine ⟨y₃.finishRecord plan attempt, ?_, lastAttempt_collect_iff hb hep attempt, ?_, ?_⟩
  · rw [hafter.keeps.history, ← hbefore.keeps.history]
    exact congrArg (· ++ _) hduring.keeps.history
  · rw [hafter.keeps.last, ← ht]
    rcases endCycle_counts y₃.state plan y₃.clock attempt ep.key with
      ⟨⟨v, hv⟩, -, -, hdone, -⟩ | ⟨hold, -⟩
    · refine .inl ⟨fun hno => ?_, hdone⟩
      cases hv.symm.trans hno
    · exact .inr (hold.trans hlast)
  · intro updates failures hc hk
    rw [hafter.keeps.last, ← ht]
    refine endCycle_stamps hc hk ?_
    rw [hduring.keeps.generation, (beginUpdate_some hb).2.1]

lemma RunOf.recorded (h : RunOf ep.key r t e y y') (hep : ep ∈ c.endpoints) :
    ∃ y₁ record, Waits ep.key y y₁ ∧ y₁.clock = r ∧ Recorded ep t y y₁ y' record := by
  cases h with
  | idle y₁ y₂ hbefore hr hstart hidle hafter he =>
    exact ⟨y₁, _, hbefore, hr, recorded_of_idle hep hbefore hstart hidle hafter⟩
  | cycle y₁ y₂ y₃ y₄ attempt hbefore hr hstart hduring ht hfinish hafter he =>
    obtain ⟨record, hrecord⟩ := recorded_of_cycle hep hbefore hstart hduring ht hfinish hafter
    exact ⟨y₁, record, hbefore, hr, hrecord⟩

lemma RunOf.spec (h : RunOf ep.key r t e y y') (hep : ep ∈ c.endpoints)
    (hen : c.endpointEnabled y.state ep.key = true) (hi : Scheduled y) :
    Scheduled y' ∧
    (Fetches ep.key y y' ↔ ∀ l, y.state.scheduler.last ep.key = some l →
      (intervals c.entry ep.tier : ℚ) - (intervals c.entry .realtime : ℚ) / 2 ≤ r - l) ∧
    ((Fetches ep.key y y' ∧ y'.state.scheduler.last ep.key = some t) ∨
      y'.state.scheduler.last ep.key = y.state.scheduler.last ep.key) ∧
    (Succeeds ep.key y y' → y'.state.scheduler.last ep.key = some t) := by
  obtain ⟨y₁, record, hbefore, rfl, hrecord⟩ := h.recorded hep
  rw [fetches_iff hrecord.history, hrecord.tried, hi.isDue_iff_of_waits hen hbefore]
  refine ⟨h.scheduled hi, Iff.rfl, ?_, fun hs => ?_⟩
  · rw [← hi.isDue_iff_of_waits hen hbefore, ← hrecord.tried]
    exact hrecord.stamp
  · obtain ⟨updates, failures, hc, hk⟩ := hs.result hrecord.history
    exact hrecord.stamped updates failures hc hk

end Run

/-! ### Unboundedly many runs -/

section Runs

variable {ep : Endpoint} {T : Timing ℚ} {y : ℕ → Sys c} {clock : ℚ}

lemma polled_of_runs (hep : ep ∈ c.endpoints) (hbase : T.base = intervals c.entry .realtime)
    (h₀ : y 0 = Sys.init c clock)
    (hrun : ∀ k, RunOf ep.key (T.start k) (T.stamp k) (T.stop k) (y k) (y (k + 1)))
    (hen : ∀ k, c.endpointEnabled (y k).state ep.key = true) :
    Polled T (intervals c.entry ep.tier) (fun k => Fetches ep.key (y k) (y (k + 1)))
      (fun k => (y k).state.scheduler.last ep.key) ∧
    ∀ k, Succeeds ep.key (y k) (y (k + 1)) →
      (y (k + 1)).state.scheduler.last ep.key = some (T.stamp k) := by
  have hscheduled : ∀ k, Scheduled (y k) := by
    intro k
    induction k with
    | zero =>
      rw [h₀]
      exact scheduled_init clock
    | succ k ih => exact ((hrun k).spec hep (hen k) ih).1
  refine ⟨⟨?_, fun k => ?_, fun k => ?_⟩, fun k => ?_⟩
  · rw [h₀]
    rfl
  · rw [hbase]
    exact ((hrun k).spec hep (hen k) (hscheduled k)).2.1
  · exact ((hrun k).spec hep (hen k) (hscheduled k)).2.2.1
  · exact ((hrun k).spec hep (hen k) (hscheduled k)).2.2.2

/-- **Polling periods.** Every run fetches what belongs to the realtime tier. An endpoint that has
been stamped is fetched again, half a base interval early at most, and not after the first run
that starts when its interval is over. -/
theorem polling_periods (hep : ep ∈ c.endpoints) (hbase : T.base = intervals c.entry .realtime)
    (h₀ : y 0 = Sys.init c clock)
    (hrun : ∀ k, RunOf ep.key (T.start k) (T.stamp k) (T.stop k) (y k) (y (k + 1)))
    (hen : ∀ k, c.endpointEnabled (y k).state ep.key = true) :
    let fetched := fun k => Fetches ep.key (y k) (y (k + 1))
    let interval : ℚ := intervals c.entry ep.tier
    (ep.tier = .realtime → ∀ k, fetched k) ∧
    (∀ k, Succeeds ep.key (y k) (y (k + 1)) →
      (y (k + 1)).state.scheduler.last ep.key = some (T.stamp k)) ∧
    ∀ j, (y (j + 1)).state.scheduler.last ep.key = some (T.stamp j) →
      (∃ k, Next fetched j k) ∧
      (∀ k, Next fetched j k → interval - T.base / 2 ≤ T.start k - T.stamp j) ∧
      (∀ k, Next fetched j (k + 1) → k ≠ j → T.start (k + 1) - T.stamp j <
        interval + T.base / 2 + T.jitter + (T.stop k - T.start k)) ∧
      ∀ k, j < k → interval ≤ T.start k - T.stamp j → ∃ i ≤ k, Next fetched j i := by
  intro fetched interval
  obtain ⟨hpolled, hstamped⟩ := polled_of_runs hep hbase h₀ hrun hen
  refine ⟨fun htier k => ?_, hstamped, fun j hj => ⟨?_, ?_, ?_, ?_⟩⟩
  · refine hpolled.fetched_of_le_base ?_ k
    rw [htier, hbase]
  · exact hpolled.exists_next hj
  · exact fun k => hpolled.le_of_next hj
  · exact fun k => hpolled.lt_of_next hj
  · exact fun k => hpolled.next_of_le hj

lemma Waits.tick (y : Sys c) {now : ℚ} (h : y.clock ≤ now) :
    Waits key y { y with clock := now } := by
  refine ⟨[.tick now], run_of_replay (by simp [replay, Sys.step, h]), fun e he => ?_⟩
  rw [List.mem_singleton.mp he]
  trivial

/-- With these attempts a cycle gets a value for all it tries. -/
def Answers (c : SophosCoordinator V σ) (attempt : ℕ → String → Result V) : Prop :=
  ∀ (plan : Plan c) (key : String), lastAttempt (c.collect plan attempt).attempts key ≠ none →
    ∃ updates failures, (c.collect plan attempt).result = .ok (updates, failures) ∧
      key ∈ updates.keys

lemma RunOf.exists_of_idle {y : Sys c} {r t e : ℚ} (hidle : y.running = none) (hr : y.clock ≤ r)
    (hrt : r ≤ t) (hte : t ≤ e) {attempt : ℕ → String → Result V} (ha : Answers c attempt)
    (hnever : ∀ extra data updates, (c.afterUpdate extra data updates).2 = []) :
    ∃ y', RunOf key r t e y y' ∧ (Fetches key y y' → Succeeds key y y') ∧ y'.running = none ∧
      y'.clock = e ∧ y'.state.runtimeDisabled = y.state.runtimeDisabled := by
  set y₁ : Sys c := { y with clock := r } with hy₁
  rcases hb : c.beginUpdate y.state none r with _ | plan
  · set y₂ : Sys c :=
      { y₁ with state := y.state.idleCycle, history := y.history ++ [y₁.idleRecord] } with hy₂
    have hstart : y₁.step (.start none) = some y₂ := by simp [Sys.step, hy₁, hy₂, hidle, hb]
    exact ⟨{ y₂ with clock := e }, .idle y₁ y₂ (.tick y hr) rfl hstart hidle
      (.tick y₂ (hrt.trans hte)) rfl, fun hf => ((fetches_iff rfl).mp hf rfl).elim, hidle, rfl, rfl⟩
  · set y₂ : Sys c := { y₁ with running := some plan } with hy₂
    have hstart : y₁.step (.start none) = some y₂ := by simp [Sys.step, hy₁, hy₂, hidle, hb]
    set y₃ : Sys c := { y₂ with clock := t } with hy₃
    set y₄ : Sys c := y₃.finish plan attempt with hy₄
    refine ⟨{ y₄ with clock := e }, .cycle y₁ y₂ y₃ y₄ attempt (.tick y hr) rfl hstart
      (.tick y₂ hrt) rfl rfl (.tick y₄ hte) rfl, fun hf => ?_, rfl, rfl, ?_⟩
    · obtain ⟨updates, failures, hresult, hk⟩ := ha plan key ((fetches_iff rfl).mp hf)
      exact ⟨_, updates, failures, rfl, hresult, hk⟩
    change (c.endCycle y.state plan attempt t).runtimeDisabled = _
    rcases endCycle_cases y.state plan t attempt with
      ⟨_, -, he⟩ | ⟨updates, failures, -, -, he⟩ | ⟨updates, failures, -, he⟩
    · rw [he]
    · obtain ⟨logged, hrec⟩ := recordResults_eq y.state plan t updates failures
      rw [he, hrec]
    · rw [he]
      unfold hookOutcome
      simp [hnever]

lemma exists_batch_value (entry : ConfigEntry) (v : V) (l : List Endpoint) : ∃ updates,
    ((Sources.xmlCoordinator V entry).batch (fun _ => .value v) (fun _ => .value v) l).result =
      .ok (updates, .empty) := by
  have hsort : ∀ (l : List Endpoint) (updates : Updates V), ∃ updates',
      sortResults (l.map fun ep => (ep.key, Result.value v)) updates .empty =
        .ok (updates', .empty) := by
    intro l
    induction l with
    | nil => exact fun updates => ⟨updates, rfl⟩
    | cons ep l ih => exact fun updates => ih (updates.set ep.key v)
  obtain ⟨updates, hu⟩ := hsort l .empty
  have hfetch : (fetch (fun _ => Result.value v) l).result = .ok (updates, .empty) := hu
  have hhandle : (Sources.xmlHandleFailures entry (fun _ => Result.value v) updates .empty).result =
      .ok (updates, .empty) := by
    change (Sources.checkAccess entry updates .empty).result = _
    unfold Sources.checkAccess
    change (if updates.isEmpty then _ else _ : Cycle V _).result = _
    split <;> rfl
  refine ⟨updates, ?_⟩
  unfold SophosCoordinator.batch
  simp only [bind, hfetch]
  exact hhandle

lemma answers_value (entry : ConfigEntry) (v : V) :
    Answers (Sources.xmlCoordinator V entry) fun _ _ => .value v := by
  intro plan key htried
  obtain ⟨updates, hu⟩ := exists_batch_value entry v plan.due
  have hresult : ((Sources.xmlCoordinator V entry).collect plan fun _ _ => .value v).result =
      .ok (updates, .empty) := by
    unfold SophosCoordinator.collect
    simp only [bind, hu]
    rw [if_neg fun h => h.2.2 rfl]
    rfl
  refine ⟨updates, .empty, hresult, ?_⟩
  have hreflects := collect_reflects plan _ hresult key
  rcases hl : lastAttempt _ key with _ | r
  · exact (htried hl).elim
  rw [hl] at hreflects
  cases r with
  | value v => exact updates.get_isSome_iff.mp (Option.isSome_of_eq_some hreflects.1)
  | exception e => cases hreflects.2
  | baseException => exact hreflects.elim

/-- Every half minute a run of two seconds, and the firewall always answers: the firewall rules,
polled every ten minutes, are fetched in the first run, and then in every nineteenth. -/
theorem polling_periods_firewall_rules :
    let c := Sources.xmlCoordinator Unit ⟨"fw", fun _ => none⟩
    let T : Timing ℚ := .regular 30 2 (by decide) (by decide)
    ∃ y : ℕ → Sys c, y 0 = Sys.init c 0 ∧
      (∀ k, RunOf "firewall_rules" (T.start k) (T.stamp k) (T.stop k) (y k) (y (k + 1))) ∧
      ∀ n, Succeeds "firewall_rules" (y (19 * n)) (y (19 * n + 1)) ∧
        Next (fun k => Fetches "firewall_rules" (y k) (y (k + 1))) (19 * n) (19 * (n + 1)) := by
  intro c T
  -- The runs, with what the next one needs of the one before.
  have hnext : ∀ k (y : Sys c), y.running = none ∧ y.clock ≤ T.start k ∧
      y.state.runtimeDisabled "firewall_rules" = false → ∃ y', (RunOf "firewall_rules" (T.start k)
        (T.stamp k) (T.stop k) y y' ∧
        (Fetches "firewall_rules" y y' → Succeeds "firewall_rules" y y')) ∧
        y'.running = none ∧ y'.clock ≤ T.start (k + 1) ∧
        y'.state.runtimeDisabled "firewall_rules" = false := by
    rintro k y ⟨hidle, hclock, hoff⟩
    obtain ⟨y', hrun, hsucc, hidle', hclock', hoff'⟩ := @RunOf.exists_of_idle _ _ c
      "firewall_rules" y _ _ _ hidle hclock (T.start_le_stamp k) (T.stamp_le_stop k) _
      (answers_value _ ()) fun _ _ _ => rfl
    refine ⟨y', ⟨hrun, hsucc⟩, hidle', ?_, by rw [hoff']; exact hoff⟩
    rw [hclock']
    have hlater := T.stop_add_le_start k
    have hbase := T.base_pos
    linarith
  choose next hrun hafter using hnext
  let states : (k : ℕ) → { y : Sys c // y.running = none ∧ y.clock ≤ T.start k ∧
      y.state.runtimeDisabled "firewall_rules" = false } := fun k =>
    Nat.rec ⟨Sys.init c 0, rfl, by simp [T, Timing.regular, Sys.init], rfl⟩
      (fun k y => ⟨next k y.1 y.2, hafter k y.1 y.2⟩) k
  let y : ℕ → Sys c := fun k => (states k).1
  have hruns : ∀ k, RunOf "firewall_rules" (T.start k) (T.stamp k) (T.stop k) (y k) (y (k + 1)) :=
    fun k => (hrun k (states k).1 (states k).2).1
  have hsucc : ∀ k, Fetches "firewall_rules" (y k) (y (k + 1)) →
      Succeeds "firewall_rules" (y k) (y (k + 1)) :=
    fun k => (hrun k (states k).1 (states k).2).2
  have hen : ∀ k, c.endpointEnabled (y k).state "firewall_rules" = true := fun k => by
    unfold SophosCoordinator.endpointEnabled
    rw [(states k).2.2.2]
    rfl
  set ep : Endpoint := ⟨"firewall_rules", .operative, some "poll_xml_fw_rules", true⟩ with hep
  have hmem : ep ∈ c.endpoints := by decide
  obtain ⟨-, hstamped, hbounds⟩ := @polling_periods _ _ c ep T y 0 hmem rfl rfl hruns hen
  have hpolled := (@polled_of_runs _ _ c ep T y 0 hmem rfl rfl hruns hen).1
  have hnineteen : ∀ j, Fetches "firewall_rules" (y j) (y (j + 1)) →
      Next (fun k => Fetches "firewall_rules" (y k) (y (k + 1))) j (j + 19) := by
    intro j hj
    obtain ⟨⟨k, hk⟩, hleast, hmost, -⟩ := hbounds j (hstamped j (hsucc j hj))
    have hlow := hleast k hk
    have hinterval : intervals c.entry ep.tier = 600 := rfl
    simp only [T, Timing.regular, hinterval] at hlow hmost
    obtain ⟨m, rfl⟩ := Nat.exists_eq_add_of_lt hk.1
    have hm : 18 ≤ m := by
      by_contra hlt
      have : (m : ℚ) ≤ 17 := by exact_mod_cast (by omega : m ≤ 17)
      push_cast at hlow
      linarith
    have hhigh := hmost (j + m) hk (by omega)
    have hm' : m < 19 := by
      by_contra hge
      have : (19 : ℚ) ≤ m := by exact_mod_cast (by omega : 19 ≤ m)
      push_cast at hhigh
      linarith
    obtain rfl : m = 18 := by omega
    exact hk
  have hfetched : ∀ n, Fetches "firewall_rules" (y (19 * n)) (y (19 * n + 1)) := by
    intro n
    induction n with
    | zero => exact (hpolled.due 0).mpr fun l hl => by cases hpolled.init.symm.trans hl
    | succ n ih => exact (hnineteen _ ih).2.1
  exact ⟨y, rfl, hruns, fun n => ⟨hsucc _ (hfetched n), hnineteen _ (hfetched n)⟩⟩

end Runs

end SophosFw.Coordinator
