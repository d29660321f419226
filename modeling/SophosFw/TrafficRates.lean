import Mathlib.Tactic.Linarith
import Mathlib.Tactic.Positivity
import Mathlib.Tactic.FieldSimp
import Mathlib.Algebra.Order.Field.Basic
import SophosFw.CycleRun
import SophosFw.Sources

/-!
Traffic rates over whole runs.

A rate compares a sample with the one before it, which the coordinator keeps from cycle to
cycle. So the rates that were published add up to what the counters counted.
-/

namespace SophosFw.Sources

open SophosFw.PyDict SophosFw.Coordinator SophosFw.Runs

lemma abs_roundTenth_sub_le (x : ℚ) : |roundTenth x - x| ≤ 1 / 20 := by
  have hle := Int.floor_le (x * 10)
  have hlt := Int.lt_floor_add_one (x * 10)
  unfold roundTenth
  dsimp only
  rw [abs_le]
  split
  · next h =>
    have hhalf : x * 10 - ⌊x * 10⌋ ≤ 1 / 2 := by
      rcases h with h | h
      · exact h.le
      · exact h.1.le
    constructor <;> linarith
  · next h =>
    have hhalf : 1 / 2 ≤ x * 10 - ⌊x * 10⌋ := not_lt.mp fun hlt => h (.inl hlt)
    push_cast
    constructor <;> linarith

lemma roundTenth_nonneg {x : ℚ} (h : 0 ≤ x) : 0 ≤ roundTenth x := by
  have hfloor : 0 ≤ ⌊x * 10⌋ := Int.floor_nonneg.mpr (by linarith)
  unfold roundTenth
  dsimp only
  refine div_nonneg ?_ (by norm_num)
  split
  · exact_mod_cast hfloor
  · exact_mod_cast hfloor.trans (Int.le_add_one le_rfl)

section Rate

variable {previous current : Option ℤ} {seconds : ℚ}

lemma rate_eq_none_iff : rate previous current (some seconds) = none ↔
    previous = none ∨ current = none ∨ seconds < 1 ∨
      ∃ p q, previous = some p ∧ current = some q ∧ q < p := by
  unfold rate
  rcases previous with _ | p
  · simp
  rcases current with _ | q
  · simp
  dsimp only
  split
  · next h => simp [h]
  · next h =>
    split
    · next h' => simp [h']
    · next h' => simp [h, h']

lemma rate_nonneg {x : ℚ} (h : rate previous current (some seconds) = some x) : 0 ≤ x := by
  unfold rate at h
  split at h
  · next p q t hs =>
    split at h
    · cases h
    · next ht =>
      split at h
      · cases h
      · next hpq =>
        rw [← Option.some.inj h]
        have hp : (p : ℚ) ≤ q := by exact_mod_cast not_lt.mp hpq
        exact roundTenth_nonneg (div_nonneg (by linarith) (by linarith))
  · cases h

lemma abs_rate_mul_sub_le {p q : ℤ} (hs : 1 ≤ seconds) (hpq : p ≤ q) :
    ∃ x, rate (some p) (some q) (some seconds) = some x ∧
      |x * seconds - 8 * (q - p)| ≤ seconds / 20 := by
  have hpos : 0 < seconds := by linarith
  refine ⟨roundTenth ((q - p) * 8 / seconds), ?_, ?_⟩
  · unfold rate
    dsimp only
    rw [if_neg (not_lt.mpr hs), if_neg (not_lt.mpr hpq)]
  · have hround := abs_roundTenth_sub_le ((q - p) * 8 / seconds)
    have hfactor : roundTenth ((q - p) * 8 / seconds) * seconds - 8 * (q - p) =
        (roundTenth ((q - p) * 8 / seconds) - (q - p) * 8 / seconds) * seconds := by
      field_simp
    rw [hfactor, abs_mul, abs_of_pos hpos]
    calc |roundTenth ((q - p) * 8 / seconds) - (q - p) * 8 / seconds| * seconds
        ≤ 1 / 20 * seconds := mul_le_mul_of_nonneg_right hround hpos.le
      _ = seconds / 20 := by ring

end Rate

inductive Direction
  | inbound
  | outbound
  deriving DecidableEq, Repr

namespace Direction

def octets : Direction → InterfaceCounters → Option ℤ
  | .inbound => InterfaceCounters.inOctets
  | .outbound => InterfaceCounters.outOctets

def bps : Direction → InterfaceTraffic → Option ℚ
  | .inbound => InterfaceTraffic.inBps
  | .outbound => InterfaceTraffic.outBps

end Direction

variable (name : String) (dir : Direction)

/-- The counter of an interface in a sample. -/
def TrafficSample.counter (s : TrafficSample) : Option ℤ := (s.counters.get name).bind dir.octets

/-- The rate of an interface in a table. -/
def tableRate (table : Dict String InterfaceTraffic) : Option ℚ := (table.get name).bind dir.bps

lemma rate_none_right (previous : Option ℤ) (seconds : Option ℚ) :
    rate previous none seconds = none := by
  unfold rate
  split
  · next h => cases h
  · rfl

lemma trafficRates_get (previous : Option TrafficSample) (current : TrafficSample) :
    tableRate name dir (trafficRates previous current) =
      rate (previous.bind fun p => p.counter name dir) (current.counter name dir)
        (previous.map fun p => current.sampledAt - p.sampledAt) := by
  unfold tableRate trafficRates TrafficSample.counter
  rw [Dict.get_foldl_set _ current.counters.nodup, Dict.get_empty, Option.or_none]
  change ((current.counters.get name).map _).bind dir.bps = _
  rcases current.counters.get name with _ | now
  · rw [Option.map_none, Option.bind_none, Option.bind_none, rate_none_right]
  · rw [Option.map_some, Option.bind_some, Option.bind_some]
    cases dir <;> cases previous <;> rfl

/-! ### Runs -/

section Runs

variable {V : Type} {entry : ConfigEntry}

/-- The sample a cycle brought: its last attempt at the traffic, unless the cycle was cut off. -/
def sampleOf (r : CycleRecord (SnmpValue V) SnmpExtra) : Option TrafficSample :=
  match r.result, lastAttempt r.attempts "traffic" with
  | .ok _, some (.value (.sample s)) => some s
  | _, _ => none

/-- The SNMP coordinator with the samples its cycles brought, each with what `data.traffic` was
right after its cycle. -/
structure Watched (V : Type) (entry : ConfigEntry) where
  sys : Sys (snmpCoordinator V entry)
  seen : List (TrafficSample × Option (SnmpValue V))

namespace Watched

def init (V : Type) (entry : ConfigEntry) (clock : ℚ) : Watched V entry :=
  ⟨.init (snmpCoordinator V entry) clock, []⟩

/-- The samples of the cycles that ended between `y` and `y'`, with what is published in `y'`. -/
def observed (y y' : Sys (snmpCoordinator V entry)) :
    List (TrafficSample × Option (SnmpValue V)) :=
  ((y'.history.drop y.history.length).filterMap sampleOf).map fun s =>
    (s, y'.state.field "traffic")

def step (w : Watched V entry) (e : Event (SnmpValue V)) : Option (Watched V entry) :=
  (w.sys.step e).map fun y => ⟨y, w.seen ++ observed w.sys y⟩

end Watched

lemma sampleOf_eq_some_iff {r : CycleRecord (SnmpValue V) SnmpExtra} {sample : TrafficSample} :
    sampleOf r = some sample ↔ (∃ x, r.result = .ok x) ∧
      lastAttempt r.attempts "traffic" = some (.value (.sample sample)) := by
  unfold sampleOf
  constructor
  · intro h
    split at h
    · next x s hx hs => exact ⟨⟨x, hx⟩, hs.trans (by rw [Option.some.inj h])⟩
    · cases h
  · rintro ⟨⟨x, hx⟩, hs⟩
    rw [hx, hs]

section Cycle

variable {s : State (SnmpValue V) SnmpExtra} {plan : Plan (snmpCoordinator V entry)} {done : ℚ}
  {attempt : ℕ → String → Result (SnmpValue V)}

lemma sampleOf_collect {updates : Updates (SnmpValue V)} {failures : Failures}
    (hc : ((snmpCoordinator V entry).collect plan attempt).result = .ok (updates, failures))
    (extra : SnmpExtra) (returned : Bool) (sample : TrafficSample) :
    sampleOf ⟨((snmpCoordinator V entry).collect plan attempt).attempts,
      ((snmpCoordinator V entry).collect plan attempt).result, extra, returned⟩ = some sample ↔
      updates.get "traffic" = some (.sample sample) := by
  rw [sampleOf_eq_some_iff, (collect_reflects plan attempt hc).update_iff]
  exact and_iff_right ⟨_, hc⟩

lemma snmpPrepare_sample {extra : SnmpExtra} {updates : Updates (SnmpValue V)}
    {sample : TrafficSample} (h : updates.get "traffic" = some (.sample sample)) :
    (snmpPrepare extra updates).1.get "traffic" =
        some (.traffic (trafficRates extra.trafficSample sample)) ∧
      (snmpPrepare extra updates).2.trafficSample = some sample := by
  unfold snmpPrepare
  rw [h]
  simp

lemma snmpPrepare_of_no_sample {extra : SnmpExtra} {updates : Updates (SnmpValue V)}
    (h : ∀ sample, updates.get "traffic" ≠ some (.sample sample)) :
    snmpPrepare extra updates = (updates, extra) := by
  unfold snmpPrepare
  split
  · next sample hs => exact absurd hs (h sample)
  · rfl

lemma snmpAfterUpdate_trafficSample (extra : SnmpExtra) (updates : Updates (SnmpValue V)) :
    (snmpAfterUpdate extra updates).1.trafficSample = extra.trafficSample := by
  unfold snmpAfterUpdate
  split
  · split
    · rfl
    · split <;> rfl
  · rfl

lemma endCycle_trafficSample (record : CycleRecord (SnmpValue V) SnmpExtra)
    (hattempts : record.attempts = ((snmpCoordinator V entry).collect plan attempt).attempts)
    (hresult : record.result = ((snmpCoordinator V entry).collect plan attempt).result) :
    ((snmpCoordinator V entry).endCycle s plan attempt done).extra.trafficSample =
      (sampleOf record).or s.extra.trafficSample := by
  obtain ⟨attempts, result, extra, returned⟩ := record
  obtain rfl : attempts = _ := hattempts
  obtain rfl : result = _ := hresult
  rcases endCycle_cases s plan done attempt with
    ⟨e, hc, he⟩ | ⟨updates, failures, hc, hempty, he⟩ | ⟨updates, failures, hc, he⟩
  · rw [he]
    unfold sampleOf
    simp only [hc]
    rfl
  · have hno : ∀ sample, updates.get "traffic" ≠ some (.sample sample) := by
      rw [updates.isEmpty_iff.mp hempty]
      exact fun _ => nofun
    have hnone := Option.eq_none_iff_forall_ne_some.mpr fun sample h =>
      hno sample ((sampleOf_collect hc extra returned sample).mp h)
    obtain ⟨logged, hr⟩ := recordResults_eq s plan done updates failures
    rw [he, hr, hnone, Option.none_or]
  · rw [he]
    change (snmpAfterUpdate (snmpPrepare s.extra updates).2 updates).1.trafficSample = _
    rw [snmpAfterUpdate_trafficSample]
    by_cases hs : ∃ sample, updates.get "traffic" = some (.sample sample)
    · obtain ⟨sample, hs⟩ := hs
      rw [(snmpPrepare_sample hs).2, (sampleOf_collect hc extra returned sample).mpr hs,
        Option.some_or]
    · push Not at hs
      have hnone := Option.eq_none_iff_forall_ne_some.mpr fun sample h =>
        hs sample ((sampleOf_collect hc extra returned sample).mp h)
      rw [snmpPrepare_of_no_sample hs, hnone, Option.none_or]

lemma endCycle_published (hprev : plan.previous = (s.data.getD fun _ => none))
    (record : CycleRecord (SnmpValue V) SnmpExtra)
    (hattempts : record.attempts = ((snmpCoordinator V entry).collect plan attempt).attempts)
    (hresult : record.result = ((snmpCoordinator V entry).collect plan attempt).result)
    {sample : TrafficSample} (h : sampleOf record = some sample) :
    ((snmpCoordinator V entry).endCycle s plan attempt done).field "traffic" =
      some (.traffic (trafficRates s.extra.trafficSample sample)) := by
  rw [sampleOf_eq_some_iff, hattempts, hresult] at h
  obtain ⟨⟨⟨updates, failures⟩, hc⟩, hs⟩ := h
  rw [← (collect_reflects plan attempt hc).update_iff] at hs
  rcases endCycle_key hprev done attempt "traffic" with
    ⟨updates', failures', hc', -, hfield, -⟩ | ⟨hno, -⟩
  · obtain ⟨rfl, -⟩ := Prod.mk.inj (Except.ok.inj (hc.symm.trans hc'))
    rw [hfield]
    exact (snmpPrepare_sample hs).1
  · refine absurd ?_ (hno updates failures hc)
    rw [← updates.get_isSome_iff, hs]
    rfl

end Cycle

lemma Watched.observed_of_not_finish {y y' : Sys (snmpCoordinator V entry)}
    {e : Event (SnmpValue V)} (hno : ∀ attempt, e ≠ .finish attempt) (h : y.step e = some y') :
    Watched.observed y y' = [] := by
  unfold Watched.observed
  rcases Sys.step_cases h with
    ⟨now, -, -, rfl⟩ | ⟨_, -, -, -, ⟨-, rfl⟩ | ⟨plan, -, rfl⟩⟩ | ⟨keys, -, rfl⟩ | ⟨a, _, rfl, -⟩
  · rw [List.drop_length]
    rfl
  · rw [List.drop_left]
    rfl
  · rw [List.drop_length]
    rfl
  · rw [List.drop_length]
    rfl
  · exact absurd rfl (hno a)

/-- Each table relates its sample to the one before. -/
structure Published (l : List (TrafficSample × Option (SnmpValue V))) : Prop where
  first : ∀ x, l.head? = some x → x.2 = some (.traffic (trafficRates none x.1))
  following : l.IsChain fun a b => b.2 = some (.traffic (trafficRates (some a.1) b.1))

lemma Published.snoc {l : List (TrafficSample × Option (SnmpValue V))} (h : Published l)
    {s : TrafficSample} {v : Option (SnmpValue V)}
    (hv : v = some (.traffic (trafficRates (l.getLast?.map Prod.fst) s))) :
    Published (l ++ [(s, v)]) where
  first x hx := by
    rcases l with _ | ⟨a, l⟩
    · obtain rfl := Option.some.inj hx
      exact hv
    · exact h.first x hx
  following := by
    refine List.isChain_append.mpr ⟨h.following, List.isChain_singleton _, fun a ha b hb => ?_⟩
    obtain rfl := Option.some.inj hb
    rw [hv, Option.mem_def.mp ha]
    rfl

/-- The coordinator keeps the last sample, and every sample was related to the one before. -/
structure WatchedInv (w : Watched V entry) : Prop where
  running : ∀ plan, w.sys.running = some plan →
    plan.previous = (w.sys.state.data.getD fun _ => none)
  kept : w.sys.state.extra.trafficSample = w.seen.getLast?.map Prod.fst
  published : Published w.seen

namespace WatchedInv

variable {w w' : Watched V entry}

lemma init (clock : ℚ) : WatchedInv (Watched.init V entry clock) where
  running _ h := by cases h
  kept := rfl
  published := ⟨nofun, List.isChain_nil⟩

lemma finish (h : WatchedInv w) {plan : Plan (snmpCoordinator V entry)}
    (hp : w.sys.running = some plan) (attempt : ℕ → String → Result (SnmpValue V)) :
    WatchedInv ⟨w.sys.finish plan attempt,
      w.seen ++ Watched.observed w.sys (w.sys.finish plan attempt)⟩ := by
  have hsample := @endCycle_trafficSample V entry w.sys.state plan w.sys.clock attempt
    (w.sys.finishRecord plan attempt) rfl rfl
  have hobserved : Watched.observed w.sys (w.sys.finish plan attempt) =
      (sampleOf (w.sys.finishRecord plan attempt)).toList.map fun s =>
        (s, (w.sys.finish plan attempt).state.field "traffic") := by
    unfold Watched.observed Sys.finish
    rw [List.drop_left, List.filterMap_cons, List.filterMap_nil]
    rcases sampleOf (w.sys.finishRecord plan attempt) with _ | s <;> rfl
  rw [hobserved]
  rcases hs : sampleOf (w.sys.finishRecord plan attempt) with _ | s
  · rw [hs, Option.none_or] at hsample
    rw [Option.toList_none, List.map_nil, List.append_nil]
    exact ⟨nofun, hsample.trans h.kept, h.published⟩
  · rw [hs, Option.some_or] at hsample
    refine ⟨nofun, ?_, h.published.snoc ?_⟩
    · rw [Option.toList_some, List.map_singleton, List.getLast?_append]
      exact hsample
    · rw [← h.kept]
      exact endCycle_published (h.running plan hp) _ rfl rfl hs

lemma step (h : WatchedInv w) {e : Event (SnmpValue V)} (hstep : w.step e = some w') :
    WatchedInv w' := by
  obtain ⟨y, hy, rfl⟩ := Option.map_eq_some_iff.mp hstep
  by_cases hno : ∀ attempt, e ≠ .finish attempt
  · rw [Watched.observed_of_not_finish hno hy, List.append_nil]
    refine ⟨Sys.previous_step h.running hy, ?_, h.published⟩
    dsimp only
    rw [(Sys.step_keeps hno hy).2.2.2.1]
    exact h.kept
  · push Not at hno
    obtain ⟨attempt, rfl⟩ := hno
    obtain ⟨plan, hp, rfl⟩ := Sys.step_finish hy
    exact h.finish hp attempt

lemma run {clock : ℚ} {es : List (Event (SnmpValue V))}
    (h : Run Watched.step (Watched.init V entry clock) es w) : WatchedInv w :=
  h.invariant (I := fun _ w => WatchedInv w) (init clock) fun _ _ _ _ _ hi hs => hi.step hs

end WatchedInv

/-- The rate in what `data.traffic` holds. -/
def publishedRate : Option (SnmpValue V) → Option ℚ
  | some (.traffic table) => tableRate name dir table
  | _ => none

/-- The rate that belongs to a sample, given the one before. -/
structure RateOf (p s : TrafficSample) (x : Option ℚ) : Prop where
  eq : x = rate (p.counter name dir) (s.counter name dir) (some (s.sampledAt - p.sampledAt))
  none_iff : x = none ↔ p.counter name dir = none ∨ s.counter name dir = none ∨
    s.sampledAt - p.sampledAt < 1 ∨
    ∃ a b, p.counter name dir = some a ∧ s.counter name dir = some b ∧ b < a
  nonneg : ∀ v, x = some v → 0 ≤ v

/-- The bits the published rates amount to. -/
def volume : List (TrafficSample × Option (SnmpValue V)) → ℚ
  | a :: b :: rest => (publishedRate name dir b.2).getD 0 * (b.1.sampledAt - a.1.sampledAt) +
      volume (b :: rest)
  | _ => 0

/-- From one sample to the next at least a second went by, and the counter did not decrease. -/
def Advances (p s : TrafficSample) : Prop :=
  1 ≤ s.sampledAt - p.sampledAt ∧
    ∃ a b, p.counter name dir = some a ∧ s.counter name dir = some b ∧ a ≤ b

lemma rateOf_trafficRates (p s : TrafficSample) :
    RateOf name dir p s (tableRate name dir (trafficRates (some p) s)) := by
  have heq := trafficRates_get name dir (some p) s
  rw [Option.bind_some, Option.map_some] at heq
  refine ⟨heq, ?_, fun v hv => ?_⟩
  · rw [heq]
    exact rate_eq_none_iff
  · rw [heq] at hv
    exact rate_nonneg hv

lemma abs_volume_sub_le {x y : TrafficSample × Option (SnmpValue V)}
    {l : List (TrafficSample × Option (SnmpValue V))} {p q : ℤ}
    (hp : (x :: l).IsChain fun a b => b.2 = some (.traffic (trafficRates (some a.1) b.1)))
    (ha : (x :: l).IsChain fun a b => Advances name dir a.1 b.1)
    (hlast : (x :: l).getLast? = some y) (hx : x.1.counter name dir = some p)
    (hy : y.1.counter name dir = some q) :
    |volume name dir (x :: l) - 8 * (q - p)| ≤ (y.1.sampledAt - x.1.sampledAt) / 20 := by
  induction l generalizing x p with
  | nil =>
    obtain rfl := Option.some.inj hlast
    obtain rfl := Option.some.inj (hx.symm.trans hy)
    unfold volume
    simp
  | cons z l ih =>
    obtain ⟨htable, hp⟩ := List.isChain_cons_cons.mp hp
    obtain ⟨⟨hgap, a, b, ha', hb, hab⟩, hrest⟩ := List.isChain_cons_cons.mp ha
    obtain rfl := Option.some.inj (hx.symm.trans ha')
    obtain ⟨r, hr, hclose⟩ := abs_rate_mul_sub_le hgap hab
    have hrate : publishedRate name dir z.2 = some r := by
      rw [htable]
      unfold publishedRate
      dsimp only
      rw [(rateOf_trafficRates name dir x.1 z.1).eq, hx, hb, hr]
    have hih := ih hp hrest hlast hb
    unfold volume
    rw [hrate, Option.getD_some]
    rw [abs_le] at hclose hih ⊢
    constructor <;> linarith

/-- **Traffic rates over a run.** The table published with a sample relates it to the sample
before; the first one has no rates; and over samples in which the counter advances, the rates
add up to the bits it counted, up to a twentieth of the time. -/
theorem traffic_rates_over_run {clock : ℚ} {es : List (Event (SnmpValue V))} {w : Watched V entry}
    (h : Run Watched.step (Watched.init V entry clock) es w) :
    (∀ s v, w.seen.head? = some (s, v) → publishedRate name dir v = none) ∧
    (∀ before p vp s v after, w.seen = before ++ (p, vp) :: (s, v) :: after →
      RateOf name dir p s (publishedRate name dir v)) ∧
    ∀ x y p q, w.seen.head? = some x → w.seen.getLast? = some y →
      (w.seen.IsChain fun a b => Advances name dir a.1 b.1) →
      x.1.counter name dir = some p → y.1.counter name dir = some q →
      |volume name dir w.seen - 8 * (q - p)| ≤ (y.1.sampledAt - x.1.sampledAt) / 20 := by
  have hpublished := (WatchedInv.run h).published
  refine ⟨fun s v hs => ?_, fun before p vp s v after hl => ?_, fun x y p q hx hy ha hxp hyq => ?_⟩
  · have hv : v = some (.traffic (trafficRates none s)) := hpublished.first _ hs
    rw [hv]
    unfold publishedRate
    dsimp only
    rw [trafficRates_get]
    rfl
  · have hnext := hpublished.following
    rw [hl, List.isChain_append] at hnext
    have hv : v = some (.traffic (trafficRates (some p) s)) :=
      (List.isChain_cons_cons.mp hnext.2.1).1
    rw [hv]
    exact rateOf_trafficRates name dir p s
  · obtain ⟨l, hl⟩ : ∃ l, w.seen = x :: l := List.head?_eq_some_iff.mp hx
    rw [hl] at ha hy ⊢
    refine abs_volume_sub_le name dir ?_ ha hy hxp hyq
    rw [← hl]
    exact hpublished.following

/-- Three cycles, the second without an answer: the rate spans both intervals. -/
theorem traffic_rates_over_run_failed_walk :
    let answers : ℚ → ℤ → ℕ → String → Result (SnmpValue Unit) := fun t n _ key =>
      if key = "traffic" then .value (.sample ⟨t, .single "PortA" ⟨some n, none⟩⟩)
      else .exception (.expected "")
    let events : List (Event (SnmpValue Unit)) := [.start none, .finish (answers 1 1000), .tick 31,
      .start none, .finish fun _ _ => .exception (.connection ""), .tick 62, .start none,
      .finish (answers 61 1075)]
    ∃ w p s vp vs, Run Watched.step (Watched.init Unit ⟨"fw", fun _ => none⟩ 0) events w ∧
      w.seen = [(p, vp), (s, vs)] ∧ publishedRate "PortA" .inbound vs = some 10 ∧
      RateOf "PortA" .inbound p s (publishedRate "PortA" .inbound vs) ∧
      |volume "PortA" .inbound w.seen - 8 * (1075 - 1000)| ≤ (s.sampledAt - p.sampledAt) / 20 := by
  intro answers events
  have hreplay : (replay Watched.step (Watched.init Unit ⟨"fw", fun _ => none⟩ 0) events).map
      (fun w => w.seen.map fun x =>
        (x.1.sampledAt, x.1.counter "PortA" .inbound, publishedRate "PortA" .inbound x.2)) =
      some [(1, some 1000, none), (61, some 1075, some 10)] := by decide +kernel
  obtain ⟨w, hw, hseen⟩ := Option.map_eq_some_iff.mp hreplay
  obtain ⟨⟨p, vp⟩, _, hl, hp, hrest⟩ := List.map_eq_cons_iff.mp hseen
  obtain ⟨⟨s, vs⟩, _, rfl, hs, hnil⟩ := List.map_eq_cons_iff.mp hrest
  obtain rfl := List.map_eq_nil_iff.mp hnil
  obtain ⟨htp, hcp, -⟩ : p.sampledAt = 1 ∧ p.counter "PortA" .inbound = some 1000 ∧ _ := by
    simpa using hp
  obtain ⟨hts, hcs, hrate⟩ : s.sampledAt = 61 ∧ s.counter "PortA" .inbound = some 1075 ∧
      publishedRate "PortA" .inbound vs = some 10 := by simpa using hs
  obtain ⟨-, hrates, hvolume⟩ := traffic_rates_over_run "PortA" .inbound (run_of_replay hw)
  have hchain : w.seen.IsChain fun a b => Advances "PortA" .inbound a.1 b.1 := by
    rw [hl]
    refine List.isChain_cons_cons.mpr ⟨⟨?_, 1000, 1075, hcp, hcs, by decide⟩, .singleton _⟩
    rw [htp, hts]
    norm_num
  refine ⟨w, p, s, vp, vs, run_of_replay hw, hl, hrate, hrates [] p vp s vs [] hl, ?_⟩
  exact_mod_cast hvolume (p, vp) (s, vs) 1000 1075 (by rw [hl]; rfl) (by rw [hl]; rfl) hchain
    hcp hcs

end Runs

end SophosFw.Sources
