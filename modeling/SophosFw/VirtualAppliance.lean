import SophosFw.CycleRun
import SophosFw.Sources

/-!
Recognising a virtual appliance.

A virtual appliance has no hardware sensors, so reading them is given up after some empty
answers. Over a run the verdict only depends on the first readings: failed reads count neither
way, and once it is made, nothing changes it.
-/

namespace SophosFw.Sources

open SophosFw.PyDict SophosFw.Coordinator SophosFw.Runs

variable {V : Type} {entry : ConfigEntry}

/-- The hardware health an ended cycle read, if it did. -/
def healthOf (r : CycleRecord (SnmpValue V) SnmpExtra) : Option SystemHealth :=
  match r.result, lastAttempt r.attempts "health" with
  | .ok _, some (.value (.health h)) => some h
  | _, _ => none

/-- The readings of the cycles that have ended, oldest first. -/
def readings (history : List (CycleRecord (SnmpValue V) SnmpExtra)) : List SystemHealth :=
  history.filterMap healthOf

/-- The first readings decide: hardware if one of them has a sensor, virtual if there are enough
of them and none has. -/
def verdict (l : List SystemHealth) : Option Bool :=
  if (l.take emptyConfirmations).any SystemHealth.hasHardwareSensors then some false
  else if emptyConfirmations ≤ l.length then some true
  else none

lemma verdict_eq_none_iff {l : List SystemHealth} : verdict l = none ↔
    l.length < emptyConfirmations ∧ ∀ h ∈ l, h.hasHardwareSensors = false := by
  unfold verdict
  by_cases hlen : l.length < emptyConfirmations
  · rw [List.take_of_length_le hlen.le]
    by_cases hany : l.any SystemHealth.hasHardwareSensors = true
    · simp only [hany, if_true, reduceCtorEq, false_iff, not_and, hlen, true_imp_iff]
      obtain ⟨h, hh, hs⟩ := List.any_eq_true.mp hany
      exact fun hno => by simp [hno h hh] at hs
    · rw [if_neg hany, if_neg (not_le.mpr hlen)]
      simp only [List.any_eq_true, not_exists, not_and, Bool.not_eq_true] at hany
      simpa [hlen] using hany
  · split_ifs <;> simp_all

/-- A verdict is final. -/
lemma verdict_append {l : List SystemHealth} {b : Bool} (h : verdict l = some b)
    (l' : List SystemHealth) : verdict (l ++ l') = some b := by
  unfold verdict at h ⊢
  rw [List.take_append, List.any_append]
  split_ifs at h with hany hlen
  · simpa [hany] using h
  · have hle : emptyConfirmations ≤ (l ++ l').length := by
      rw [List.length_append]
      omega
    rw [Nat.sub_eq_zero_of_le hlen, List.take_zero, List.any_nil, Bool.or_false, if_neg hany,
      if_pos hle]
    exact h

/-- Before the verdict, the next reading is one more without sensors, or it decides. -/
lemma verdict_snoc {l : List SystemHealth} (h : verdict l = none) (x : SystemHealth) :
    verdict (l ++ [x]) =
      if x.hasHardwareSensors then some false
      else if emptyConfirmations ≤ l.length + 1 then some true else none := by
  obtain ⟨hlen, hno⟩ := verdict_eq_none_iff.mp h
  have htake : (l ++ [x]).take emptyConfirmations = l ++ [x] := by
    refine List.take_of_length_le ?_
    rw [List.length_append, List.length_singleton]
    omega
  have hany : l.any SystemHealth.hasHardwareSensors = false := by
    simpa [List.any_eq_false] using hno
  unfold verdict
  rw [htake, List.any_append, hany, Bool.false_or, List.length_append, List.length_singleton,
    List.any_cons, List.any_nil, Bool.or_false]

/-- What one reading makes of the attributes. -/
def detect (isVirtual : Option Bool) (emptyHealthReads : ℕ) :
    Option SystemHealth → Option Bool × ℕ
  | none => (isVirtual, emptyHealthReads)
  | some h =>
    if isVirtual.isSome then (isVirtual, emptyHealthReads)
    else if h.hasHardwareSensors then (some false, emptyHealthReads)
    else (if emptyConfirmations ≤ emptyHealthReads + 1 then some true else none,
      emptyHealthReads + 1)

/-- The health among the results of a cycle. -/
def readingOf (updates : Updates (SnmpValue V)) : Option SystemHealth :=
  match updates.get "health" with
  | some (.health h) => some h
  | _ => none

lemma snmpAfterUpdate_detects (extra : SnmpExtra) (updates : Updates (SnmpValue V)) :
    ((snmpAfterUpdate extra updates).1.isVirtual,
      (snmpAfterUpdate extra updates).1.emptyHealthReads) =
        detect extra.isVirtual extra.emptyHealthReads (readingOf updates) ∧
    ∀ key, key ∈ (snmpAfterUpdate extra updates).2 ↔ key = "health" ∧
      extra.isVirtual = none ∧ (snmpAfterUpdate extra updates).1.isVirtual = some true := by
  unfold snmpAfterUpdate readingOf
  rcases hv : extra.isVirtual with _ | b
  · rcases hu : updates.get "health" with _ | (_ | _ | h | _)
    · simp [detect, hv]
    · simp [detect, hv]
    · simp [detect, hv]
    · dsimp only
      split_ifs with hs hn
      · simp [detect, hs]
      · simp [detect, hs, hn]
      · simp [detect, hs, hn]
    · simp [detect, hv]
  · rcases updates.get "health" with _ | (_ | _ | h | _) <;> simp [detect, hv]

lemma snmpPrepare_keeps (extra : SnmpExtra) (updates : Updates (SnmpValue V)) :
    (snmpPrepare extra updates).2.isVirtual = extra.isVirtual ∧
      (snmpPrepare extra updates).2.emptyHealthReads = extra.emptyHealthReads := by
  unfold snmpPrepare
  split <;> exact ⟨rfl, rfl⟩

section Cycle

variable {s : State (SnmpValue V) SnmpExtra} {plan : Plan (snmpCoordinator V entry)} {done : ℚ}
  {attempt : ℕ → String → Result (SnmpValue V)}

lemma healthOf_collect {updates : Updates (SnmpValue V)} {failures : Failures}
    (hc : ((snmpCoordinator V entry).collect plan attempt).result = .ok (updates, failures))
    (extra : SnmpExtra) (returned : Bool) :
    healthOf ⟨((snmpCoordinator V entry).collect plan attempt).attempts,
      ((snmpCoordinator V entry).collect plan attempt).result, extra, returned⟩ =
        readingOf updates := by
  have hreflects := collect_reflects plan attempt hc
  unfold healthOf readingOf
  simp only [hc]
  rcases hu : updates.get "health" with _ | v
  · split
    · next h _ hl =>
      rw [hreflects.update_iff.mpr hl] at hu
      cases hu
    · rfl
  · rw [hreflects.update_iff.mp hu]
    cases v <;> rfl

lemma endCycle_detects (record : CycleRecord (SnmpValue V) SnmpExtra)
    (hattempts : record.attempts = ((snmpCoordinator V entry).collect plan attempt).attempts)
    (hresult : record.result = ((snmpCoordinator V entry).collect plan attempt).result) :
    let s' := (snmpCoordinator V entry).endCycle s plan attempt done
    (s'.extra.isVirtual, s'.extra.emptyHealthReads) =
        detect s.extra.isVirtual s.extra.emptyHealthReads (healthOf record) ∧
    ∀ key, s'.runtimeDisabled key = true ↔ s.runtimeDisabled key = true ∨
      (key = "health" ∧ s.extra.isVirtual = none ∧ s'.extra.isVirtual = some true) := by
  intro s'
  obtain ⟨attempts, result, extra, returned⟩ := record
  obtain rfl : attempts = _ := hattempts
  obtain rfl : result = _ := hresult
  -- without a reading, nothing changes
  have same (he : s'.extra = s.extra) (hd : s'.runtimeDisabled = s.runtimeDisabled) (key : String) :
      s'.runtimeDisabled key = true ↔ s.runtimeDisabled key = true ∨
        (key = "health" ∧ s.extra.isVirtual = none ∧ s'.extra.isVirtual = some true) := by
    rw [hd, he]
    refine ⟨.inl, fun h => h.resolve_right ?_⟩
    rintro ⟨-, hnone, hsome⟩
    rw [hnone] at hsome
    cases hsome
  rcases endCycle_cases s plan done attempt with
    ⟨e, hc, he⟩ | ⟨updates, failures, hc, hempty, he⟩ | ⟨updates, failures, hc, he⟩
  · have hs' : s' = { s with lastUpdateSuccess := false } := he
    refine ⟨?_, same (by rw [hs']) (by rw [hs'])⟩
    rw [hs']
    unfold healthOf
    simp only [hc]
    rfl
  · obtain ⟨logged, hr⟩ := recordResults_eq s plan done updates failures
    have hs' : s' = _ := he
    rw [hr] at hs'
    refine ⟨?_, same (by rw [hs']) (by rw [hs'])⟩
    rw [healthOf_collect hc, hs']
    unfold readingOf
    rw [updates.isEmpty_iff.mp hempty]
    rfl
  · have hs' : s' = _ := he
    obtain ⟨hvirtual, hreads⟩ := snmpPrepare_keeps s.extra updates
    obtain ⟨hdetect, hoff⟩ := snmpAfterUpdate_detects (snmpPrepare s.extra updates).2 updates
    have hextra : s'.extra = (snmpAfterUpdate (snmpPrepare s.extra updates).2 updates).1 := by
      rw [hs']
      rfl
    rw [hvirtual, hreads] at hdetect
    rw [hvirtual] at hoff
    rw [healthOf_collect hc, hextra]
    refine ⟨hdetect, fun key => ?_⟩
    have hdisabled : s'.runtimeDisabled key =
        if key ∈ (snmpAfterUpdate (snmpPrepare s.extra updates).2 updates).2 then true
        else s.runtimeDisabled key := by
      rw [hs']
      rfl
    rw [hdisabled, ← hoff key]
    split
    · next h => simp [h]
    · next h => simp [h]

end Cycle

/-! ### Runs -/

/-- The attributes follow the readings, and what is switched off follows the verdict. -/
structure VirtualInv (y : Sys (snmpCoordinator V entry)) : Prop where
  isVirtual : y.state.extra.isVirtual = verdict (readings y.history)
  reads : verdict (readings y.history) = none →
    y.state.extra.emptyHealthReads = (readings y.history).length
  disabled : ∀ key, y.state.runtimeDisabled key = true ↔
    key = "health" ∧ verdict (readings y.history) = some true
  running : ∀ plan, y.running = some plan → verdict (readings y.history) = some true →
    "health" ∉ (plan.due ++ plan.later).map Endpoint.key
  never : ∀ before r after, y.history = before ++ r :: after →
    verdict (readings before) = some true → ∀ p ∈ r.attempts, p.1 ≠ "health"

lemma readings_snoc (history : List (CycleRecord (SnmpValue V) SnmpExtra))
    (r : CycleRecord (SnmpValue V) SnmpExtra) :
    readings (history ++ [r]) = readings history ++ (healthOf r).toList := by
  unfold readings
  rw [List.filterMap_append, List.filterMap_cons, List.filterMap_nil]
  rcases healthOf r with _ | h <;> rfl

lemma split_snoc {α : Type} {l before after : List α} {a b : α}
    (h : l ++ [b] = before ++ a :: after) :
    (before = l ∧ a = b) ∨ ∃ after', l = before ++ a :: after' := by
  rcases after.eq_nil_or_concat with rfl | ⟨after', c, rfl⟩
  · obtain ⟨hl, hb⟩ := List.append_inj' h rfl
    exact .inl ⟨hl.symm, (List.cons.inj hb).1.symm⟩
  · rw [List.concat_eq_append, ← List.cons_append, ← List.append_assoc] at h
    exact .inr ⟨after', (List.append_inj' h rfl).1⟩

namespace VirtualInv

variable {y y' : Sys (snmpCoordinator V entry)}

lemma init (clock : ℚ) : VirtualInv (Sys.init (snmpCoordinator V entry) clock) where
  isVirtual := rfl
  reads _ := rfl
  disabled key := by simp [Sys.init, SophosCoordinator.init, readings, verdict, emptyConfirmations]
  running plan h := by cases h
  never before r after h := by simp [Sys.init] at h

lemma detect_eq (h : VirtualInv y) (r : CycleRecord (SnmpValue V) SnmpExtra) :
    (detect y.state.extra.isVirtual y.state.extra.emptyHealthReads (healthOf r)).1 =
        verdict (readings (y.history ++ [r])) ∧
      (verdict (readings (y.history ++ [r])) = none →
        (detect y.state.extra.isVirtual y.state.extra.emptyHealthReads (healthOf r)).2 =
          (readings (y.history ++ [r])).length) := by
  rw [readings_snoc]
  rcases healthOf r with _ | x
  · rw [Option.toList_none, List.append_nil]
    exact ⟨h.isVirtual, h.reads⟩
  · rw [Option.toList_some, h.isVirtual]
    rcases hv : verdict (readings y.history) with _ | b
    · rw [verdict_snoc hv, h.reads hv]
      unfold detect
      simp only [Option.isSome_none, Bool.false_eq_true, if_false]
      split_ifs <;> simp
    · rw [verdict_append hv]
      exact ⟨rfl, nofun⟩

lemma finish (h : VirtualInv y) {plan : Plan (snmpCoordinator V entry)}
    (hp : y.running = some plan) (attempt : ℕ → String → Result (SnmpValue V)) :
    VirtualInv (y.finish plan attempt) := by
  obtain ⟨hdetect, hoff⟩ := @endCycle_detects V entry y.state plan y.clock attempt
    (y.finishRecord plan attempt) rfl rfl
  obtain ⟨hverdict, hreads⟩ := h.detect_eq (y.finishRecord plan attempt)
  obtain ⟨hvirtual, hcount⟩ := Prod.mk.inj hdetect
  have hnew := hvirtual.trans hverdict
  refine ⟨hnew, fun hn => hcount.trans (hreads hn), fun key => ?_, nofun, ?_⟩
  · refine (hoff key).trans ?_
    rw [hnew, h.disabled key, h.isVirtual]
    change _ ↔ key = "health" ∧
      verdict (readings (y.history ++ [y.finishRecord plan attempt])) = some true
    constructor
    · rintro (⟨hk, hv⟩ | ⟨hk, -, hv⟩)
      · refine ⟨hk, ?_⟩
        rw [readings_snoc, verdict_append hv]
      · exact ⟨hk, hv⟩
    · rintro ⟨hk, hv⟩
      rcases hold : verdict (readings y.history) with _ | b
      · exact .inr ⟨hk, rfl, hv⟩
      · rw [readings_snoc, verdict_append hold] at hv
        exact .inl ⟨hk, hv⟩
  · intro before r after hl hv
    rcases split_snoc hl with ⟨rfl, rfl⟩ | ⟨after', hl'⟩
    · -- a decided session leaves the endpoint out of the plan
      intro p hp' hk
      refine h.running plan hp hv ?_
      rw [← hk]
      exact collect_attempts plan attempt p hp'
    · exact h.never before r after' hl' hv

lemma idle (h : VirtualInv y) : VirtualInv
    { y with state := y.state.idleCycle, history := y.history ++ [y.idleRecord] } := by
  have hreadings : readings (y.history ++ [y.idleRecord]) = readings y.history := by
    rw [readings_snoc]
    exact List.append_nil _
  refine ⟨?_, ?_, ?_, ?_, ?_⟩
  · rw [hreadings]
    exact h.isVirtual
  · rw [hreadings]
    exact h.reads
  · rw [hreadings]
    exact h.disabled
  · rw [hreadings]
    exact h.running
  · intro before r after hl hv
    rcases split_snoc hl with ⟨-, rfl⟩ | ⟨after', hl'⟩
    · intro p hp
      simp [Sys.idleRecord] at hp
    · exact h.never before r after' hl' hv

lemma step (h : VirtualInv y) {e : Event (SnmpValue V)} (hs : y.step e = some y') :
    VirtualInv y' := by
  rcases Sys.step_cases hs with
    ⟨now, -, -, rfl⟩ | ⟨restrictTo, -, -, -, hb⟩ | ⟨keys, -, rfl⟩ | ⟨attempt, plan, -, hp, rfl⟩
  · exact ⟨h.isVirtual, h.reads, h.disabled, h.running, h.never⟩
  · rcases hb with ⟨-, rfl⟩ | ⟨plan, hb, rfl⟩
    · exact h.idle
    · refine ⟨h.isVirtual, h.reads, h.disabled, fun plan' hp hv hmem => ?_, h.never⟩
      obtain rfl := Option.some.inj hp
      obtain ⟨ep, hep, hk⟩ := List.mem_map.mp hmem
      obtain ⟨-, hdue⟩ := (beginUpdate_mem hb ep).mp hep
      simp only [SophosCoordinator.isDue, SophosCoordinator.endpointEnabled, Bool.and_eq_true,
        Bool.not_eq_true'] at hdue
      have hoff := (h.disabled ep.key).mpr ⟨hk, hv⟩
      rw [hdue.1.1] at hoff
      cases hoff
  · refine ⟨?_, ?_, ?_, h.running, h.never⟩
    · rw [State.invalidate_eq]
      exact h.isVirtual
    · rw [State.invalidate_eq]
      exact h.reads
    · rw [State.invalidate_runtimeDisabled]
      exact h.disabled
  · exact h.finish hp attempt

lemma run {clock : ℚ} {es : List (Event (SnmpValue V))}
    (h : Run Sys.step (Sys.init (snmpCoordinator V entry) clock) es y) : VirtualInv y :=
  h.invariant (I := fun _ y => VirtualInv y) (init clock) fun _ _ _ _ _ hi hs => hi.step hs

end VirtualInv

/-- **Virtual appliances.** In every run, the verdict is the one on the first readings, whatever
failed in between. It switches off reading the health, and nothing else ever is. After a verdict
of "virtual" no cycle reads the health again. -/
theorem virtual_from_first_readings {clock : ℚ} {es : List (Event (SnmpValue V))}
    {y : Sys (snmpCoordinator V entry)}
    (h : Run Sys.step (Sys.init (snmpCoordinator V entry) clock) es y) :
    y.state.extra.isVirtual = verdict (readings y.history) ∧
    (∀ key, y.state.runtimeDisabled key = true ↔
      key = "health" ∧ verdict (readings y.history) = some true) ∧
    ∀ before r after, y.history = before ++ r :: after →
      verdict (readings before) = some true →
        verdict (readings y.history) = some true ∧ ∀ p ∈ r.attempts, p.1 ≠ "health" := by
  have hinv := VirtualInv.run h
  refine ⟨hinv.isVirtual, hinv.disabled, fun before r after hl hv => ⟨?_, ?_⟩⟩
  · rw [hl]
    unfold readings at hv ⊢
    rw [List.filterMap_append]
    exact verdict_append hv _
  · exact hinv.never before r after hl hv

/-- Three empty answers with an outage between them. -/
theorem virtual_from_first_readings_outage :
    let health : SystemHealth := ⟨none, none, .empty, .empty⟩
    let answers : ℕ → String → Result (SnmpValue Unit) := fun _ key =>
      if key = "health" then .value (.health health) else .value (.other ())
    let down : ℕ → String → Result (SnmpValue Unit) := fun _ _ => .exception (.connection "")
    let events : List (Event (SnmpValue Unit)) := [.start none, .finish answers, .tick 600,
      .start none, .finish down, .tick 630, .start none, .finish answers, .tick 1230, .start none,
      .finish answers, .tick 1830, .start none, .finish answers]
    ∃ y, Run Sys.step (Sys.init (snmpCoordinator Unit ⟨"fw", fun _ => none⟩) 0) events y ∧
      y.history.length = 5 ∧ y.state.extra.isVirtual = some true ∧
      verdict (readings y.history) = some true := by
  intro health answers down events
  have hreplay : (replay Sys.step (Sys.init (snmpCoordinator Unit ⟨"fw", fun _ => none⟩) 0)
      events).map (fun y => (y.history.length, y.state.extra.isVirtual)) = some (5, some true) := by
    decide +kernel
  obtain ⟨y, hy, hends⟩ := Option.map_eq_some_iff.mp hreplay
  obtain ⟨hlen, hvirtual⟩ := Prod.mk.inj hends
  have hrun := run_of_replay hy
  refine ⟨y, hrun, hlen, hvirtual, ?_⟩
  rw [← (virtual_from_first_readings hrun).1]
  exact hvirtual

end SophosFw.Sources
