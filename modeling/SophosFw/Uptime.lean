import SophosFw.Diagnostics
import Mathlib.Algebra.Order.Floor.Ring

/-!
The time of the last boot.

It is computed from the uptime and from when that was read, at every poll and whenever a state is
written, and what is shown only changes when it moved by more than the tolerance. So it stays what
it is between two boots, however often it is read, and follows a reboot.
-/

namespace SophosFw.Uptime

open SophosFw.PyDict SophosFw.Runs SophosFw.Coordinator SophosFw.Sources
open SophosFw.Diagnostics (SystemStats SnmpRecord)

section Hold

variable {α : Type*} [AddCommGroup α] [LinearOrder α]

/-- Keep what is shown while the readings are within the tolerance of it. -/
def hold (tolerance : α) (shown reading : Option α) : Option α :=
  match reading, shown with
  | none, _ => none
  | some r, none => some r
  | some r, some s => if tolerance < |r - s| then some r else some s

variable {tolerance : α} {shown reading : Option α} {r s : α}

@[simp] lemma isSome_hold : (hold tolerance shown reading).isSome = reading.isSome := by
  unfold hold
  split
  · rfl
  · rfl
  · split <;> rfl

lemma hold_cases (h : hold tolerance shown (some r) = some s) :
    s = r ∨ shown = some s ∧ |r - s| ≤ tolerance := by
  rcases shown with _ | s'
  · exact .inl (Option.some.inj h).symm
  · rw [hold] at h
    split at h
    · exact .inl (Option.some.inj h).symm
    · next hle =>
      obtain rfl := Option.some.inj h
      exact .inr ⟨rfl, not_lt.mp hle⟩

lemma hold_of_near (h : |r - s| ≤ tolerance) :
    hold tolerance (some s) (some r) = some s := if_neg (not_lt.mpr h)

end Hold

/-- `uptime_seconds` of the statistics, if there are any. -/
def uptimeSeconds : Option (SnmpValue SnmpRecord) → Option ℤ
  | some (.other (.stats s)) => s.uptimeSeconds
  | _ => none

def bootTimeTolerance : ℤ := 60

section Sensor

variable {σ : Type}

/-- `_reported_boot_time`, with the readings of the monotonic and the wall clock. -/
def reportedBootTime (s : State (SnmpValue SnmpRecord) σ) (monotonic utcnow : ℚ) : Option ℤ :=
  match uptimeSeconds (s.field "stats"), s.fetchedAt "stats" with
  | some uptime, some fetched => some ⌊utcnow - (monotonic - fetched + uptime)⌋
  | _, _ => none

/-- The SNMP coordinator and the sensor. -/
structure World (entry : ConfigEntry) where
  sys : Sys (snmpCoordinator SnmpRecord entry)
  /-- `_boot_time`. -/
  bootTime : Option ℤ
  /-- When the last cycle that brought statistics ended, and the uptime in them. -/
  last : Option (ℚ × Option ℤ)

inductive Event
  | coordinator (e : Coordinator.Event (SnmpValue SnmpRecord))
  /-- `native_value` is read. -/
  | read (utcnow : ℚ)

/-- What a cycle that ends brings of the statistics. -/
def brought {entry : ConfigEntry} (y : Sys (snmpCoordinator SnmpRecord entry)) :
    Coordinator.Event (SnmpValue SnmpRecord) → Option (SnmpValue SnmpRecord)
  | .finish attempt =>
    match y.running with
    | none => none
    | some plan =>
      match ((snmpCoordinator SnmpRecord entry).collect plan attempt).result with
      | .error _ => none
      | .ok (updates, _) => updates.get "stats"
  | _ => none

namespace World

variable {entry : ConfigEntry}

def init (entry : ConfigEntry) (clock : ℚ) : World entry := ⟨.init _ clock, none, none⟩

/-- What `native_value` returns, which is what it keeps. -/
def nativeValue (w : World entry) (utcnow : ℚ) : Option ℤ :=
  hold bootTimeTolerance w.bootTime (reportedBootTime w.sys.state w.sys.clock utcnow)

def step (w : World entry) : Event → Option (World entry)
  | .coordinator e => (w.sys.step e).map fun y =>
    { w with
      sys := y
      last := ((brought w.sys e).map fun v => (w.sys.clock, uptimeSeconds (some v))).or w.last }
  | .read utcnow => some { w with bootTime := w.nativeValue utcnow }

/-- No write invalidates the statistics. -/
def Undisturbed (e : Event) : Prop :=
  ∀ keys, e = .coordinator (.invalidate keys) → "stats" ∉ keys

/-- Statistics and stamp are those of the last cycle that brought some. -/
structure Inv (w : World entry) : Prop where
  previous : ∀ plan, w.sys.running = some plan →
    plan.previous = (w.sys.state.data.getD fun _ => none)
  generation : ∀ plan, w.sys.running = some plan →
    plan.generation "stats" = w.sys.state.generation "stats"
  uptime : uptimeSeconds (w.sys.state.field "stats") = w.last.bind Prod.snd
  fetchedAt : w.sys.state.fetchedAt "stats" = w.last.map Prod.fst

variable {w w' : World entry}

lemma inv_init (entry : ConfigEntry) (clock : ℚ) : (init entry clock).Inv :=
  ⟨nofun, nofun, rfl, rfl⟩

lemma generation_step {y y' : Sys (snmpCoordinator SnmpRecord entry)}
    {e : Coordinator.Event (SnmpValue SnmpRecord)} (hs : y.step e = some y')
    (he : ∀ keys, e = .invalidate keys → "stats" ∉ keys)
    (h : ∀ plan, y.running = some plan → plan.generation "stats" = y.state.generation "stats") :
    ∀ plan, y'.running = some plan → plan.generation "stats" = y'.state.generation "stats" := by
  rcases Sys.step_cases hs with
    ⟨now, -, -, rfl⟩ | ⟨restrictTo, -, hidle, -, hb⟩ | ⟨keys, rfl, rfl⟩ | ⟨attempt, plan, -, -, rfl⟩
  · exact h
  · rcases hb with ⟨-, rfl⟩ | ⟨plan, hb, rfl⟩
    · exact h
    · rintro _ ⟨⟩
      rw [(beginUpdate_some hb).2.1]
  · intro plan hp
    have hkeys := State.invalidate_generation (s := y.state) (he keys rfl)
    exact (h plan hp).trans hkeys.symm
  · nofun

lemma stats_step {y y' : Sys (snmpCoordinator SnmpRecord entry)}
    {e : Coordinator.Event (SnmpValue SnmpRecord)} (hs : y.step e = some y')
    (hprev : ∀ plan, y.running = some plan →
      plan.previous = (y.state.data.getD fun _ => none))
    (hgen : ∀ plan, y.running = some plan →
      plan.generation "stats" = y.state.generation "stats") :
    y'.state.field "stats" = (brought y e).or (y.state.field "stats") ∧
    y'.state.fetchedAt "stats" =
      ((brought y e).map fun _ => y.clock).or (y.state.fetchedAt "stats") := by
  by_cases hno : ∀ attempt, e ≠ .finish attempt
  · have hnone : brought y e = none := by
      cases e with
      | finish attempt => exact absurd rfl (hno attempt)
      | _ => rfl
    obtain ⟨hfield, hfetched, -⟩ := Sys.step_keeps hno hs
    rw [hnone, hfield, hfetched]
    exact ⟨rfl, rfl⟩
  push Not at hno
  obtain ⟨attempt, rfl⟩ := hno
  obtain ⟨plan, hrunning, rfl⟩ := Sys.step_finish hs
  have hbrought : brought y (.finish attempt) =
      match ((snmpCoordinator SnmpRecord entry).collect plan attempt).result with
      | .error _ => none
      | .ok (updates, _) => updates.get "stats" := by
    simp only [brought, hrunning]
  rw [hbrought]
  change (SophosCoordinator.endCycle _ _ _ _ _).field _ = _ ∧
    (SophosCoordinator.endCycle _ _ _ _ _).fetchedAt _ = _
  rcases endCycle_key (hprev plan hrunning) y.clock attempt "stats" with
    ⟨updates, failures, hresult, hmem, hfield, hfetched, -⟩ | ⟨hno, hfield, hfetched, -⟩
  · have hget : ((snmpCoordinator SnmpRecord entry).prepare y.state.extra updates).1.get "stats" =
        updates.get "stats" := snmpPrepare_get _ _ (by decide)
    obtain ⟨v, hv⟩ := Option.isSome_iff_exists.mp (updates.get_isSome_iff.mpr hmem)
    rw [hfield, hfetched, hget, hresult, if_pos (hgen plan hrunning).symm]
    simp only [hv, Option.some_or, Option.map_some, and_self]
  · rw [hfield, hfetched]
    rcases hresult : ((snmpCoordinator SnmpRecord entry).collect plan attempt).result with
      err | ⟨updates, failures⟩
    · exact ⟨rfl, rfl⟩
    · have hget := updates.get_eq_none_iff.mpr (hno updates failures hresult)
      simp only [hget, Option.none_or, Option.map_none, and_self]

lemma Inv.step (h : w.Inv) {e : Event} (he : Undisturbed e) (hs : w.step e = some w') :
    w'.Inv := by
  cases e with
  | read utcnow =>
    cases hs
    exact ⟨h.previous, h.generation, h.uptime, h.fetchedAt⟩
  | coordinator e =>
    obtain ⟨y, hy, rfl⟩ := Option.map_eq_some_iff.mp hs
    have hgeneration := generation_step hy (fun keys hk => he keys (congrArg _ hk)) h.generation
    obtain ⟨hfield, hfetched⟩ := stats_step hy h.previous h.generation
    refine ⟨Sys.previous_step h.previous hy, hgeneration, ?_, ?_⟩ <;> dsimp only
    · rw [hfield]
      rcases brought w.sys e with _ | v
      · exact h.uptime
      · rfl
    · rw [hfetched]
      rcases brought w.sys e with _ | v
      · exact h.fetchedAt
      · rfl

lemma inv_run {clock : ℚ} {es : List Event} (h : Run step (init entry clock) es w)
    (hes : ∀ e ∈ es, Undisturbed e) : w.Inv := by
  refine h.invariant_atEach (P := fun e _ => Undisturbed e) (inv_init entry clock)
    (fun _ _ _ he hi hs => hi.step he hs) ?_
  rintro before e after _ rfl -
  exact hes e (by simp)

lemma Inv.reported (h : w.Inv) (utcnow : ℚ) :
    reportedBootTime w.sys.state w.sys.clock utcnow =
      w.last.bind fun x => x.2.map fun uptime => ⌊utcnow - (w.sys.clock - x.1 + uptime)⌋ := by
  unfold reportedBootTime
  rw [h.uptime, h.fetchedAt]
  rcases w.last with _ | ⟨t, _ | u⟩ <;> rfl

/-! ### Between two boots -/

/-- The last statistics are of a firewall that booted at that time, as the wall clock has it. -/
def Fits (offset boot ε : ℚ) (w : World entry) : Prop :=
  ∀ t (u : ℤ), w.last = some (t, some u) → |t + offset - u - boot| ≤ ε

/-- The clocks agree when the sensor is read, and so are statistics that come in. -/
def Accurate (offset boot δ ε : ℚ) (e : Event) (w : World entry) : Prop :=
  match e with
  | .read utcnow => |utcnow - (w.sys.clock + offset)| ≤ δ
  | .coordinator e => ∀ v (u : ℤ), brought w.sys e = some v → uptimeSeconds (some v) = some u →
      |w.sys.clock + offset - u - boot| ≤ ε

instance (offset boot δ ε : ℚ) (e : Event) (w : World entry) :
    Decidable (Accurate offset boot δ ε e w) :=
  match e with
  | .read utcnow => inferInstanceAs (Decidable (|utcnow - (w.sys.clock + offset)| ≤ δ))
  | .coordinator e =>
    decidable_of_iff (∀ u ∈ (brought w.sys e).bind fun v => uptimeSeconds (some v),
        |w.sys.clock + offset - u - boot| ≤ ε) (by
      unfold Accurate
      simp only [Option.mem_def, Option.bind_eq_some_iff, forall_exists_index, and_imp]
      exact forall_comm)

/-- An uptime is there whenever the sensor is read. -/
def Found (e : Event) (w : World entry) : Prop :=
  ∀ utcnow, e = .read utcnow → w.last.bind Prod.snd ≠ none

instance (e : Event) (w : World entry) : Decidable (Found e w) :=
  match e with
  | .read utcnow => decidable_of_iff (w.last.bind Prod.snd ≠ none)
      ⟨fun h _ _ => h, fun h => h utcnow rfl⟩
  | .coordinator _ => .isTrue nofun

/-- The boot to the second, as far as the clocks tell. -/
def AtBoot (boot δ ε : ℚ) (s : ℤ) : Prop := boot - (δ + ε) - 1 < s ∧ s ≤ boot + (δ + ε)

variable {offset boot δ ε : ℚ}

lemma Fits.step (h : w.Fits offset boot ε) {e : Event} (he : Accurate offset boot δ ε e w)
    (hs : w.step e = some w') : w'.Fits offset boot ε := by
  cases e with
  | read utcnow =>
    cases hs
    exact h
  | coordinator e =>
    obtain ⟨y, -, rfl⟩ := Option.map_eq_some_iff.mp hs
    intro t u hl
    rcases hb : brought w.sys e with _ | v
    · simp only [hb, Option.map_none, Option.none_or] at hl
      exact h t u hl
    · simp only [hb, Option.map_some, Option.some_or, Option.some.injEq, Prod.mk.injEq] at hl
      obtain ⟨rfl, hu⟩ := hl
      exact he v u hb hu

lemma Fits.atBoot (h : w.Fits offset boot ε) {t : ℚ} {u : ℤ} (hl : w.last = some (t, some u))
    {utcnow : ℚ} (hnow : |utcnow - (w.sys.clock + offset)| ≤ δ) :
    AtBoot boot δ ε ⌊utcnow - (w.sys.clock - t + u)⌋ := by
  obtain ⟨h₁, h₂⟩ := abs_le.mp hnow
  obtain ⟨h₃, h₄⟩ := abs_le.mp (h t u hl)
  have hlt := Int.lt_floor_add_one (utcnow - (w.sys.clock - t + u))
  have hle := Int.floor_le (utcnow - (w.sys.clock - t + u))
  constructor <;> linarith

/-- Two such times are within the tolerance of each other. -/
lemma AtBoot.near {r s : ℤ} (hr : AtBoot boot δ ε r) (hs : AtBoot boot δ ε s) (hle : δ + ε ≤ 30) :
    |r - s| ≤ bootTimeTolerance := by
  obtain ⟨hr₁, hr₂⟩ := hr
  obtain ⟨hs₁, hs₂⟩ := hs
  have h₁ : ((r - s : ℤ) : ℚ) < ((61 : ℤ) : ℚ) := by
    push_cast
    linarith
  have h₂ : ((s - r : ℤ) : ℚ) < ((61 : ℤ) : ℚ) := by
    push_cast
    linarith
  rw [Int.cast_lt] at h₁ h₂
  unfold bootTimeTolerance
  rw [abs_le]
  omega

lemma nativeValue_cases (hi : w.Inv) (h : w.Fits offset boot ε) {utcnow : ℚ}
    (hnow : |utcnow - (w.sys.clock + offset)| ≤ δ) {s : ℤ} (hs : w.nativeValue utcnow = some s) :
    AtBoot boot δ ε s ∨ ∃ r, AtBoot boot δ ε r ∧ w.bootTime = some s ∧ |r - s| ≤ 60 := by
  unfold nativeValue at hs
  rw [hi.reported] at hs
  rcases hl : w.last with _ | ⟨t, _ | u⟩ <;> rw [hl] at hs
  · cases hs
  · cases hs
  · have hr := h.atBoot hl hnow
    rcases hold_cases hs with rfl | ⟨hsame, hnear⟩
    · exact .inl hr
    · exact .inr ⟨_, hr, hsame, hnear⟩

lemma bootTime_step (hi : w.Inv) (h : w.Fits offset boot ε) (hle : δ + ε ≤ 30) {s : ℤ}
    (hs : w.bootTime = some s) (hat : AtBoot boot δ ε s) {e : Event}
    (hacc : Accurate offset boot δ ε e w)
    (hfound : Found e w) (hstep : w.step e = some w') : w'.bootTime = some s := by
  cases e with
  | coordinator e =>
    obtain ⟨y, -, rfl⟩ := Option.map_eq_some_iff.mp hstep
    exact hs
  | read utcnow =>
    cases hstep
    obtain ⟨t, u, hl⟩ : ∃ t u, w.last = some (t, some u) := by
      rcases hl : w.last with _ | ⟨t, _ | u⟩
      · exact absurd (by rw [hl]; rfl) (hfound utcnow rfl)
      · exact absurd (by rw [hl]; rfl) (hfound utcnow rfl)
      · exact ⟨t, u, rfl⟩
    have hr := h.atBoot hl hacc
    change w.nativeValue utcnow = some s
    unfold nativeValue
    rw [hi.reported, hl, hs]
    exact hold_of_near (hr.near hat hle)

/-- **The boot that is shown is stable and follows reboots.** After any run in which nothing
invalidates the statistics, let the firewall stay up from one boot on, with the clocks and what it
says of its uptime accurate to 30 seconds together. Once the boot is shown it is shown unchanged, as
long as the sensor finds an uptime when it is read. Whenever it is read, it shows something if and
only if the last statistics had an uptime, and what it shows is the boot, or what it showed before
and no more than the tolerance away: so after a reboot it follows with the next reading. -/
theorem boot_stable_and_follows_reboots {clock : ℚ} {es es' : List Event}
    (h : Run step (init entry clock) es w) (h' : Run step w es' w')
    (hes : ∀ e ∈ es ++ es', Undisturbed e) (hfits : w.Fits offset boot ε)
    (hacc : AtEach step w (Accurate offset boot δ ε) es') (hle : δ + ε ≤ 30) :
    (∀ s, w.bootTime = some s → AtBoot boot δ ε s →
      AtEach step w Found es' → w'.bootTime = some s) ∧
    ∀ utcnow, |utcnow - (w'.sys.clock + offset)| ≤ δ →
      ((w'.nativeValue utcnow).isSome ↔ (w'.last.bind Prod.snd).isSome) ∧
      ∀ s, w'.nativeValue utcnow = some s → AtBoot boot δ ε s ∨
        (w'.bootTime = some s ∧ |(s : ℚ) - boot| ≤ 61 + δ + ε) := by
  have hi : w.Inv := inv_run h fun e he => hes e (List.mem_append_left _ he)
  have hquiet : AtEach step w (fun e v => Undisturbed e ∧ Accurate offset boot δ ε e v) es' := by
    intro before e after v hsplit hv
    refine ⟨hes e ?_, hacc before e after v hsplit hv⟩
    rw [hsplit]
    simp
  have hstep (v : World entry) (e : Event) (v' : World entry)
      (he : Undisturbed e ∧ Accurate offset boot δ ε e v) (hv : v.Inv ∧ v.Fits offset boot ε)
      (hs : v.step e = some v') : v'.Inv ∧ v'.Fits offset boot ε :=
    ⟨hv.1.step he.1 hs, hv.2.step he.2 hs⟩
  obtain ⟨hi', hfits'⟩ := h'.invariant_atEach ⟨hi, hfits⟩ hstep hquiet
  refine ⟨fun s hs hat hfound => ?_, fun utcnow hnow => ⟨?_, fun s hs => ?_⟩⟩
  · have hall : AtEach step w (fun e v => (Undisturbed e ∧ Accurate offset boot δ ε e v) ∧
        Found e v) es' :=
      fun before e after v hsplit hv =>
        ⟨hquiet before e after v hsplit hv, hfound before e after v hsplit hv⟩
    have hkept := h'.invariant_atEach
      (I := fun v => (v.Inv ∧ v.Fits offset boot ε) ∧ v.bootTime = some s) ⟨⟨hi, hfits⟩, hs⟩
      (fun v e v' he hv hvs => ⟨hstep v e v' he.1 hv.1 hvs,
        bootTime_step hv.1.1 hv.1.2 hle hv.2 hat he.1.2 he.2 hvs⟩) hall
    exact hkept.2
  · rw [nativeValue, isSome_hold, hi'.reported]
    rcases w'.last with _ | ⟨t, _ | u⟩ <;> simp
  · rcases nativeValue_cases hi' hfits' hnow hs with hat | ⟨r, hr, hsame, hnear⟩
    · exact .inl hat
    · refine .inr ⟨hsame, ?_⟩
      obtain ⟨hr₁, hr₂⟩ := hr
      have hcast : |(r : ℚ) - s| ≤ 60 := by exact_mod_cast hnear
      obtain ⟨h₁, h₂⟩ := abs_le.mp hcast
      rw [abs_le]
      constructor <;> linarith

end World

end Sensor

def exampleStats (uptime : ℤ) : SystemStats :=
  ⟨none, some uptime, none, none, none, none, none, none, none, none, none, none, none, none⟩

/-- The agent answers with the statistics, and with nothing else. -/
def exampleAttempt (uptime : ℤ) (_ : ℕ) (key : String) : Result (SnmpValue SnmpRecord) :=
  if key = "stats" then .value (.other (.stats (exampleStats uptime)))
  else .exception (.expected "timeout")

/-- The firewall reboots between two polls, and the statistics of the third are a second late. -/
theorem boot_stable_and_follows_reboots_reboot :
    let entry : ConfigEntry := ⟨"fw", fun _ => none⟩
    let poll (uptime : ℤ) (utcnow : ℚ) : List Event := [.coordinator (.start none),
      .coordinator (.finish (exampleAttempt uptime)), .read utcnow]
    ∃ w w' w'' : World entry, Run World.step (.init entry 5000) (poll 1000 1005000) w ∧
      w.bootTime = some 1004000 ∧
      Run World.step w (.coordinator (.tick 5600) :: poll 100 1005600) w' ∧
      w'.bootTime = some 1005500 ∧
      Run World.step w' (.coordinator (.tick 5630) :: poll 129 1005630) w'' ∧
      w''.bootTime = some 1005500 := by
  intro entry poll
  have hreplay : (replay World.step (.init entry 5000) (poll 1000 1005000)).any (fun w =>
      decide (w.bootTime = some 1004000) &&
      (replay World.step w (.coordinator (.tick 5600) :: poll 100 1005600)).any fun w' =>
        decide (w'.bootTime = some 1005500 ∧ w'.last = some (5600, some 100) ∧
          AtEach World.step w' (World.Accurate 1000000 1005500 0 1)
            (.coordinator (.tick 5630) :: poll 129 1005630) ∧
          AtEach World.step w' World.Found (.coordinator (.tick 5630) :: poll 129 1005630)) &&
        (replay World.step w' (.coordinator (.tick 5630) :: poll 129 1005630)).isSome) = true := by
    decide +kernel
  obtain ⟨w, hw, hfacts⟩ := (Option.any_eq_true _ _).mp hreplay
  obtain ⟨hboot, hfacts⟩ := Bool.and_eq_true_iff.mp hfacts
  obtain ⟨w', hw', hfacts⟩ := (Option.any_eq_true _ _).mp hfacts
  obtain ⟨hfacts, hsome⟩ := Bool.and_eq_true_iff.mp hfacts
  obtain ⟨hboot', hlast, hacc, hfound⟩ := of_decide_eq_true hfacts
  obtain ⟨w'', hw''⟩ := Option.isSome_iff_exists.mp hsome
  have hrun := run_of_replay hw
  have hfits : w'.Fits 1000000 1005500 1 := by
    intro t u hl
    obtain ⟨rfl, hu⟩ := Prod.mk.inj (Option.some.inj (hl.symm.trans hlast))
    obtain rfl := Option.some.inj hu
    norm_num
  have hat : World.AtBoot 1005500 0 1 1005500 := by
    unfold World.AtBoot
    norm_num
  have hquiet : ∀ e ∈ (poll 1000 1005000 ++ .coordinator (.tick 5600) :: poll 100 1005600) ++
      .coordinator (.tick 5630) :: poll 129 1005630, World.Undisturbed e := by
    rintro e he keys rfl
    simp [poll] at he
  obtain ⟨hstable, -⟩ := World.boot_stable_and_follows_reboots (hrun.trans_replay hw')
    (run_of_replay hw'') hquiet hfits hacc (by norm_num)
  exact ⟨w, w', w'', hrun, of_decide_eq_true hboot, run_of_replay hw', hboot', run_of_replay hw'',
    hstable _ hboot' hat hfound⟩

end SophosFw.Uptime
