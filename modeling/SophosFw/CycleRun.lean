import SophosFw.CycleSpec
import SophosFw.Runs

/-!
A coordinator over time: cycles one after another, each with whatever its fetches come to,
and invalidations at any moment, also while a cycle runs.
-/

namespace SophosFw.Coordinator

open SophosFw.PyDict

variable {V σ : Type}

/-- What a cycle that has ended tried, and what it came to. -/
structure CycleRecord (V σ : Type) where
  attempts : List (String × Result V)
  result : Except CycleError (Updates V × Failures)
  /-- The attributes of the subclass when the results were prepared. -/
  extra : σ
  /-- The cycle returned data; otherwise it raised. -/
  returned : Bool

/-- A coordinator, the cycle it is in the middle of, the monotonic clock, and the cycles that
have ended, oldest first. -/
structure Sys (c : SophosCoordinator V σ) where
  state : State V σ
  running : Option (Plan c)
  clock : ℚ
  history : List (CycleRecord V σ)

inductive Event (V : Type)
  | tick (now : ℚ)
  /-- Home Assistant starts a cycle; only the first one may be restricted. -/
  | start (restrictTo : Option (List String))
  | invalidate (keys : List String)
  /-- The fetches of the running cycle are over, with these outcomes. -/
  | finish (attempt : ℕ → String → Result V)

namespace Sys

variable {c : SophosCoordinator V σ}

def init (c : SophosCoordinator V σ) (clock : ℚ) : Sys c := ⟨c.init, none, clock, []⟩

def finishRecord (y : Sys c) (plan : Plan c) (attempt : ℕ → String → Result V) :
    CycleRecord V σ where
  attempts := (c.collect plan attempt).attempts
  result := (c.collect plan attempt).result
  extra := y.state.extra
  returned := (c.endCycle y.state plan attempt y.clock).lastUpdateSuccess

def idleRecord (y : Sys c) : CycleRecord V σ := ⟨[], .ok (.empty, .empty), y.state.extra, true⟩

/-- The end of the running cycle. -/
def finish (y : Sys c) (plan : Plan c) (attempt : ℕ → String → Result V) : Sys c :=
  { y with
    state := c.endCycle y.state plan attempt y.clock
    running := none
    history := y.history ++ [y.finishRecord plan attempt] }

def step (y : Sys c) : Event V → Option (Sys c)
  | .tick now => if y.clock ≤ now then some { y with clock := now } else none
  | .start restrictTo =>
    if y.running.isSome ∨ (restrictTo.isSome ∧ y.history ≠ []) then none
    else
      match c.beginUpdate y.state restrictTo y.clock with
      | none => some { y with state := y.state.idleCycle, history := y.history ++ [y.idleRecord] }
      | some plan => some { y with running := some plan }
  | .invalidate keys => some { y with state := y.state.invalidate keys }
  | .finish attempt =>
    match y.running with
    | none => none
    | some plan => some (y.finish plan attempt)

lemma step_start {y y' : Sys c} {restrictTo : Option (List String)}
    (h : y.step (.start restrictTo) = some y') :
    y.running = none ∧ (restrictTo.isSome → y.history = []) ∧
      ((c.beginUpdate y.state restrictTo y.clock = none ∧
        y' = { y with state := y.state.idleCycle, history := y.history ++ [y.idleRecord] }) ∨
      ∃ plan, c.beginUpdate y.state restrictTo y.clock = some plan ∧
        y' = { y with running := some plan }) := by
  simp only [step] at h
  split at h
  · cases h
  · next hno =>
    simp only [not_or, not_and, Bool.not_eq_true, Option.isSome_eq_false_iff,
      Option.isNone_iff_eq_none, ne_eq, not_not] at hno
    refine ⟨hno.1, hno.2, ?_⟩
    split at h
    · next hb => exact Or.inl ⟨hb, (Option.some.inj h).symm⟩
    · next plan hb => exact Or.inr ⟨plan, hb, (Option.some.inj h).symm⟩

lemma step_finish {y y' : Sys c} {attempt : ℕ → String → Result V}
    (h : y.step (.finish attempt) = some y') :
    ∃ plan, y.running = some plan ∧ y' = y.finish plan attempt := by
  simp only [step] at h
  split at h
  · cases h
  · next plan hp => exact ⟨plan, hp, (Option.some.inj h).symm⟩

lemma step_cases {y y' : Sys c} {e : Event V} (h : y.step e = some y') :
    (∃ now, e = .tick now ∧ y.clock ≤ now ∧ y' = { y with clock := now }) ∨
    (∃ restrictTo, e = .start restrictTo ∧ y.running = none ∧
      (restrictTo.isSome → y.history = []) ∧
      ((c.beginUpdate y.state restrictTo y.clock = none ∧
        y' = { y with state := y.state.idleCycle, history := y.history ++ [y.idleRecord] }) ∨
      ∃ plan, c.beginUpdate y.state restrictTo y.clock = some plan ∧
        y' = { y with running := some plan })) ∨
    (∃ keys, e = .invalidate keys ∧ y' = { y with state := y.state.invalidate keys }) ∨
    (∃ attempt plan, e = .finish attempt ∧ y.running = some plan ∧
      y' = y.finish plan attempt) := by
  cases e with
  | tick now =>
    simp only [step, Option.ite_none_right_eq_some, Option.some.injEq] at h
    exact Or.inl ⟨now, rfl, h.1, h.2.symm⟩
  | start restrictTo => exact Or.inr (Or.inl ⟨restrictTo, rfl, step_start h⟩)
  | invalidate keys => exact Or.inr (Or.inr (Or.inl ⟨keys, rfl, (Option.some.inj h).symm⟩))
  | finish attempt =>
    obtain ⟨plan, hp, heq⟩ := step_finish h
    exact Or.inr (Or.inr (Or.inr ⟨attempt, plan, rfl, hp, heq⟩))

end Sys

/-- The last ended cycle that tried an endpoint. -/
def lastTrying (history : List (CycleRecord V σ)) (key : String) : Option (CycleRecord V σ) :=
  history.reverse.find? fun r => (lastAttempt r.attempts key).isSome

lemma lastTrying_snoc (history : List (CycleRecord V σ)) (r : CycleRecord V σ) (key : String) :
    lastTrying (history ++ [r]) key =
      if (lastAttempt r.attempts key).isSome then some r else lastTrying history key := by
  simp only [lastTrying, List.reverse_append, List.reverse_singleton, List.singleton_append,
    List.find?_cons]
  split <;> simp_all

/-- `data.<key>`. -/
def State.field (s : State V σ) (key : String) : Option V := (s.data.getD fun _ => none) key

/-- `SophosEntity.available` of an entity fed by an endpoint. -/
def State.entityAvailable (s : State V σ) (key : String) : Bool :=
  s.lastUpdateSuccess && s.endpointAvailable key

lemma Sys.step_keeps {c : SophosCoordinator V σ} {y y' : Sys c} {e : Event V}
    (hno : ∀ attempt, e ≠ .finish attempt) (h : y.step e = some y') :
    y'.state.field = y.state.field ∧ y'.state.fetchedAt = y.state.fetchedAt ∧
    y'.state.endpointAvailable = y.state.endpointAvailable ∧ y'.state.extra = y.state.extra ∧
    ∀ plan, y'.running = some plan → y.running = some plan ∧
      (y'.state.data.getD fun _ => none) = (y.state.data.getD fun _ => none) ∨
      plan.previous = (y'.state.data.getD fun _ => none) := by
  rcases Sys.step_cases h with
    ⟨now, -, -, rfl⟩ | ⟨restrictTo, -, hidle, -, hb⟩ | ⟨keys, -, rfl⟩ | ⟨attempt, plan, he, -⟩
  · exact ⟨rfl, rfl, rfl, rfl, fun plan hp => .inl ⟨hp, rfl⟩⟩
  · rcases hb with ⟨-, rfl⟩ | ⟨plan, hb, rfl⟩
    · refine ⟨rfl, rfl, rfl, rfl, fun plan hp => ?_⟩
      rw [hidle] at hp
      cases hp
    · refine ⟨rfl, rfl, rfl, rfl, fun plan' hp => .inr ?_⟩
      obtain rfl := Option.some.inj hp
      exact (beginUpdate_some hb).1
  · refine ⟨?_, ?_, ?_, ?_, fun plan hp => .inl ⟨hp, ?_⟩⟩ <;> dsimp only
    · ext key
      unfold State.field
      rw [State.invalidate_data]
    · rw [State.invalidate_fetchedAt]
    · ext key
      unfold State.endpointAvailable
      rw [State.invalidate_ok]
    · rw [State.invalidate_eq]
    · rw [State.invalidate_data]
  · exact absurd he (hno attempt)

lemma Sys.previous_step {c : SophosCoordinator V σ} {y y' : Sys c} {e : Event V}
    (hi : ∀ plan, y.running = some plan → plan.previous = (y.state.data.getD fun _ => none))
    (h : y.step e = some y') :
    ∀ plan, y'.running = some plan → plan.previous = (y'.state.data.getD fun _ => none) := by
  intro plan hp
  by_cases hno : ∀ attempt, e ≠ .finish attempt
  · rcases (Sys.step_keeps hno h).2.2.2.2 plan hp with ⟨hp', hdata⟩ | hprev
    · rw [hi plan hp', hdata]
    · exact hprev
  · push Not at hno
    obtain ⟨attempt, rfl⟩ := hno
    rcases Sys.step_cases h with ⟨_, he, -⟩ | ⟨_, he, -⟩ | ⟨_, he, -⟩ | ⟨_, _, -, -, rfl⟩
    · cases he
    · cases he
    · cases he
    · cases hp

lemma endCycle_field {c : SophosCoordinator V σ} {s : State V σ} {plan : Plan c}
    (hprev : plan.previous = (s.data.getD fun _ => none)) (done : ℚ)
    {attempt : ℕ → String → Result V} {updates : Updates V} {failures : Failures}
    (h : (c.collect plan attempt).result = .ok (updates, failures)) (key : String) :
    (c.endCycle s plan attempt done).field key =
      ((c.prepare s.extra updates).1.get key).or (s.field key) := by
  rcases endCycle_cases s plan done attempt with
    ⟨e, hc, -⟩ | ⟨updates', failures', hc, hempty, he⟩ | ⟨updates', failures', hc, he⟩
  · rw [h] at hc
    cases hc
  · obtain ⟨rfl, rfl⟩ := Prod.mk.inj (Except.ok.inj (h.symm.trans hc))
    obtain ⟨logged, hr⟩ := recordResults_eq s plan done updates failures
    have hget := c.prepare_keys s.extra updates key
    rw [updates.isEmpty_iff.mp hempty key, Option.isSome_none, Option.isSome_eq_false_iff,
      Option.isNone_iff_eq_none] at hget
    rw [he, hr, hget, Option.none_or]
    rfl
  · obtain ⟨rfl, rfl⟩ := Prod.mk.inj (Except.ok.inj (h.symm.trans hc))
    rw [he]
    unfold State.field mergedData
    rw [hprev]
    rfl

lemma endCycle_available {c : SophosCoordinator V σ} (s : State V σ) (plan : Plan c) (done : ℚ)
    {attempt : ℕ → String → Result V} {updates : Updates V} {failures : Failures}
    (h : (c.collect plan attempt).result = .ok (updates, failures)) (key : String) :
    (c.endCycle s plan attempt done).endpointAvailable key =
      if key ∈ failures.keys then false
      else if key ∈ updates.keys then true else s.endpointAvailable key := by
  unfold State.endpointAvailable
  rw [(endCycle_recorded s plan done h key).1]
  split
  · rfl
  · split
    · rfl
    · rfl

/-- What the end of a cycle does to one endpoint. Either the cycle brought a value, which is
stored as `prepare` leaves it and stamped unless something invalidated the endpoint meanwhile,
or field and stamp stay what they were and the endpoint did not recover. -/
lemma endCycle_key {c : SophosCoordinator V σ} {s : State V σ} {plan : Plan c}
    (hprev : plan.previous = (s.data.getD fun _ => none)) (done : ℚ)
    (attempt : ℕ → String → Result V) (key : String) :
    (∃ updates failures, (c.collect plan attempt).result = .ok (updates, failures) ∧
      key ∈ updates.keys ∧
      (c.endCycle s plan attempt done).field key = (c.prepare s.extra updates).1.get key ∧
      (c.endCycle s plan attempt done).fetchedAt key =
        (if s.generation key = plan.generation key then some done else s.fetchedAt key) ∧
      (c.endCycle s plan attempt done).endpointAvailable key = true) ∨
    ((∀ updates failures, (c.collect plan attempt).result = .ok (updates, failures) →
        key ∉ updates.keys) ∧
      (c.endCycle s plan attempt done).field key = s.field key ∧
      (c.endCycle s plan attempt done).fetchedAt key = s.fetchedAt key ∧
      ((c.endCycle s plan attempt done).endpointAvailable key = true →
        s.endpointAvailable key = true)) := by
  rcases hc : (c.collect plan attempt).result with e | ⟨updates, failures⟩
  · rcases endCycle_cases s plan done attempt with ⟨_, -, he⟩ | ⟨_, _, hc', -⟩ | ⟨_, _, hc', -⟩
    · rw [he]
      exact .inr ⟨nofun, rfl, rfl, id⟩
    · cases hc.symm.trans hc'
    · cases hc.symm.trans hc'
  have hfield := endCycle_field hprev done hc key
  have havailable := endCycle_available s plan done hc key
  have hfetched := (endCycle_recorded s plan done hc key).2.2
  have hget := c.prepare_keys s.extra updates key
  by_cases hk : key ∈ updates.keys
  · left
    rw [updates.get_isSome_iff.mpr hk] at hget
    obtain ⟨v, hv⟩ := Option.isSome_iff_exists.mp hget
    refine ⟨updates, failures, rfl, hk, by rw [hfield, hv, Option.some_or], ?_, ?_⟩
    · rw [hfetched]
      simp only [hk, true_and]
    · rw [havailable, if_neg ((collect_reflects plan attempt hc).not_failed hk), if_pos hk]
  · right
    rw [updates.get_eq_none_iff.mpr hk, Option.isSome_none, Option.isSome_eq_false_iff,
      Option.isNone_iff_eq_none] at hget
    refine ⟨?_, by rw [hfield, hget, Option.none_or], ?_, fun h => ?_⟩
    · rintro _ _ ⟨⟩
      exact hk
    · rw [hfetched, if_neg fun h => hk h.1]
    · rw [havailable, if_neg hk] at h
      split at h
      · cases h
      · exact h

end SophosFw.Coordinator
