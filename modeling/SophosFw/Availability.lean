import SophosFw.CycleRun
import SophosFw.Sources

/-!
An endpoint that is reported available has data, and the data is what its last attempt
brought.

The flags of an endpoint are only written by a cycle that does not raise while handling its
failures. What makes the law hold all the same is that such a cycle leaves the schedule
alone too: every endpoint it tried was due, stays due, and is tried again by the next cycle
that returns.
-/

namespace SophosFw.Coordinator

open SophosFw.PyDict SophosFw.Runs

variable {V σ : Type} {c : SophosCoordinator V σ}

/-- The last attempt of the endpoint succeeded, in a cycle that returned data, and the data
field holds what that cycle prepared from it. -/
def Sound (y : Sys c) (key : String) : Prop :=
  ∃ r updates failures v, lastTrying y.history key = some r ∧ r.returned = true ∧
    r.result = .ok (updates, failures) ∧ lastAttempt r.attempts key = some (.value v) ∧
    updates.get key = some v ∧ ∃ w, (c.prepare r.extra updates).1.get key = some w ∧
      y.state.field key = some w

/-- The next cycle will try the endpoint. -/
def Pending (y : Sys c) (key : String) : Prop :=
  ∃ ep ∈ c.endpoints, ep.key = key ∧ c.isDue y.state y.clock ep

/-- Between cycles an available endpoint is sound, or the last cycle raised and the endpoint
is still due. While a cycle runs, everything it is about to try is still due, and an
available endpoint it does not try is sound. -/
structure AvailInv (y : Sys c) : Prop where
  between : y.running = none → ∀ key, y.state.endpointAvailable key →
    Sound y key ∨ (y.state.lastUpdateSuccess = false ∧ Pending y key)
  running : ∀ plan, y.running = some plan →
    plan.previous = (y.state.data.getD fun _ => none) ∧
    (∀ ep ∈ plan.due, Pending y ep.key) ∧
    (plan.later ≠ [] → y.history = []) ∧
    ∀ key, y.state.endpointAvailable key → Sound y key ∨ key ∈ plan.due.map Endpoint.key
  fresh : y.history = [] → ∀ key, y.state.endpointAvailable key = false

lemma Pending.tick {y : Sys c} {key : String} {now : ℚ} (h : Pending y key)
    (hn : y.clock ≤ now) : Pending { y with clock := now } key := by
  obtain ⟨ep, hep, hk, hd⟩ := h
  refine ⟨ep, hep, hk, ?_⟩
  simp only [SophosCoordinator.isDue, Bool.and_eq_true] at hd ⊢
  exact ⟨hd.1, TierScheduler.isDue_mono hd.2 hn⟩

lemma Pending.invalidate {y : Sys c} {key : String} (keys : List String) (h : Pending y key) :
    Pending { y with state := y.state.invalidate keys } key := by
  obtain ⟨ep, hep, hk, hd⟩ := h
  refine ⟨ep, hep, hk, ?_⟩
  simp only [SophosCoordinator.isDue, SophosCoordinator.endpointEnabled, Bool.and_eq_true,
    State.invalidate_runtimeDisabled] at hd ⊢
  exact ⟨hd.1, y.state.invalidate_isDue keys hd.2⟩

lemma Sound.congr {y y' : Sys c} {key : String} (h : Sound y key)
    (hh : lastTrying y'.history key = lastTrying y.history key)
    (hf : y'.state.field key = y.state.field key) : Sound y' key := by
  obtain ⟨r, updates, failures, v, h1, h2, h3, h4, h5, w, h6, h7⟩ := h
  exact ⟨r, updates, failures, v, hh.trans h1, h2, h3, h4, h5, w, h6, hf.trans h7⟩

lemma lastTrying_untried {y : Sys c} {plan : Plan c} {attempt : ℕ → String → Result V}
    {key : String} (h : lastAttempt (c.collect plan attempt).attempts key = none) :
    lastTrying (y.history ++ [y.finishRecord plan attempt]) key = lastTrying y.history key := by
  rw [lastTrying_snoc]
  simp [Sys.finishRecord, h]

variable {y : Sys c} {plan : Plan c} {attempt : ℕ → String → Result V}

lemma untried_of_collect {updates : Updates V} {failures : Failures}
    (hc : (c.collect plan attempt).result = .ok (updates, failures)) {key : String}
    (hu : key ∉ updates.keys) (hf : key ∉ failures.keys) :
    lastAttempt (c.collect plan attempt).attempts key = none := by
  rcases hl : lastAttempt (c.collect plan attempt).attempts key with _ | r
  · rfl
  · rcases (collect_reflects plan attempt hc).attempted hl with ⟨v, hv⟩ | ⟨e, he⟩
    · exact absurd (updates.get_isSome_iff.mp (by simp [hv])) hu
    · exact absurd (failures.get_isSome_iff.mp (by simp [he])) hf

lemma available_recorded {updates : Updates V} {failures : Failures}
    (hc : (c.collect plan attempt).result = .ok (updates, failures)) {done : ℚ} {key : String}
    (h : (c.recordResults y.state plan done updates failures).endpointAvailable key) :
    key ∈ updates.keys ∨ (y.state.endpointAvailable key ∧
      lastAttempt (c.collect plan attempt).attempts key = none) := by
  obtain ⟨logged, hr⟩ := recordResults_eq y.state plan done updates failures
  rw [hr] at h
  simp only [State.endpointAvailable] at h
  by_cases hf : key ∈ failures.keys
  · simp [hf] at h
  by_cases hu : key ∈ updates.keys
  · exact Or.inl hu
  · rw [if_neg hf, if_neg hu] at h
    exact Or.inr ⟨h, untried_of_collect hc hu hf⟩

lemma AvailInv.sound_of_untried (hi : AvailInv y) (hp : y.running = some plan) {key : String}
    (hk : y.state.endpointAvailable key)
    (hn : lastAttempt (c.collect plan attempt).attempts key = none) : Sound y key := by
  obtain ⟨-, -, -, hs⟩ := hi.running plan hp
  refine (hs key hk).resolve_right fun hdue => ?_
  obtain ⟨ep, hep, rfl⟩ := List.mem_map.mp hdue
  exact lastAttempt_collect_ne_none plan attempt hep hn

lemma AvailInv.finish (hi : AvailInv y) (hp : y.running = some plan) {key : String}
    {y' : Sys c} (hy' : y' = y.finish plan attempt) (h : y'.state.endpointAvailable key) :
    Sound y' key ∨ (y'.state.lastUpdateSuccess = false ∧ Pending y' key) := by
  obtain ⟨hprev, hdue, hlater, hs⟩ := hi.running plan hp
  rcases endCycle_cases y.state plan y.clock attempt with
    ⟨e, hc, he⟩ | ⟨updates, failures, hc, hempty, he⟩ | ⟨updates, failures, hc, he⟩
  · -- raised while handling the failures: nothing was written, what was due still is
    subst hy'
    rw [Sys.finish, he] at h ⊢
    have hk : y.state.endpointAvailable key := h
    by_cases hd : key ∈ plan.due.map Endpoint.key
    · obtain ⟨ep, hep, rfl⟩ := List.mem_map.mp hd
      exact Or.inr ⟨rfl, hdue ep hep⟩
    · left
      have hfirst : plan.later = [] := by
        by_contra hne
        simp [hi.fresh (hlater hne) key] at hk
      have hn : lastAttempt (c.collect plan attempt).attempts key = none :=
        lastAttempt_none_of_keys (collect_attempts plan attempt) (by simpa [hfirst] using hd)
      exact ((hs key hk).resolve_right hd).congr (lastTrying_untried hn) rfl
  · -- nothing to return: no endpoint succeeded
    subst hy'
    left
    rw [Sys.finish, he] at h ⊢
    rcases available_recorded hc h with hu | ⟨hk, hn⟩
    · exact absurd hu (Dict.not_mem_keys_of_isEmpty hempty key)
    · refine (hi.sound_of_untried hp hk hn).congr (lastTrying_untried hn) ?_
      obtain ⟨logged, hr⟩ := recordResults_eq y.state plan y.clock updates failures
      simp only [State.field, hr]
  · left
    have hret : (y.finishRecord plan attempt).returned = true := by
      simp only [Sys.finishRecord, he]
    subst hy'
    rw [Sys.finish, he] at h ⊢
    rcases available_recorded hc h with hu | ⟨hk, hn⟩
    · -- it succeeded: the record of this very cycle bears it out
      obtain ⟨v, hv⟩ := Option.isSome_iff_exists.mp (updates.get_isSome_iff.mpr hu)
      have hl := (collect_reflects plan attempt hc).update_iff.mp hv
      have hw := c.prepare_keys y.state.extra updates key
      rw [hv, Option.isSome_some, Option.isSome_iff_exists] at hw
      obtain ⟨w, hw⟩ := hw
      refine ⟨y.finishRecord plan attempt, updates, failures, v, ?_, hret, hc, hl, hv, w, hw, ?_⟩
      · rw [lastTrying_snoc]
        simp [Sys.finishRecord, hl]
      · simp [State.field, mergedData, hw]
    · refine (hi.sound_of_untried hp hk hn).congr (lastTrying_untried hn) ?_
      have hu : updates.get key = none := by
        have := (collect_reflects plan attempt hc) key
        rw [hn] at this
        exact this.1
      have hw := c.prepare_keys y.state.extra updates key
      rw [hu, Option.isSome_none, Option.isSome_eq_false_iff, Option.isNone_iff_eq_none] at hw
      simp [State.field, mergedData, hw, hprev]

/-! ### Whole runs -/

theorem availInv_init (clock : ℚ) : AvailInv (Sys.init c clock) where
  between _ key h := by simp [Sys.init, SophosCoordinator.init, State.endpointAvailable] at h
  running plan h := by simp [Sys.init] at h
  fresh _ key := rfl

theorem AvailInv.step {e : Event V} {y' : Sys c} (hi : AvailInv y)
    (h : y.step e = some y') : AvailInv y' := by
  rcases Sys.step_cases h with ⟨now, -, hn, rfl⟩ | ⟨restrictTo, -, hnone, hfirst, hstart⟩ |
    ⟨keys, -, rfl⟩ | ⟨attempt, plan, -, hp, hy'⟩
  · -- tick
    refine ⟨fun hr key hk => ?_, fun plan hp => ?_, hi.fresh⟩
    · rcases hi.between hr key hk with hs | ⟨h1, h2⟩
      · exact Or.inl hs
      · exact Or.inr ⟨h1, h2.tick hn⟩
    · obtain ⟨h1, h2, h3, h4⟩ := hi.running plan hp
      exact ⟨h1, fun ep hep => (h2 ep hep).tick hn, h3, h4⟩
  · rcases hstart with ⟨hb, rfl⟩ | ⟨plan, hb, rfl⟩
    · -- nothing due
      have hempty := beginUpdate_none hb
      refine ⟨fun _ key hk => Or.inl ?_, fun plan hp => ?_, fun hh => ?_⟩
      · refine ((hi.between hnone key hk).resolve_right ?_).congr ?_ ?_
        · rintro ⟨-, ep, hep, -, hd⟩
          exact List.not_mem_nil (hempty ▸ List.mem_filter.mpr ⟨hep, hd⟩)
        · rw [lastTrying_snoc]
          simp [Sys.idleRecord]
        · simp [State.field, State.idleCycle, State.conclude]
      · simp [hnone] at hp
      · simp at hh
    · obtain ⟨hprev, -, hdue, hall⟩ := beginUpdate_some hb
      refine ⟨fun hr => (by cases hr), fun plan' hp => ?_, hi.fresh⟩
      obtain rfl := Option.some.inj hp
      refine ⟨hprev, fun ep hep => ⟨ep, (hdue ep hep).1, rfl, (hdue ep hep).2⟩, fun hne => ?_,
        fun key hk => ?_⟩
      · rcases restrictTo with _ | keys
        · exact absurd (hall rfl).1 hne
        · exact hfirst rfl
      · refine (hi.between hnone key hk).imp id ?_
        rintro ⟨-, ep, hep, hek, hd⟩
        rcases restrictTo with _ | keys
        · rw [(hall rfl).2]
          exact List.mem_map.mpr ⟨ep, List.mem_filter.mpr ⟨hep, hd⟩, hek⟩
        · simp [hi.fresh (hfirst rfl) key] at hk
  · -- invalidate
    refine ⟨fun hr key hk => ?_, fun plan hp => ?_, fun hh key => ?_⟩
    · have hk' : y.state.endpointAvailable key := by simpa [State.endpointAvailable] using hk
      rcases hi.between hr key hk' with hs | ⟨h1, h2⟩
      · exact Or.inl (hs.congr rfl (by simp [State.field]))
      · exact Or.inr ⟨by simpa using h1, h2.invalidate keys⟩
    · obtain ⟨h1, h2, h3, h4⟩ := hi.running plan hp
      refine ⟨by simpa using h1, fun ep hep => (h2 ep hep).invalidate keys, h3, fun key hk => ?_⟩
      have hk' : y.state.endpointAvailable key := by simpa [State.endpointAvailable] using hk
      exact (h4 key hk').imp (fun hs => hs.congr rfl (by simp [State.field])) id
    · simpa [State.endpointAvailable] using hi.fresh hh key
  · exact
      { between := fun _ key hk => hi.finish hp hy' hk
        running := fun plan' hp' => by subst hy'; cases hp'
        fresh := fun hh => by subst hy'; simp [Sys.finish] at hh }

/-- **Availability is sound.** After any run of cycles, if the last one returned and an
endpoint counts as available, then the last attempt to fetch the endpoint succeeded (a retry
counts in place of the attempt it repeats), and its data field holds the prepared result of
that attempt. -/
theorem availability_sound (c : SophosCoordinator V σ) {clock : ℚ} {es : List (Event V)}
    {y : Sys c} (hrun : Run Sys.step (Sys.init c clock) es y) (hidle : y.running = none)
    {key : String} (hav : y.state.entityAvailable key) : Sound y key := by
  have hi : AvailInv y := hrun.invariant (I := fun _ y => AvailInv y) (availInv_init clock)
    fun _ _ _ _ _ hi hs => hi.step hs
  simp only [State.entityAvailable, Bool.and_eq_true] at hav
  refine (hi.between hidle key hav.2).resolve_right fun ⟨hlast, _⟩ => ?_
  simp [hav.1] at hlast

/-- The law at the restricted first refresh of setup: only the admin settings are fetched. -/
theorem availability_sound_first_refresh :
    ∃ y : Sys (Sources.xmlCoordinator String ⟨"fw", fun _ => none⟩),
      replay Sys.step (Sys.init _ 0)
        [.start (some ["admin"]), .finish fun _ _ => .value "5HeyneXG"] = some y ∧
      y.state.entityAvailable "admin" = true ∧ Sound y "admin" := by
  refine ⟨_, rfl, rfl, ?_⟩
  have hrun := @run_of_replay _ _ Sys.step _ _
    [Event.start (some ["admin"]), Event.finish fun _ _ => .value "5HeyneXG"]
    (rfl : replay Sys.step (Sys.init (Sources.xmlCoordinator String ⟨"fw", fun _ => none⟩) 0) _
      = some _)
  exact availability_sound _ hrun rfl rfl

end SophosFw.Coordinator
