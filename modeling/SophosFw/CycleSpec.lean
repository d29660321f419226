import SophosFw.Coordinator

/-!
What one update cycle does, said once for each of its parts: the dictionaries it collects
agree with the last attempt of every endpoint, and its end changes the stamps, the success
flags and the data of exactly the endpoints it collected something for.
-/

namespace SophosFw.Coordinator

open SophosFw.PyDict

variable {V σ : Type}

@[simp] lemma lastAttempt_nil (key : String) :
    lastAttempt ([] : List (String × Result V)) key = none := rfl

lemma lastAttempt_append (a b : List (String × Result V)) (key : String) :
    lastAttempt (a ++ b) key = (lastAttempt b key).or (lastAttempt a key) := by
  simp [lastAttempt, List.lookup_append]

lemma lastAttempt_snoc (a : List (String × Result V)) (k key : String) (r : Result V) :
    lastAttempt (a ++ [(k, r)]) key = if key = k then some r else lastAttempt a key := by
  rw [lastAttempt_append]
  by_cases h : key = k
  · subst h; simp [lastAttempt]
  · simp [lastAttempt, List.lookup_cons, h, beq_eq_false_iff_ne.mpr h]

lemma lastAttempt_eq_none_iff (a : List (String × Result V)) (key : String) :
    lastAttempt a key = none ↔ ∀ p ∈ a, p.1 ≠ key := by
  simp only [lastAttempt, List.lookup_eq_none_iff, List.mem_reverse, bne_iff_ne]
  exact ⟨fun h p hp e => h p hp e.symm, fun h p hp e => h p hp e.symm⟩

lemma lastAttempt_isSome_of_mem {a : List (String × Result V)} {p : String × Result V}
    (h : p ∈ a) : ∃ r, lastAttempt a p.1 = some r := by
  rcases hl : lastAttempt a p.1 with _ | r
  · exact absurd rfl ((lastAttempt_eq_none_iff a p.1).mp hl p h)
  · exact ⟨r, rfl⟩

lemma mem_of_lastAttempt {a : List (String × Result V)} {key : String} {r : Result V}
    (h : lastAttempt a key = some r) : (key, r) ∈ a := by
  rw [lastAttempt, List.lookup_eq_some_iff] at h
  obtain ⟨l₁, l₂, he, -⟩ := h
  rw [← List.mem_reverse, he]
  simp

namespace Reflects

variable {attempts : List (String × Result V)} {updates : Updates V} {failures : Failures}

lemma update_iff (h : Reflects attempts updates failures) {key : String} {v : V} :
    updates.get key = some v ↔ lastAttempt attempts key = some (.value v) := by
  have hk := h key
  split at hk <;> simp_all

lemma failure_iff (h : Reflects attempts updates failures) {key : String} {e : FetchError} :
    failures.get key = some e ↔ lastAttempt attempts key = some (.exception e) := by
  have hk := h key
  split at hk <;> simp_all

lemma attempted (h : Reflects attempts updates failures) {key : String} {r : Result V}
    (hr : lastAttempt attempts key = some r) :
    (∃ v, updates.get key = some v) ∨ ∃ e, failures.get key = some e := by
  have hk := h key
  rw [hr] at hk
  rcases r with v | e | _
  · exact Or.inl ⟨v, hk.1⟩
  · exact Or.inr ⟨e, hk.2⟩
  · exact hk.elim

lemma update_none_of_failure (h : Reflects attempts updates failures) {key : String}
    {e : FetchError} (he : failures.get key = some e) : updates.get key = none := by
  have hk := h key
  rw [h.failure_iff.mp he] at hk
  exact hk.1

lemma not_failed (h : Reflects attempts updates failures) {key : String}
    (hk : key ∈ updates.keys) : key ∉ failures.keys := by
  intro hf
  obtain ⟨e, he⟩ := Option.isSome_iff_exists.mp (failures.get_isSome_iff.mpr hf)
  exact updates.get_eq_none_iff.mp (h.update_none_of_failure he) hk

/-- Only the last attempts matter. -/
lemma congr {attempts' : List (String × Result V)} (h : Reflects attempts updates failures)
    (hl : ∀ key, lastAttempt attempts' key = lastAttempt attempts key) :
    Reflects attempts' updates failures := by
  intro key
  rw [hl]
  exact h key

lemma empty : Reflects ([] : List (String × Result V)) .empty .empty := fun _ => by simp

lemma snoc_value (h : Reflects attempts updates failures) {k : String} (v : V)
    (hk : lastAttempt attempts k = none) :
    Reflects (attempts ++ [(k, .value v)]) (updates.set k v) failures := by
  intro key
  rw [lastAttempt_snoc]
  by_cases hkey : key = k
  · subst hkey
    have hn := h key
    rw [hk] at hn
    simpa using hn.2
  · simpa [hkey] using h key

lemma snoc_exception (h : Reflects attempts updates failures) {k : String} (e : FetchError)
    (hk : lastAttempt attempts k = none) :
    Reflects (attempts ++ [(k, .exception e)]) updates (failures.set k e) := by
  intro key
  rw [lastAttempt_snoc]
  by_cases hkey : key = k
  · subst hkey
    have hn := h key
    rw [hk] at hn
    simpa using hn.1
  · simpa [hkey] using h key

lemma append {attempts' : List (String × Result V)} {updates' : Updates V}
    {failures' : Failures} (h : Reflects attempts updates failures)
    (h' : Reflects attempts' updates' failures')
    (hd : ∀ key, lastAttempt attempts key = none ∨ lastAttempt attempts' key = none) :
    Reflects (attempts ++ attempts') (updates.update updates') (failures.update failures') := by
  intro key
  have hk := h key
  have hk' := h' key
  rw [lastAttempt_append, Dict.get_update, Dict.get_update]
  rcases hd key with hn | hn
  · rw [hn] at hk ⊢
    simpa [hk.1, hk.2] using hk'
  · rw [hn] at hk' ⊢
    simpa [hk'.1, hk'.2] using hk

end Reflects

lemma sortResults_reflects {l : List (String × Result V)} {before : List (String × Result V)}
    {updates updates' : Updates V} {failures failures' : Failures}
    (h : Reflects before updates failures)
    (hn : ((before ++ l).map Prod.fst).Nodup)
    (hl : sortResults l updates failures = .ok (updates', failures')) :
    Reflects (before ++ l) updates' failures' := by
  induction l generalizing before updates failures with
  | nil =>
    obtain ⟨rfl, rfl⟩ : updates = updates' ∧ failures = failures' := by
      simpa [sortResults] using hl
    simpa using h
  | cons p rest ih =>
    obtain ⟨k, r⟩ := p
    rw [List.append_cons] at hn ⊢
    have hk : lastAttempt before k = none := by
      rw [lastAttempt_eq_none_iff]
      rintro p hp rfl
      simp only [List.map_append, List.nodup_append, List.map_cons, List.map_nil] at hn
      exact hn.1.2.2 p.1 (List.mem_map_of_mem hp) p.1 (by simp) rfl
    cases r with
    | value v => exact ih (h.snoc_value v hk) hn hl
    | exception e => exact ih (h.snoc_exception e hk) hn hl
    | baseException => simp [sortResults] at hl

lemma fetch_reflects {attempt : String → Result V} {endpoints : List Endpoint}
    {updates : Updates V} {failures : Failures}
    (hn : (endpoints.map Endpoint.key).Nodup)
    (h : (fetch attempt endpoints).result = .ok (updates, failures)) :
    Reflects (fetch attempt endpoints).attempts updates failures :=
  sortResults_reflects Reflects.empty (by simpa [fetch, Function.comp_def] using hn) h

lemma fetch_attempts (attempt : String → Result V) (endpoints : List Endpoint) :
    (fetch attempt endpoints).attempts.map Prod.fst = endpoints.map Endpoint.key := by
  simp [fetch, Function.comp_def]

lemma mem_fetch_attempts {attempt : String → Result V} {endpoints : List Endpoint}
    {p : String × Result V} (h : p ∈ (fetch attempt endpoints).attempts) :
    p.1 ∈ endpoints.map Endpoint.key ∧ p.2 = attempt p.1 := by
  obtain ⟨ep, hep, rfl⟩ := List.mem_map.mp h
  exact ⟨List.mem_map_of_mem hep, rfl⟩

section Collect

variable {c : SophosCoordinator V σ} (plan : Plan c) (attempt : ℕ → String → Result V)

lemma Plan.mem_endpoints {ep : Endpoint} (h : ep ∈ plan.due ∨ ep ∈ plan.later) :
    ep ∈ c.endpoints :=
  plan.subperm.subset (List.mem_append.mpr h)

lemma Plan.keys_nodup : ((plan.due ++ plan.later).map Endpoint.key).Nodup := by
  obtain ⟨l, hp, hs⟩ := plan.subperm
  exact (hp.map Endpoint.key).nodup_iff.mp (c.keys_nodup.sublist (hs.map Endpoint.key))

section Batch

variable {endpoints : List Endpoint} {first retry : String → Result V}

lemma failed_mem_keys {fetched : Updates V × Failures} {key : String}
    (hn : (endpoints.map Endpoint.key).Nodup)
    (hf : (fetch first endpoints).result = .ok fetched) (hk : key ∈ fetched.2.keys) :
    key ∈ endpoints.map Endpoint.key := by
  obtain ⟨e, he⟩ := Option.isSome_iff_exists.mp (fetched.2.get_isSome_iff.mpr hk)
  have hl := (fetch_reflects hn hf).failure_iff.mp he
  by_contra hne
  have hnone : lastAttempt (fetch first endpoints).attempts key = none := by
    rw [lastAttempt_eq_none_iff]
    rintro p hp rfl
    exact hne (mem_fetch_attempts hp).1
  rw [hnone] at hl
  cases hl

lemma batch_attempts (hn : (endpoints.map Endpoint.key).Nodup) :
    ∀ p ∈ (c.batch first retry endpoints).attempts, p.1 ∈ endpoints.map Endpoint.key :=
  Cycle.bind_attempts (fun _ hp => (mem_fetch_attempts hp).1) fun _ hf p hp =>
    failed_mem_keys hn hf (c.handle_attempts _ _ _ p hp).1

lemma batch_attempts_eq :
    ∀ p ∈ (c.batch first retry endpoints).attempts, p.2 = first p.1 ∨ p.2 = retry p.1 :=
  Cycle.bind_attempts (fun _ hp => Or.inl (mem_fetch_attempts hp).2) fun _ _ p hp =>
    Or.inr (c.handle_attempts _ _ _ p hp).2

lemma batch_reflects {updates : Updates V} {failures : Failures}
    (hs : endpoints ⊆ c.endpoints) (hn : (endpoints.map Endpoint.key).Nodup)
    (h : (c.batch first retry endpoints).result = .ok (updates, failures)) :
    Reflects (c.batch first retry endpoints).attempts updates failures := by
  obtain ⟨fetched, hf, h, hatt⟩ := Cycle.bind_ok h
  rw [← SophosCoordinator.batch] at hatt
  rw [hatt]
  exact c.handle_reflects _ _ _ _ _ _
    (fun key hk => List.map_subset _ hs (failed_mem_keys hn hf hk)) (fetch_reflects hn hf) h

end Batch

lemma lastAttempt_none_of_keys {a : List (String × Result V)} {keys : List String} {key : String}
    (ha : ∀ p ∈ a, p.1 ∈ keys) (hk : key ∉ keys) : lastAttempt a key = none := by
  rw [lastAttempt_eq_none_iff]
  rintro p hp rfl
  exact hk (ha p hp)

lemma collect_reflects {updates : Updates V} {failures : Failures}
    (h : (c.collect plan attempt).result = .ok (updates, failures)) :
    Reflects (c.collect plan attempt).attempts updates failures := by
  have hnd := plan.keys_nodup
  rw [List.map_append, List.nodup_append] at hnd
  obtain ⟨hdue, hlater, hdisj⟩ := hnd
  obtain ⟨⟨u, f⟩, hb, h, hatt⟩ := Cycle.bind_ok h
  rw [← SophosCoordinator.collect] at hatt
  dsimp only at h hatt
  have hr := batch_reflects (fun ep hep => plan.mem_endpoints (Or.inl hep)) hdue hb
  rw [hatt]
  by_cases hmore : plan.later ≠ [] ∧ u.isEmpty ∧ ¬ f.values.all c.connectionErrors
  · rw [if_pos hmore] at h ⊢
    obtain ⟨⟨u2, f2⟩, hb2, h, hatt2⟩ := Cycle.bind_ok h
    obtain ⟨rfl, rfl⟩ : u.update u2 = updates ∧ f.update f2 = failures := by simpa using h
    rw [hatt2, Cycle.pure_attempts, List.append_nil]
    have hr2 := batch_reflects (fun ep hep => plan.mem_endpoints (Or.inr hep)) hlater hb2
    refine hr.append hr2 fun key => ?_
    -- the endpoints of the second batch are none of the first
    by_cases hk : key ∈ plan.due.map Endpoint.key
    · exact Or.inr (lastAttempt_none_of_keys (batch_attempts hlater) fun hk' =>
        hdisj key hk key hk' rfl)
    · exact Or.inl (lastAttempt_none_of_keys (batch_attempts hdue) hk)
  · rw [if_neg hmore] at h ⊢
    obtain ⟨rfl, rfl⟩ : u = updates ∧ f = failures := by simpa using h
    simpa using hr

lemma lastAttempt_collect_ne_none {ep : Endpoint} (h : ep ∈ plan.due) :
    lastAttempt (c.collect plan attempt).attempts ep.key ≠ none := by
  intro hnone
  have hfetch : (ep.key, attempt 0 ep.key) ∈ (fetch (attempt 0) plan.due).attempts :=
    List.mem_map.mpr ⟨ep, h, rfl⟩
  have hbatch : (ep.key, attempt 0 ep.key) ∈
      (c.batch (attempt 0) (attempt 1) plan.due).attempts :=
    Cycle.bind_attempts_left _ _ _ hfetch
  exact (lastAttempt_eq_none_iff _ _).mp hnone _ (Cycle.bind_attempts_left _ _ _ hbatch) rfl

lemma collect_attempts : ∀ p ∈ (c.collect plan attempt).attempts,
    p.1 ∈ (plan.due ++ plan.later).map Endpoint.key := by
  have hnd := plan.keys_nodup
  rw [List.map_append, List.nodup_append] at hnd
  simp only [List.map_append, List.mem_append]
  refine Cycle.bind_attempts (fun p hp => Or.inl (batch_attempts hnd.1 p hp)) fun first _ => ?_
  dsimp only
  split
  · exact Cycle.bind_attempts (fun p hp => Or.inr (batch_attempts hnd.2.1 p hp))
      fun _ _ p hp => by simp at hp
  · intro p hp
    simp at hp

/-- Every result in the trace of a cycle is what some fetch of the cycle answered. -/
lemma collect_attempts_eq : ∀ p ∈ (c.collect plan attempt).attempts,
    ∃ n, p.2 = attempt n p.1 := by
  have hbatch : ∀ (i j : ℕ) (endpoints : List Endpoint),
      ∀ p ∈ (c.batch (attempt i) (attempt j) endpoints).attempts, ∃ n, p.2 = attempt n p.1 :=
    fun i j _ p hp => (batch_attempts_eq p hp).elim (fun h => ⟨i, h⟩) fun h => ⟨j, h⟩
  refine Cycle.bind_attempts (hbatch 0 1 _) fun first _ => ?_
  dsimp only
  split
  · exact Cycle.bind_attempts (hbatch 2 3 _) fun _ _ p hp => by simp at hp
  · intro p hp
    simp at hp

lemma attempt_of_update {updates : Updates V} {failures : Failures} {key : String} {v : V}
    (h : (c.collect plan attempt).result = .ok (updates, failures))
    (hv : updates.get key = some v) : ∃ n, attempt n key = .value v := by
  have hl := (collect_reflects plan attempt h).update_iff.mp hv
  obtain ⟨n, hn⟩ := collect_attempts_eq plan attempt _ (mem_of_lastAttempt hl)
  exact ⟨n, hn.symm⟩

end Collect

namespace State

variable (s : State V σ)

@[simp] lemma invalidate_nil : s.invalidate [] = s := rfl

@[simp] lemma invalidate_cons (key : String) (keys : List String) :
    s.invalidate (key :: keys) = (s.invalidateKey key).invalidate keys := rfl

/-- Nothing but the scheduler and the generations changes. -/
lemma invalidate_eq (keys : List String) : s.invalidate keys =
    { s with
      scheduler := (s.invalidate keys).scheduler
      generation := (s.invalidate keys).generation } := by
  induction keys generalizing s with
  | nil => rfl
  | cons key keys ih => rw [invalidate_cons, ih]; rfl

@[simp] lemma invalidate_ok (keys : List String) : (s.invalidate keys).ok = s.ok := by
  rw [invalidate_eq]

@[simp] lemma invalidate_fetchedAt (keys : List String) :
    (s.invalidate keys).fetchedAt = s.fetchedAt := by rw [invalidate_eq]

@[simp] lemma invalidate_data (keys : List String) : (s.invalidate keys).data = s.data := by
  rw [invalidate_eq]

@[simp] lemma invalidate_runtimeDisabled (keys : List String) :
    (s.invalidate keys).runtimeDisabled = s.runtimeDisabled := by rw [invalidate_eq]

@[simp] lemma invalidate_lastUpdateSuccess (keys : List String) :
    (s.invalidate keys).lastUpdateSuccess = s.lastUpdateSuccess := by rw [invalidate_eq]

lemma invalidate_isDue {key : String} {tier : Tier} {now : ℚ} (keys : List String)
    (h : s.scheduler.isDue key tier now) : (s.invalidate keys).scheduler.isDue key tier now := by
  induction keys generalizing s with
  | nil => exact h
  | cons k keys ih => exact ih _ (TierScheduler.isDue_invalidate k h)

lemma invalidate_last (keys : List String) (key : String) :
    (s.invalidate keys).scheduler.last key =
      if key ∈ keys then none else s.scheduler.last key := by
  induction keys generalizing s with
  | nil => rfl
  | cons k keys ih =>
    rw [invalidate_cons, ih]
    by_cases hk : key = k
    · subst hk
      simp [invalidateKey, TierScheduler.invalidate]
    · simp [invalidateKey, TierScheduler.invalidate, hk]

lemma invalidate_generation {keys : List String} {key : String} (hk : key ∉ keys) :
    (s.invalidate keys).generation key = s.generation key := by
  induction keys generalizing s with
  | nil => rfl
  | cons k keys ih =>
    rw [List.mem_cons, not_or] at hk
    rw [invalidate_cons, ih _ hk.2]
    exact Function.update_of_ne hk.1 _ _

/-- The number of invalidations an endpoint has seen. -/
def invalidations (key : String) : ℕ := (s.generation key).getD 0

lemma invalidations_invalidateKey (key k : String) :
    (s.invalidateKey k).invalidations key = s.invalidations key + if key = k then 1 else 0 := by
  by_cases h : key = k
  · subst h; simp [invalidations, invalidateKey]
  · simp [invalidations, invalidateKey, h]

lemma invalidations_invalidate (keys : List String) (key : String) :
    (s.invalidate keys).invalidations key = s.invalidations key + keys.count key := by
  induction keys generalizing s with
  | nil => simp
  | cons k keys ih =>
    rw [invalidate_cons, ih, invalidations_invalidateKey, List.count_cons]
    by_cases h : key = k
    · subst h; simp; omega
    · simp [h, Ne.symm h]

end State

lemma beginUpdate_none {c : SophosCoordinator V σ} {s : State V σ}
    {restrictTo : Option (List String)} {now : ℚ}
    (h : c.beginUpdate s restrictTo now = none) : c.endpoints.filter (c.isDue s now) = [] := by
  unfold SophosCoordinator.beginUpdate at h
  dsimp only at h
  split at h
  · assumption
  · split at h
    · cases h
    · split at h <;> cases h

lemma beginUpdate_some {c : SophosCoordinator V σ} {s : State V σ}
    {restrictTo : Option (List String)} {now : ℚ} {plan : Plan c}
    (h : c.beginUpdate s restrictTo now = some plan) :
    plan.previous = (s.data.getD fun _ => none) ∧ plan.generation = s.generation ∧
    (∀ ep ∈ plan.due, ep ∈ c.endpoints ∧ c.isDue s now ep) ∧
    (restrictTo = none → plan.later = [] ∧ plan.due = c.endpoints.filter (c.isDue s now)) := by
  unfold SophosCoordinator.beginUpdate at h
  dsimp only at h
  split at h
  · cases h
  · split at h
    · obtain rfl := Option.some.inj h
      simp
    · split at h
      · obtain rfl := Option.some.inj h
        simp
      · obtain rfl := Option.some.inj h
        simp +contextual

lemma beginUpdate_mem {c : SophosCoordinator V σ} {s : State V σ}
    {restrictTo : Option (List String)} {now : ℚ} {plan : Plan c}
    (h : c.beginUpdate s restrictTo now = some plan) (ep : Endpoint) :
    ep ∈ plan.due ++ plan.later ↔ ep ∈ c.endpoints ∧ c.isDue s now ep := by
  unfold SophosCoordinator.beginUpdate at h
  dsimp only at h
  split at h
  · cases h
  · split at h
    · obtain rfl := Option.some.inj h
      simp
    · next keys =>
      split at h
      · obtain rfl := Option.some.inj h
        simp
      · obtain rfl := Option.some.inj h
        by_cases hk : ep.key ∈ keys <;> simp [hk]

/-! ### The end of a cycle -/

section Finish

variable {c : SophosCoordinator V σ} (s : State V σ) (plan : Plan c) (done : ℚ)

lemma foldl_markFetched (keys : List String) :
    keys.foldl (State.markFetched plan done) s =
      { s with
        scheduler := { s.scheduler with
          last := fun k => if k ∈ keys ∧ s.generation k = plan.generation k then some done
            else s.scheduler.last k }
        fetchedAt := fun k => if k ∈ keys ∧ s.generation k = plan.generation k then some done
            else s.fetchedAt k } := by
  induction keys generalizing s with
  | nil => simp
  | cons key keys ih =>
    rw [List.foldl_cons, ih]
    by_cases hg : s.generation key = plan.generation key
    · have e : State.markFetched plan done s key =
          { s with
            scheduler := s.scheduler.markFetched key done
            fetchedAt := Function.update s.fetchedAt key (some done) } := by
        simp [State.markFetched, hg]
      rw [e]
      simp only [TierScheduler.markFetched]
      congr 2 <;> funext k
      all_goals
        by_cases hk : k = key
        · subst hk; simp [hg]
        · simp [hk]
    · have e : State.markFetched plan done s key = s := by simp [State.markFetched, hg]
      rw [e]
      dsimp only
      congr 2 <;> funext k
      all_goals
        by_cases hk : k = key
        · subst hk; simp [hg]
        · simp [hk]

lemma foldl_recovered (keys : List String) :
    keys.foldl (fun s key => s.setEndpointState true key none) s =
      { s with
        ok := fun k => if k ∈ keys then some true else s.ok k
        failureLogged := fun k => if k ∈ keys then false else s.failureLogged k } := by
  induction keys generalizing s with
  | nil => simp
  | cons key keys ih =>
    rw [List.foldl_cons, ih]
    simp only [State.setEndpointState]
    congr 1 <;> funext k
    all_goals
      by_cases hk : k = key
      · subst hk; simp
      · simp [hk]

lemma foldl_failed (log : Bool) (entries : List (String × FetchError)) :
    ∃ logged, entries.foldl (fun s p => s.setEndpointState log p.1 (some p.2)) s =
      { s with
        ok := fun k => if k ∈ entries.map Prod.fst then some false else s.ok k
        failureLogged := logged } := by
  induction entries generalizing s with
  | nil => exact ⟨s.failureLogged, by simp⟩
  | cons p entries ih =>
    obtain ⟨logged, h⟩ := ih (s.setEndpointState log p.1 (some p.2))
    refine ⟨logged, ?_⟩
    rw [List.foldl_cons, h]
    simp only [State.setEndpointState]
    congr 1; funext k
    by_cases hk : k = p.1
    · subst hk; simp
    · simp only [List.map_cons, List.mem_cons, hk, false_or, Function.update_of_ne hk]

lemma recordResults_eq (updates : Updates V) (failures : Failures) :
    ∃ logged, c.recordResults s plan done updates failures =
      { s with
        scheduler := { s.scheduler with
          last := fun k => if k ∈ updates.keys ∧ s.generation k = plan.generation k
            then some done else s.scheduler.last k }
        fetchedAt := fun k => if k ∈ updates.keys ∧ s.generation k = plan.generation k
            then some done else s.fetchedAt k
        ok := fun k => if k ∈ failures.keys then some false
            else if k ∈ updates.keys then some true else s.ok k
        failureLogged := logged } := by
  unfold SophosCoordinator.recordResults
  simp only [foldl_markFetched, foldl_recovered]
  obtain ⟨logged, h⟩ := foldl_failed _ (!c.isOutage updates failures) failures.entries
  exact ⟨logged, h⟩

lemma foldl_disable (keys : List String) :
    keys.foldl State.disableEndpoint s =
      { s with runtimeDisabled := fun k => if k ∈ keys then true else s.runtimeDisabled k } := by
  induction keys generalizing s with
  | nil => simp
  | cons key keys ih =>
    rw [List.foldl_cons, ih]
    simp only [State.disableEndpoint]
    congr 1; funext k
    by_cases hk : k = key
    · subst hk; simp
    · simp [hk]

/-- The data a cycle returns. -/
def mergedData (extra : σ) (updates : Updates V) : Data V :=
  fun key => ((c.prepare extra updates).1.get key).or (plan.previous key)

/-- What the subclass keeps after a cycle, and the endpoints it switches off. -/
def hookOutcome (extra : σ) (updates : Updates V) : σ × List String :=
  c.afterUpdate (c.prepare extra updates).2 (mergedData plan extra updates) updates

lemma endCycle_cases (attempt : ℕ → String → Result V) :
    (∃ e, (c.collect plan attempt).result = .error e ∧
      c.endCycle s plan attempt done = { s with lastUpdateSuccess := false }) ∨
    (∃ updates failures, (c.collect plan attempt).result = .ok (updates, failures) ∧
      updates.isEmpty ∧
      c.endCycle s plan attempt done =
        { c.recordResults s plan done updates failures with lastUpdateSuccess := false }) ∨
    (∃ updates failures, (c.collect plan attempt).result = .ok (updates, failures) ∧
      c.endCycle s plan attempt done =
        { c.recordResults s plan done updates failures with
          extra := (hookOutcome plan s.extra updates).1
          runtimeDisabled := fun k =>
            if k ∈ (hookOutcome plan s.extra updates).2 then true else s.runtimeDisabled k
          data := some (mergedData plan s.extra updates), lastUpdateSuccess := true }) := by
  unfold SophosCoordinator.endCycle
  rcases hc : (c.collect plan attempt).result with e | ⟨updates, failures⟩
  · exact Or.inl ⟨e, rfl, rfl⟩
  · right
    obtain ⟨logged, hr⟩ := recordResults_eq s plan done updates failures
    have hextra : (c.recordResults s plan done updates failures).extra = s.extra := by rw [hr]
    have hoff : (c.recordResults s plan done updates failures).runtimeDisabled =
        s.runtimeDisabled := by rw [hr]
    simp only [SophosCoordinator.finishUpdate]
    split
    · next h =>
      refine Or.inl ⟨updates, failures, rfl, ?_, rfl⟩
      rcases h with h | h
      · simp only [SophosCoordinator.isOutage, Bool.and_eq_true] at h
        exact h.1.2
      · exact h.2
    · refine Or.inr ⟨updates, failures, rfl, ?_⟩
      simp only [foldl_disable, State.conclude, hextra, hoff]
      rfl

lemma endCycle_recorded {attempt : ℕ → String → Result V} {updates : Updates V}
    {failures : Failures} (h : (c.collect plan attempt).result = .ok (updates, failures))
    (key : String) :
    ((c.endCycle s plan attempt done).ok key = if key ∈ failures.keys then some false
      else if key ∈ updates.keys then some true else s.ok key) ∧
    ((c.endCycle s plan attempt done).scheduler.last key =
      if key ∈ updates.keys ∧ s.generation key = plan.generation key then some done
      else s.scheduler.last key) ∧
    (c.endCycle s plan attempt done).fetchedAt key =
      if key ∈ updates.keys ∧ s.generation key = plan.generation key then some done
      else s.fetchedAt key := by
  obtain ⟨logged, hr⟩ := recordResults_eq s plan done updates failures
  rcases endCycle_cases s plan done attempt with
    ⟨e, hc, -⟩ | ⟨updates', failures', hc, -, he⟩ | ⟨updates', failures', hc, he⟩
  · rw [h] at hc
    cases hc
  · obtain ⟨rfl, rfl⟩ := Prod.mk.inj (Except.ok.inj (h.symm.trans hc))
    rw [he, hr]
    exact ⟨rfl, rfl, rfl⟩
  · obtain ⟨rfl, rfl⟩ := Prod.mk.inj (Except.ok.inj (h.symm.trans hc))
    rw [he, hr]
    exact ⟨rfl, rfl, rfl⟩

lemma endCycle_counts (attempt : ℕ → String → Result V) (key : String) :
    ((∃ v, lastAttempt (c.collect plan attempt).attempts key = some (.value v)) ∧
      (c.endCycle s plan attempt done).lastUpdateSuccess = true ∧
      s.generation key = plan.generation key ∧
      (c.endCycle s plan attempt done).scheduler.last key = some done ∧
      (c.endCycle s plan attempt done).fetchedAt key = some done) ∨
    ((c.endCycle s plan attempt done).scheduler.last key = s.scheduler.last key ∧
      (c.endCycle s plan attempt done).fetchedAt key = s.fetchedAt key) := by
  rcases endCycle_cases s plan done attempt with
    ⟨e, hc, he⟩ | ⟨updates, failures, hc, hempty, -⟩ | ⟨updates, failures, hc, he⟩
  · rw [he]
    exact .inr ⟨rfl, rfl⟩
  · obtain ⟨-, hlast, hfetched⟩ := endCycle_recorded s plan done hc key
    have hno : ¬ (key ∈ updates.keys ∧ s.generation key = plan.generation key) := fun hk =>
      Dict.not_mem_keys_of_isEmpty hempty key hk.1
    rw [hlast, hfetched, if_neg hno, if_neg hno]
    exact .inr ⟨rfl, rfl⟩
  · obtain ⟨-, hlast, hfetched⟩ := endCycle_recorded s plan done hc key
    rw [hlast, hfetched]
    by_cases hk : key ∈ updates.keys ∧ s.generation key = plan.generation key
    · obtain ⟨v, hv⟩ := Option.isSome_iff_exists.mp (updates.get_isSome_iff.mpr hk.1)
      rw [if_pos hk, if_pos hk, he]
      exact .inl ⟨⟨v, (collect_reflects plan attempt hc).update_iff.mp hv⟩, rfl, hk.2, rfl, rfl⟩
    · rw [if_neg hk, if_neg hk]
      exact .inr ⟨rfl, rfl⟩

lemma endCycle_frame (attempt : ℕ → String → Result V) :
    (c.endCycle s plan attempt done).generation = s.generation ∧
      (c.endCycle s plan attempt done).scheduler.intervals = s.scheduler.intervals ∧
      (c.endCycle s plan attempt done).scheduler.tolerance = s.scheduler.tolerance := by
  rcases endCycle_cases s plan done attempt with
    ⟨e, hc, he⟩ | ⟨updates, failures, hc, -, he⟩ | ⟨updates, failures, hc, he⟩
  · rw [he]
    exact ⟨rfl, rfl, rfl⟩
  · obtain ⟨logged, hr⟩ := recordResults_eq s plan done updates failures
    rw [he, hr]
    exact ⟨rfl, rfl, rfl⟩
  · obtain ⟨logged, hr⟩ := recordResults_eq s plan done updates failures
    rw [he, hr]
    exact ⟨rfl, rfl, rfl⟩

end Finish

end SophosFw.Coordinator
