import SophosFw.Sources

/-!
What comes of one cycle of the XML coordinator, from what its fetches come to.

An endpoint counts with its retry if its first attempt was rejected. A cycle fetches one batch or
two, and what it raises depends on the effective results of these alone; which batch an error came
from, and in which order, makes no difference.
-/

namespace SophosFw.Sources

open SophosFw.PyDict SophosFw.Coordinator

variable {V σ : Type}

def resultIsValue : Result V → Bool
  | .value _ => true
  | _ => false

def resultIsAuth : Result V → Bool
  | .exception e => e.isAuth
  | _ => false

def resultIsAccess : Result V → Bool
  | .exception e => e.accessCode.isSome
  | _ => false

def resultIsConnection : Result V → Bool
  | .exception e => isConnection e
  | _ => false

/-- The result an endpoint counts with. -/
def effective (first retry : String → Result V) (key : String) : Result V :=
  if resultIsAuth (first key) then retry key else first key

/-- What each of the endpoints has come to. -/
def answers (result : String → Result V) (endpoints : List Endpoint) : List (String × Result V) :=
  endpoints.map fun ep => (ep.key, result ep.key)

/-- The effective results of a batch. -/
def batchResults (first retry : String → Result V) (endpoints : List Endpoint) :
    List (String × Result V) :=
  answers (effective first retry) endpoints

/-- After these results of the endpoints a restriction selects, the others are fetched too: none
succeeded, the connection was not the reason for all, and the batch did not raise. -/
def goesOn (l : List (String × Result V)) : Bool :=
  l.all (fun p => !resultIsValue p.2 && !resultIsAuth p.2 && !resultIsAccess p.2) &&
    !l.all fun p => resultIsConnection p.2

/-- The effective results of a cycle. -/
def cycleResults {c : SophosCoordinator V σ} (plan : Plan c) (attempt : ℕ → String → Result V) :
    List (String × Result V) :=
  let selected := batchResults (attempt 0) (attempt 1) plan.due
  if goesOn selected then selected ++ batchResults (attempt 2) (attempt 3) plan.later else selected

/-- A coordinator that handles its failures as `SophosXmlCoordinator` does, whatever its table. -/
structure XmlHooks (c : SophosCoordinator V σ) : Prop where
  handleFailures : ∀ retry updates failures, c.handleFailures retry updates failures =
    retryAuth c.endpoints retry updates failures >>= fun x => checkAccess c.entry x.1 x.2
  connectionErrors : c.connectionErrors = isConnection
  unreachableTranslationKey : c.unreachableTranslationKey = "xml_unreachable"
  prepare : ∀ extra updates, (c.prepare extra updates).1 = updates

lemma xmlHooks (V : Type) (entry : ConfigEntry) : XmlHooks (xmlCoordinator V entry) :=
  ⟨fun _ _ _ => rfl, rfl, rfl, fun _ _ => rfl⟩

lemma resultIsAuth_iff {r : Result V} :
    resultIsAuth r = true ↔ ∃ e, r = .exception e ∧ e.isAuth = true := by
  cases r <;> simp [resultIsAuth]

lemma resultIsAccess_iff {r : Result V} :
    resultIsAccess r = true ↔ ∃ e, r = .exception e ∧ e.accessCode.isSome = true := by
  cases r <;> simp [resultIsAccess]

lemma resultIsConnection_iff {r : Result V} :
    resultIsConnection r = true ↔ ∃ e, r = .exception e ∧ isConnection e = true := by
  cases r <;> simp [resultIsConnection]

section Batch

variable {first retry : String → Result V} {endpoints : List Endpoint}

lemma exists_sortResults {l : List (String × Result V)} (h : ∀ p ∈ l, p.2 ≠ .baseException)
    (updates : Updates V) (failures : Failures) :
    ∃ x, sortResults l updates failures = .ok x := by
  induction l generalizing updates failures with
  | nil => exact ⟨_, rfl⟩
  | cons p l ih =>
    obtain ⟨key, r⟩ := p
    have hl : ∀ p ∈ l, p.2 ≠ .baseException := fun p hp => h p (List.mem_cons_of_mem _ hp)
    cases r with
    | value v => exact ih hl _ _
    | exception e => exact ih hl _ _
    | baseException => exact absurd rfl (h _ List.mem_cons_self)

lemma exists_fetch (h : ∀ key, first key ≠ .baseException) (endpoints : List Endpoint) :
    ∃ x, (fetch first endpoints).result = .ok x := by
  refine exists_sortResults ?_ _ _
  intro p hp
  obtain ⟨ep, -, rfl⟩ := List.mem_map.mp hp
  exact h ep.key

lemma lastAttempt_answers (result : String → Result V) (endpoints : List Endpoint) (key : String) :
    lastAttempt (answers result endpoints) key =
      if key ∈ endpoints.map Endpoint.key then some (result key) else none := by
  split
  · next hmem =>
    obtain ⟨ep, hep, rfl⟩ := List.mem_map.mp hmem
    have hin : (ep.key, result ep.key) ∈ answers result endpoints := List.mem_map_of_mem hep
    obtain ⟨r, hr⟩ := lastAttempt_isSome_of_mem hin
    obtain ⟨ep', -, heq⟩ := List.mem_map.mp (mem_of_lastAttempt hr)
    obtain ⟨hkey, rfl⟩ := Prod.mk.inj heq
    rw [hr, hkey]
  · next hmem =>
    rw [lastAttempt_eq_none_iff]
    rintro p hp rfl
    obtain ⟨ep, hep, rfl⟩ := List.mem_map.mp hp
    exact hmem (List.mem_map_of_mem hep)

/-- Every endpoint is there with one result. -/
def OneEach (l : List (String × Result V)) : Prop := ∀ p ∈ l, lastAttempt l p.1 = some p.2

lemma oneEach_answers (result : String → Result V) (endpoints : List Endpoint) :
    OneEach (answers result endpoints) := by
  intro p hp
  obtain ⟨ep, hep, rfl⟩ := List.mem_map.mp hp
  rw [lastAttempt_answers, if_pos (List.mem_map_of_mem hep)]

section Dictionaries

variable {l : List (String × Result V)} {updates : Updates V} {failures : Failures}

lemma exists_failure_iff (hl : OneEach l) (h : Reflects l updates failures)
    (p : FetchError → Bool) :
    (∃ e ∈ failures.values, p e = true) ↔ ∃ x ∈ l, ∃ e, x.2 = .exception e ∧ p e = true := by
  constructor
  · rintro ⟨e, he, hp⟩
    obtain ⟨⟨key, e⟩, hmem, rfl⟩ := List.mem_map.mp he
    have hlast := h.failure_iff.mp (failures.get_eq_some_iff.mpr hmem)
    exact ⟨_, mem_of_lastAttempt hlast, e, rfl, hp⟩
  · rintro ⟨⟨key, r⟩, hx, e, rfl, hp⟩
    have hmem := failures.get_eq_some_iff.mp (h.failure_iff.mpr (hl _ hx))
    exact ⟨e, List.mem_map.mpr ⟨_, hmem, rfl⟩, hp⟩

lemma exists_accessCode_iff (hl : OneEach l) (h : Reflects l updates failures) :
    (∃ e ∈ failures.values, e.accessCode.isSome = true) ↔
      ∃ p ∈ l, resultIsAccess p.2 = true := by
  rw [exists_failure_iff hl h fun e => e.accessCode.isSome]
  simp only [resultIsAccess_iff]

lemma isEmpty_updates_iff (hl : OneEach l) (h : Reflects l updates failures) :
    updates.isEmpty = true ↔ ∀ p ∈ l, resultIsValue p.2 = false := by
  rw [Dict.isEmpty_iff]
  constructor
  · rintro hnone ⟨key, r⟩ hp
    rcases r with v | e | _
    · have hv := h.update_iff.mpr (hl _ hp)
      rw [hnone] at hv
      cases hv
    · rfl
    · rfl
  · intro hno key
    rcases hv : updates.get key with _ | v
    · rfl
    · have hmem := mem_of_lastAttempt (h.update_iff.mp hv)
      exact absurd (hno _ hmem) (by simp [resultIsValue])

lemma all_connection_iff (hl : OneEach l) (h : Reflects l updates failures)
    (hno : ∀ p ∈ l, resultIsValue p.2 = false) :
    failures.values.all isConnection = true ↔ ∀ p ∈ l, resultIsConnection p.2 = true := by
  have hfail := exists_failure_iff hl h fun e => !isConnection e
  rw [List.all_eq_true]
  constructor
  · rintro hall ⟨key, r⟩ hp
    rcases r with v | e | _
    · exact absurd (hno _ hp) (by simp [resultIsValue])
    · by_contra hc
      obtain ⟨e', he', hc'⟩ := hfail.mpr ⟨_, hp, e, rfl, by simpa [resultIsConnection] using hc⟩
      rw [hall e' he'] at hc'
      cases hc'
    · have hk := h key
      rw [hl _ hp] at hk
      exact hk.elim
  · intro hall e he
    by_contra hc
    obtain ⟨p, hp, e', hr, hc'⟩ := hfail.mp ⟨e, he, by simpa using hc⟩
    have hconn := hall p hp
    rw [hr] at hconn
    rw [show isConnection e' = true from hconn] at hc'
    cases hc'

end Dictionaries

lemma mem_authFailed_fetch {updates : Updates V} {failures : Failures}
    (h : Reflects (answers first endpoints) updates failures) (key : String) :
    key ∈ authFailed failures ↔
      key ∈ endpoints.map Endpoint.key ∧ resultIsAuth (first key) = true := by
  rw [mem_authFailed_iff]
  simp only [h.failure_iff, lastAttempt_answers]
  by_cases hk : key ∈ endpoints.map Endpoint.key
  · rw [if_pos hk, and_iff_right hk]
    rcases hr : first key with v | e | _ <;> simp [resultIsAuth]
  · simp [hk]

lemma retryAuth_trace (endpoints : List Endpoint) (retry : String → Result V) (updates : Updates V)
    (failures : Failures) : (retryAuth endpoints retry updates failures).attempts =
      answers retry (endpoints.filter fun ep => ep.key ∈ authFailed failures) := by
  unfold retryAuth
  split
  · next hnil => simp [hnil, answers]
  · rcases hf : (fetch retry (endpoints.filter fun ep => ep.key ∈ authFailed failures)).result with
      e | x
    · simp only [bind, hf]
      rfl
    · simp only [bind, hf]
      split <;> simp [Cycle.raise, fetch, answers]

lemma effective_isAuth (key : String) :
    resultIsAuth (effective first retry key) = true ↔
      resultIsAuth (first key) = true ∧ resultIsAuth (retry key) = true := by
  unfold effective
  rcases h : resultIsAuth (first key) with _ | _ <;> simp [h]

section Retry

variable {table : List Endpoint} {updates : Updates V} {failures : Failures}

lemma mem_retried (hs : endpoints.map Endpoint.key ⊆ table.map Endpoint.key)
    (h : Reflects (answers first endpoints) updates failures) (key : String) :
    key ∈ (table.filter fun ep => ep.key ∈ authFailed failures).map Endpoint.key ↔
      key ∈ endpoints.map Endpoint.key ∧ resultIsAuth (first key) = true := by
  rw [← mem_authFailed_fetch h]
  constructor
  · intro hk
    obtain ⟨ep, hep, rfl⟩ := List.mem_map.mp hk
    simpa using (List.mem_filter.mp hep).2
  · intro hk
    obtain ⟨ep, hep, rfl⟩ := List.mem_map.mp (hs ((mem_authFailed_fetch h key).mp hk).1)
    exact List.mem_map_of_mem (List.mem_filter.mpr ⟨hep, by simpa using hk⟩)

lemma lastAttempt_retried (hs : endpoints.map Endpoint.key ⊆ table.map Endpoint.key)
    (h : Reflects (answers first endpoints) updates failures) (key : String) :
    lastAttempt (answers first endpoints ++ (retryAuth table retry updates failures).attempts) key =
      lastAttempt (batchResults first retry endpoints) key := by
  rw [retryAuth_trace, lastAttempt_append, batchResults, lastAttempt_answers, lastAttempt_answers,
    lastAttempt_answers]
  simp only [mem_retried hs h, effective]
  by_cases hk : key ∈ endpoints.map Endpoint.key
  · rcases hr : resultIsAuth (first key) with _ | _ <;> simp [hk]
  · simp [hk]

lemma failures_subset (hs : endpoints.map Endpoint.key ⊆ table.map Endpoint.key)
    (h : Reflects (answers first endpoints) updates failures) :
    failures.keys ⊆ table.map Endpoint.key := by
  intro key hkey
  obtain ⟨e, he⟩ := Option.isSome_iff_exists.mp (failures.get_isSome_iff.mpr hkey)
  rw [h.failure_iff, lastAttempt_answers] at he
  by_contra hno
  rw [if_neg fun hk => hno (hs hk)] at he
  cases he

lemma exists_isAuth_batchResults_iff (hs : endpoints.map Endpoint.key ⊆ table.map Endpoint.key)
    (h : Reflects (answers first endpoints) updates failures) :
    (∃ p ∈ batchResults first retry endpoints, resultIsAuth p.2 = true) ↔
      ∃ ep ∈ table.filter fun ep => ep.key ∈ authFailed failures,
        resultIsAuth (retry ep.key) = true := by
  constructor
  · rintro ⟨p, hp, hauth⟩
    obtain ⟨ep, hep, rfl⟩ := List.mem_map.mp hp
    obtain ⟨hfirst, hretry⟩ := (effective_isAuth ep.key).mp hauth
    have hretried := (mem_retried hs h ep.key).mpr ⟨List.mem_map_of_mem hep, hfirst⟩
    obtain ⟨ep', hep', hkey⟩ := List.mem_map.mp hretried
    exact ⟨ep', hep', hkey ▸ hretry⟩
  · rintro ⟨ep, hep, hretry⟩
    obtain ⟨hk, hfirst⟩ := (mem_retried hs h ep.key).mp (List.mem_map_of_mem hep)
    obtain ⟨ep', hep', hkey⟩ := List.mem_map.mp hk
    refine ⟨_, List.mem_map_of_mem hep', ?_⟩
    rw [hkey, effective_isAuth]
    exact ⟨hfirst, hretry⟩

lemma retryAuth_cases (hn : (table.map Endpoint.key).Nodup)
    (hs : endpoints.map Endpoint.key ⊆ table.map Endpoint.key)
    (h : Reflects (answers first endpoints) updates failures)
    (hplain : ∀ key, retry key ≠ .baseException) :
    (retryAuth table retry updates failures).issues = [] ∧
    (((retryAuth table retry updates failures).result = .error .configEntryAuthFailed ∧
        ∃ p ∈ batchResults first retry endpoints, resultIsAuth p.2 = true) ∨
      ∃ updates' failures',
        (retryAuth table retry updates failures).result = .ok (updates', failures') ∧
        (∀ p ∈ batchResults first retry endpoints, resultIsAuth p.2 = false) ∧
        Reflects (batchResults first retry endpoints) updates' failures') := by
  have hreflects : ∀ updates' failures',
      (retryAuth table retry updates failures).result = .ok (updates', failures') →
      Reflects (batchResults first retry endpoints) updates' failures' := by
    intro updates' failures' hok
    have hall := retryAuth_reflects hn (failures_subset hs h) h hok
    exact hall.congr fun key => (lastAttempt_retried hs h key).symm
  have hauth : (∃ p ∈ batchResults first retry endpoints, resultIsAuth p.2 = true) ↔
      ∃ ep ∈ table.filter fun ep => ep.key ∈ authFailed failures,
        resultIsAuth (retry ep.key) = true := exists_isAuth_batchResults_iff hs h
  have hnone : (¬ ∃ p ∈ batchResults first retry endpoints, resultIsAuth p.2 = true) →
      ∀ p ∈ batchResults first retry endpoints, resultIsAuth p.2 = false := fun hno p hp =>
    Bool.eq_false_iff.mpr fun hp' => hno ⟨p, hp, hp'⟩
  set retried := table.filter fun ep => ep.key ∈ authFailed failures with hdef
  obtain ⟨⟨ru, rf⟩, hf⟩ := exists_fetch hplain retried
  have hrf : Reflects (answers retry retried) ru rf :=
    fetch_reflects (hn.sublist (List.filter_sublist.map Endpoint.key)) hf
  by_cases hnil : authFailed failures = []
  · have hx : retryAuth table retry updates failures = pure (updates, failures) := if_pos hnil
    rw [hx] at hreflects ⊢
    refine ⟨rfl, .inr ⟨updates, failures, rfl, hnone ?_, hreflects _ _ rfl⟩⟩
    rw [hauth, hdef, hnil]
    simp
  · have hx : retryAuth table retry updates failures = fetch retry retried >>= fun x =>
        if x.2.values.any FetchError.isAuth then Cycle.raise .configEntryAuthFailed
        else
          pure (updates.update x.1, ((authFailed failures).foldl Dict.pop failures).update x.2) :=
      if_neg hnil
    have hany : rf.values.any FetchError.isAuth = true ↔
        ∃ ep ∈ retried, resultIsAuth (retry ep.key) = true := by
      rw [List.any_eq_true, exists_failure_iff (oneEach_answers retry retried) hrf]
      simp [answers, resultIsAuth_iff]
    rw [← hauth] at hany
    rw [hx] at hreflects ⊢
    simp only [bind, hf] at hreflects ⊢
    rcases hr : rf.values.any FetchError.isAuth with _ | _
    · rw [hr] at hreflects hany
      refine ⟨rfl, .inr ⟨_, _, rfl, hnone fun hsome => ?_, hreflects _ _ rfl⟩⟩
      exact absurd (hany.mpr hsome) nofun
    · exact ⟨rfl, .inl ⟨rfl, hany.mp hr⟩⟩

end Retry

/-- How a batch ends. -/
inductive BatchEnd (entry : ConfigEntry) (l : List (String × Result V)) :
    Except CycleError (Updates V × Failures) → List IssueAction → Prop
  | auth (h : ∃ p ∈ l, resultIsAuth p.2 = true) :
    BatchEnd entry l (.error .configEntryAuthFailed) []
  | access (code : String) (hauth : ∀ p ∈ l, resultIsAuth p.2 = false)
    (h : ∃ p ∈ l, resultIsAccess p.2 = true) :
    BatchEnd entry l
      (.error (.updateFailed "api_access_denied" [("host", entry.host), ("code", code)]))
      [.raise "api_access_denied" [("code", code)]]
  | collected (updates : Updates V) (failures : Failures)
    (hauth : ∀ p ∈ l, resultIsAuth p.2 = false) (haccess : ∀ p ∈ l, resultIsAccess p.2 = false)
    (h : Reflects l updates failures) :
    BatchEnd entry l (.ok (updates, failures))
      (if updates.isEmpty then [] else [.clear "api_access_denied"])

/-- How a part of a cycle ends, from the effective results of the endpoints it tried. -/
structure EndsWith (entry : ConfigEntry) (l : List (String × Result V))
    (x : Cycle V (Updates V × Failures)) : Prop where
  ended : BatchEnd entry l x.result x.issues
  tried : ∀ key, key ∈ x.attempts.map Prod.fst ↔ key ∈ l.map Prod.fst

lemma checkAccess_end {entry : ConfigEntry} {l : List (String × Result V)} {updates : Updates V}
    {failures : Failures} (hl : OneEach l) (hauth : ∀ p ∈ l, resultIsAuth p.2 = false)
    (h : Reflects l updates failures) :
    BatchEnd entry l (checkAccess entry updates failures).result
      (checkAccess entry updates failures).issues := by
  have hcode := exists_accessCode_iff hl h
  unfold checkAccess
  split
  · next code hfind =>
    obtain ⟨e, he, hsome⟩ := List.exists_of_findSome?_eq_some hfind
    exact .access _ hauth (hcode.mp ⟨e, he, by simp [hsome]⟩)
  · next hfind =>
    have haccess : ∀ p ∈ l, resultIsAccess p.2 = false := by
      intro p hp
      by_contra hno
      obtain ⟨e, he, hsome⟩ := hcode.mpr ⟨p, hp, by simpa using hno⟩
      rw [List.findSome?_eq_none_iff.mp hfind e he] at hsome
      cases hsome
    have hend : BatchEnd entry l (.ok (updates, failures)) _ :=
      .collected updates failures hauth haccess h
    split
    · next hempty =>
      rw [if_pos hempty] at hend
      exact hend
    · next hempty =>
      rw [if_neg hempty] at hend
      exact hend

lemma batchEnd {c : SophosCoordinator V σ} (hc : XmlHooks c)
    (hs : endpoints ⊆ c.endpoints) (hn : (endpoints.map Endpoint.key).Nodup)
    (hfirst : ∀ key, first key ≠ .baseException) (hretry : ∀ key, retry key ≠ .baseException) :
    EndsWith c.entry (batchResults first retry endpoints) (c.batch first retry endpoints) := by
  refine ⟨?_, fun key => ?_⟩
  swap
  · have hkeys :
        (batchResults first retry endpoints).map Prod.fst = endpoints.map Endpoint.key := by
      simp [batchResults, answers, Function.comp_def]
    rw [hkeys, ← fetch_attempts first]
    constructor
    · intro hk
      obtain ⟨p, hp, rfl⟩ := List.mem_map.mp hk
      rw [fetch_attempts]
      exact batch_attempts hn p hp
    · intro hk
      obtain ⟨p, hp, rfl⟩ := List.mem_map.mp hk
      exact List.mem_map_of_mem (Cycle.bind_attempts_left _ _ p hp)
  obtain ⟨⟨u, f⟩, hf⟩ := exists_fetch hfirst endpoints
  have hfetched : Reflects (answers first endpoints) u f := fetch_reflects hn hf
  obtain ⟨hissues, hcases⟩ := retryAuth_cases c.keys_nodup (List.map_subset _ hs) hfetched hretry
  have hbatch : (c.batch first retry endpoints).result =
        (retryAuth c.endpoints retry u f >>= fun x => checkAccess c.entry x.1 x.2).result ∧
      (c.batch first retry endpoints).issues =
        (retryAuth c.endpoints retry u f >>= fun x => checkAccess c.entry x.1 x.2).issues := by
    rw [SophosCoordinator.batch, ← hc.handleFailures]
    constructor
    · simp only [bind, hf]
    · simp only [bind, hf]
      rfl
  rw [hbatch.1, hbatch.2]
  rcases hcases with ⟨hres, hauth⟩ | ⟨u', f', hres, hauth, hreflects⟩
  · simp only [bind, hres, hissues]
    exact .auth hauth
  · simp only [bind, hres, hissues, List.nil_append]
    exact checkAccess_end (oneEach_answers _ _) hauth hreflects

end Batch

/-! ### One cycle -/

section Cycle

variable {c : SophosCoordinator V σ} {plan : Plan c} {attempt : ℕ → String → Result V}

lemma mem_keys_batchResults {first retry : String → Result V} {endpoints : List Endpoint}
    {key : String} : lastAttempt (batchResults first retry endpoints) key = none ↔
      key ∉ endpoints.map Endpoint.key := by
  rw [batchResults, lastAttempt_answers]
  simp

lemma batches_disjoint (plan : Plan c) (attempt : ℕ → String → Result V) (key : String) :
    lastAttempt (batchResults (attempt 0) (attempt 1) plan.due) key = none ∨
      lastAttempt (batchResults (attempt 2) (attempt 3) plan.later) key = none := by
  have hnd := plan.keys_nodup
  rw [List.map_append, List.nodup_append] at hnd
  rw [mem_keys_batchResults, mem_keys_batchResults]
  by_cases hk : key ∈ plan.due.map Endpoint.key
  · exact .inr fun hk' => hnd.2.2 key hk key hk' rfl
  · exact .inl hk

lemma oneEach_cycleResults (plan : Plan c) (attempt : ℕ → String → Result V) :
    OneEach (cycleResults plan attempt) := by
  unfold cycleResults
  dsimp only
  split
  · intro p hp
    rw [lastAttempt_append]
    rcases List.mem_append.mp hp with hp | hp
    · have hlast := oneEach_answers _ _ p hp
      rcases batches_disjoint plan attempt p.1 with hno | hno
      · rw [batchResults, hlast] at hno
        cases hno
      · rw [hno]
        exact hlast
    · rw [batchResults, batchResults, oneEach_answers _ _ p hp, Option.some_or]
  · exact oneEach_answers _ _

lemma goesOn_iff {l : List (String × Result V)} {updates : Updates V} {failures : Failures}
    (hl : OneEach l) (h : Reflects l updates failures)
    (hauth : ∀ p ∈ l, resultIsAuth p.2 = false) (haccess : ∀ p ∈ l, resultIsAccess p.2 = false) :
    goesOn l = true ↔ updates.isEmpty = true ∧ ¬ failures.values.all isConnection = true := by
  have hempty := isEmpty_updates_iff hl h
  have hno :
      (l.all fun p => !resultIsValue p.2 && !resultIsAuth p.2 && !resultIsAccess p.2) = true ↔
        ∀ p ∈ l, resultIsValue p.2 = false := by
    rw [List.all_eq_true]
    refine forall₂_congr fun p hp => ?_
    simp [hauth p hp, haccess p hp]
  rw [goesOn, Bool.and_eq_true, hno, hempty]
  refine and_congr_right fun hvalue => ?_
  rw [all_connection_iff hl h hvalue]
  simp

lemma of_goesOn {l : List (String × Result V)} (h : goesOn l = true) {p : String × Result V}
    (hp : p ∈ l) : resultIsValue p.2 = false ∧ resultIsAuth p.2 = false ∧
      resultIsAccess p.2 = false := by
  rw [goesOn, Bool.and_eq_true, List.all_eq_true] at h
  simpa [and_assoc] using h.1 p hp

lemma BatchEnd.after {entry : ConfigEntry} {l₁ l₂ : List (String × Result V)}
    {updates : Updates V} {failures : Failures} {res : Except CycleError (Updates V × Failures)}
    {issues : List IssueAction} (hlater : BatchEnd entry l₂ res issues)
    (hauth : ∀ p ∈ l₁, resultIsAuth p.2 = false) (haccess : ∀ p ∈ l₁, resultIsAccess p.2 = false)
    (h : Reflects l₁ updates failures) (hempty : updates.isEmpty = true)
    (hdisj : ∀ key, lastAttempt l₁ key = none ∨ lastAttempt l₂ key = none) :
    BatchEnd entry (l₁ ++ l₂)
      (res.map fun more => (updates.update more.1, failures.update more.2)) issues := by
  cases hlater with
  | auth h' =>
    obtain ⟨p, hp, hp'⟩ := h'
    exact .auth ⟨p, List.mem_append_right _ hp, hp'⟩
  | access code hauth' h' =>
    obtain ⟨p, hp, hp'⟩ := h'
    exact .access code (List.forall_mem_append.mpr ⟨hauth, hauth'⟩)
      ⟨p, List.mem_append_right _ hp, hp'⟩
  | collected updates' failures' hauth' haccess' h' =>
    have hend : BatchEnd entry (l₁ ++ l₂)
        (.ok (updates.update updates', failures.update failures')) _ :=
      .collected _ _ (List.forall_mem_append.mpr ⟨hauth, hauth'⟩)
        (List.forall_mem_append.mpr ⟨haccess, haccess'⟩) (h.append h' hdisj)
    have hsame : (updates.update updates').isEmpty = updates'.isEmpty := by
      rw [Bool.eq_iff_iff, Dict.isEmpty_iff, Dict.isEmpty_iff]
      have hnone := updates.isEmpty_iff.mp hempty
      simp [Dict.get_update, hnone]
    rwa [hsame] at hend

lemma collectEnd (hc : XmlHooks c) (plan : Plan c)
    (hplain : ∀ n key, attempt n key ≠ .baseException) :
    EndsWith c.entry (cycleResults plan attempt) (c.collect plan attempt) := by
  have hnd := plan.keys_nodup
  rw [List.map_append, List.nodup_append] at hnd
  have hfirst := batchEnd hc (fun ep hep => plan.mem_endpoints (.inl hep)) hnd.1 (hplain 0)
    (hplain 1)
  have hlater := batchEnd hc (fun ep hep => plan.mem_endpoints (.inr hep)) hnd.2.1 (hplain 2)
    (hplain 3)
  have hone : OneEach (batchResults (attempt 0) (attempt 1) plan.due) := oneEach_answers _ _
  have hdisj := batches_disjoint plan attempt
  unfold SophosCoordinator.collect cycleResults
  dsimp only
  generalize batchResults (attempt 0) (attempt 1) plan.due = l₁ at hfirst hone hdisj ⊢
  generalize hl₂ : batchResults (attempt 2) (attempt 3) plan.later = l₂ at hlater hdisj ⊢
  generalize c.batch (attempt 0) (attempt 1) plan.due = first at hfirst ⊢
  generalize c.batch (attempt 2) (attempt 3) plan.later = later at hlater ⊢
  rcases first with ⟨res, attempts, issues⟩
  obtain ⟨hfirst, htried⟩ := hfirst
  dsimp only at hfirst htried
  -- a first batch that raised ends the cycle; else it may be up to the second one
  cases hfirst with
  | auth h =>
    obtain ⟨p, hp, hp'⟩ := h
    rw [if_neg fun hgo => by simp [(of_goesOn hgo hp).2.1] at hp']
    exact ⟨.auth ⟨p, hp, hp'⟩, htried⟩
  | access code hauth h =>
    obtain ⟨p, hp, hp'⟩ := h
    rw [if_neg fun hgo => by simp [(of_goesOn hgo hp).2.2] at hp']
    exact ⟨.access code hauth ⟨p, hp, hp'⟩, htried⟩
  | collected updates failures hauth haccess h =>
    have hgo := goesOn_iff hone h hauth haccess
    rw [← hc.connectionErrors] at hgo
    have hempty : plan.later = [] → l₂ = [] := by
      intro hnil
      rw [← hl₂, hnil]
      rfl
    by_cases hmore : plan.later ≠ [] ∧ updates.isEmpty = true ∧
        ¬ failures.values.all c.connectionErrors = true
    · rw [if_pos (hgo.mpr hmore.2)]
      rcases later with ⟨res', attempts', issues'⟩
      obtain ⟨hlater, htried'⟩ := hlater
      dsimp only at hlater htried'
      have hboth : ∀ key, key ∈ (attempts ++ attempts').map Prod.fst ↔
          key ∈ (l₁ ++ l₂).map Prod.fst := by
        intro key
        rw [List.map_append, List.map_append, List.mem_append, List.mem_append, htried, htried']
      have hend := hlater.after hauth haccess h hmore.2.1 hdisj
      simp only [bind, if_pos hmore, if_pos hmore.2.1, List.nil_append]
      rcases res' with e | more
      · exact ⟨hend, hboth⟩
      · exact ⟨by simpa [pure, Except.map] using hend, by simpa [pure] using hboth⟩
    · have hsame : (if goesOn l₁ = true then l₁ ++ l₂ else l₁) = l₁ := by
        split
        · next h' =>
          by_contra hne
          refine hmore ⟨fun hnil => hne ?_, hgo.mp h'⟩
          rw [hempty hnil, List.append_nil]
        · rfl
      rw [hsame]
      simp only [bind, if_neg hmore]
      have hend : BatchEnd c.entry l₁ (.ok (updates, failures)) _ :=
        .collected updates failures hauth haccess h
      exact ⟨by simpa [pure] using hend, by simpa [pure] using htried⟩

/-- What `_update` returns or raises after its fetches. -/
def outcome (s : State V σ) (plan : Plan c) (attempt : ℕ → String → Result V) (done : ℚ) :
    Except CycleError (Data V) :=
  match (c.collect plan attempt).result with
  | .error e => .error e
  | .ok (updates, failures) => (c.finishUpdate s plan done updates failures).2

/-- The retry of an endpoint is rejected again. -/
def RejectedAgain (first retry : String → Result V) (endpoints : List Endpoint) : Prop :=
  ∃ ep ∈ endpoints, resultIsAuth (first ep.key) = true ∧ resultIsAuth (retry ep.key) = true

lemma exists_isAuth_batchResults {first retry : String → Result V} {endpoints : List Endpoint} :
    (∃ p ∈ batchResults first retry endpoints, resultIsAuth p.2 = true) ↔
      RejectedAgain first retry endpoints := by
  constructor
  · rintro ⟨p, hp, h⟩
    obtain ⟨ep, hep, rfl⟩ := List.mem_map.mp hp
    exact ⟨ep, hep, (effective_isAuth ep.key).mp h⟩
  · rintro ⟨ep, hep, h⟩
    exact ⟨_, List.mem_map_of_mem hep, (effective_isAuth ep.key).mpr h⟩

/-- What is stored after this result. -/
def storedOr (previous : Option V) : Result V → Option V
  | .value v => some v
  | _ => previous

/-- The endpoint is one of those a restriction selects. -/
def Selected (restrictTo : Option (List String)) (ep : Endpoint) : Prop :=
  ∃ keys, restrictTo = some keys ∧ ep.key ∈ keys

/-- What comes of a cycle that starts in the state `s₀` and ends in `s`. -/
structure XmlOutcome (s₀ : State V σ) (restrictTo : Option (List String)) (now : ℚ) (s : State V σ)
    (plan : Plan c) (attempt : ℕ → String → Result V) (done : ℚ) : Prop where
  all_due : (∀ ep ∈ c.endpoints.filter (c.isDue s₀ now), ¬ Selected restrictTo ep) →
    plan.due = c.endpoints.filter (c.isDue s₀ now) ∧ plan.later = []
  selected_due : (∃ ep ∈ c.endpoints.filter (c.isDue s₀ now), Selected restrictTo ep) → ∀ ep,
    (ep ∈ plan.due ↔ ep ∈ c.endpoints.filter (c.isDue s₀ now) ∧ Selected restrictTo ep) ∧
    (ep ∈ plan.later ↔ ep ∈ c.endpoints.filter (c.isDue s₀ now) ∧ ¬ Selected restrictTo ep)
  fetched : ∀ key, key ∈ (c.collect plan attempt).attempts.map Prod.fst ↔
    key ∈ (cycleResults plan attempt).map Prod.fst
  auth_failed : outcome s plan attempt done = .error .configEntryAuthFailed ↔
    RejectedAgain (attempt 0) (attempt 1) plan.due ∨
      goesOn (batchResults (attempt 0) (attempt 1) plan.due) = true ∧
        RejectedAgain (attempt 2) (attempt 3) plan.later
  access_denied : outcome s plan attempt done ≠ .error .configEntryAuthFailed →
    ((∃ placeholders, outcome s plan attempt done =
        .error (.updateFailed "api_access_denied" placeholders)) ↔
      ∃ p ∈ cycleResults plan attempt, resultIsAccess p.2 = true)
  issue : ∀ placeholders, outcome s plan attempt done =
      .error (.updateFailed "api_access_denied" placeholders) →
    ∃ code, (c.collect plan attempt).issues = [.raise "api_access_denied" [("code", code)]]
  unchanged : (outcome s plan attempt done = .error .configEntryAuthFailed ∨
      ∃ placeholders, outcome s plan attempt done =
        .error (.updateFailed "api_access_denied" placeholders)) →
    c.endCycle s plan attempt done = { s with lastUpdateSuccess := false }
  unreachable : outcome s plan attempt done ≠ .error .configEntryAuthFailed →
    (¬ ∃ p ∈ cycleResults plan attempt, resultIsAccess p.2 = true) →
    ((∃ placeholders, outcome s plan attempt done =
        .error (.updateFailed "xml_unreachable" placeholders)) ↔
      (∀ p ∈ cycleResults plan attempt, resultIsValue p.2 = false) ∧
        ∀ p ∈ cycleResults plan attempt, resultIsConnection p.2 = true)
  no_data : outcome s plan attempt done ≠ .error .configEntryAuthFailed →
    (¬ ∃ p ∈ cycleResults plan attempt, resultIsAccess p.2 = true) →
    (¬ ∀ p ∈ cycleResults plan attempt, resultIsConnection p.2 = true) →
    ((∃ placeholders, outcome s plan attempt done =
        .error (.updateFailed "no_data" placeholders)) ↔
      s.data = none ∧ ∀ p ∈ cycleResults plan attempt, resultIsValue p.2 = false)
  returned : outcome s plan attempt done ≠ .error .configEntryAuthFailed →
    (¬ ∃ p ∈ cycleResults plan attempt, resultIsAccess p.2 = true) →
    (¬ ∀ p ∈ cycleResults plan attempt, resultIsConnection p.2 = true) →
    (s.data ≠ none ∨ ∃ p ∈ cycleResults plan attempt, resultIsValue p.2 = true) →
    ∃ data, outcome s plan attempt done = .ok data ∧ ∀ key, data key =
      (lastAttempt (cycleResults plan attempt) key).elim (plan.previous key)
        (storedOr (plan.previous key))

lemma beginUpdate_due {s₀ : State V σ} {restrictTo : Option (List String)} {now : ℚ}
    (h : c.beginUpdate s₀ restrictTo now = some plan) :
    plan.due ≠ [] ∧
    ((∀ ep ∈ c.endpoints.filter (c.isDue s₀ now), ¬ Selected restrictTo ep) →
      plan.due = c.endpoints.filter (c.isDue s₀ now) ∧ plan.later = []) ∧
    ((∃ ep ∈ c.endpoints.filter (c.isDue s₀ now), Selected restrictTo ep) → ∀ ep,
      (ep ∈ plan.due ↔ ep ∈ c.endpoints.filter (c.isDue s₀ now) ∧ Selected restrictTo ep) ∧
      (ep ∈ plan.later ↔ ep ∈ c.endpoints.filter (c.isDue s₀ now) ∧ ¬ Selected restrictTo ep)) := by
  unfold SophosCoordinator.beginUpdate at h
  dsimp only at h
  split at h
  · cases h
  next hne =>
  split at h
  · obtain rfl := Option.some.inj h
    simp [Selected, hne]
  next keys =>
  have hsel : ∀ ep : Endpoint, Selected (some keys) ep ↔ ep.key ∈ keys := by simp [Selected]
  simp only [hsel]
  split at h
  · next hnone =>
    obtain rfl := Option.some.inj h
    simp only [List.filter_eq_nil_iff, decide_eq_true_eq] at hnone
    refine ⟨hne, fun _ => ⟨rfl, rfl⟩, ?_⟩
    rintro ⟨ep, hep, hk⟩
    exact absurd hk (hnone ep hep)
  · next hsome =>
    obtain rfl := Option.some.inj h
    refine ⟨hsome, fun hno => absurd ?_ hsome, fun _ ep => ⟨?_, ?_⟩⟩
    · rw [List.filter_eq_nil_iff]
      intro ep hep
      simpa using hno ep hep
    · rw [List.mem_filter, decide_eq_true_eq]
    · rw [List.mem_filter]
      simp

/-- An outage is that every endpoint failed with a connection error. -/
lemma isOutage_iff (hc : XmlHooks c) {l : List (String × Result V)} (hl : OneEach l) (hne : l ≠ [])
    {updates : Updates V} {failures : Failures} (h : Reflects l updates failures) :
    c.isOutage updates failures = true ↔ ∀ p ∈ l, resultIsConnection p.2 = true := by
  have hempty := isEmpty_updates_iff hl h
  have hall := all_connection_iff hl h
  rw [SophosCoordinator.isOutage, hc.connectionErrors, Bool.and_eq_true, Bool.and_eq_true, hempty]
  constructor
  · rintro ⟨⟨-, hno⟩, hconn⟩
    exact (hall hno).mp hconn
  · intro hconn
    have hno : ∀ p ∈ l, resultIsValue p.2 = false := by
      intro p hp
      obtain ⟨e, he, -⟩ := resultIsConnection_iff.mp (hconn p hp)
      simp [he, resultIsValue]
    refine ⟨⟨?_, hno⟩, (hall hno).mpr hconn⟩
    obtain ⟨⟨key, r⟩, hp⟩ := List.exists_mem_of_ne_nil l hne
    obtain ⟨e, rfl, -⟩ := resultIsConnection_iff.mp (hconn _ hp)
    have hget := h.failure_iff.mpr (hl _ hp)
    by_contra hnone
    rw [Bool.not_eq_true', Bool.not_eq_false, Dict.isEmpty_iff] at hnone
    rw [hnone] at hget
    cases hget

lemma finishUpdate_cases (hc : XmlHooks c) (plan : Plan c) {l : List (String × Result V)}
    (hl : OneEach l) (hne : l ≠ []) {updates : Updates V} {failures : Failures}
    (h : Reflects l updates failures)
    (s : State V σ) (done : ℚ) :
    ((∀ p ∈ l, resultIsConnection p.2 = true) ∧ ∃ placeholders,
      (c.finishUpdate s plan done updates failures).2 =
        .error (.updateFailed "xml_unreachable" placeholders)) ∨
    ((¬ ∀ p ∈ l, resultIsConnection p.2 = true) ∧
      (s.data = none ∧ ∀ p ∈ l, resultIsValue p.2 = false) ∧ ∃ placeholders,
      (c.finishUpdate s plan done updates failures).2 =
        .error (.updateFailed "no_data" placeholders)) ∨
    ((¬ ∀ p ∈ l, resultIsConnection p.2 = true) ∧
      ¬ (s.data = none ∧ ∀ p ∈ l, resultIsValue p.2 = false) ∧ ∃ data,
      (c.finishUpdate s plan done updates failures).2 = .ok data ∧ ∀ key, data key =
        (lastAttempt l key).elim (plan.previous key) (storedOr (plan.previous key))) := by
  have houtage := isOutage_iff hc hl hne h
  have hempty := isEmpty_updates_iff hl h
  obtain ⟨logged, hrecord⟩ := recordResults_eq s plan done updates failures
  have hdata : (c.recordResults s plan done updates failures).data = s.data := by rw [hrecord]
  unfold SophosCoordinator.finishUpdate
  dsimp only
  rw [hdata]
  by_cases hconn : ∀ p ∈ l, resultIsConnection p.2 = true
  · have ho := houtage.mpr hconn
    rw [if_pos (.inl ho), if_pos ho, hc.unreachableTranslationKey]
    exact .inl ⟨hconn, _, rfl⟩
  have ho := mt houtage.mp hconn
  by_cases hnothing : s.data = none ∧ ∀ p ∈ l, resultIsValue p.2 = false
  · rw [if_pos (.inr ⟨by simp [hnothing.1], hempty.mpr hnothing.2⟩), if_neg ho]
    exact .inr (.inl ⟨hconn, hnothing, _, rfl⟩)
  · have hnot : ¬ (c.isOutage updates failures = true ∨
        s.data.isNone = true ∧ updates.isEmpty = true) := by
      rintro (h' | ⟨hnone, hno⟩)
      · exact ho h'
      · exact hnothing ⟨by simpa using hnone, hempty.mp hno⟩
    rw [if_neg hnot]
    refine .inr (.inr ⟨hconn, hnothing, _, rfl, fun key => ?_⟩)
    rw [hc.prepare]
    have hk := h key
    rcases hr : lastAttempt l key with _ | r
    · rw [hr] at hk
      simp [hk.1]
    · rw [hr] at hk
      rcases r with v | e | _
      · simp [hk.1, storedOr]
      · simp [hk.1, storedOr]
      · exact hk.elim

lemma cycleResults_ne_nil (attempt : ℕ → String → Result V) (hne : plan.due ≠ []) :
    cycleResults plan attempt ≠ [] := by
  have hselected : batchResults (attempt 0) (attempt 1) plan.due ≠ [] := by
    simpa [batchResults, answers] using hne
  unfold cycleResults
  dsimp only
  split
  · exact List.append_ne_nil_of_left_ne_nil hselected _
  · exact hselected

lemma exists_isAuth_cycleResults (plan : Plan c) (attempt : ℕ → String → Result V) :
    (∃ p ∈ cycleResults plan attempt, resultIsAuth p.2 = true) ↔
      RejectedAgain (attempt 0) (attempt 1) plan.due ∨
        goesOn (batchResults (attempt 0) (attempt 1) plan.due) = true ∧
          RejectedAgain (attempt 2) (attempt 3) plan.later := by
  rw [← exists_isAuth_batchResults, ← exists_isAuth_batchResults]
  unfold cycleResults
  dsimp only
  split
  · next hgo =>
    simp only [List.mem_append, or_and_right, exists_or, hgo, true_and]
  · next hgo => simp [hgo]

lemma not_exists_of_false {l : List (String × Result V)} {f : Result V → Bool}
    (h : ∀ p ∈ l, f p.2 = false) : ¬ ∃ p ∈ l, f p.2 = true := by
  rintro ⟨p, hp, hp'⟩
  rw [h p hp] at hp'
  cases hp'

lemma xmlOutcome_of_collected (hc : XmlHooks c) {s₀ : State V σ}
    {restrictTo : Option (List String)} {now : ℚ}
    (hb : c.beginUpdate s₀ restrictTo now = some plan) {s : State V σ} {done : ℚ}
    (hplain : ∀ n key, attempt n key ≠ .baseException) {updates : Updates V} {failures : Failures}
    (hauth : ∀ p ∈ cycleResults plan attempt, resultIsAuth p.2 = false)
    (haccess : ∀ p ∈ cycleResults plan attempt, resultIsAccess p.2 = false)
    (h : Reflects (cycleResults plan attempt) updates failures)
    (hout : outcome s plan attempt done = (c.finishUpdate s plan done updates failures).2) :
    XmlOutcome s₀ restrictTo now s plan attempt done := by
  obtain ⟨hne, hall, hselected⟩ := beginUpdate_due hb
  obtain ⟨-, htried⟩ := collectEnd hc plan hplain
  have hresults := cycleResults_ne_nil attempt hne
  have hnoAuth : ¬ (RejectedAgain (attempt 0) (attempt 1) plan.due ∨
      goesOn (batchResults (attempt 0) (attempt 1) plan.due) = true ∧
        RejectedAgain (attempt 2) (attempt 3) plan.later) := by
    rw [← exists_isAuth_cycleResults]
    exact not_exists_of_false hauth
  have hnoAccess := not_exists_of_false haccess
  have hvalue : (∀ p ∈ cycleResults plan attempt, resultIsConnection p.2 = true) →
      ∀ p ∈ cycleResults plan attempt, resultIsValue p.2 = false := by
    intro hconn p hp
    obtain ⟨e, he, -⟩ := resultIsConnection_iff.mp (hconn p hp)
    simp [he, resultIsValue]
  have hcases := finishUpdate_cases hc plan (oneEach_cycleResults plan attempt) hresults h s done
  rw [← hout] at hcases
  have hnotAuth : outcome s plan attempt done ≠ .error .configEntryAuthFailed := by
    rcases hcases with ⟨-, ph, he⟩ | ⟨-, -, ph, he⟩ | ⟨-, -, data, he, -⟩ <;> simp [he]
  have hnotAccess : ¬ ∃ ph, outcome s plan attempt done =
      .error (.updateFailed "api_access_denied" ph) := by
    rcases hcases with ⟨-, ph, he⟩ | ⟨-, -, ph, he⟩ | ⟨-, -, data, he, -⟩ <;> simp [he]
  refine ⟨hall, hselected, htried, iff_of_false hnotAuth hnoAuth,
    fun _ => iff_of_false hnotAccess hnoAccess, fun ph h' => absurd ⟨ph, h'⟩ hnotAccess,
    fun h' => absurd h' (not_or_intro hnotAuth hnotAccess), fun _ _ => ?_, fun _ _ hconn => ?_,
    fun _ _ hconn hsome => ?_⟩
  · rcases hcases with ⟨hconn, ph, he⟩ | ⟨hconn, -, ph, he⟩ | ⟨hconn, -, data, he, -⟩
    · exact iff_of_true ⟨ph, he⟩ ⟨hvalue hconn, hconn⟩
    · exact iff_of_false (by simp [he]) fun h' => hconn h'.2
    · exact iff_of_false (by simp [he]) fun h' => hconn h'.2
  · rcases hcases with ⟨hconn', -⟩ | ⟨-, hnothing, ph, he⟩ | ⟨-, hnot, data, he, -⟩
    · exact absurd hconn' hconn
    · exact iff_of_true ⟨ph, he⟩ hnothing
    · exact iff_of_false (by simp [he]) hnot
  · rcases hcases with ⟨hconn', -⟩ | ⟨-, ⟨hnone, hno⟩, -⟩ | ⟨-, -, data, he, hd⟩
    · exact absurd hconn' hconn
    · rcases hsome with hsome | hsome
      · exact absurd hnone hsome
      · exact absurd hsome (not_exists_of_false hno)
    · exact ⟨data, he, hd⟩

lemma xmlOutcome (hc : XmlHooks c) {s₀ : State V σ} {restrictTo : Option (List String)} {now : ℚ}
    (hb : c.beginUpdate s₀ restrictTo now = some plan) (s : State V σ) (done : ℚ)
    (hplain : ∀ n key, attempt n key ≠ .baseException) :
    XmlOutcome s₀ restrictTo now s plan attempt done := by
  obtain ⟨-, hall, hselected⟩ := beginUpdate_due hb
  obtain ⟨hended, htried⟩ := collectEnd hc plan hplain
  have hauthIff := exists_isAuth_cycleResults plan attempt
  have hout : outcome s plan attempt done = match (c.collect plan attempt).result with
      | .error e => .error e
      | .ok (updates, failures) => (c.finishUpdate s plan done updates failures).2 := rfl
  have hend : c.endCycle s plan attempt done = match (c.collect plan attempt).result with
      | .error e => s.conclude (.error e)
      | .ok (updates, failures) =>
        (c.finishUpdate s plan done updates failures).1.conclude
          (c.finishUpdate s plan done updates failures).2 := rfl
  generalize (c.collect plan attempt).result = res at hended hout hend
  generalize hissues : (c.collect plan attempt).issues = issues at hended
  cases hended with
  | auth h =>
    dsimp only at hout hend
    refine ⟨hall, hselected, htried, iff_of_true hout (hauthIff.mp h), fun hno => absurd hout hno,
      fun _ h' => ?_, fun _ => hend, fun hno => absurd hout hno, fun hno => absurd hout hno,
      fun hno => absurd hout hno⟩
    rw [hout] at h'
    cases h'
  | access code hauth h =>
    dsimp only at hout hend
    refine ⟨hall, hselected, htried, iff_of_false ?_ ?_, fun _ => iff_of_true ⟨_, hout⟩ h,
      fun _ _ => ⟨code, hissues⟩, fun _ => hend, fun _ hno => absurd h hno,
      fun _ hno => absurd h hno, fun _ hno => absurd h hno⟩
    · rw [hout]
      nofun
    · rw [← hauthIff]
      exact not_exists_of_false hauth
  | collected updates failures hauth haccess h =>
    exact xmlOutcome_of_collected hc hb hplain hauth haccess h hout

/-- **What comes of one XML cycle.** Whatever the endpoint table, the state, the restriction and the
results, leaving base exceptions aside:

* nothing is fetched if nothing is due; otherwise the due endpoints are, or those a restriction
  selects, and the others only if none of these succeeded, the connection was not the reason for
  all of them, and they raised nothing;
* a retry that is rejected again raises `ConfigEntryAuthFailed`; otherwise a denied access raises
  the repair issue and `UpdateFailed`; after both, only Home Assistant's own flag is changed;
* otherwise the source is unreachable if every endpoint failed with a connection error; there is
  no data if nothing succeeded, now or before; and in every other case the cycle returns what
  there was, with every value that was fetched. -/
theorem xml_cycle_outcome (hc : XmlHooks c) (s₀ : State V σ) (restrictTo : Option (List String))
    (now : ℚ) (s : State V σ) (done : ℚ) (hplain : ∀ n key, attempt n key ≠ .baseException) :
    (c.beginUpdate s₀ restrictTo now = none ↔ c.endpoints.filter (c.isDue s₀ now) = []) ∧
    ∀ plan, c.beginUpdate s₀ restrictTo now = some plan →
      XmlOutcome s₀ restrictTo now s plan attempt done := by
  refine ⟨⟨beginUpdate_none, fun hnil => ?_⟩, fun plan hb => xmlOutcome hc hb s done hplain⟩
  unfold SophosCoordinator.beginUpdate
  exact if_pos hnil

end Cycle

/-- The first refresh, limited to the admin settings, which the profile may not read. -/
theorem xml_cycle_outcome_restricted :
    let c := xmlCoordinator ℕ ⟨"fw", fun _ => none⟩
    let attempt : ℕ → String → Result ℕ := fun n key =>
      if key = "admin" then .exception (.expected "API request failed (code 500)") else .value n
    ∃ plan, c.beginUpdate c.init (some ["admin"]) 0 = some plan ∧
      plan.due.map Endpoint.key = ["admin"] ∧
      XmlOutcome c.init (some ["admin"]) 0 c.init plan attempt 1 := by
  intro c attempt
  refine ⟨_, rfl, by decide, (xml_cycle_outcome (xmlHooks ℕ _) _ _ _ _ _ ?_).2 _ rfl⟩
  intro n key
  by_cases hkey : key = "admin"
  · simp [attempt, hkey]
  · simp [attempt, hkey]

end SophosFw.Sources
