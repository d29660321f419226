import SophosFw.CycleSpec
import Mathlib.Algebra.Order.Floor.Semiring
import Mathlib.Data.Rat.Floor

/-!
The two coordinators: the XML API, which retries rejected logins once and gives up a cycle
that meets them again or meets denied access, and SNMP, which turns traffic samples into
rates and recognises a virtual appliance.
-/

namespace SophosFw.Sources

open SophosFw.PyDict SophosFw.Coordinator

/-- `_XML_ENDPOINTS`. -/
def xmlEndpoints : List Endpoint :=
  [{ key := "interfaces", tier := .realtime, toggle := "poll_xml_interfaces" },
   { key := "firewall_rules", tier := .operative, toggle := "poll_xml_fw_rules" },
   { key := "dhcp_servers", tier := .static, toggle := "poll_xml_dhcp" },
   { key := "web_filter_policies", tier := .static, toggle := "poll_xml_webfilter" },
   { key := "backup", tier := .static, toggle := "poll_xml_backup", toggleDefault := false },
   { key := "admin", tier := .static },
   { key := "wireless_networks", tier := .operative, toggle := "poll_xml_wireless"
     toggleDefault := false }]

def isConnection : FetchError → Bool
  | .connection _ => true
  | _ => false

section Xml

variable {V : Type}

/-- The endpoints that reported an authentication error. -/
def authFailed (failures : Failures) : List String :=
  (failures.entries.filter fun p => p.2.isAuth).map Prod.fst

/-- Fetch the endpoints that reported an authentication error once more. -/
def retryAuth (endpoints : List Endpoint) (retry : String → Result V) (updates : Updates V)
    (failures : Failures) : Cycle V (Updates V × Failures) :=
  if authFailed failures = [] then pure (updates, failures)
  else do
    let (retryUpdates, retryFailures) ←
      fetch retry (endpoints.filter fun ep => ep.key ∈ authFailed failures)
    let failures := (authFailed failures).foldl Dict.pop failures
    if retryFailures.values.any FetchError.isAuth then Cycle.raise .configEntryAuthFailed
    else pure (updates.update retryUpdates, failures.update retryFailures)

/-- Raise the repair issue and end the cycle if access is denied; clear it after a success. -/
def checkAccess (entry : ConfigEntry) (updates : Updates V) (failures : Failures) :
    Cycle V (Updates V × Failures) :=
  match failures.values.findSome? FetchError.accessCode with
  | some code => do
    Cycle.issue (.raise "api_access_denied" [("code", code.getD "")])
    Cycle.raise (.updateFailed "api_access_denied" [("host", entry.host), ("code", code.getD "")])
  | none =>
    if updates.isEmpty then pure (updates, failures)
    else do
      Cycle.issue (.clear "api_access_denied")
      pure (updates, failures)

/-- `SophosXmlCoordinator._handle_failures`. -/
def xmlHandleFailures (entry : ConfigEntry) (retry : String → Result V) (updates : Updates V)
    (failures : Failures) : Cycle V (Updates V × Failures) := do
  let (updates, failures) ← retryAuth xmlEndpoints retry updates failures
  checkAccess entry updates failures

lemma mem_authFailed_iff (failures : Failures) (key : String) :
    key ∈ authFailed failures ↔ ∃ e, failures.get key = some e ∧ e.isAuth := by
  simp [authFailed, Dict.get_eq_some_iff]

lemma checkAccess_ok {entry : ConfigEntry} {updates updates' : Updates V}
    {failures failures' : Failures}
    (h : (checkAccess entry updates failures).result = .ok (updates', failures')) :
    updates = updates' ∧ failures = failures' := by
  unfold checkAccess at h
  split at h
  · simp [bind, Cycle.issue, Cycle.raise] at h
  · split at h
    · simpa using h
    · simpa [bind, Cycle.issue] using h

lemma checkAccess_attempts (entry : ConfigEntry) (updates : Updates V) (failures : Failures) :
    (checkAccess entry updates failures).attempts = [] := by
  unfold checkAccess
  split
  · simp [bind, Cycle.issue, Cycle.raise]
  · split <;> simp [bind, Cycle.issue]

lemma retryAuth_attempts (endpoints : List Endpoint) (retry : String → Result V)
    (updates : Updates V) (failures : Failures) :
    ∀ p ∈ (retryAuth endpoints retry updates failures).attempts,
      p.1 ∈ authFailed failures ∧ p.2 = retry p.1 := by
  unfold retryAuth
  split
  · simp
  · refine Cycle.bind_attempts (fun p hp => ?_) fun r _ p hp => ?_
    · obtain ⟨hk, hv⟩ := mem_fetch_attempts hp
      obtain ⟨ep, hep, he⟩ := List.mem_map.mp hk
      exact ⟨he ▸ of_decide_eq_true (List.mem_filter.mp hep).2, hv⟩
    · dsimp only at hp
      split at hp <;> simp [Cycle.raise] at hp

/-- A retried endpoint counts by its retry, the others by their first attempt. -/
lemma retryAuth_reflects {endpoints : List Endpoint} {retry : String → Result V}
    {updates updates' : Updates V} {failures failures' : Failures}
    {attempts : List (String × Result V)}
    (hn : (endpoints.map Endpoint.key).Nodup)
    (hs : ∀ key ∈ failures.keys, key ∈ endpoints.map Endpoint.key)
    (hr : Reflects attempts updates failures)
    (h : (retryAuth endpoints retry updates failures).result = .ok (updates', failures')) :
    Reflects (attempts ++ (retryAuth endpoints retry updates failures).attempts)
      updates' failures' := by
  have hretried := retryAuth_attempts endpoints retry updates failures
  unfold retryAuth at h hretried ⊢
  split at h
  · next hnil =>
    obtain ⟨rfl, rfl⟩ : updates = updates' ∧ failures = failures' := by simpa using h
    simpa [hnil] using hr
  · next hne =>
    rw [if_neg hne] at hretried ⊢
    set retried := endpoints.filter fun ep => ep.key ∈ authFailed failures
    obtain ⟨⟨ru, rf⟩, hf, h, hatt⟩ := Cycle.bind_ok h
    dsimp only at h hatt
    split at h
    · simp [Cycle.raise] at h
    next hno =>
    obtain ⟨rfl, rfl⟩ : updates.update ru = updates' ∧
        ((authFailed failures).foldl Dict.pop failures).update rf = failures' := by simpa using h
    rw [if_neg hno, Cycle.pure_attempts, List.append_nil] at hatt
    rw [hatt] at hretried ⊢
    have hrr := fetch_reflects (hn.sublist (List.filter_sublist.map Endpoint.key)) hf
    intro key
    have hk := hr key
    have hk' := hrr key
    rw [lastAttempt_append, Dict.get_update, Dict.get_update, Dict.get_foldl_pop]
    by_cases hauth : key ∈ authFailed failures
    · -- retried: its first attempt is a failure, which was taken out
      obtain ⟨e, he, -⟩ := (mem_authFailed_iff failures key).mp hauth
      have hu := hr.update_none_of_failure he
      have hmem : key ∈ retried.map Endpoint.key := by
        obtain ⟨ep, hep, rfl⟩ := List.mem_map.mp
          (hs key (failures.get_isSome_iff.mp (by simp [he])))
        exact List.mem_map_of_mem (List.mem_filter.mpr ⟨hep, by simpa using hauth⟩)
      obtain ⟨p, hp, rfl⟩ : ∃ p ∈ (fetch retry retried).attempts, p.1 = key := by
        rw [← fetch_attempts retry] at hmem
        exact List.mem_map.mp hmem
      obtain ⟨r, hl⟩ := lastAttempt_isSome_of_mem hp
      rw [hl] at hk' ⊢
      simpa [hauth, hu] using hk'
    · have hnone : lastAttempt (fetch retry retried).attempts key = none :=
        lastAttempt_none_of_keys (fun p hp => (hretried p hp).1) hauth
      rw [hnone] at hk' ⊢
      simpa [hk'.1, hk'.2, hauth] using hk

/-- `SophosXmlCoordinator`. -/
def xmlCoordinator (V : Type) (entry : ConfigEntry) : SophosCoordinator V Unit where
  entry := entry
  endpoints := xmlEndpoints
  keys_nodup := by decide
  connectionErrors := isConnection
  unreachableTranslationKey := "xml_unreachable"
  handleFailures := xmlHandleFailures entry
  handle_attempts := fun retry updates failures => by
    refine Cycle.bind_attempts (fun p hp => ?_) fun r _ p hp => ?_
    · obtain ⟨h, hv⟩ := retryAuth_attempts _ _ _ _ p hp
      obtain ⟨e, he, -⟩ := (mem_authFailed_iff failures p.1).mp h
      exact ⟨failures.get_isSome_iff.mp (by simp [he]), hv⟩
    · simp [checkAccess_attempts] at hp
  handle_reflects := fun retry updates failures attempts updates' failures' hs hr h => by
    obtain ⟨⟨u, f⟩, hretry, h, hatt⟩ := Cycle.bind_ok h
    obtain ⟨rfl, rfl⟩ := checkAccess_ok h
    rw [← xmlHandleFailures] at hatt
    rw [hatt, checkAccess_attempts, List.append_nil]
    exact retryAuth_reflects (by decide) hs hr hretry
  prepare := fun extra updates => (updates, extra)
  prepare_keys := fun _ _ _ => rfl
  afterUpdate := fun extra _ _ => (extra, [])
  initExtra := ()

end Xml

/-! ### SNMP -/

/-- `_SNMP_ENDPOINTS`. -/
def snmpEndpoints : List Endpoint :=
  [{ key := "stats", tier := .realtime, toggle := "poll_snmp_stats" },
   { key := "services", tier := .realtime, toggle := "poll_snmp_services" },
   { key := "tunnels", tier := .fast, toggle := "poll_snmp_tunnels" },
   { key := "ha", tier := .fast, toggle := "poll_snmp_ha", toggleDefault := false },
   { key := "health", tier := .operative, toggle := "poll_snmp_health" },
   { key := "licenses", tier := .static, toggle := "poll_snmp_licenses" },
   { key := "device", tier := .static },
   { key := "cpu", tier := .realtime, toggle := "poll_snmp_stats" },
   { key := "traffic", tier := .realtime, toggle := "poll_snmp_traffic" },
   { key := "links", tier := .realtime, toggle := "poll_xml_interfaces" },
   { key := "access_points", tier := .fast, toggle := "poll_snmp_wifi" },
   { key := "poe", tier := .fast, toggle := "poll_snmp_poe" }]

structure InterfaceCounters where
  inOctets : Option ℤ
  outOctets : Option ℤ
  deriving DecidableEq

structure TrafficSample where
  sampledAt : ℚ
  counters : Dict String InterfaceCounters

structure InterfaceTraffic where
  inOctets : Option ℤ
  outOctets : Option ℤ
  inBps : Option ℚ
  outBps : Option ℚ
  deriving DecidableEq

structure SystemHealth where
  cpuTemperatureC : Option ℚ
  npuTemperatureC : Option ℚ
  fans : Dict String (Option ℤ)
  psus : Dict String (Option Bool)

def SystemHealth.hasHardwareSensors (h : SystemHealth) : Bool :=
  h.cpuTemperatureC.isSome || h.npuTemperatureC.isSome || !h.fans.isEmpty || !h.psus.isEmpty

/-- `round(x, 1)` on exact numbers: the nearest tenth, ties to the even one. -/
def roundTenth (x : ℚ) : ℚ :=
  let y := x * 10
  let below := ⌊y⌋
  let rest := y - below
  (if rest < 1 / 2 ∨ (rest = 1 / 2 ∧ below % 2 = 0) then below else below + 1 : ℤ) / 10

/-- Bit/s between two octet counter readings. -/
def rate (previous current : Option ℤ) (seconds : Option ℚ) : Option ℚ :=
  match previous, current, seconds with
  | some p, some q, some t =>
    if t < 1 then none else if q < p then none else some (roundTenth ((q - p) * 8 / t))
  | _, _, _ => none

/-- Counters and rates per interface from two consecutive samples. -/
def trafficRates (previous : Option TrafficSample) (current : TrafficSample) :
    Dict String InterfaceTraffic :=
  let seconds := previous.map fun p => current.sampledAt - p.sampledAt
  current.counters.entries.foldl (fun result entry =>
    let before := previous.bind fun p => p.counters.get entry.1
    result.set entry.1
      { inOctets := entry.2.inOctets
        outOctets := entry.2.outOctets
        inBps := rate (before.bind InterfaceCounters.inOctets) entry.2.inOctets seconds
        outBps := rate (before.bind InterfaceCounters.outOctets) entry.2.outOctets seconds })
    .empty

/-- What an SNMP endpoint yields, as far as the hooks look into it. -/
inductive SnmpValue (V : Type)
  | sample (s : TrafficSample)
  | traffic (t : Dict String InterfaceTraffic)
  | health (h : SystemHealth)
  | other (v : V)

/-- The attributes `SophosSnmpCoordinator` adds for its hooks. -/
structure SnmpExtra where
  trafficSample : Option TrafficSample
  isVirtual : Option Bool
  emptyHealthReads : ℕ

def emptyConfirmations : ℕ := 3

section Snmp

variable {V : Type}

/-- `SophosSnmpCoordinator._prepare`. -/
def snmpPrepare (extra : SnmpExtra) (updates : Updates (SnmpValue V)) :
    Updates (SnmpValue V) × SnmpExtra :=
  match updates.get "traffic" with
  | some (.sample s) =>
    (updates.set "traffic" (.traffic (trafficRates extra.trafficSample s)),
      { extra with trafficSample := some s })
  | _ => (updates, extra)

/-- `SophosSnmpCoordinator._after_update`. -/
def snmpAfterUpdate (extra : SnmpExtra) (updates : Updates (SnmpValue V)) :
    SnmpExtra × List String :=
  match extra.isVirtual, updates.get "health" with
  | none, some (.health h) =>
    if h.hasHardwareSensors then ({ extra with isVirtual := some false }, [])
    else if emptyConfirmations ≤ extra.emptyHealthReads + 1 then
      ({ extra with emptyHealthReads := extra.emptyHealthReads + 1, isVirtual := some true },
        ["health"])
    else ({ extra with emptyHealthReads := extra.emptyHealthReads + 1 }, [])
  | _, _ => (extra, [])

lemma snmpPrepare_get (extra : SnmpExtra) (updates : Updates (SnmpValue V)) {key : String}
    (hk : key ≠ "traffic") : (snmpPrepare extra updates).1.get key = updates.get key := by
  unfold snmpPrepare
  split
  · simp [hk]
  · rfl

/-- `SophosSnmpCoordinator`, without the wrapper that watches for an agent that never
answered. -/
def snmpCoordinator (V : Type) (entry : ConfigEntry) :
    SophosCoordinator (SnmpValue V) SnmpExtra where
  entry := entry
  endpoints := snmpEndpoints
  keys_nodup := by decide
  connectionErrors := isConnection
  unreachableTranslationKey := "snmp_unreachable"
  handleFailures := fun _ updates failures => pure (updates, failures)
  handle_attempts := fun _ _ _ p hp => by simp at hp
  handle_reflects := fun _ _ _ _ _ _ _ hr h => by
    simp only [Cycle.pure_result, Except.ok.injEq, Prod.mk.injEq] at h
    obtain ⟨rfl, rfl⟩ := h
    simpa using hr
  prepare := snmpPrepare
  prepare_keys := fun extra updates key => by
    by_cases hk : key = "traffic"
    · subst hk
      unfold snmpPrepare
      split <;> simp_all
    · rw [snmpPrepare_get _ _ hk]
  afterUpdate := fun extra _ updates => snmpAfterUpdate extra updates
  initExtra := ⟨none, none, 0⟩

end Snmp

end SophosFw.Sources
