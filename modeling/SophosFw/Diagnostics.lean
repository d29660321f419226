import SophosFw.Platforms
import SophosFw.Redaction

/-!
The diagnostics of a config entry.

What they show of the entry and its coordinators does not depend on the secrets in them. The
proof replaces every secret by a mark and follows what becomes of the mark.
-/

namespace SophosFw.Diagnostics

open SophosFw.PyDict SophosFw.Coordinator SophosFw.Sources SophosFw.Records SophosFw.Platforms
  SophosFw.Redaction

structure DeviceInfo where
  name : Option String
  model : Option String
  firmware : Option String
  serial : Option String
  webcatVersion : Option String
  ipsVersion : Option String

structure SystemStats where
  currentDate : Option String
  uptimeSeconds : Option ℤ
  diskCapacityMb : Option ℤ
  diskPercent : Option ℤ
  memoryCapacityMb : Option ℤ
  memoryPercent : Option ℤ
  swapCapacityMb : Option ℤ
  swapPercent : Option ℤ
  liveUsers : Option ℤ
  httpHits : Option ℤ
  ftpHits : Option ℤ
  smtpHits : Option ℤ
  imapHits : Option ℤ
  pop3Hits : Option ℤ

structure License where
  key : String
  name : String
  statusCode : Option ℤ
  expiryDate : Option String

structure VpnTunnel where
  index : String
  name : String
  connStatus : Option ℤ
  activated : Option ℤ
  tunnelsConfigured : Option ℤ

structure HaStatus where
  enabled : Option Bool
  currentState : Option ℤ
  peerState : Option ℤ

structure InterfaceLink where
  adminStatus : Option ℤ
  operStatus : Option ℤ

structure AccessPoint where
  name : String
  model : Option String
  ipAddress : Option String
  connected : Option Bool
  clients : Option ℤ

structure PoePort where
  label : String
  enabled : Option Bool
  usageW : Option ℚ
  limitW : Option ℚ

/-- The fields of `SnmpData` besides health and traffic. -/
inductive SnmpRecord
  | device (d : DeviceInfo)
  | stats (s : SystemStats)
  | services (t : Dict String (Option ℤ))
  | licenses (t : Dict String License)
  | tunnels (t : Dict String VpnTunnel)
  | ha (h : HaStatus)
  | cpu (t : Dict String (Option ℤ))
  | links (t : Dict String InterfaceLink)
  | accessPoints (t : Dict String AccessPoint)
  | poe (t : Dict String PoePort)

def text (s : Option String) : PyVal := .opt .str s

def flag (b : Option Bool) : PyVal := .opt .bool b

def number (n : Option ℤ) : PyVal := .opt .int n

def decimal (x : Option ℚ) : PyVal := .opt .float x

def table {α : Type} (f : α → PyVal) (t : Dict String α) : PyVal :=
  .dict (t.entries.map fun p => (p.1, f p.2))

def interfaceDict (i : Interface) : PyVal :=
  .dict [("name", .str i.name), ("is_up", flag i.isUp), ("zone", text i.zone),
    ("ipv4_assignment", text i.ipv4Assignment), ("speed", text i.speed), ("mtu", text i.mtu),
    ("hardware", text i.hardware)]

def firewallRuleDict (r : FirewallRule) : PyVal :=
  .dict [("name", .str r.name), ("enabled", flag r.enabled), ("action", text r.action),
    ("policy_type", text r.policyType), ("ip_family", text r.ipFamily)]

def webFilterPolicyDict (p : WebFilterPolicy) : PyVal :=
  .dict [("name", .str p.name), ("default_action", text p.defaultAction)]

def leaseDict (lease : List (String × String)) : PyVal :=
  .dict (lease.map fun p => (p.1, .str p.2))

def dhcpServerDict (s : DhcpServer) : PyVal :=
  .dict [("name", .str s.name), ("running", flag s.running), ("interface", text s.interface),
    ("default_lease_time", .opt (fun n : ℕ => .int n) s.defaultLeaseTime),
    ("max_lease_time", .opt (fun n : ℕ => .int n) s.maxLeaseTime),
    ("static_leases", .tuple (s.staticLeases.map leaseDict))]

def wirelessNetworkDict (n : WirelessNetwork) : PyVal :=
  .dict [("hardware_name", .str n.hardwareName), ("name", .str n.name), ("ssid", text n.ssid),
    ("enabled", flag n.enabled)]

def backupDict (b : BackupSettings) : PyVal :=
  .dict [("mode", text b.mode), ("frequency", text b.frequency)]

def adminDict (a : AdminSettings) : PyVal := .dict [("hostname", text a.hostname)]

structure XmlData where
  interfaces : Option (Dict String Interface)
  firewallRules : Option (Dict String FirewallRule)
  webFilterPolicies : Option (Dict String WebFilterPolicy)
  dhcpServers : Option (Dict String DhcpServer)
  backup : Option BackupSettings
  admin : Option AdminSettings
  wirelessNetworks : Option (Dict String WirelessNetwork)

/-- The data of the XML coordinator with the type of each field. -/
def xmlData (d : Data XmlTable) : XmlData where
  interfaces := (d "interfaces").bind fun
    | .interfaces t => some t
    | _ => none
  firewallRules := (d "firewall_rules").bind fun
    | .firewallRules t => some t
    | _ => none
  webFilterPolicies := (d "web_filter_policies").bind fun
    | .webFilterPolicies t => some t
    | _ => none
  dhcpServers := (d "dhcp_servers").bind fun
    | .dhcpServers t => some t
    | _ => none
  backup := (d "backup").bind fun
    | .backup b => some b
    | _ => none
  admin := (d "admin").bind fun
    | .admin a => some a
    | _ => none
  wirelessNetworks := (d "wireless_networks").bind fun
    | .wirelessNetworks t => some t
    | _ => none

def xmlDataDict (x : XmlData) : List (String × PyVal) :=
  [("interfaces", .opt (table interfaceDict) x.interfaces),
   ("firewall_rules", .opt (table firewallRuleDict) x.firewallRules),
   ("web_filter_policies", .opt (table webFilterPolicyDict) x.webFilterPolicies),
   ("dhcp_servers", .opt (table dhcpServerDict) x.dhcpServers),
   ("backup", .opt backupDict x.backup),
   ("admin", .opt adminDict x.admin),
   ("wireless_networks", .opt (table wirelessNetworkDict) x.wirelessNetworks)]

def deviceDict (d : DeviceInfo) : PyVal :=
  .dict [("name", text d.name), ("model", text d.model), ("firmware", text d.firmware),
    ("serial", text d.serial), ("webcat_version", text d.webcatVersion),
    ("ips_version", text d.ipsVersion)]

def statsDict (s : SystemStats) : PyVal :=
  .dict [("current_date", text s.currentDate), ("uptime_seconds", number s.uptimeSeconds),
    ("disk_capacity_mb", number s.diskCapacityMb), ("disk_percent", number s.diskPercent),
    ("memory_capacity_mb", number s.memoryCapacityMb), ("memory_percent", number s.memoryPercent),
    ("swap_capacity_mb", number s.swapCapacityMb), ("swap_percent", number s.swapPercent),
    ("live_users", number s.liveUsers), ("http_hits", number s.httpHits),
    ("ftp_hits", number s.ftpHits), ("smtp_hits", number s.smtpHits),
    ("imap_hits", number s.imapHits), ("pop3_hits", number s.pop3Hits)]

def licenseDict (l : License) : PyVal :=
  .dict [("key", .str l.key), ("name", .str l.name), ("status_code", number l.statusCode),
    ("expiry_date", text l.expiryDate)]

def tunnelDict (t : VpnTunnel) : PyVal :=
  .dict [("index", .str t.index), ("name", .str t.name), ("conn_status", number t.connStatus),
    ("activated", number t.activated), ("tunnels_configured", number t.tunnelsConfigured)]

def haDict (h : HaStatus) : PyVal :=
  .dict [("enabled", flag h.enabled), ("current_state", number h.currentState),
    ("peer_state", number h.peerState)]

def linkDict (l : InterfaceLink) : PyVal :=
  .dict [("admin_status", number l.adminStatus), ("oper_status", number l.operStatus)]

def accessPointDict (a : AccessPoint) : PyVal :=
  .dict [("name", .str a.name), ("model", text a.model), ("ip_address", text a.ipAddress),
    ("connected", flag a.connected), ("clients", number a.clients)]

def poePortDict (p : PoePort) : PyVal :=
  .dict [("label", .str p.label), ("enabled", flag p.enabled), ("usage_w", decimal p.usageW),
    ("limit_w", decimal p.limitW)]

def snmpRecordDict : SnmpRecord → PyVal
  | .device d => deviceDict d
  | .stats s => statsDict s
  | .services t => table number t
  | .licenses t => table licenseDict t
  | .tunnels t => table tunnelDict t
  | .ha h => haDict h
  | .cpu t => table number t
  | .links t => table linkDict t
  | .accessPoints t => table accessPointDict t
  | .poe t => table poePortDict t

def countersDict (c : InterfaceCounters) : PyVal :=
  .dict [("in_octets", number c.inOctets), ("out_octets", number c.outOctets)]

def trafficDict (t : InterfaceTraffic) : PyVal :=
  .dict [("in_octets", number t.inOctets), ("out_octets", number t.outOctets),
    ("in_bps", decimal t.inBps), ("out_bps", decimal t.outBps)]

def snmpValueDict : SnmpValue SnmpRecord → PyVal
  | .sample s =>
    .dict [("sampled_at", .float s.sampledAt), ("counters", table countersDict s.counters)]
  | .traffic t => table trafficDict t
  | .health h =>
    .dict [("cpu_temperature_c", decimal h.cpuTemperatureC),
      ("npu_temperature_c", decimal h.npuTemperatureC), ("fans", table number h.fans),
      ("psus", table flag h.psus)]
  | .other r => snmpRecordDict r

/-- The fields of `SnmpData`. -/
def snmpFields : List String :=
  ["device", "stats", "services", "licenses", "tunnels", "health", "ha", "cpu", "traffic", "links",
   "access_points", "poe"]

def snmpDataDict (d : Data (SnmpValue SnmpRecord)) : List (String × PyVal) :=
  snmpFields.map fun key => (key, .opt snmpValueDict (d key))

/-- `sorted({...})` of texts. -/
def sortedSet (l : List String) : List String := l.dedup.mergeSort fun a b => a ≤ b

def keysOf : PyVal → List String
  | .dict entries => entries.map Prod.fst
  | _ => []

/-- What iterates over a value that may be missing. -/
def itemsOf : Option PyVal → List PyVal
  | some (.tuple items) | some (.list items) => items
  | _ => []

/-- The body of the loop of `_lease_shape`. -/
def serverShape : PyVal → PyVal
  | .dict server =>
    let leases := itemsOf (server.lookup "static_leases")
    .dict (setEntry "static_leases"
      (.dict [("count", .int leases.length),
        ("fields", .list ((sortedSet (leases.flatMap keysOf)).map .str))]) server)
  | v => v

def serversShape : PyVal → PyVal
  | .dict servers => .dict (servers.map fun p => (p.1, serverShape p.2))
  | v => v

/-- `_lease_shape`. -/
def leaseShape (data : List (String × PyVal)) : List (String × PyVal) :=
  data.map fun p => (p.1, if p.1 = "dhcp_servers" then serversShape p.2 else p.2)

/-- A config entry. -/
structure Entry where
  version : ℕ
  minorVersion : ℕ
  data : Dict String PyVal
  options : Dict String PyVal

/-- An option as the coordinators read it: of anything but a switch, a number or a text they
only see whether it is true. -/
def optionOf : PyVal → OptionValue
  | .bool b => .bool b
  | .int n => .int n
  | .str s => .text s
  | v => .bool v.truthy

/-- The entry as the coordinators have it. -/
def Entry.config (e : Entry) : ConfigEntry where
  host :=
    match e.data.get "host" with
    | some (.str host) => host
    | _ => ""
  options key := (e.options.get key).map optionOf

/-- A coordinator with the attributes of Home Assistant's base class that only diagnostics
read. -/
structure CoordinatorState (V σ E : Type) where
  state : State V σ
  lastException : Option E
  /-- In seconds. -/
  updateInterval : ℕ

/-- An entry that is set up: `snmp` is missing when SNMP is off. -/
structure Runtime (E : Type) where
  entry : Entry
  xml : CoordinatorState XmlTable Unit E
  snmp : Option (CoordinatorState (SnmpValue SnmpRecord) SnmpExtra E)

/-! ### The diagnostics -/

/-- `str(timedelta(seconds=seconds))`. -/
def timedeltaStr (seconds : ℕ) : String :=
  let days := seconds / 86400
  let twoDigits (n : ℕ) : String := if n < 10 then "0" ++ toString n else toString n
  (if days = 0 then "" else toString days ++ (if days = 1 then " day, " else " days, ")) ++
    toString (seconds / 3600 % 24) ++ ":" ++ twoDigits (seconds / 60 % 60) ++ ":" ++
    twoDigits (seconds % 60)

def tierValue : Tier → String
  | .realtime => "realtime"
  | .fast => "fast"
  | .operative => "operative"
  | .static => "static"

section Functions

variable {V σ E : Type} (repr : E → String) (asdict : Data V → List (String × PyVal))

/-- `_data`. -/
def dataDiagnostics (data : Option (Data V)) : PyVal :=
  match data with
  | none => .none
  | some d =>
    let data := asdict d
    .dict (if "dhcp_servers" ∈ data.map Prod.fst then leaseShape data else data)

def endpointDiagnostics (now : ℚ) (c : SophosCoordinator V σ) (s : State V σ) (ep : Endpoint) :
    PyVal :=
  .dict [("tier", .str (tierValue ep.tier)), ("enabled", .bool (c.endpointEnabled s ep.key)),
    ("available", .bool (s.endpointAvailable ep.key)),
    ("seconds_since_fetch", .opt (fun fetched => .float (roundTenth (now - fetched)))
      (s.fetchedAt ep.key))]

/-- `_coordinator_diagnostics`. -/
def coordinatorDiagnostics (now : ℚ) (c : SophosCoordinator V σ) (s : CoordinatorState V σ E) :
    List (String × PyVal) :=
  [("last_update_success", .bool s.state.lastUpdateSuccess),
   ("last_exception", .opt (fun e => .str (repr e)) s.lastException),
   ("update_interval", .str (timedeltaStr s.updateInterval)),
   ("endpoints", .dict (c.endpoints.map fun ep => (ep.key, endpointDiagnostics now c s.state ep))),
   ("data", dataDiagnostics asdict s.state.data)]

end Functions

def toRedact : List String :=
  ["password", "username", "snmp_community", "host", "serial", "ssid", "ip_address"]

/-- What the clock says when the diagnostics of a coordinator are taken. -/
structure Clock where
  xml : ℚ
  snmp : ℚ

section Diagnostics

variable {E : Type} (repr : E → String) (clock : Clock)

def entryDiagnostics (e : Entry) : PyVal :=
  .dict [("version", .int e.version), ("minor_version", .int e.minorVersion),
    ("data", .dict e.data.entries), ("options", .dict e.options.entries)]

def xmlDiagnostics (r : Runtime E) : PyVal :=
  .dict (coordinatorDiagnostics repr (xmlDataDict ∘ xmlData) clock.xml
    (xmlCoordinator XmlTable r.entry.config) r.xml)

def snmpDiagnostics (r : Runtime E) : PyVal :=
  match r.snmp with
  | none => .none
  | some s =>
    .dict (coordinatorDiagnostics repr snmpDataDict clock.snmp
        (snmpCoordinator SnmpRecord r.entry.config) s ++
      [("is_virtual", flag s.state.extra.isVirtual)])

/-- `async_get_config_entry_diagnostics`. -/
def asyncGetConfigEntryDiagnostics (asyncRedactData : PyVal → List String → PyVal)
    (r : Runtime E) : PyVal :=
  asyncRedactData
    (.dict [("entry", entryDiagnostics r.entry), ("xml", xmlDiagnostics repr clock r),
      ("snmp", snmpDiagnostics repr clock r)])
    toRedact

end Diagnostics

/-! ### Secrets -/

/-- What stands for a secret. -/
def mark : String := "*"

/-- A mark for every secret text there is. -/
def maskText (s : Option String) : Option String := s.map fun t => if t = "" then "" else mark

/-- The keys of an entry that hold secrets. -/
def secretKeys : List String := ["host", "username", "password", "snmp_community"]

def maskEntry (d : Dict String PyVal) : Dict String PyVal :=
  d.mapEntries fun key v => if key ∈ secretKeys ∧ v.isBlank = false then .str mark else v

def Entry.masked (e : Entry) : Entry :=
  { e with data := maskEntry e.data, options := maskEntry e.options }

def maskTable {α : Type} (f : α → α) (t : Dict String α) : Dict String α :=
  t.mapEntries fun _ a => f a

/-- Of the static leases only their number and the keys are no secret. -/
def maskServer (s : DhcpServer) : DhcpServer :=
  { s with staticLeases := s.staticLeases.map fun lease => lease.map fun p => (p.1, mark) }

def maskNetwork (n : WirelessNetwork) : WirelessNetwork := { n with ssid := maskText n.ssid }

def maskXml : XmlTable → XmlTable
  | .dhcpServers t => .dhcpServers (maskTable maskServer t)
  | .wirelessNetworks t => .wirelessNetworks (maskTable maskNetwork t)
  | t => t

def maskDevice (d : DeviceInfo) : DeviceInfo := { d with serial := maskText d.serial }

def maskAccessPoint (a : AccessPoint) : AccessPoint := { a with ipAddress := maskText a.ipAddress }

def maskSnmp : SnmpValue SnmpRecord → SnmpValue SnmpRecord
  | .other (.device d) => .other (.device (maskDevice d))
  | .other (.accessPoints t) => .other (.accessPoints (maskTable maskAccessPoint t))
  | v => v

def CoordinatorState.masked {V σ E : Type} (mask : V → V) (s : CoordinatorState V σ E) :
    CoordinatorState V σ E :=
  { s with state := { s.state with data := s.state.data.map fun d key => (d key).map mask } }

/-- The state with a mark for every secret in it. Two states are equal but for their secrets
when this makes them equal. -/
def Runtime.masked {E : Type} (r : Runtime E) : Runtime E where
  entry := r.entry.masked
  xml := r.xml.masked maskXml
  snmp := r.snmp.map (CoordinatorState.masked maskSnmp)

lemma entries_maskTable {α : Type} (f : α → α) (t : Dict String α) :
    (maskTable f t).entries = t.entries.map fun p => (p.1, f p.2) := by
  rfl

lemma keysOf_leaseDict (lease : List (String × String)) :
    keysOf (leaseDict lease) = lease.map Prod.fst := by
  simp [keysOf, leaseDict, Function.comp_def]

lemma serverShape_maskServer (s : DhcpServer) :
    serverShape (dhcpServerDict (maskServer s)) = serverShape (dhcpServerDict s) := by
  have hlookup (s : DhcpServer) : itemsOf (List.lookup "static_leases"
      [("name", .str s.name), ("running", flag s.running), ("interface", text s.interface),
        ("default_lease_time", .opt (fun n : ℕ => .int n) s.defaultLeaseTime),
        ("max_lease_time", .opt (fun n : ℕ => .int n) s.maxLeaseTime),
        ("static_leases", .tuple (s.staticLeases.map leaseDict))]) =
      s.staticLeases.map leaseDict := by
    rfl
  have hkeys : (maskServer s).staticLeases.flatMap (fun lease => lease.map Prod.fst)
      = s.staticLeases.flatMap fun lease => lease.map Prod.fst := by
    simp [maskServer, List.flatMap_map, Function.comp_def]
  have hlength : (maskServer s).staticLeases.length = s.staticLeases.length := by
    simp [maskServer]
  simp only [dhcpServerDict, serverShape, hlookup, List.length_map, List.flatMap_map,
    keysOf_leaseDict, hkeys, hlength]
  rfl

lemma serversShape_maskTable (x : Option (Dict String DhcpServer)) :
    serversShape (.opt (table dhcpServerDict) (x.map (maskTable maskServer)))
      = serversShape (.opt (table dhcpServerDict) x) := by
  cases x with
  | none => rfl
  | some t =>
    simp only [Option.map_some, PyVal.opt, table, serversShape, entries_maskTable, List.map_map]
    refine congrArg PyVal.dict (List.map_congr_left fun p _ => ?_)
    exact Prod.ext rfl (serverShape_maskServer p.2)

/-- A mark changes the DHCP servers and the wireless networks only. -/
lemma xmlData_mask (d : Data XmlTable) :
    xmlData (fun key => (d key).map maskXml) =
      { xmlData d with
        dhcpServers := (xmlData d).dhcpServers.map (maskTable maskServer)
        wirelessNetworks := (xmlData d).wirelessNetworks.map (maskTable maskNetwork) } := by
  have hsame {α : Type} (f : XmlTable → Option α) (h : ∀ t, f (maskXml t) = f t)
      (x : Option XmlTable) : (x.map maskXml).bind f = x.bind f := by
    cases x with
    | none => rfl
    | some t => exact h t
  have hmapped {α : Type} (f : XmlTable → Option α) (g : α → α)
      (h : ∀ t, f (maskXml t) = (f t).map g) (x : Option XmlTable) :
      (x.map maskXml).bind f = (x.bind f).map g := by
    cases x with
    | none => rfl
    | some t => exact h t
  simp only [xmlData, XmlData.mk.injEq]
  refine ⟨hsame _ ?_ _, hsame _ ?_ _, hsame _ ?_ _, hmapped _ _ ?_ _, hsame _ ?_ _, hsame _ ?_ _,
    hmapped _ _ ?_ _⟩
  all_goals
    intro t
    cases t <;> rfl

section Hiding

lemma leave_maskText (redact : PyVal → PyVal) (marker : PyVal) {key : String}
    (hk : key ∈ toRedact) (s : Option String) :
    leave redact toRedact marker key (text s)
      = leave redact toRedact marker key (text (maskText s)) := by
  rcases s with _ | t
  · rfl
  by_cases ht : t = ""
  · rw [maskText, Option.map_some, if_pos ht, ht]
  · have hblank : (text (some t)).isBlank = false := decide_eq_false ht
    rw [maskText, Option.map_some, if_neg ht, leave_of_secret hk hblank,
      leave_of_secret hk (by rfl)]

variable {redact : PyVal → PyVal} {marker : PyVal} (hr : Redacts redact toRedact marker)

include hr

lemma hidden_network (n : WirelessNetwork) :
    Hidden redact (wirelessNetworkDict n) (wirelessNetworkDict (maskNetwork n)) := by
  have hssid : leave redact toRedact marker "ssid" _ = _ :=
    leave_maskText redact marker (by decide) n.ssid
  refine hr.hidden_of_leave ?_
  simp only [List.map_cons, List.map_nil, maskNetwork, hssid]

lemma hidden_accessPoint (a : AccessPoint) :
    Hidden redact (accessPointDict a) (accessPointDict (maskAccessPoint a)) := by
  have haddress : leave redact toRedact marker "ip_address" _ = _ :=
    leave_maskText redact marker (by decide) a.ipAddress
  refine hr.hidden_of_leave ?_
  simp only [List.map_cons, List.map_nil, maskAccessPoint, haddress]

lemma hidden_device (d : DeviceInfo) :
    Hidden redact (deviceDict d) (deviceDict (maskDevice d)) := by
  have hserial : leave redact toRedact marker "serial" _ = _ :=
    leave_maskText redact marker (by decide) d.serial
  refine hr.hidden_of_leave ?_
  simp only [List.map_cons, List.map_nil, maskDevice, hserial]

lemma hidden_table {α : Type} {f : α → PyVal} {g : α → α}
    (h : ∀ a, Hidden redact (f a) (f (g a))) (t : Dict String α) :
    Hidden redact (table f t) (table f (maskTable g t)) := by
  rw [table, table, entries_maskTable, List.map_map]
  exact hr.hidden_dict fun p _ => ⟨rfl, hr.leave_eq (h p.2) p.1⟩

lemma hidden_snmpValue (v : SnmpValue SnmpRecord) :
    Hidden redact (snmpValueDict v) (snmpValueDict (maskSnmp v)) := by
  rcases v with s | t | h | r
  · exact .refl _
  · exact .refl _
  · exact .refl _
  · cases r with
    | device d => exact hidden_device hr d
    | accessPoints t => exact hidden_table hr (hidden_accessPoint hr) t
    | _ => exact .refl _

lemma hidden_snmpData (d : Option (Data (SnmpValue SnmpRecord))) :
    Hidden redact (dataDiagnostics snmpDataDict d)
      (dataDiagnostics snmpDataDict (d.map fun d key => (d key).map maskSnmp)) := by
  cases d with
  | none => exact .refl _
  | some d =>
    have hkeys (d : Data (SnmpValue SnmpRecord)) :
        "dhcp_servers" ∉ (snmpDataDict d).map Prod.fst := by
      simp [snmpDataDict, snmpFields]
    simp only [dataDiagnostics, Option.map_some, if_neg (hkeys _)]
    exact hr.hidden_dict fun key _ =>
      ⟨rfl, hr.leave_eq (Hidden.opt (hidden_snmpValue hr) (d key)) key⟩

lemma hidden_xmlData (d : Option (Data XmlTable)) :
    Hidden redact (dataDiagnostics (xmlDataDict ∘ xmlData) d)
      (dataDiagnostics (xmlDataDict ∘ xmlData) (d.map fun d key => (d key).map maskXml)) := by
  cases d with
  | none => exact .refl _
  | some d =>
    have hkeys (x : XmlData) : "dhcp_servers" ∈ (xmlDataDict x).map Prod.fst := by
      simp [xmlDataDict]
    have hnetworks := hr.leave_eq
      (Hidden.opt (hidden_table hr (hidden_network hr)) (xmlData d).wirelessNetworks)
      "wireless_networks"
    simp only [dataDiagnostics, Option.map_some, Function.comp_apply, if_pos (hkeys _),
      xmlData_mask]
    refine hr.hidden_of_leave ?_
    simp [leaseShape, xmlDataDict, serversShape_maskTable, hnetworks]

lemma hidden_maskEntry (d : Dict String PyVal) :
    Hidden redact (.dict d.entries) (.dict (maskEntry d).entries) := by
  have hentries : (maskEntry d).entries = d.entries.map fun p =>
      (p.1, if p.1 ∈ secretKeys ∧ p.2.isBlank = false then .str mark else p.2) := by
    rfl
  rw [hentries, ← List.map_id d.entries, List.map_map]
  refine hr.hidden_dict fun p _ => ⟨rfl, ?_⟩
  dsimp only [Function.comp_apply, id_eq]
  split
  · next h =>
    have hkey : p.1 ∈ toRedact := by
      have hsub : secretKeys ⊆ toRedact := by decide
      exact hsub h.1
    rw [leave_of_secret hkey h.2, leave_of_secret hkey (by rfl)]
  · rfl

lemma hidden_entry (e : Entry) :
    Hidden redact (entryDiagnostics e) (entryDiagnostics e.masked) := by
  have hdata := hr.leave_eq (hidden_maskEntry hr e.data) "data"
  have hoptions := hr.leave_eq (hidden_maskEntry hr e.options) "options"
  refine hr.hidden_of_leave ?_
  simp only [List.map_cons, List.map_nil, Entry.masked, hdata, hoptions]

omit hr in
lemma options_masked (e : Entry) {key : String} (h : key ∉ secretKeys) :
    e.masked.config.options key = e.config.options key := by
  simp [Entry.config, Entry.masked, maskEntry, Dict.get_mapEntries, h, Function.comp_def]

omit hr in
lemma endpointConfigured_congr {V σ : Type} {c c' : SophosCoordinator V σ}
    (he : c'.endpoints = c.endpoints)
    (ho : ∀ ep ∈ c.endpoints, ∀ toggle, ep.toggle = some toggle →
      c'.entry.options toggle = c.entry.options toggle) (key : String) :
    c'.endpointConfigured key = c.endpointConfigured key := by
  unfold SophosCoordinator.endpointConfigured
  rw [he]
  split
  · rfl
  · next ep hep =>
    split
    · rfl
    · next toggle ht =>
      rw [readOption, readOption, ho ep (List.mem_of_find?_eq_some hep) toggle ht]

lemma hidden_coordinator {V σ E : Type} (repr : E → String) (now : ℚ)
    {asdict : Data V → List (String × PyVal)} {mask : V → V} (c c' : SophosCoordinator V σ)
    (he : c'.endpoints = c.endpoints)
    (ho : ∀ ep ∈ c.endpoints, ∀ toggle, ep.toggle = some toggle →
      c'.entry.options toggle = c.entry.options toggle)
    (hdata : ∀ d, Hidden redact (dataDiagnostics asdict d)
      (dataDiagnostics asdict (d.map fun d key => (d key).map mask)))
    (s : CoordinatorState V σ E) :
    (coordinatorDiagnostics repr asdict now c s).map
        (fun p => (p.1, leave redact toRedact marker p.1 p.2)) =
      (coordinatorDiagnostics repr asdict now c' (s.masked mask)).map
        fun p => (p.1, leave redact toRedact marker p.1 p.2) := by
  have hendpoints : (c'.endpoints.map fun ep =>
      (ep.key, endpointDiagnostics now c' (s.masked mask).state ep)) =
      c.endpoints.map fun ep => (ep.key, endpointDiagnostics now c s.state ep) := by
    rw [he]
    refine List.map_congr_left fun ep _ => ?_
    have henabled : c'.endpointEnabled (s.masked mask).state ep.key
        = c.endpointEnabled s.state ep.key := by
      rw [SophosCoordinator.endpointEnabled, endpointConfigured_congr he ho]
      rfl
    rw [endpointDiagnostics, henabled]
    rfl
  have hd := hr.leave_eq (hdata s.state.data) "data"
  simp only [coordinatorDiagnostics, List.map_cons, List.map_nil, hendpoints, hd]
  rfl

variable {E : Type} (repr : E → String) (clock : Clock)

lemma hidden_xml (r : Runtime E) :
    Hidden redact (xmlDiagnostics repr clock r) (xmlDiagnostics repr clock r.masked) := by
  have hplain : ∀ ep ∈ xmlEndpoints, ∀ toggle ∈ ep.toggle, toggle ∉ secretKeys := by decide
  exact hr.hidden_of_leave (hidden_coordinator hr repr clock.xml
    (xmlCoordinator XmlTable r.entry.config) (xmlCoordinator XmlTable r.entry.masked.config) rfl
    (fun ep hep toggle ht => options_masked r.entry (hplain ep hep toggle ht)) (hidden_xmlData hr)
    r.xml)

lemma hidden_snmp (r : Runtime E) :
    Hidden redact (snmpDiagnostics repr clock r) (snmpDiagnostics repr clock r.masked) := by
  obtain ⟨entry, xml, _ | s⟩ := r
  · exact .refl _
  have hplain : ∀ ep ∈ snmpEndpoints, ∀ toggle ∈ ep.toggle, toggle ∉ secretKeys := by decide
  have hs := hidden_coordinator hr repr clock.snmp (snmpCoordinator SnmpRecord entry.config)
    (snmpCoordinator SnmpRecord entry.masked.config) rfl
    (fun ep hep toggle ht => options_masked entry (hplain ep hep toggle ht)) (hidden_snmpData hr) s
  refine hr.hidden_of_leave ?_
  rw [List.map_append, List.map_append, hs]
  rfl

omit hr in
/-- The diagnostics show as much of a state as of the state with marks for its secrets. -/
lemma diagnostics_masked {asyncRedactData : PyVal → List String → PyVal}
    (hr : Redacts (asyncRedactData · toRedact) toRedact marker) (r : Runtime E) :
    asyncGetConfigEntryDiagnostics repr clock asyncRedactData r
      = asyncGetConfigEntryDiagnostics repr clock asyncRedactData r.masked := by
  have hentry := hr.leave_eq (hidden_entry hr r.entry) "entry"
  have hxml := hr.leave_eq (hidden_xml hr repr clock r) "xml"
  have hsnmp := hr.leave_eq (hidden_snmp hr repr clock r) "snmp"
  refine (hr.hidden_of_leave ?_).redact_eq
  simp only [List.map_cons, List.map_nil, hentry, hxml, hsnmp]
  rfl

end Hiding

/-- **Diagnostics reveal no secret.** Two states of a config entry and its coordinators that are
equal but for non-empty host, user name, password and SNMP community, serial number, SSIDs,
addresses of access points and values of static leases have the same diagnostics. -/
theorem diagnostics_reveal_no_secret {E : Type} {asyncRedactData : PyVal → List String → PyVal}
    {marker : PyVal} (hr : Redacts (asyncRedactData · toRedact) toRedact marker)
    (repr : E → String) (clock : Clock) {r r' : Runtime E} (h : r.masked = r'.masked) :
    asyncGetConfigEntryDiagnostics repr clock asyncRedactData r
      = asyncGetConfigEntryDiagnostics repr clock asyncRedactData r' := by
  rw [diagnostics_masked repr clock hr r, h, ← diagnostics_masked repr clock hr r']

/-- Two appliances whose objects are called after secret fields. -/
theorem diagnostics_reveal_no_secret_names :
    let entry (host password : String) : Entry :=
      ⟨1, 2, (Dict.single "host" (.str host)).set "password" (.str password), .empty⟩
    let xml (ssid mac : String) : Data XmlTable := fun key =>
      if key = "wireless_networks" then
        some (.wirelessNetworks (.single "ssid" ⟨"ssid", "Guests", some ssid, some true⟩))
      else if key = "dhcp_servers" then
        some (.dhcpServers (.single "host"
          ⟨"host", some true, none, none, none, [[("MACAddress", mac)]]⟩))
      else none
    let snmp (serial address : String) : Data (SnmpValue SnmpRecord) := fun key =>
      if key = "device" then
        some (.other (.device ⟨some "fw", none, none, some serial, none, none⟩))
      else if key = "access_points" then
        some (.other (.accessPoints (.single "serial"
          ⟨"serial", none, some address, some true, some 3⟩)))
      else none
    let config : ConfigEntry := ⟨"", fun _ => none⟩
    let runtime (e : Entry) (x : Data XmlTable) (y : Data (SnmpValue SnmpRecord)) :
        Runtime String :=
      { entry := e
        xml := ⟨{ (xmlCoordinator XmlTable config).init with data := some x }, none, 30⟩
        snmp := some ⟨{ (snmpCoordinator SnmpRecord config).init with data := some y }, none, 30⟩ }
    let redact v secret := redactBy secret (.str "**REDACTED**") v
    asyncGetConfigEntryDiagnostics id ⟨5, 6⟩ redact
        (runtime (entry "10.0.0.1" "secret") (xml "Home" "aa:bb") (snmp "C0100" "10.0.0.7")) =
      asyncGetConfigEntryDiagnostics id ⟨5, 6⟩ redact
        (runtime (entry "fw.example" "hunter2") (xml "Office" "cc:dd") (snmp "X9" "10.0.0.8")) := by
  intro entry xml snmp config runtime redact
  refine diagnostics_reveal_no_secret (redacts_redactBy toRedact (.str "**REDACTED**")) id ⟨5, 6⟩ ?_
  have hentry : (entry "10.0.0.1" "secret").masked = (entry "fw.example" "hunter2").masked := by
    simp [entry, Entry.masked, maskEntry, Dict.mapEntries, Dict.set, Dict.single, setEntry,
      secretKeys, PyVal.isBlank]
  have hxml : (fun key => (xml "Home" "aa:bb" key).map maskXml)
      = fun key => (xml "Office" "cc:dd" key).map maskXml := by
    funext key
    dsimp only [xml]
    split_ifs <;> rfl
  have hsnmp : (fun key => (snmp "C0100" "10.0.0.7" key).map maskSnmp)
      = fun key => (snmp "X9" "10.0.0.8" key).map maskSnmp := by
    funext key
    dsimp only [snmp]
    split_ifs <;> rfl
  simp only [runtime, Runtime.masked, CoordinatorState.masked, Option.map_some, hentry, hxml, hsnmp]

end SophosFw.Diagnostics
