import SophosFw.Records
import SophosFw.SnmpFamilies

/-!
The setup of the sensor, binary sensor and switch platforms, as far as it takes entries out of
the registry.

Which families a platform sets up depends on the options of the config entry and on whether
there is an SNMP coordinator: there is none when SNMP is off, and none when it could not be
initialised.
-/

namespace SophosFw.Platforms

open SophosFw.PyDict SophosFw.Coordinator SophosFw.Sources SophosFw.Registry SophosFw.DynamicSync
  SophosFw.Records SophosFw.SnmpFamilies

/-- The fields of `XmlData`. -/
inductive XmlTable
  | interfaces (t : Dict String Interface)
  | firewallRules (t : Dict String FirewallRule)
  | webFilterPolicies (t : Dict String WebFilterPolicy)
  | dhcpServers (t : Dict String DhcpServer)
  | wirelessNetworks (t : Dict String WirelessNetwork)
  | backup (b : BackupSettings)
  | admin (a : AdminSettings)
  deriving DecidableEq

inductive XmlObject
  | interface (i : Interface)
  | firewallRule (r : FirewallRule)
  | webFilterPolicy (p : WebFilterPolicy)
  | dhcpServer (s : DhcpServer)
  | wirelessNetwork (n : WirelessNetwork)

abbrev XmlFamily := DynamicFamily (Data XmlTable) XmlObject XmlObject

/-- `_keyed` and its siblings, on the table of an endpoint. -/
def xmlItems (suffixPrefix : String) : XmlTable → Dict String XmlObject
  | .interfaces t => keyed suffixPrefix (fun _ => .interface) t
  | .firewallRules t => keyed suffixPrefix (fun _ => .firewallRule) t
  | .webFilterPolicies t => keyed suffixPrefix (fun _ => .webFilterPolicy) t
  | .dhcpServers t => keyed suffixPrefix (fun _ => .dhcpServer) t
  | .wirelessNetworks t => keyed suffixPrefix (fun _ => .wirelessNetwork) t
  | .backup _ | .admin _ => .empty

def xmlFamily (suffixPrefix endpoint : String) : XmlFamily where
  suffixPrefix := suffixPrefix
  endpoint := endpoint
  items d := (d endpoint).map (xmlItems suffixPrefix)
  factory := id

def dhcpLeaseFamily : XmlFamily := xmlFamily "dhcp_leases_" "dhcp_servers"

def interfaceFamily : XmlFamily := xmlFamily "iface_" "interfaces"

def firewallRuleFamily : XmlFamily := xmlFamily "fwrule_" "firewall_rules"

def wirelessNetworkFamily : XmlFamily := xmlFamily "wlan_" "wireless_networks"

def switchXmlFamilies : List XmlFamily :=
  [xmlFamily "switch_fwrule_" "firewall_rules", xmlFamily "switch_webfilter_" "web_filter_policies",
   xmlFamily "switch_wlan_" "wireless_networks"]

/-- `endpoint` and `unique_suffix` of a `SophosEntity`. -/
structure StaticEntity where
  endpoint : Option String
  uniqueSuffix : String
  deriving DecidableEq, Repr

/-- `XML_SENSORS`. -/
def xmlSensors : List StaticEntity :=
  [⟨some "web_filter_policies", "sensor_web_filter_default_action"⟩,
   ⟨some "backup", "sensor_backup_frequency"⟩]

/-- The keys of `SNMP_SENSORS`. -/
def snmpSensorKeys : List String :=
  ["memory_percent", "disk_percent", "swap_percent", "http_hits", "smtp_hits", "ftp_hits",
   "imap_hits", "pop3_hits", "live_users"]

/-- The keys of `SERVICE_OIDS`. -/
def serviceKeys : List String :=
  ["pop3", "imap", "smtp", "ftp", "http", "av", "antispam", "dns", "ha_svc", "ips", "apache",
   "ntp", "tomcat", "ssl_vpn", "ipsec_vpn", "database", "network", "garner", "drouting", "sshd",
   "dgd"]

/-- The keys of `LICENSE_OIDS`. -/
def licenseKeys : List String :=
  ["base_fw", "net_protect", "web_protect", "mail_protect", "web_server", "sandstorm",
   "enh_support", "enh_plus", "central_orch"]

def snmpSensors : List StaticEntity :=
  snmpSensorKeys.map (fun key => ⟨some "stats", "sensor_" ++ key⟩) ++
  [⟨some "services", "sensor_services_summary"⟩, ⟨some "licenses", "sensor_licenses_summary"⟩,
   ⟨some "stats", "sensor_uptime"⟩, ⟨some "ha", "ha_current_state"⟩,
   ⟨some "ha", "ha_peer_state"⟩] ++
  serviceKeys.map (fun key => ⟨some "services", "service_" ++ key⟩) ++
  licenseKeys.map (fun key => ⟨some "licenses", "license_" ++ key⟩)

/-! ### Setup -/

/-- The registry a setup leaves, and whether it was ended by an exception. -/
structure Setup where
  registry : EntityRegistry
  raised : Bool

namespace Setup

def done (r : EntityRegistry) : Setup := ⟨r, false⟩

def andThen (s : Setup) (next : EntityRegistry → Setup) : Setup :=
  if s.raised then s else next s.registry

end Setup

section Steps

variable (entryId domain : String) (configured : String → Bool)

/-- Remove whole families. -/
def removeFamilies (suffixPrefixes : List String) (r : EntityRegistry) : EntityRegistry :=
  suffixPrefixes.foldl (fun r suffixPrefix =>
    (asyncRemoveStaleEntities entryId domain suffixPrefix r [] true).1) r

/-- `async_add_static_entities`. -/
def asyncAddStaticEntities (entities : List StaticEntity) (r : EntityRegistry) : EntityRegistry :=
  asyncRemoveEntities entryId domain r
    ((entities.filter fun entity => !entity.endpoint.all configured).map StaticEntity.uniqueSuffix)

/-- `async_setup_dynamic_entities`. -/
def asyncSetupDynamicEntities {D Item E : Type} (v : CoordinatorView D)
    (families : List (DynamicFamily D Item E)) (r : EntityRegistry) : Setup :=
  let inactive := families.filter fun f => !configured f.endpoint
  let r := removeFamilies entryId domain (inactive.map DynamicFamily.suffixPrefix) r
  let (registry, _, _, raised) :=
    sync entryId domain v (families.filter fun f => configured f.endpoint) r Book.init
  ⟨registry, raised⟩

end Steps

/-- `SophosRuntimeData`: what the platforms see of the coordinators. -/
structure RuntimeData where
  xml : CoordinatorView (Data XmlTable)
  snmp : Option (CoordinatorView (Data (SnmpValue SnmpTable)))

def snmpEnabled (entry : ConfigEntry) : Bool :=
  (readOption entry "snmp_enabled" (.bool false)).truthy

def writeAccess (entry : ConfigEntry) : Bool :=
  (readOption entry "write_access" (.bool false)).truthy

section Entry

variable (entryId : String) (entry : ConfigEntry)

def xmlConfigured : String → Bool := (xmlCoordinator XmlTable entry).endpointConfigured

def snmpConfigured : String → Bool := (snmpCoordinator SnmpTable entry).endpointConfigured

/-- `_async_remove_snmp_entities`. -/
def asyncRemoveSnmpEntities (r : EntityRegistry) : EntityRegistry :=
  removeFamilies entryId "sensor"
    ["service_", "license_", "sensor_cpu_core_", "traffic_", "sensor_fan_", "ap_clients_", "poe_"]
    (asyncRemoveEntities entryId "sensor" r
      (snmpSensorKeys.map (fun key => "sensor_" ++ key) ++
        (hardwareFamilies ++ versionFamilies).map DynamicFamily.suffixPrefix ++
        ["sensor_services_summary", "sensor_licenses_summary", "sensor_uptime",
          "ha_current_state", "ha_peer_state", "sensor_cpu_usage"]))

section Runtime

variable (runtime : RuntimeData)

/-- `xml_interfaces()`: the interfaces the XML API lists, `none` while not known yet. -/
def xmlInterfaces : Option (List String) :=
  if xmlConfigured entry "interfaces" then
    match runtime.xml.data.bind fun d => d "interfaces" with
    | some (.interfaces t) => some (t.values.map fun i =>
        match i.hardware with
        | some hardware => if hardware = "" then i.name else hardware
        | none => i.name)
    | _ => none
  else some []

/-- `async_setup_entry` of `sensor.py`. -/
def sensorSetupEntry (r : EntityRegistry) : Setup :=
  (asyncSetupDynamicEntities entryId "sensor" (xmlConfigured entry) runtime.xml [dhcpLeaseFamily]
    (asyncAddStaticEntities entryId "sensor" (xmlConfigured entry) xmlSensors r)).andThen fun r =>
  match runtime.snmp with
  | none => .done (if snmpEnabled entry then r else asyncRemoveSnmpEntities entryId r)
  | some snmp =>
    -- the traffic families wait for the interfaces of the XML API
    let snmp := { snmp with ready := fun suffixPrefix =>
      !(trafficSensors.map fun key => (trafficFamily key).suffixPrefix).contains suffixPrefix ||
        (xmlInterfaces entry runtime).isSome }
    (asyncSetupDynamicEntities entryId "sensor" (snmpConfigured entry) snmp sensorObjectFamilies
      (asyncAddStaticEntities entryId "sensor" (snmpConfigured entry) snmpSensors r)).andThen
    (asyncSetupDynamicEntities entryId "sensor" (snmpConfigured entry) snmp
      sensorApplianceFamilies)

/-- `async_setup_entry` of `binary_sensor.py`. -/
def binarySensorSetupEntry (r : EntityRegistry) : Setup :=
  let families :=
    if writeAccess entry then [interfaceFamily]
    else [interfaceFamily, firewallRuleFamily, wirelessNetworkFamily]
  let r :=
    if writeAccess entry then removeFamilies entryId "binary_sensor" ["fwrule_", "wlan_"] r else r
  (asyncSetupDynamicEntities entryId "binary_sensor" (xmlConfigured entry) runtime.xml families
    r).andThen fun r =>
  match runtime.snmp with
  | none => .done
      (if snmpEnabled entry then r
      else removeFamilies entryId "binary_sensor" ["vpn_", "psu_", "ap_"]
        (asyncRemoveEntities entryId "binary_sensor" r ["ha_enabled"]))
  | some snmp =>
    asyncSetupDynamicEntities entryId "binary_sensor" (snmpConfigured entry) snmp
      binarySensorFamilies.list
      (asyncAddStaticEntities entryId "binary_sensor" (snmpConfigured entry)
        [⟨some "ha", "ha_enabled"⟩] r)

/-- `async_setup_entry` of `switch.py`. -/
def switchSetupEntry (r : EntityRegistry) : Setup :=
  if writeAccess entry then
    (asyncSetupDynamicEntities entryId "switch" (xmlConfigured entry) runtime.xml
      switchXmlFamilies r).andThen fun r =>
    match runtime.snmp with
    | none => .done (removeFamilies entryId "switch" ["switch_ipsec_"] r)
    | some snmp =>
      asyncSetupDynamicEntities entryId "switch" (snmpConfigured entry) snmp switchFamilies.list r
  else
    .done (removeFamilies entryId "switch"
      ["switch_fwrule_", "switch_webfilter_", "switch_wlan_", "switch_ipsec_"] r)

/-- `PLATFORMS`, as far as they are modelled. -/
inductive PlatformName
  | sensor | binarySensor | switch
  deriving DecidableEq, Repr

def PlatformName.setupEntry : PlatformName → EntityRegistry → Setup
  | .sensor => sensorSetupEntry entryId entry runtime
  | .binarySensor => binarySensorSetupEntry entryId entry runtime
  | .switch => switchSetupEntry entryId entry runtime

end Runtime

/-- The platforms are set up one after another, each with what it finds then; an exception ends
only the one that raised it. -/
def setUpPlatforms (order : List (PlatformName × RuntimeData)) (r : EntityRegistry) :
    EntityRegistry :=
  order.foldl (fun r p => (p.1.setupEntry entryId entry p.2 r).registry) r

end Entry

end SophosFw.Platforms
