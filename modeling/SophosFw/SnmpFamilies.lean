import SophosFw.Sources
import SophosFw.SyncRuns

/-!
The families the three platforms set up on the SNMP coordinator.
-/

namespace SophosFw.SnmpFamilies

open SophosFw.PyDict SophosFw.Coordinator SophosFw.Sources SophosFw.Registry SophosFw.DynamicSync

structure VpnTunnel where
  index : String
  name : String

structure AccessPoint where
  name : String

structure PoePort where
  label : String

structure DeviceInfo where
  webcatVersion : Option String
  ipsVersion : Option String

/-- The fields of `SnmpData` that families are built from, besides health and traffic. -/
inductive SnmpTable
  | tunnels (t : Dict String VpnTunnel)
  | accessPoints (t : Dict String AccessPoint)
  | poe (t : Dict String PoePort)
  | cpu (t : Dict String (Option ℤ))
  | device (d : DeviceInfo)

def tunnelsOf : SnmpValue SnmpTable → Dict String VpnTunnel
  | .other (.tunnels t) => t
  | _ => .empty

def accessPointsOf : SnmpValue SnmpTable → Dict String AccessPoint
  | .other (.accessPoints t) => t
  | _ => .empty

def poeOf : SnmpValue SnmpTable → Dict String PoePort
  | .other (.poe t) => t
  | _ => .empty

def cpuOf : SnmpValue SnmpTable → Dict String (Option ℤ)
  | .other (.cpu t) => t
  | _ => .empty

def trafficOf : SnmpValue SnmpTable → Dict String InterfaceTraffic
  | .traffic t => t
  | _ => .empty

def fansOf : SnmpValue SnmpTable → Dict String (Option ℤ)
  | .health h => h.fans
  | _ => .empty

def psusOf : SnmpValue SnmpTable → Dict String (Option Bool)
  | .health h => h.psus
  | _ => .empty

/-- What an entity of these platforms is built from. -/
inductive SnmpObject
  | tunnel (t : VpnTunnel)
  | psu (key : String)
  | accessPoint (ap : AccessPoint)
  | poePort (port : PoePort)
  | name (name : String)
  | description (key : String)
  | cpuUsage

/-- `{f"{prefix}{name}": item for name, item in items.items()}`. -/
def keyed {α β : Type} (suffixPrefix : String) (item : String → α → β) (items : Dict String α) :
    Dict String β :=
  items.entries.foldl (fun d p => d.set (suffixPrefix ++ p.1) (item p.1 p.2)) .empty

lemma mem_keys_keyed {α β : Type} {suffixPrefix : String} {item : String → α → β}
    {items : Dict String α} {suffix : String} :
    suffix ∈ (keyed suffixPrefix item items).keys ↔
      ∃ name ∈ items.keys, suffix = suffixPrefix ++ name := by
  unfold keyed
  rw [Dict.mem_keys_foldl_set]
  unfold Dict.keys Dict.empty
  simp [eq_comm]

/-- `_ipsec_items` of a tunnel table. -/
def ipsecItems (tunnels : Dict String VpnTunnel) : Dict String SnmpObject :=
  (tunnels.values.filter fun t => t.name ≠ "").foldl
    (fun d t => d.set ("switch_ipsec_" ++ t.index) (.tunnel t)) .empty

/-- `_keyed("ap_", …)`. -/
def apItems (accessPoints : Dict String AccessPoint) : Dict String SnmpObject :=
  keyed "ap_" (fun _ ap => .accessPoint ap) accessPoints

abbrev SnmpFamily := DynamicFamily (Data (SnmpValue SnmpTable)) SnmpObject SnmpObject

def apClientsFamily : SnmpFamily where
  suffixPrefix := "ap_clients_"
  endpoint := "access_points"
  items d := (d "access_points").map fun v =>
    keyed "ap_clients_" (fun _ ap => .accessPoint ap) (accessPointsOf v)
  factory := id
  trustEmpty := true
  confirmMissing := true

def poeFamily : SnmpFamily where
  suffixPrefix := "poe_"
  endpoint := "poe"
  items d := (d "poe").map fun v => keyed "poe_" (fun _ port => .poePort port) (poeOf v)
  factory := id
  trustEmpty := true
  confirmMissing := true

def cpuUsageFamily : SnmpFamily where
  suffixPrefix := "sensor_cpu_usage"
  endpoint := "cpu"
  items d := (d "cpu").map fun v =>
    if (cpuOf v).isEmpty then .empty else .single "sensor_cpu_usage" .cpuUsage
  factory := id

def cpuCoreFamily : SnmpFamily where
  suffixPrefix := "sensor_cpu_core_"
  endpoint := "cpu"
  items d := (d "cpu").map fun v => keyed "sensor_cpu_core_" (fun core _ => .name core) (cpuOf v)
  factory := id
  confirmMissing := true

/-- The keys of `TRAFFIC_SENSORS`. -/
def trafficSensors : List String := ["rx_rate", "tx_rate", "rx_bytes", "tx_bytes"]

def trafficFamily (key : String) : SnmpFamily where
  suffixPrefix := "traffic_" ++ key ++ "_"
  endpoint := "traffic"
  items d := (d "traffic").map fun v =>
    keyed ("traffic_" ++ key ++ "_") (fun name _ => .name name) (trafficOf v)
  factory := id
  confirmMissing := true

def fanFamily : SnmpFamily where
  suffixPrefix := "sensor_fan_"
  endpoint := "health"
  items d := (d "health").map fun v => keyed "sensor_" (fun key _ => .name key) (fansOf v)
  factory := id
  removeStale := false

/-- `_present`: the sensor of a value, once it was reported. -/
def presentFamily (key endpoint : String) (present : SnmpValue SnmpTable → Bool) : SnmpFamily where
  suffixPrefix := "sensor_" ++ key
  endpoint := endpoint
  items d := some
    (if (d endpoint).any present then .single ("sensor_" ++ key) (.description key)
    else .empty)
  factory := id

def hasHealth (value : SystemHealth → Option ℚ) : SnmpValue SnmpTable → Bool
  | .health h => (value h).isSome
  | _ => false

def hasVersion (value : DeviceInfo → Option String) : SnmpValue SnmpTable → Bool
  | .other (.device d) => (value d).isSome
  | _ => false

/-- `HARDWARE_SENSORS`. -/
def hardwareFamilies : List SnmpFamily :=
  [{ presentFamily "cpu_temperature" "health" (hasHealth SystemHealth.cpuTemperatureC) with
      removeStale := false },
   { presentFamily "npu_temperature" "health" (hasHealth SystemHealth.npuTemperatureC) with
      removeStale := false }]

/-- `VERSION_SENSORS`. -/
def versionFamilies : List SnmpFamily :=
  [{ presentFamily "ips_version" "device" (hasVersion DeviceInfo.ipsVersion) with
      trustEmpty := true },
   { presentFamily "webcat_version" "device" (hasVersion DeviceInfo.webcatVersion) with
      trustEmpty := true }]

/-- What `sensor.py` sets up for the objects of the standard MIBs. -/
def sensorObjectFamilies : List SnmpFamily :=
  [cpuUsageFamily, apClientsFamily, poeFamily, cpuCoreFamily] ++ trafficSensors.map trafficFamily

/-- What `sensor.py` sets up for the appliance. -/
def sensorApplianceFamilies : List SnmpFamily := [fanFamily] ++ hardwareFamilies ++ versionFamilies

/-! ### Binary sensors and switches -/

def vpnFamily : SnmpFamily where
  suffixPrefix := "vpn_"
  endpoint := "tunnels"
  items d := (d "tunnels").map fun v => keyed "vpn_" (fun _ t => .tunnel t) (tunnelsOf v)
  factory := id
  trustEmpty := true

def psuFamily : SnmpFamily where
  suffixPrefix := "psu_"
  endpoint := "health"
  items d := (d "health").map fun v => keyed "psu_" (fun key _ => .psu key) (psusOf v)
  factory := id
  removeStale := false

def apFamily : SnmpFamily where
  suffixPrefix := "ap_"
  endpoint := "access_points"
  items d := (d "access_points").map fun v => apItems (accessPointsOf v)
  factory := id
  trustEmpty := true
  confirmMissing := true

def ipsecFamily : SnmpFamily where
  suffixPrefix := "switch_ipsec_"
  endpoint := "tunnels"
  items d := (d "tunnels").map fun v => ipsecItems (tunnelsOf v)
  factory := id
  trustEmpty := true

def binarySensorFamilies : Families (Data (SnmpValue SnmpTable)) SnmpObject SnmpObject where
  list := [vpnFamily, psuFamily, apFamily]
  apart := by
    have h : [vpnFamily.suffixPrefix, psuFamily.suffixPrefix, apFamily.suffixPrefix].Pairwise
        Apart := by
      unfold Apart
      decide
    exact List.pairwise_map.mp h

def switchFamilies : Families (Data (SnmpValue SnmpTable)) SnmpObject SnmpObject where
  list := [ipsecFamily]
  apart := List.pairwise_singleton _ _

/-- `binary_sensor.py` on SNMP. -/
def binarySensorPlatform (entry : ConfigEntry) (entryId : String) :
    SyncRuns.Platform (SnmpValue SnmpTable) SnmpExtra SnmpObject SnmpObject where
  coordinator := snmpCoordinator SnmpTable entry
  entryId := entryId
  domain := "binary_sensor"
  families := binarySensorFamilies

/-- `switch.py` on SNMP. -/
def switchPlatform (entry : ConfigEntry) (entryId : String) :
    SyncRuns.Platform (SnmpValue SnmpTable) SnmpExtra SnmpObject SnmpObject where
  coordinator := snmpCoordinator SnmpTable entry
  entryId := entryId
  domain := "switch"
  families := switchFamilies

end SophosFw.SnmpFamilies
