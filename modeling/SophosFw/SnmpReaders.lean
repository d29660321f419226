import SophosFw.SnmpOff
import SophosFw.SnmpTables
import Mathlib.Data.Int.Log
import Std.Data.String.ToNat

/-!
What the client makes of the other tables: PoE ports, access points, fans, power supplies and
processor cores.

A port or an access point has its values from one row, however many rows go by its name. Fans and
power supplies go by the numbers of their rows, and processor cores are counted.
-/

namespace SophosFw.Snmp

open SophosFw.PyDict SophosFw.PyText SophosFw.Sources SophosFw.Diagnostics
open SophosFw.SnmpFamilies (SnmpTable)

/-- `_ip_str`. -/
def ipStr : Value → Option String
  | .bytes l =>
    if l.length = 4 then some (".".intercalate (l.map fun b => toString b.toNat)) else none
  | v => v.str.filter fun text => text ≠ ""

/-- `tenths_to_celsius`. -/
def tenthsToCelsius (v : Value) : Option ℚ :=
  ((toInt v).filter fun n => 0 < n).map fun n : ℤ => (n : ℚ) / 10

/-- The nearest float: 53 bits, ties to the even one. Gauges are far from its limits. -/
def toFloat (x : ℚ) : ℚ :=
  let ulp : ℚ := 2 ^ (Int.log 2 |x| - 52)
  let y := x / ulp
  let below := ⌊y⌋
  let rest := y - below
  (if rest < 1 / 2 ∨ (rest = 1 / 2 ∧ below % 2 = 0) then below else below + 1 : ℤ) * ulp

/-- `_milli`; a quotient is a float before it is rounded. -/
def milli (v : Value) : Option ℚ := (toInt v).map fun n => roundTenth (toFloat (n / 1000))

/-- Neither 0.05 nor 0.15 is a float. -/
example : (milli (.int 50), milli (.int 150)) = (some (1 / 10), some (1 / 10)) := by decide +kernel

lemma milli_item (d : Dict String Value) (idx : String) :
    milli (item d idx) = (d.get idx).bind milli := by
  unfold milli
  rw [toInt_item]
  cases d.get idx <;> rfl

def oidPoeTable : String := "1.3.6.1.4.1.2604.5.1.9.5"
def poeColLabel : String := "2"
def poeColEnabled : String := "3"
def poeColLimit : String := "4"
def poeColUsage : String := "5"
def poeEnabled : ℤ := 1

def poeColumns : List String := [poeColLabel, poeColEnabled, poeColLimit, poeColUsage]

/-- `SNMPClient.get_poe`. -/
def getPoe (walkColumns : Walk) : Except SnmpError (Dict String PoePort) := do
  let data ← walkColumns oidPoeTable poeColumns
  let labels := tableColumn data oidPoeTable poeColLabel false
  let enabled := tableColumn data oidPoeTable poeColEnabled false
  let limit := tableColumn data oidPoeTable poeColLimit false
  let usage := tableColumn data oidPoeTable poeColUsage false
  let idxs ← sortedByInt labels.keys
  return .buildFirst (fun idx => toStr (item labels idx)) (fun idx =>
    { label := (toStr (item labels idx)).getD ""
      enabled := (toInt (item enabled idx)).map fun code => decide (code = poeEnabled)
      usageW := milli (item usage idx)
      limitW := milli (item limit idx) }) idxs

def oidApTable : String := "1.3.6.1.4.1.2604.5.1.7.1"
def apColName : String := "1"
def apColModel : String := "2"
def apColIp : String := "3"
def apColStatus : String := "5"
def apColClients : String := "6"
def apConnected : ℤ := 0

def apColumns : List String := [apColName, apColModel, apColIp, apColStatus, apColClients]

/-- `SNMPClient.get_access_points`. -/
def getAccessPoints (walkColumns : Walk) : Except SnmpError (Dict String AccessPoint) := do
  let data ← walkColumns oidApTable apColumns
  let names := tableColumn data oidApTable apColName true
  let models := tableColumn data oidApTable apColModel true
  let ips := tableColumn data oidApTable apColIp true
  let status := tableColumn data oidApTable apColStatus true
  let clients := tableColumn data oidApTable apColClients true
  return .buildFirst (fun idx => toStr (item names idx)) (fun idx =>
    { name := (toStr (item names idx)).getD ""
      model := toStr (item models idx)
      ipAddress := ipStr (item ips idx)
      connected := (toInt (item status idx)).map fun code => decide (code = apConnected)
      clients := toInt (item clients idx) }) names.keys

def oidNpuTemperature : String := "1.3.6.1.4.1.2604.5.1.9.1.0"
def oidCpuTemperature : String := "1.3.6.1.4.1.2604.5.1.9.2.0"
def oidFanTable : String := "1.3.6.1.4.1.2604.5.1.9.3"
def oidPsuTable : String := "1.3.6.1.4.1.2604.5.1.9.4"
def healthColValue : String := "2"
def psuUp : ℤ := 1

/-- `SNMPClient.get_system_health`, where `multiget` gives every OID it is asked for. -/
def getSystemHealth (multiget : List String → Except SnmpError (String → Value))
    (walkColumns : Walk) : Except SnmpError SystemHealth := do
  let temps ← multiget [oidCpuTemperature, oidNpuTemperature]
  let fanData ← walkColumns oidFanTable [healthColValue]
  let psuData ← walkColumns oidPsuTable [healthColValue]
  let fans := tableColumn fanData oidFanTable healthColValue false
  let psus := tableColumn psuData oidPsuTable healthColValue false
  let fanIdxs ← sortedByInt fans.keys
  let psuIdxs ← sortedByInt psus.keys
  return {
    cpuTemperatureC := tenthsToCelsius (temps oidCpuTemperature)
    npuTemperatureC := tenthsToCelsius (temps oidNpuTemperature)
    fans := .build (fun i => some ("fan_" ++ i, toInt (item fans i))) fanIdxs
    psus := .build (fun i => some ("psu_" ++ i,
      (toInt (item psus i)).map fun code => decide (code = psuUp))) psuIdxs }

def oidHrProcessorTable : String := "1.3.6.1.2.1.25.3.3"
def hrColProcessorLoad : String := "2"

/-- `SNMPClient.get_cpu_load`. -/
def getCpuLoad (walkColumns : Walk) : Except SnmpError (Dict String (Option ℤ)) := do
  let data ← walkColumns oidHrProcessorTable [hrColProcessorLoad]
  let loads := tableColumn data oidHrProcessorTable hrColProcessorLoad false
  let idxs ← sortedByInt loads.keys
  return .build (fun p => some (toString p.2, toInt (item loads p.1))) (idxs.zipIdx 1)

/-! ### Rows of a walked table -/

/-- What a walk of a table brings. Its OIDs come from `str`, which writes no number that `int` would
not read. -/
structure Walked (table : String) (columns : List String) (cells : Dict (String × String) Value)
    (data : Dict String Value) : Prop where
  rows : Flattened table false {column | column ∈ columns} cells data
  length_le : ∀ cell ∈ cells.keys, cell.2.toList.length ≤ 4300

section Walked

variable {table : String} {columns : List String} {cells : Dict (String × String) Value}
  {data : Dict String Value}

lemma Walked.sorted (h : Walked table columns cells data) {column : String}
    (hc : column ∈ columns) :
    ∃ idxs, sortedByInt (tableColumn data table column false).keys = .ok idxs ∧ idxs.Nodup ∧
      (∀ idx, idx ∈ idxs ↔ (column, idx) ∈ cells.keys) ∧
      idxs.Pairwise fun i j => number i ≤ number j := by
  have hget : ∀ idx, (tableColumn data table column false).get idx = cells.get (column, idx) :=
    fun idx => h.rows.get_tableColumn hc idx
  have hint : ∀ idx ∈ (tableColumn data table column false).keys,
      Records.int idx = .ok (number idx) := by
    intro idx hidx
    rw [← Dict.get_isSome_iff, hget, Dict.get_isSome_iff] at hidx
    exact int_of_isNumber (h.rows.cell _ hidx).2 (h.length_le _ hidx)
  obtain ⟨idxs, hsorted, hperm, hpair⟩ :=
    sortedByInt_spec fun idx hidx => ⟨number idx, hint idx hidx⟩
  refine ⟨idxs, hsorted, hperm.nodup_iff.mpr (tableColumn data table column false).nodup,
    fun idx => ?_, hpair.imp_of_mem fun {i j} hi hj hle => ?_⟩
  · rw [hperm.mem_iff, ← Dict.get_isSome_iff, hget, Dict.get_isSome_iff]
  · rw [hperm.mem_iff] at hi hj
    simpa [intKey, hint i hi, hint j hj, Except.toOption] using hle

end Walked

section Named

variable {cells : Dict (String × String) Value}

/-- The row has this name in the column, stripped. -/
def HasName (cells : Dict (String × String) Value) (column name idx : String) : Prop :=
  (cells.get (column, idx)).bind toStr = some name

/-- A port from a row. -/
structure PortOf (cells : Dict (String × String) Value) (idx : String)
    (p : PoePort) : Prop where
  enabled : p.enabled =
    ((cells.get (poeColEnabled, idx)).bind toInt).map fun code => decide (code = poeEnabled)
  usageW : p.usageW = (cells.get (poeColUsage, idx)).bind milli
  limitW : p.limitW = (cells.get (poeColLimit, idx)).bind milli

/-- The ports of a table, each from the row with the smallest number among those with its
label. -/
structure PortsOf (cells : Dict (String × String) Value)
    (ports : Dict String PoePort) : Prop where
  keys : ∀ label, label ∈ ports.keys ↔ ∃ idx, HasName cells poeColLabel label idx
  port : ∀ label p, ports.get label = some p → p.label = label ∧
    ∃ idx, HasName cells poeColLabel label idx ∧
      (∀ j, HasName cells poeColLabel label j → number idx ≤ number j) ∧ PortOf cells idx p

lemma portsOf_getPoe {walkColumns : Walk} {data : Dict String Value}
    (h : Walked oidPoeTable poeColumns cells data)
    (hwalk : walkColumns oidPoeTable poeColumns = .ok data) :
    ∃ ports, getPoe walkColumns = .ok ports ∧ PortsOf cells ports := by
  have hcol : ∀ column ∈ poeColumns, ∀ idx,
      (tableColumn data oidPoeTable column false).get idx = cells.get (column, idx) :=
    fun column hc idx => h.rows.get_tableColumn hc idx
  obtain ⟨idxs, hsorted, -, hmem, hpair⟩ := h.sorted (show poeColLabel ∈ poeColumns by decide)
  have hname : ∀ label idx, HasName cells poeColLabel label idx ↔
      idx ∈ idxs ∧ toStr (item (tableColumn data oidPoeTable poeColLabel false) idx) =
        some label := by
    intro label idx
    rw [hmem, toStr_item, hcol poeColLabel (by decide), HasName, ← Dict.get_isSome_iff]
    constructor
    · intro hname
      obtain ⟨v, hv, -⟩ := Option.bind_eq_some_iff.mp hname
      exact ⟨Option.isSome_of_eq_some hv, hname⟩
    · exact And.right
  refine ⟨_, by simp only [getPoe, hwalk, bind, Except.bind, hsorted]; rfl, ?_, ?_⟩
  · intro label
    rw [Dict.keys_buildFirst, List.mem_eraseDups, List.mem_filterMap]
    simp only [hname]
  · intro label p hp
    obtain ⟨idx, hin, hlabel, rfl, hleast⟩ :=
      Dict.exists_of_get_buildFirst (fun i => le_refl (number i)) hpair hp
    refine ⟨by rw [hlabel]; rfl, idx, (hname label idx).mpr ⟨hin, hlabel⟩, fun j hj => ?_, ?_⟩
    · obtain ⟨hj, hjlabel⟩ := (hname label j).mp hj
      exact hleast j hj hjlabel
    · refine ⟨?_, ?_, ?_⟩ <;> dsimp only
      · rw [toInt_item, hcol _ (by decide)]
      · rw [milli_item, hcol _ (by decide)]
      · rw [milli_item, hcol _ (by decide)]

/-- An access point from a row. -/
structure AccessPointOf (cells : Dict (String × String) Value) (idx : String) (ap : AccessPoint) :
    Prop where
  model : ap.model = (cells.get (apColModel, idx)).bind toStr
  ipAddress : ap.ipAddress = (cells.get (apColIp, idx)).bind ipStr
  connected : ap.connected =
    ((cells.get (apColStatus, idx)).bind toInt).map fun code => decide (code = apConnected)
  clients : ap.clients = (cells.get (apColClients, idx)).bind toInt

/-- The access points of a table, each from one of the rows with its name. -/
structure AccessPointsOf (cells : Dict (String × String) Value) (aps : Dict String AccessPoint) :
    Prop where
  keys : ∀ name, name ∈ aps.keys ↔ ∃ idx, HasName cells apColName name idx
  ap : ∀ name ap, aps.get name = some ap → ap.name = name ∧
    ∃ idx, HasName cells apColName name idx ∧ AccessPointOf cells idx ap

lemma ipStr_item (d : Dict String Value) (idx : String) :
    ipStr (item d idx) = (d.get idx).bind ipStr := by
  unfold item
  cases d.get idx <;> rfl

lemma accessPointsOf_getAccessPoints {walkColumns : Walk} {data : Dict String Value}
    (h : Flattened oidApTable true {column | column ∈ apColumns} cells data)
    (hwalk : walkColumns oidApTable apColumns = .ok data) :
    ∃ aps, getAccessPoints walkColumns = .ok aps ∧ AccessPointsOf cells aps := by
  have hcol : ∀ column ∈ apColumns, ∀ idx,
      (tableColumn data oidApTable column true).get idx = cells.get (column, idx) :=
    fun column hc idx => h.get_tableColumn hc idx
  have hname : ∀ name idx, HasName cells apColName name idx ↔
      idx ∈ (tableColumn data oidApTable apColName true).keys ∧
        toStr (item (tableColumn data oidApTable apColName true) idx) = some name := by
    intro name idx
    rw [← Dict.get_isSome_iff, toStr_item, hcol apColName (by decide), HasName]
    constructor
    · intro hname
      obtain ⟨v, hv, -⟩ := Option.bind_eq_some_iff.mp hname
      exact ⟨Option.isSome_of_eq_some hv, hname⟩
    · exact And.right
  refine ⟨_, by simp only [getAccessPoints, hwalk, bind, Except.bind]; rfl, ?_, ?_⟩
  · intro name
    rw [Dict.keys_buildFirst, List.mem_eraseDups, List.mem_filterMap]
    simp only [hname]
  · intro name ap hap
    have hpair : (tableColumn data oidApTable apColName true).keys.Pairwise fun _ _ => True :=
      List.pairwise_of_forall fun _ _ => trivial
    obtain ⟨idx, hin, hidx, rfl, -⟩ :=
      Dict.exists_of_get_buildFirst (fun _ => trivial) hpair hap
    refine ⟨by rw [hidx]; rfl, idx, (hname name idx).mpr ⟨hin, hidx⟩, ?_, ?_, ?_, ?_⟩ <;> dsimp only
    · rw [toStr_item, hcol apColModel (by decide)]
    · rw [ipStr_item, hcol apColIp (by decide)]
    · rw [toInt_item, hcol apColStatus (by decide)]
    · rw [toInt_item, hcol apColClients (by decide)]

end Named

/-- **A port and an access point are one row each.** Whatever else a walk brings, the PoE ports are
the labels in the table, each with the values of the row with the smallest number among those with
its label, and the access points are the names in theirs, each with the values of one of the rows
with its name. -/
theorem ports_and_access_points_of_one_row {walkColumns : Walk}
    {ports aps : Dict (String × String) Value} {poeData apData : Dict String Value}
    (hpoe : Walked oidPoeTable poeColumns ports poeData)
    (hap : Flattened oidApTable true {column | column ∈ apColumns} aps apData)
    (hpoeWalk : walkColumns oidPoeTable poeColumns = .ok poeData)
    (hapWalk : walkColumns oidApTable apColumns = .ok apData) :
    (∃ t, getPoe walkColumns = .ok t ∧ PortsOf ports t) ∧
      ∃ t, getAccessPoints walkColumns = .ok t ∧ AccessPointsOf aps t :=
  ⟨portsOf_getPoe hpoe hpoeWalk, accessPointsOf_getAccessPoints hap hapWalk⟩

/-- Two rows with one label, and an access point among OIDs of another column. -/
def examplePorts : Dict (String × String) Value :=
  ⟨[(("2", "10"), .bytes [80, 49]), (("2", "9"), .bytes [80, 49, 32]), (("3", "9"), .int 1),
    (("5", "9"), .int 4200), (("5", "10"), .int 1)], by decide⟩

def exampleAps : Dict (String × String) Value :=
  ⟨[(("1", "2.65.80"), .bytes [65, 80]), (("3", "2.65.80"), .bytes [10, 0, 0, 2]),
    (("5", "2.65.80"), .int 0)], by decide⟩

/-- Both tables as one walk. -/
def exampleTables : Dict String Value :=
  ⟨flatten oidPoeTable (fun _ => false) examplePorts ++
    flatten oidApTable (fun _ => false) exampleAps, by decide +kernel⟩

theorem ports_and_access_points_of_one_row_example :
    (∃ t, getPoe (fun _ _ => .ok exampleTables) = .ok t ∧ PortsOf examplePorts t) ∧
      ∃ t, getAccessPoints (fun _ _ => .ok exampleTables) = .ok t ∧
        AccessPointsOf exampleAps t := by
  have hlength : ∀ cell ∈ examplePorts.keys, cell.2.toList.length ≤ 4300 := by decide +kernel
  exact ports_and_access_points_of_one_row
    ⟨flattened_of_rowIndex (by decide +kernel) (by decide +kernel) (by decide +kernel)
      (fun _ => false) (flatten oidApTable (fun _ => false) exampleAps) (List.Perm.refl _)
      (by decide +kernel), hlength⟩
    (flattened_of_rowIndex (by decide +kernel) (by decide +kernel) (by decide +kernel)
      (fun _ => false) (flatten oidPoeTable (fun _ => false) examplePorts)
      List.perm_append_comm (by decide +kernel)) rfl rfl

section Health

/-- What the agent says of the hardware. -/
structure HealthOf (temps : String → Value) (fans psus : Dict (String × String) Value)
    (h : SystemHealth) : Prop where
  cpu : ∀ x, h.cpuTemperatureC = some x ↔
    ∃ n : ℤ, toInt (temps oidCpuTemperature) = some n ∧ 0 < n ∧ x = n / 10
  npu : ∀ x, h.npuTemperatureC = some x ↔
    ∃ n : ℤ, toInt (temps oidNpuTemperature) = some n ∧ 0 < n ∧ x = n / 10
  fanKeys : ∀ key, key ∈ h.fans.keys ↔
    ∃ idx, (healthColValue, idx) ∈ fans.keys ∧ key = "fan_" ++ idx
  fan : ∀ idx v, fans.get (healthColValue, idx) = some v →
    h.fans.get ("fan_" ++ idx) = some (toInt v)
  psuKeys : ∀ key, key ∈ h.psus.keys ↔
    ∃ idx, (healthColValue, idx) ∈ psus.keys ∧ key = "psu_" ++ idx
  psu : ∀ idx v, psus.get (healthColValue, idx) = some v →
    h.psus.get ("psu_" ++ idx) = some ((toInt v).map fun code => decide (code = psuUp))

/-- The cores of the processor table, counted from one in the order of the numbers of the rows. -/
structure CoresOf (cells : Dict (String × String) Value) (idxs : List String)
    (loads : Dict String (Option ℤ)) : Prop where
  nodup : idxs.Nodup
  rows : ∀ idx, idx ∈ idxs ↔ (hrColProcessorLoad, idx) ∈ cells.keys
  ordered : idxs.Pairwise fun i j => number i ≤ number j
  keys : loads.keys = (List.range' 1 idxs.length).map toString
  load : ∀ k idx, idxs[k]? = some idx → loads.get (toString (k + 1)) =
    some ((cells.get (hrColProcessorLoad, idx)).bind toInt)

lemma tenthsToCelsius_eq_some_iff {v : Value} {x : ℚ} :
    tenthsToCelsius v = some x ↔ ∃ n : ℤ, toInt v = some n ∧ 0 < n ∧ x = n / 10 := by
  unfold tenthsToCelsius
  rw [Option.map_eq_some_iff]
  constructor
  · rintro ⟨n, hn, rfl⟩
    obtain ⟨hn, hpos⟩ := Option.filter_eq_some_iff.mp hn
    exact ⟨n, hn, of_decide_eq_true hpos, rfl⟩
  · rintro ⟨n, hn, hpos, rfl⟩
    exact ⟨n, Option.filter_eq_some_iff.mpr ⟨hn, decide_eq_true hpos⟩, rfl⟩

lemma build_numbered {α : Type} {table column : String} {cells : Dict (String × String) Value}
    {data : Dict String Value} {idxs : List String} (front : String) (f : Value → α)
    (hget : ∀ idx, (tableColumn data table column false).get idx = cells.get (column, idx))
    (hnodup : idxs.Nodup) (hmem : ∀ idx, idx ∈ idxs ↔ (column, idx) ∈ cells.keys) :
    let t : Dict String α := .build (fun i =>
      some (front ++ i, f (item (tableColumn data table column false) i))) idxs
    (∀ key, key ∈ t.keys ↔ ∃ idx, (column, idx) ∈ cells.keys ∧ key = front ++ idx) ∧
      ∀ idx v, cells.get (column, idx) = some v → t.get (front ++ idx) = some (f v) := by
  intro t
  have hinj : Function.Injective fun i : String => front ++ i :=
    fun _ _ h => (String.append_right_inj _).mp h
  have hkeys : (idxs.map fun i => front ++ i).Nodup := hnodup.map hinj
  constructor
  · intro key
    rw [Dict.keys_build_each hkeys, List.mem_map]
    simp only [hmem, eq_comm]
  · intro idx v hv
    have hin : idx ∈ idxs := by
      rw [hmem, ← Dict.get_isSome_iff, hv]
      rfl
    rw [Dict.get_build_each hkeys hin, item, hget, hv, Option.getD_some]

section Fetches

variable {multiget : List String → Except SnmpError (String → Value)} {walkColumns : Walk}
  {temps : String → Value} {fans psus cores : Dict (String × String) Value}
  {fanData psuData cpuData : Dict String Value}

lemma healthOf_getSystemHealth (hfan : Walked oidFanTable [healthColValue] fans fanData)
    (hpsu : Walked oidPsuTable [healthColValue] psus psuData)
    (htemps : multiget [oidCpuTemperature, oidNpuTemperature] = .ok temps)
    (hfanWalk : walkColumns oidFanTable [healthColValue] = .ok fanData)
    (hpsuWalk : walkColumns oidPsuTable [healthColValue] = .ok psuData) :
    ∃ h, getSystemHealth multiget walkColumns = .ok h ∧ HealthOf temps fans psus h := by
  have hcol : healthColValue ∈ [healthColValue] := List.mem_singleton_self _
  obtain ⟨fanIdxs, hfanSorted, hfanNodup, hfanMem, -⟩ := hfan.sorted hcol
  obtain ⟨psuIdxs, hpsuSorted, hpsuNodup, hpsuMem, -⟩ := hpsu.sorted hcol
  obtain ⟨hfanKeys, hfanGet⟩ := build_numbered "fan_" toInt
    (fun idx => hfan.rows.get_tableColumn hcol idx) hfanNodup hfanMem
  obtain ⟨hpsuKeys, hpsuGet⟩ := build_numbered "psu_"
    (fun v => (toInt v).map fun code => decide (code = psuUp))
    (fun idx => hpsu.rows.get_tableColumn hcol idx) hpsuNodup hpsuMem
  refine ⟨_, by simp only [getSystemHealth, htemps, hfanWalk, hpsuWalk, bind, Except.bind,
    hfanSorted, hpsuSorted]; rfl, ?_⟩
  exact ⟨fun x => tenthsToCelsius_eq_some_iff, fun x => tenthsToCelsius_eq_some_iff, hfanKeys,
    hfanGet, hpsuKeys, hpsuGet⟩

lemma coresOf_getCpuLoad (hcpu : Walked oidHrProcessorTable [hrColProcessorLoad] cores cpuData)
    (hcpuWalk : walkColumns oidHrProcessorTable [hrColProcessorLoad] = .ok cpuData) :
    ∃ loads idxs, getCpuLoad walkColumns = .ok loads ∧ CoresOf cores idxs loads := by
  have hcol : hrColProcessorLoad ∈ [hrColProcessorLoad] := List.mem_singleton_self _
  obtain ⟨idxs, hsorted, hnodup, hmem, hpair⟩ := hcpu.sorted hcol
  have hnumbers : ((idxs.zipIdx 1).map fun p => toString p.2) =
      (List.range' 1 idxs.length).map toString := by
    rw [← List.zipIdx_map_snd, List.map_map]
    rfl
  have hkeys : ((idxs.zipIdx 1).map fun p => toString p.2).Nodup := by
    rw [hnumbers]
    exact (List.nodup_range' ..).map fun _ _ h => Nat.repr_injective h
  refine ⟨_, idxs, by simp only [getCpuLoad, hcpuWalk, bind, Except.bind, hsorted]; rfl, hnodup,
    hmem, hpair, ?_, fun k idx hk => ?_⟩
  · rw [Dict.keys_build_each hkeys, hnumbers]
  · have hin : (idx, k + 1) ∈ idxs.zipIdx 1 := by
      rw [List.mk_mem_zipIdx_iff_le_and_getElem?_sub]
      exact ⟨by omega, by simpa using hk⟩
    have hget := Dict.get_build_each
      (v := fun p => toInt (item (tableColumn cpuData oidHrProcessorTable hrColProcessorLoad false)
        p.1)) hkeys hin
    rw [hget, toInt_item, hcpu.rows.get_tableColumn hcol]

end Fetches

namespace HealthOf

variable {temps : String → Value} {fans psus : Dict (String × String) Value} {h : SystemHealth}

/-- The name a fan has in the data is one the clean-up of entities knows. -/
lemma fansNumbered (hh : HealthOf temps fans psus h) {d : Coordinator.Data (SnmpValue SnmpTable)}
    (hd : d "health" = some (.health h)) : Platforms.FansNumbered d := by
  intro v hv key hkey
  obtain rfl : SnmpValue.health h = v := Option.some.inj (hd.symm.trans hv)
  obtain ⟨idx, -, rfl⟩ := (hh.fanKeys key).mp hkey
  exact decide_eq_true ⟨idx.toList, by rw [String.toList_append]⟩

lemma isSome_iff {x : Option ℚ} {oid : String}
    (hx : ∀ q, x = some q ↔ ∃ n : ℤ, toInt (temps oid) = some n ∧ 0 < n ∧ q = n / 10) :
    x.isSome = true ↔ ∃ n, toInt (temps oid) = some n ∧ 0 < n := by
  rw [Option.isSome_iff_exists]
  constructor
  · rintro ⟨q, hq⟩
    obtain ⟨n, hn, hpos, -⟩ := (hx q).mp hq
    exact ⟨n, hn, hpos⟩
  · rintro ⟨n, hn, hpos⟩
    exact ⟨n / 10, (hx _).mpr ⟨n, hn, hpos, rfl⟩⟩

lemma not_isEmpty_iff {α : Type} {t : Dict String α} {cells : Dict (String × String) Value}
    {front : String} (hkeys : ∀ key, key ∈ t.keys ↔
      ∃ idx, (healthColValue, idx) ∈ cells.keys ∧ key = front ++ idx) :
    (!t.isEmpty) = true ↔ ∃ idx, (healthColValue, idx) ∈ cells.keys := by
  rw [Bool.not_eq_true', ← Bool.not_eq_true, t.isEmpty_iff]
  push Not
  constructor
  · rintro ⟨key, hkey⟩
    obtain ⟨idx, hidx, -⟩ := (hkeys key).mp
      (t.get_isSome_iff.mp (Option.isSome_iff_ne_none.mpr hkey))
    exact ⟨idx, hidx⟩
  · rintro ⟨idx, hidx⟩
    have hkey := (hkeys (front ++ idx)).mpr ⟨idx, hidx, rfl⟩
    exact ⟨_, Option.isSome_iff_ne_none.mp (t.get_isSome_iff.mpr hkey)⟩

lemma hasHardwareSensors_iff (hh : HealthOf temps fans psus h) : h.hasHardwareSensors = true ↔
    (∃ oid ∈ [oidCpuTemperature, oidNpuTemperature], ∃ n, toInt (temps oid) = some n ∧ 0 < n) ∨
      (∃ idx, (healthColValue, idx) ∈ fans.keys) ∨ ∃ idx, (healthColValue, idx) ∈ psus.keys := by
  unfold SystemHealth.hasHardwareSensors
  rw [Bool.or_eq_true, Bool.or_eq_true, Bool.or_eq_true, isSome_iff hh.cpu, isSome_iff hh.npu,
    not_isEmpty_iff hh.fanKeys, not_isEmpty_iff hh.psuKeys]
  simp only [List.mem_cons, List.not_mem_nil, or_false, exists_eq_or_imp, exists_eq_left, or_assoc]

end HealthOf

end Health

/-- **Health and processor cores are what the tables say.** Whatever else a walk brings: a
temperature is there if the agent gives a positive number for it, in tenths; fans and power supplies
are the rows of their tables; the cores are the rows of theirs, counted from one by their numbers.
The appliance has hardware sensors if and only if the agent has a positive temperature or a row for
a fan or a power supply, and the fans have names that the clean-up of entities knows. -/
theorem health_and_cores_of_rows
    {multiget : List String → Except SnmpError (String → Value)} {walkColumns : Walk}
    {temps : String → Value} {fans psus cores : Dict (String × String) Value}
    {fanData psuData cpuData : Dict String Value}
    (hfan : Walked oidFanTable [healthColValue] fans fanData)
    (hpsu : Walked oidPsuTable [healthColValue] psus psuData)
    (hcpu : Walked oidHrProcessorTable [hrColProcessorLoad] cores cpuData)
    (htemps : multiget [oidCpuTemperature, oidNpuTemperature] = .ok temps)
    (hfanWalk : walkColumns oidFanTable [healthColValue] = .ok fanData)
    (hpsuWalk : walkColumns oidPsuTable [healthColValue] = .ok psuData)
    (hcpuWalk : walkColumns oidHrProcessorTable [hrColProcessorLoad] = .ok cpuData) :
    (∃ h, getSystemHealth multiget walkColumns = .ok h ∧ HealthOf temps fans psus h ∧
      (h.hasHardwareSensors = true ↔
        (∃ oid ∈ [oidCpuTemperature, oidNpuTemperature],
          ∃ n, toInt (temps oid) = some n ∧ 0 < n) ∨
        (∃ idx, (healthColValue, idx) ∈ fans.keys) ∨ ∃ idx, (healthColValue, idx) ∈ psus.keys) ∧
      ∀ d : Coordinator.Data (SnmpValue SnmpTable), d "health" = some (.health h) →
        Platforms.FansNumbered d) ∧
    ∃ loads idxs, getCpuLoad walkColumns = .ok loads ∧ CoresOf cores idxs loads := by
  obtain ⟨h, hget, hh⟩ := healthOf_getSystemHealth hfan hpsu htemps hfanWalk hpsuWalk
  exact ⟨⟨h, hget, hh, hh.hasHardwareSensors_iff, fun d hd => hh.fansNumbered hd⟩,
    coresOf_getCpuLoad hcpu hcpuWalk⟩

def exampleFans : Dict (String × String) Value := ⟨[(("2", "1"), .int 4200)], by decide⟩

def examplePsus : Dict (String × String) Value :=
  ⟨[(("2", "2"), .int 2), (("2", "1"), .int 1)], by decide⟩

def exampleCores : Dict (String × String) Value :=
  ⟨[(("2", "196609"), .int 3), (("2", "196608"), .int 7)], by decide⟩

/-- The three tables as one walk. -/
def exampleHealth : Dict String Value :=
  ⟨flatten oidFanTable (fun _ => false) exampleFans ++
    flatten oidPsuTable (fun _ => false) examplePsus ++
      flatten oidHrProcessorTable (fun _ => false) exampleCores, by decide +kernel⟩

theorem health_and_cores_of_rows_example :
    let temps (oid : String) : Value := if oid = oidCpuTemperature then .int 415 else .none
    let multiget (_ : List String) : Except SnmpError (String → Value) := .ok temps
    let walkColumns : Walk := fun _ _ => .ok exampleHealth
    (∃ h, getSystemHealth multiget walkColumns = .ok h ∧
      HealthOf temps exampleFans examplePsus h ∧ h.hasHardwareSensors = true) ∧
    ∃ loads idxs, getCpuLoad walkColumns = .ok loads ∧ CoresOf exampleCores idxs loads := by
  intro temps multiget walkColumns
  have hlength : ∀ t ∈ [exampleFans, examplePsus, exampleCores],
      ∀ cell ∈ t.keys, cell.2.toList.length ≤ 4300 := by decide +kernel
  let fans := flatten oidFanTable (fun _ => false) exampleFans
  let psus := flatten oidPsuTable (fun _ => false) examplePsus
  let cores := flatten oidHrProcessorTable (fun _ => false) exampleCores
  have hfan : Walked oidFanTable [healthColValue] exampleFans exampleHealth :=
    ⟨flattened_of_rowIndex (by decide +kernel) (by decide +kernel) (by decide +kernel)
      (fun _ => false) (psus ++ cores) (.of_eq (List.append_assoc ..)) (by decide +kernel),
      hlength _ (by simp)⟩
  have hpsu : Walked oidPsuTable [healthColValue] examplePsus exampleHealth :=
    ⟨flattened_of_rowIndex (by decide +kernel) (by decide +kernel) (by decide +kernel)
      (fun _ => false) (fans ++ cores)
      ((List.perm_append_comm.append_right cores).trans (.of_eq (List.append_assoc ..)))
      (by decide +kernel), hlength _ (by simp)⟩
  have hcpu : Walked oidHrProcessorTable [hrColProcessorLoad] exampleCores exampleHealth :=
    ⟨flattened_of_rowIndex (by decide +kernel) (by decide +kernel) (by decide +kernel)
      (fun _ => false) (fans ++ psus) List.perm_append_comm (by decide +kernel),
      hlength _ (by simp)⟩
  have htemps : multiget [oidCpuTemperature, oidNpuTemperature] = .ok temps := rfl
  have hfanWalk : walkColumns oidFanTable [healthColValue] = .ok exampleHealth := rfl
  have hpsuWalk : walkColumns oidPsuTable [healthColValue] = .ok exampleHealth := rfl
  have hcpuWalk : walkColumns oidHrProcessorTable [hrColProcessorLoad] = .ok exampleHealth := rfl
  obtain ⟨⟨h, hget, hh, hsensors, -⟩, hloads⟩ :=
    health_and_cores_of_rows hfan hpsu hcpu htemps hfanWalk hpsuWalk hcpuWalk
  exact ⟨⟨h, hget, hh, hsensors.mpr (.inl ⟨oidCpuTemperature, by simp, 415, rfl, by decide⟩)⟩,
    hloads⟩

end SophosFw.Snmp
