import SophosFw.Regex
import SophosFw.SnmpTables

/-!
Interfaces by name: octet counters and link states.

Both come from tables of their own, and the names from a third, in which a name can come several
times. The loops go through the names in the order of their numbers and keep the first row of each,
so that a counter and a state under one name are of one interface.
-/

namespace SophosFw.Snmp

open SophosFw.PyDict SophosFw.PyText SophosFw.Regex SophosFw.Sources SophosFw.Diagnostics

/-- A text before a pattern. -/
def literal (s : String) (r : Re) : Re := s.toList.foldr (fun c r => .seq (.cls (· == c)) r) r

/-- A text and a number, to the end. -/
def numbered (s : String) : Re := literal s (.seq (Re.plus (.cls isDecimal)) .eol)

/-- `INTERNAL_INTERFACE_RE`, its alternatives one by one. -/
def internalInterfaceRes : List Re :=
  [literal "lo" .eol, numbered "dummy", numbered "ipsec", numbered "sit", numbered "ip6tnl",
   numbered "gre", numbered "gretap", numbered "erspan", numbered "ifb", numbered "tunl",
   numbered "ip_vti", numbered "ip6_vti", numbered "ip6gre", numbered "teql", literal "dfq" .eol,
   literal "spq" .eol]

def internalInterface (name : String) : Bool :=
  internalInterfaceRes.any fun r => (Re.seq .bol r).matches name.toList

example : internalInterface "gretap0" = true ∧ internalInterface "gretap" = false ∧
    internalInterface "PortA" = false := by decide +kernel

/-- The name of a row, unless it is empty or internal. -/
def keptName (names : Dict String Value) (idx : String) : Option String :=
  (toStr (item names idx)).filter fun name => !internalInterface name

def oidIfxTable : String := "1.3.6.1.2.1.31.1.1"
def ifxColName : String := "1"
def ifxColHcIn : String := "6"
def ifxColHcOut : String := "10"
def oidIfTable : String := "1.3.6.1.2.1.2.2"
def ifColAdmin : String := "7"
def ifColOper : String := "8"

/-- `SNMPClient.get_traffic`, where the walk is over at `sampledAt`. -/
def getTraffic (walkColumns : Walk) (sampledAt : ℚ) : Except SnmpError TrafficSample := do
  let data ← walkColumns oidIfxTable [ifxColName, ifxColHcIn, ifxColHcOut]
  let names := tableColumn data oidIfxTable ifxColName false
  let rx := tableColumn data oidIfxTable ifxColHcIn false
  let tx := tableColumn data oidIfxTable ifxColHcOut false
  let idxs ← sortedByInt names.keys
  return { sampledAt := sampledAt
           counters := .buildFirst (keptName names) (fun idx =>
             { inOctets := toInt (item rx idx)
               outOctets := toInt (item tx idx) }) idxs }

/-- `SNMPClient.get_links` -/
def getLinks (walkColumns : Walk) : Except SnmpError (Dict String InterfaceLink) := do
  let namesData ← walkColumns oidIfxTable [ifxColName]
  let statusData ← walkColumns oidIfTable [ifColAdmin, ifColOper]
  let names := tableColumn namesData oidIfxTable ifxColName false
  let admin := tableColumn statusData oidIfTable ifColAdmin false
  let oper := tableColumn statusData oidIfTable ifColOper false
  let idxs ← sortedByInt names.keys
  return .buildFirst (keptName names) (fun idx =>
    { adminStatus := toInt (item admin idx)
      operStatus := toInt (item oper idx) }) idxs

/-! ### One interface for a name -/

/-- The row has this name, stripped, and it is no internal one. -/
def Carries (names : Dict String Value) (name idx : String) : Prop :=
  ∃ v, names.get idx = some v ∧ toStr v = some name ∧ internalInterface name = false

/-- Of the rows with a name, the one with the smallest number. -/
structure IsRowOf (names : Dict String Value) (name idx : String) : Prop where
  carries : Carries names name idx
  least : ∀ j, Carries names name j →
    ∃ m n, Records.int idx = .ok m ∧ Records.int j = .ok n ∧ m ≤ n

/-- The counters and the states under one name come from the row of that name. -/
structure OfOneRow (names rx tx admin oper : Dict String Value)
    (counters : Dict String InterfaceCounters) (links : Dict String InterfaceLink) : Prop where
  keys : counters.keys = links.keys
  stripped : ∀ name ∈ links.keys,
    strip name = name ∧ name ≠ "" ∧ internalInterface name = false
  carried : ∀ name, name ∈ links.keys ↔ ∃ idx, Carries names name idx
  row : ∀ name ∈ links.keys, ∃ idx, IsRowOf names name idx ∧
    counters.get name = some
      { inOctets := (rx.get idx).bind toInt
        outOctets := (tx.get idx).bind toInt } ∧
    links.get name = some
      { adminStatus := (admin.get idx).bind toInt
        operStatus := (oper.get idx).bind toInt }

lemma keptName_eq_some_iff {names : Dict String Value} {name idx : String} :
    keptName names idx = some name ↔ Carries names name idx := by
  unfold keptName Carries
  rw [Option.filter_eq_some_iff, toStr_item, Option.bind_eq_some_iff, Bool.not_eq_true']
  constructor
  · rintro ⟨⟨v, hv, hs⟩, hint⟩
    exact ⟨v, hv, hs, hint⟩
  · rintro ⟨v, hv, hs, hint⟩
    exact ⟨⟨v, hv, hs⟩, hint⟩

section Loop

variable {names : Dict String Value} {idxs : List String} {name idx : String}

lemma Carries.mem_keys (h : Carries names name idx) : idx ∈ names.keys := by
  obtain ⟨v, hv, -⟩ := h
  rw [← Dict.get_isSome_iff, hv]
  rfl

/-- The first row with a name is the one with the smallest number. -/
lemma isRowOf_of_find (hint : ∀ idx ∈ names.keys, ∃ n, Records.int idx = .ok n)
    (hperm : idxs.Perm names.keys) (hpair : idxs.Pairwise fun i j => intKey i ≤ intKey j)
    (h : idxs.find? (fun i => keptName names i = some name) = some idx) :
    IsRowOf names name idx := by
  obtain ⟨hkept, before, after, rfl, hbefore⟩ := List.find?_eq_some_iff_append.mp h
  have hcarries := keptName_eq_some_iff.mp (of_decide_eq_true hkept)
  refine ⟨hcarries, fun j hj => ?_⟩
  obtain ⟨m, hm⟩ := hint idx hcarries.mem_keys
  obtain ⟨n, hn⟩ := hint j hj.mem_keys
  refine ⟨m, n, hm, hn, ?_⟩
  -- it is not among the rows before, which carry another name or none
  have hafter : j ∈ idx :: after :=
    (List.mem_append.mp (hperm.mem_iff.mpr hj.mem_keys)).resolve_left fun hj' => by
      have hno := hbefore j hj'
      rw [keptName_eq_some_iff.mpr hj] at hno
      simp at hno
  rcases List.mem_cons.mp hafter with rfl | hafter
  · rw [hm] at hn
    exact (Except.ok.inj hn).le
  · have hle := (List.pairwise_cons.mp (List.pairwise_append.mp hpair).2.1).1 j hafter
    simpa [intKey, hm, hn, Except.toOption] using hle

lemma ofOneRow_loops (hint : ∀ idx ∈ names.keys, ∃ n, Records.int idx = .ok n)
    (hperm : idxs.Perm names.keys) (hpair : idxs.Pairwise fun i j => intKey i ≤ intKey j)
    (rx tx admin oper : Dict String Value) :
    OfOneRow names rx tx admin oper
      (.buildFirst (keptName names) (fun idx =>
        { inOctets := toInt (item rx idx)
          outOctets := toInt (item tx idx) }) idxs)
      (.buildFirst (keptName names) (fun idx =>
        { adminStatus := toInt (item admin idx)
          operStatus := toInt (item oper idx) }) idxs) := by
  have hmem : ∀ {name idx}, Carries names name idx → idx ∈ idxs := fun h =>
    hperm.mem_iff.mpr h.mem_keys
  have hcarried : ∀ name, name ∈ (idxs.filterMap (keptName names)).eraseDups ↔
      ∃ idx, Carries names name idx := by
    intro name
    rw [List.mem_eraseDups, List.mem_filterMap]
    constructor
    · rintro ⟨idx, -, hkept⟩
      exact ⟨idx, keptName_eq_some_iff.mp hkept⟩
    · rintro ⟨idx, hcarries⟩
      exact ⟨idx, hmem hcarries, keptName_eq_some_iff.mpr hcarries⟩
  refine ⟨?_, fun name hname => ?_, ?_, fun name hname => ?_⟩
  · rw [Dict.keys_buildFirst, Dict.keys_buildFirst]
  · rw [Dict.keys_buildFirst, hcarried] at hname
    obtain ⟨idx, v, -, hs, hinternal⟩ := hname
    exact ⟨(toStr_spec hs).1, (toStr_spec hs).2, hinternal⟩
  · rw [Dict.keys_buildFirst]
    exact hcarried
  · rw [Dict.keys_buildFirst, hcarried] at hname
    obtain ⟨j, hj⟩ := hname
    obtain ⟨idx, hfind⟩ : ∃ idx,
        idxs.find? (fun i => keptName names i = some name) = some idx := by
      rw [← Option.isSome_iff_exists, List.find?_isSome]
      exact ⟨j, hmem hj, decide_eq_true (keptName_eq_some_iff.mpr hj)⟩
    refine ⟨idx, isRowOf_of_find hint hperm hpair hfind, ?_, ?_⟩
    · rw [Dict.get_buildFirst, hfind, Option.map_some, toInt_item, toInt_item]
    · rw [Dict.get_buildFirst, hfind, Option.map_some, toInt_item, toInt_item]

end Loop

/-- With the same name column, the counters and the links have the same names in the same order,
and each name its values from one row; an index that `int` does not read ends both. -/
theorem traffic_and_links_of_one_row {trafficWalk linksWalk : Walk} {sampledAt : ℚ}
    {data namesData statusData : Dict String Value}
    (htraffic : trafficWalk oidIfxTable [ifxColName, ifxColHcIn, ifxColHcOut] = .ok data)
    (hnames : linksWalk oidIfxTable [ifxColName] = .ok namesData)
    (hstatus : linksWalk oidIfTable [ifColAdmin, ifColOper] = .ok statusData)
    {names : Dict String Value} (hsame : tableColumn data oidIfxTable ifxColName false = names)
    (hsame' : tableColumn namesData oidIfxTable ifxColName false = names) :
    ((∀ idx ∈ names.keys, ∃ n, Records.int idx = .ok n) → ∃ counters links,
      getTraffic trafficWalk sampledAt = .ok ⟨sampledAt, counters⟩ ∧
      getLinks linksWalk = .ok links ∧
      OfOneRow names (tableColumn data oidIfxTable ifxColHcIn false)
        (tableColumn data oidIfxTable ifxColHcOut false)
        (tableColumn statusData oidIfTable ifColAdmin false)
        (tableColumn statusData oidIfTable ifColOper false) counters links) ∧
    ((¬ ∀ idx ∈ names.keys, ∃ n, Records.int idx = .ok n) →
      getTraffic trafficWalk sampledAt = .error .valueError ∧
      getLinks linksWalk = .error .valueError) := by
  constructor
  · intro hint
    obtain ⟨idxs, hsorted, hperm, hpair⟩ := sortedByInt_spec hint
    refine ⟨_, _, by simp only [getTraffic, htraffic, hsame, hsorted, bind, Except.bind]; rfl,
      by simp only [getLinks, hnames, hstatus, hsame', hsorted, bind, Except.bind]; rfl, ?_⟩
    exact ofOneRow_loops hint hperm hpair _ _ _ _
  · intro hint
    have hsorted := sortedByInt_error hint
    constructor
    · simp only [getTraffic, htraffic, hsame, hsorted, bind, Except.bind]
    · simp only [getLinks, hnames, hstatus, hsame', hsorted, bind, Except.bind]

/-- `PortA` twice, an interface without a name, an internal one and one whose name is no text. -/
def exampleInterfaces : Dict String Value :=
  ⟨[("1.3.6.1.2.1.31.1.1.1.1.10", .bytes [80, 111, 114, 116, 65]),
    ("1.3.6.1.2.1.31.1.1.1.1.2", .bytes [80, 111, 114, 116, 65]),
    ("1.3.6.1.2.1.31.1.1.1.1.3", .bytes [32]), ("1.3.6.1.2.1.31.1.1.1.1.4", .bytes [108, 111]),
    ("1.3.6.1.2.1.31.1.1.1.1.5", .bytes [255]), ("1.3.6.1.2.1.31.1.1.1.6.2", .int 7),
    ("1.3.6.1.2.1.31.1.1.1.10.10", .int 9), ("1.3.6.1.2.1.2.2.1.7.2", .int 1),
    ("1.3.6.1.2.1.2.2.1.8.10", .int 2)], by decide +kernel⟩

theorem traffic_and_links_of_one_row_example :
    ∃ counters links,
      getTraffic (fun _ _ => .ok exampleInterfaces) 0 = .ok ⟨0, counters⟩ ∧
      getLinks (fun _ _ => .ok exampleInterfaces) = .ok links ∧
      OfOneRow (tableColumn exampleInterfaces oidIfxTable ifxColName false)
        (tableColumn exampleInterfaces oidIfxTable ifxColHcIn false)
        (tableColumn exampleInterfaces oidIfxTable ifxColHcOut false)
        (tableColumn exampleInterfaces oidIfTable ifColAdmin false)
        (tableColumn exampleInterfaces oidIfTable ifColOper false) counters links := by
  have hnumber : ∀ idx ∈ (tableColumn exampleInterfaces oidIfxTable ifxColName false).keys,
      IsNumber idx ∧ idx.toList.length ≤ 4300 := by decide +kernel
  refine (traffic_and_links_of_one_row rfl rfl rfl rfl rfl).1 fun idx hidx => ⟨number idx, ?_⟩
  exact int_of_isNumber (hnumber idx hidx).1 (hnumber idx hidx).2

end SophosFw.Snmp
