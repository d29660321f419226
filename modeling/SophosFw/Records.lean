import SophosFw.Element
import SophosFw.PyText

/-!
Records of the XML API: the nested mapping an element becomes, and the typed object each
parser makes of it. Missing and malformed fields are `none`, never made up.
-/

namespace SophosFw.Records

open SophosFw.PyDict SophosFw.PyText SophosFw.ElementTree

/-- A value in a mapping made from an element. -/
inductive Val
  | str (s : String)
  | dict (entries : List (String × Val))
  | list (items : List Val)

abbrev Record := List (String × Val)

/-- Repeated sibling tags become lists. -/
def addValue (result : Record) (tag : String) (value : Val) : Record :=
  match result.lookup tag with
  | none => result ++ [(tag, value)]
  | some (.list items) => setEntry tag (.list (items ++ [value])) result
  | some first => setEntry tag (.list [first, value]) result

/-- `_elem_to_dict`. -/
def elemToDict : Element → Record
  | ⟨_, _, _, _, children⟩ => go children []
where
  go : List Element → Record → Record
    | [], result => result
    | c :: rest, result =>
      go rest (addValue result c.tag
        (if c.children.isEmpty then .str (c.text.getD "") else .dict (elemToDict c)))

/-- What a child becomes: a leaf its text, any other element a mapping. -/
def childValue (c : Element) : Val :=
  if c.children.isEmpty then .str (c.text.getD "") else .dict (elemToDict c)

/-- `_text`: a leaf value without surrounding white space, if anything is left of it. -/
def text (record : Record) (key : String) : Option String :=
  match record.lookup key with
  | some (.str value) => if strip value = "" then none else some (strip value)
  | _ => none

/-- `_path`: descend into nested mappings. -/
def path (record : Record) : List String → Record
  | [] => record
  | key :: keys =>
    match record.lookup key with
    | some (.dict entries) => path entries keys
    | _ => []

/-- `_child_ci`. -/
def childCi (e : Element) (tag : String) : Option Element :=
  e.children.find? fun c => lower c.tag = lower tag

/-- `_child_text`. -/
def childText (e : Element) (tag : String) : Option String :=
  (e.find tag).bind fun c => c.text.bind fun t => if strip t = "" then none else some (strip t)

/-- `_is_status_only`. -/
def isStatusOnly (e : Element) : Bool :=
  match e.children with
  | [c] => c.tag = "Status"
  | _ => false

/-- `_equals`. -/
def equals (value : Option String) (expected : String) : Option Bool :=
  value.map fun v => lower v = lower expected

structure Interface where
  name : String
  isUp : Option Bool
  zone : Option String
  ipv4Assignment : Option String
  speed : Option String
  mtu : Option String
  hardware : Option String
  deriving DecidableEq, Repr

structure FirewallRule where
  name : String
  enabled : Option Bool
  action : Option String
  policyType : Option String
  ipFamily : Option String
  deriving DecidableEq, Repr

structure WebFilterPolicy where
  name : String
  defaultAction : Option String
  deriving DecidableEq, Repr

/-- True when the default action is Allow, none if unknown. -/
def WebFilterPolicy.allows (p : WebFilterPolicy) : Option Bool :=
  p.defaultAction.map fun a => lower a = "allow"

structure DhcpServer where
  name : String
  running : Option Bool
  interface : Option String
  defaultLeaseTime : Option ℕ
  maxLeaseTime : Option ℕ
  staticLeases : List (List (String × String))
  deriving DecidableEq, Repr

structure WirelessNetwork where
  hardwareName : String
  name : String
  ssid : Option String
  enabled : Option Bool
  deriving DecidableEq, Repr

structure BackupSettings where
  mode : Option String
  frequency : Option String
  deriving DecidableEq, Repr

structure AdminSettings where
  hostname : Option String
  deriving DecidableEq, Repr

def parseInterface (record : Record) : Option Interface :=
  (text record "Name").map fun name =>
    { name := name
      isUp := equals (text record "InterfaceStatus") "on"
      hardware := text record "Hardware"
      zone := text record "NetworkZone"
      ipv4Assignment := text record "IPv4Assignment"
      speed := text record "InterfaceSpeed"
      mtu := text record "MTU" }

def parseFirewallRule (record : Record) : Option FirewallRule :=
  (text record "Name").map fun name =>
    { name := name
      enabled := equals (text record "Status") "enable"
      action := ((text record "Action").or (text (path record ["NetworkPolicy"]) "Action")).or
        (text (path record ["UserPolicy"]) "Action")
      policyType := text record "PolicyType"
      ipFamily := text record "IPFamily" }

def parseWebFilterPolicy (record : Record) : Option WebFilterPolicy :=
  (text record "Name").map fun name =>
    { name := name, defaultAction := text record "DefaultAction" }

/-- `ValueError` of `int`. -/
structure ValueError where
  deriving DecidableEq, Repr

def digitValue (c : Char) : Option ℕ :=
  (decimalRanges.find? fun r => decide (r.1 ≤ c.toNat) && decide (c.toNat ≤ r.2)).map fun r =>
    (c.toNat - r.1) % 10

/-- `int` of a text of digits: every one has to be a decimal digit, and there is a limit to
how many it takes. -/
def int (s : String) : Except ValueError ℕ :=
  if 4300 < s.toList.length then .error ⟨⟩
  else
    match s.toList.mapM digitValue with
    | none => .error ⟨⟩
    | some digits => .ok (digits.foldl (fun n d => 10 * n + d) 0)

/-- `_minutes`. -/
def minutes (record : Record) (key : String) : Except ValueError (Option ℕ) :=
  match text record key with
  | none => .ok none
  | some value => if isDigit value then (int value).map some else .ok none

/-- The text fields of one static lease, the MAC address in lower case. -/
def normaliseLease (lease : Record) : List (String × String) :=
  let normalised := lease.filterMap fun entry =>
    match entry.2 with
    | .str value => some (entry.1, value)
    | _ => none
  match normalised.lookup "MACAddress" with
  | none => normalised
  | some mac => setEntry "MACAddress" (lower mac) normalised

def staticLeases (record : Record) : List (List (String × String)) :=
  let raw : List Val :=
    match record.lookup "StaticLease" with
    | some (.dict container) =>
      match container.lookup "Lease" with
      | some (.dict lease) => [.dict lease]
      | some (.list leases) => leases
      | _ => []
    | _ => []
  raw.filterMap fun
    | .dict lease => some (normaliseLease lease)
    | _ => none

def parseDhcpServer (record : Record) : Except ValueError (Option DhcpServer) :=
  match text record "Name" with
  | none => .ok none
  | some name => do
    let defaultLeaseTime ← minutes record "DefaultLeaseTime"
    let maxLeaseTime ← minutes record "MaxLeaseTime"
    return some
      { name := name
        running := (text record "Status").map fun status => status = "1"
        interface := text record "Interface"
        defaultLeaseTime := defaultLeaseTime
        maxLeaseTime := maxLeaseTime
        staticLeases := staticLeases record }

def parseBackup (record : Record) : BackupSettings :=
  let schedule := path record ["ScheduleBackup"]
  { mode := text schedule "BackupMode", frequency := text schedule "BackupFrequency" }

def parseWirelessNetwork (record : Record) : Option WirelessNetwork :=
  (text record "HardwareName").map fun hardware =>
    { hardwareName := hardware
      name := (text record "Name").getD hardware
      ssid := text record "SSID"
      enabled := equals (text record "Status") "enable" }

def parseAdmin (record : Record) : AdminSettings :=
  { hostname := text (path record ["HostnameSettings"]) "HostName" }

/-- `_by_name`: the first object of each name. -/
def byName {T : Type} (name : T → String) (items : List (Option T)) : Dict String T :=
  items.foldl (fun result item =>
    match item with
    | none => result
    | some x => if (result.get (name x)).isSome then result else result.set (name x) x) .empty

/-! ### What a mapping says of a tag -/

/-- The value under a tag, from the values of the children that have it. -/
def group : List Val → Option Val
  | [] => none
  | [v] => some v
  | vs => some (.list vs)

lemma lookup_addValue_self {result : Record} {tag : String} {vs : List Val} {v : Val}
    (h : result.lookup tag = group vs) (hv : ∀ u ∈ vs, ∀ l, u ≠ .list l) :
    (addValue result tag v).lookup tag = group (vs ++ [v]) := by
  rcases vs with _ | ⟨u, _ | ⟨u', vs⟩⟩
  · simp only [group] at h
    simp [addValue, h, List.lookup_append, group]
  · simp only [group] at h
    have hu := hv u List.mem_cons_self
    rcases u with s | d | l
    · simp [addValue, h, lookup_setEntry, group]
    · simp [addValue, h, lookup_setEntry, group]
    · exact absurd rfl (hu l)
  · simp only [group] at h
    simp [addValue, h, lookup_setEntry, group]

lemma lookup_addValue_of_ne {result : Record} {tag t : String} (v : Val) (ht : t ≠ tag) :
    (addValue result tag v).lookup t = result.lookup t := by
  unfold addValue
  split
  · have hb : (t == tag) = false := beq_eq_false_iff_ne.mpr ht
    rw [List.lookup_append]
    simp [List.lookup_cons, hb]
  · rw [lookup_setEntry, if_neg ht]
  · rw [lookup_setEntry, if_neg ht]

lemma childValue_of_leaf {c : Element} (h : c.children = []) :
    childValue c = .str (c.text.getD "") := by
  unfold childValue
  rw [h]
  rfl

lemma childValue_of_ne_nil {c : Element} (h : c.children ≠ []) :
    childValue c = .dict (elemToDict c) := by
  unfold childValue
  rw [if_neg fun hempty => h (List.isEmpty_iff.mp hempty)]

lemma childValue_ne_list (c : Element) (l : List Val) : childValue c ≠ .list l := by
  unfold childValue
  split <;> simp

lemma lookup_go {t : String} (children : List Element) {result : Record} {vs : List Val}
    (h : result.lookup t = group vs) (hv : ∀ u ∈ vs, ∀ l, u ≠ .list l) :
    (elemToDict.go children result).lookup t =
      group (vs ++ (children.filter fun c => c.tag = t).map childValue) := by
  induction children generalizing result vs with
  | nil => simpa [elemToDict.go] using h
  | cons c rest ih =>
    rw [elemToDict.go, ← childValue]
    by_cases ht : c.tag = t
    · subst ht
      rw [ih (lookup_addValue_self h hv)]
      · simp
      · intro u hu
        rcases List.mem_append.mp hu with hu | hu
        · exact hv u hu
        · obtain rfl := List.mem_singleton.mp hu
          exact childValue_ne_list c
    · rw [ih ((lookup_addValue_of_ne _ (Ne.symm ht)).trans h) hv]
      simp [ht]

lemma lookup_elemToDict (e : Element) (t : String) :
    (elemToDict e).lookup t = group ((e.findall t).map childValue) := by
  rcases e with ⟨tag, attrib, txt, tail, children⟩
  have h : (elemToDict.go children []).lookup t =
      group ([] ++ (children.filter fun c => c.tag = t).map childValue) :=
    lookup_go children rfl (by simp)
  rw [elemToDict]
  simpa [Element.findall] using h

def Val.isList : Val → Bool
  | .list _ => true
  | _ => false

/-- The values under a key, where one that is no list stands for itself alone. -/
def valuesOf : Option Val → List Val
  | none => []
  | some (.list items) => items
  | some v => [v]

/-- A mapping has all there is of an element, tag by tag. -/
structure Converts (e : Element) (record : Record) : Prop where
  keys : record.map Prod.fst = (e.children.map Element.tag).eraseDups
  values : ∀ t, valuesOf (record.lookup t) = (e.findall t).map childValue
  list_iff : ∀ t v, record.lookup t = some v → (v.isList = true ↔ 2 ≤ (e.findall t).length)
  leaf : ∀ c ∈ e.children, c.children = [] → childValue c = .str (c.text.getD "")
  nested : ∀ c ∈ e.children, c.children ≠ [] → childValue c = .dict (elemToDict c)

lemma map_fst_addValue (result : Record) (tag : String) (value : Val) :
    (addValue result tag value).map Prod.fst =
      if tag ∈ result.map Prod.fst then result.map Prod.fst
      else result.map Prod.fst ++ [tag] := by
  unfold addValue
  split
  · next hnone =>
    have hnew : tag ∉ result.map Prod.fst := by
      rw [List.lookup_eq_none_iff] at hnone
      intro hmem
      obtain ⟨p, hp, rfl⟩ := List.mem_map.mp hmem
      simpa using hnone p hp
    rw [if_neg hnew, List.map_append, List.map_singleton]
  · exact map_fst_setEntry _ _ _
  · exact map_fst_setEntry _ _ _

lemma go_eq_foldl (children : List Element) (result : Record) :
    elemToDict.go children result =
      children.foldl (fun result c => addValue result c.tag (childValue c)) result := by
  induction children generalizing result with
  | nil => rw [elemToDict.go, List.foldl_nil]
  | cons c rest ih => rw [elemToDict.go, ← childValue, ih, List.foldl_cons]

lemma keys_elemToDict (e : Element) :
    (elemToDict e).map Prod.fst = (e.children.map Element.tag).eraseDups := by
  rcases e with ⟨tag, attrib, txt, tail, children⟩
  rw [elemToDict, go_eq_foldl]
  dsimp only
  induction children using List.reverseRecOn with
  | nil => rfl
  | append_singleton children c ih =>
    rw [List.foldl_append, List.foldl_cons, List.foldl_nil, map_fst_addValue, ih,
      List.map_append, List.map_singleton, Dict.eraseDups_concat]
    simp only [List.mem_eraseDups]

lemma valuesOf_group {vs : List Val} (h : ∀ v ∈ vs, v.isList = false) :
    valuesOf (group vs) = vs := by
  rcases vs with _ | ⟨v, _ | ⟨v', vs⟩⟩
  · rfl
  · have hv := h v List.mem_cons_self
    rcases v with s | d | l
    · rfl
    · rfl
    · cases hv
  · rfl

/-- A list stands for several values and nothing else does. -/
lemma isList_group_iff {vs : List Val} (h : ∀ v ∈ vs, v.isList = false) {v : Val}
    (hv : group vs = some v) : v.isList = true ↔ 2 ≤ vs.length := by
  rcases vs with _ | ⟨u, _ | ⟨u', vs⟩⟩
  · cases hv
  · obtain rfl := Option.some.inj hv
    simp [h u List.mem_cons_self]
  · obtain rfl := Option.some.inj hv
    simp [Val.isList]

lemma isList_childValue (c : Element) : (childValue c).isList = false := by
  unfold childValue
  split <;> rfl

/-- **Nothing is lost and nothing changes its order.** The mapping of an element, at any depth of a
tree, has the tags of its children in the order in which they come first; under each, what the
children with the tag become, in their order; and a list exactly where there are several. -/
theorem elemToDict_converts (e : Element) : Converts e (elemToDict e) := by
  have hno : ∀ t, ∀ v ∈ (e.findall t).map childValue, v.isList = false := by
    intro t v hv
    obtain ⟨c, -, rfl⟩ := List.mem_map.mp hv
    exact isList_childValue c
  refine ⟨keys_elemToDict e, fun t => ?_, fun t v hv => ?_, fun c _ h => childValue_of_leaf h,
    fun c _ h => childValue_of_ne_nil h⟩
  · rw [lookup_elemToDict]
    exact valuesOf_group (hno t)
  · rw [lookup_elemToDict] at hv
    rw [isList_group_iff (hno t) hv, List.length_map]

end SophosFw.Records
