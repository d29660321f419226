import SophosFw.ReadWrite

/-!
What a list of records becomes, and what one record can do to the others.

Each record is parsed on its own, and the first object of each name counts. So a record that is
malformed is its own affair, unless its parser raises: then the whole list is lost.
-/

namespace SophosFw.Records

open SophosFw.PyDict SophosFw.PyText SophosFw.Client

inductive ListEndpoint
  | interfaces
  | firewallRules
  | webFilterPolicies
  | dhcpServers
  | wirelessNetworks
  deriving DecidableEq, Repr

namespace ListEndpoint

abbrev Object : ListEndpoint → Type
  | interfaces => Interface
  | firewallRules => FirewallRule
  | webFilterPolicies => WebFilterPolicy
  | dhcpServers => DhcpServer
  | wirelessNetworks => WirelessNetwork

/-- The tag of the records. -/
def tag : ListEndpoint → String
  | interfaces => "Interface"
  | firewallRules => "FirewallRule"
  | webFilterPolicies => "WebFilterPolicy"
  | dhcpServers => "DHCPServer"
  | wirelessNetworks => "WirelessNetworks"

/-- The field the objects are keyed by. -/
def keyField : ListEndpoint → String
  | wirelessNetworks => "HardwareName"
  | _ => "Name"

def objectName : (l : ListEndpoint) → l.Object → String
  | interfaces => Interface.name
  | firewallRules => FirewallRule.name
  | webFilterPolicies => WebFilterPolicy.name
  | dhcpServers => DhcpServer.name
  | wirelessNetworks => WirelessNetwork.hardwareName

def parse : (l : ListEndpoint) → Record → Except ValueError (Option l.Object)
  | interfaces, r => .ok (parseInterface r)
  | firewallRules, r => .ok (parseFirewallRule r)
  | webFilterPolicies, r => .ok (parseWebFilterPolicy r)
  | dhcpServers, r => parseDhcpServer r
  | wirelessNetworks, r => .ok (parseWirelessNetwork r)

/-- What the records of an endpoint become. -/
def collect (l : ListEndpoint) (records : List Record) : Except ValueError (Dict String l.Object) :=
  (records.mapM l.parse).map (byName l.objectName)

end ListEndpoint

lemma digitValue_isSome (c : Char) : (digitValue c).isSome = isDecimal c := by
  unfold digitValue isDecimal inRanges
  rw [Option.isSome_map, List.isSome_find?]

/-- `int` takes the texts of at most 4300 decimal digits. -/
lemma int_ok_iff (s : String) : (∃ n, int s = .ok n) ↔
    s.toList.length ≤ 4300 ∧ ∀ c ∈ s.toList, isDecimal c = true := by
  have hall : (∀ c ∈ s.toList, isDecimal c = true) ↔ (s.toList.mapM digitValue).isSome := by
    generalize s.toList = l
    induction l with
    | nil => simp
    | cons c l ih =>
      rw [List.forall_mem_cons, ih, ← digitValue_isSome, List.mapM_cons]
      rcases digitValue c with _ | n
      · simp
      · rcases l.mapM digitValue with _ | ns <;> simp
  unfold int
  rw [hall]
  split
  · next h =>
    have hno : ¬ s.toList.length ≤ 4300 := not_le.mpr h
    simp [hno]
  · next h =>
    have hle : s.toList.length ≤ 4300 := not_lt.mp h
    rcases s.toList.mapM digitValue with _ | ns <;> simp [hle]

/-- A text that passes for a number is one that can be converted. -/
def Convertible (value : String) : Prop :=
  isDigit value = true →
    value.toList.length ≤ 4300 ∧ ∀ c ∈ value.toList, isDecimal c = true

/-- The lease times of a record with a name are convertible. -/
def LeaseTimesConvertible (record : Record) : Prop :=
  text record "Name" ≠ none → ∀ key ∈ ["DefaultLeaseTime", "MaxLeaseTime"], ∀ value,
    text record key = some value → Convertible value

lemma minutes_ok_iff (record : Record) (key : String) : (∃ n, minutes record key = .ok n) ↔
    ∀ value, text record key = some value → Convertible value := by
  unfold minutes Convertible
  rcases text record key with _ | value
  · exact ⟨fun _ _ h => (by cases h), fun _ => ⟨none, rfl⟩⟩
  · have hint := int_ok_iff value
    simp only [Option.some.injEq, forall_eq']
    by_cases hdigit : isDigit value = true
    · rw [if_pos hdigit, ← hint]
      rcases int value with _ | n
      · exact ⟨fun ⟨_, h⟩ => (by cases h), fun h => absurd (h hdigit) fun ⟨_, h⟩ => by cases h⟩
      · exact ⟨fun _ _ => ⟨n, rfl⟩, fun _ => ⟨some n, rfl⟩⟩
    · rw [if_neg hdigit]
      exact ⟨fun _ h => absurd h hdigit, fun _ => ⟨none, rfl⟩⟩

lemma parseDhcpServer_ok_iff (record : Record) :
    (∃ o, parseDhcpServer record = .ok o) ↔ LeaseTimesConvertible record := by
  unfold LeaseTimesConvertible parseDhcpServer
  rcases text record "Name" with _ | name
  · exact ⟨fun _ h => absurd rfl h, fun _ => ⟨none, rfl⟩⟩
  · have hboth : (∀ key ∈ ["DefaultLeaseTime", "MaxLeaseTime"], ∀ value,
        text record key = some value → Convertible value) ↔
        (∃ n, minutes record "DefaultLeaseTime" = .ok n) ∧
          ∃ n, minutes record "MaxLeaseTime" = .ok n := by
      rw [minutes_ok_iff, minutes_ok_iff, List.forall_mem_cons, List.forall_mem_singleton]
    rw [hboth]
    rcases minutes record "DefaultLeaseTime" with _ | a
    · refine ⟨fun ⟨_, h⟩ => (by cases h), fun h => ?_⟩
      obtain ⟨⟨_, ha⟩, -⟩ := h (Option.some_ne_none name)
      cases ha
    · rcases minutes record "MaxLeaseTime" with _ | b
      · refine ⟨fun ⟨_, h⟩ => (by cases h), fun h => ?_⟩
        obtain ⟨-, ⟨_, hb⟩⟩ := h (Option.some_ne_none name)
        cases hb
      · exact ⟨fun _ _ => ⟨⟨a, rfl⟩, b, rfl⟩, fun _ => ⟨_, rfl⟩⟩

lemma parseDhcpServer_name {record : Record} {o : Option DhcpServer}
    (h : parseDhcpServer record = .ok o) : o.map DhcpServer.name = text record "Name" := by
  unfold parseDhcpServer at h
  rcases hname : text record "Name" with _ | name <;> rw [hname] at h
  · cases h
    rfl
  · rcases ha : minutes record "DefaultLeaseTime" with _ | a <;> rw [ha] at h
    · cases h
    · rcases hb : minutes record "MaxLeaseTime" with _ | b <;> rw [hb] at h
      · cases h
      · cases h
        rfl

namespace ListEndpoint

/-- Only the lease times of a DHCP server can make a parser raise. -/
lemma parse_ok_iff (l : ListEndpoint) (record : Record) : (∃ o, l.parse record = .ok o) ↔
    (l = .dhcpServers → LeaseTimesConvertible record) := by
  rcases l with _ | _ | _ | _ | _
  case dhcpServers => exact (parseDhcpServer_ok_iff record).trans ⟨fun h _ => h, fun h => h rfl⟩
  all_goals exact ⟨fun _ h => (by cases h), fun _ => ⟨_, rfl⟩⟩

lemma parse_name {l : ListEndpoint} {record : Record} {o : Option l.Object}
    (h : l.parse record = .ok o) : o.map l.objectName = text record l.keyField := by
  rcases l with _ | _ | _ | _ | _
  case dhcpServers => exact parseDhcpServer_name h
  all_goals
    cases h
    exact (Option.map_map _ _ _).trans Option.map_id'

end ListEndpoint

lemma mapM_eq_ok_iff {α β ε : Type*} (f : α → Except ε β) {l : List α} {r : List β} :
    l.mapM f = .ok r ↔ List.Forall₂ (fun a b => f a = .ok b) l r := by
  induction l generalizing r with
  | nil =>
    rw [List.mapM_nil, List.forall₂_nil_left_iff]
    exact ⟨fun h => (Except.ok.inj h).symm, fun h => by rw [h]; rfl⟩
  | cons a l ih =>
    rw [List.mapM_cons, List.forall₂_cons_left_iff]
    rcases ha : f a with e | b
    · exact ⟨fun h => (by cases h), fun ⟨_, _, h, _⟩ => by cases h⟩
    · rcases hl : l.mapM f with e | bs
      · refine ⟨fun h => (by cases h), ?_⟩
        rintro ⟨_, bs', -, hbs, -⟩
        rw [← ih, hl] at hbs
        cases hbs
      · constructor
        · intro h
          exact ⟨b, bs, rfl, ih.mp hl, (Except.ok.inj h).symm⟩
        · rintro ⟨b', bs', hb, hbs, rfl⟩
          rw [← ih, hl] at hbs
          cases hb
          cases hbs
          rfl

lemma exists_mapM_ok_iff {α β ε : Type*} (f : α → Except ε β) {l : List α} :
    (∃ r, l.mapM f = .ok r) ↔ ∀ a ∈ l, ∃ b, f a = .ok b := by
  simp only [mapM_eq_ok_iff]
  induction l with
  | nil => exact ⟨fun _ _ h => (by cases h), fun _ => ⟨[], .nil⟩⟩
  | cons a l ih =>
    rw [List.forall_mem_cons, ← ih]
    constructor
    · rintro ⟨_, h⟩
      obtain ⟨b, bs, hb, hbs, -⟩ := List.forall₂_cons_left_iff.mp h
      exact ⟨⟨b, hb⟩, bs, hbs⟩
    · rintro ⟨⟨b, hb⟩, bs, hbs⟩
      exact ⟨b :: bs, .cons hb hbs⟩

section ByName

variable {T : Type} {name : T → String}

lemma get_byName (items : List (Option T)) (key : String) :
    (byName name items).get key = (items.find? fun item => item.map name = some key).join := by
  rw [byName_eq, get_foldl_addByName]
  rfl

/-- What a name does to the keys there are. -/
def addKey (keys : List String) : Option String → List String
  | none => keys
  | some key => if key ∈ keys then keys else keys ++ [key]

lemma keys_addByName (d : Dict String T) (item : Option T) :
    (addByName name d item).keys = addKey d.keys (item.map name) := by
  rcases item with _ | x
  · rfl
  · unfold addByName addKey
    dsimp only [Option.map_some]
    by_cases h : name x ∈ d.keys
    · rw [if_pos (d.get_isSome_iff.mpr h), if_pos h]
    · have hn : d.get (name x) = none := d.get_eq_none_iff.mpr h
      rw [if_neg (by simp [hn]), if_neg h]
      unfold Dict.keys
      rw [Dict.entries_set_of_get_none _ hn, List.map_append, List.map_singleton]

lemma keys_byName (items : List (Option T)) :
    (byName name items).keys = (items.map (Option.map name)).foldl addKey [] := by
  have hfold : ∀ d : Dict String T, (items.foldl (addByName name) d).keys =
      (items.map (Option.map name)).foldl addKey d.keys := by
    induction items with
    | nil => exact fun _ => rfl
    | cons item items ih =>
      intro d
      rw [List.foldl_cons, ih, keys_addByName, List.map_cons, List.foldl_cons]
  exact hfold .empty

end ByName

/-! ### What one record can do -/

/-- The object a record is under a key. -/
def ListEndpoint.objectOf (l : ListEndpoint) (key : String) (record : Record) : Option l.Object :=
  match l.parse record with
  | .ok (some o) => if l.objectName o = key then some o else none
  | _ => none

/-- What the records of an endpoint ought to become: nothing is raised, each key has the first
object of this name, and a change of one record, its key field apart, stays under its key, as long
as no lease time of the new record passes for a number without being one. -/
structure Harmless (l : ListEndpoint) (records : List Record) (d : Dict String l.Object) :
    Prop where
  collected : l.collect records = .ok d
  first : ∀ key, d.get key = records.findSome? (l.objectOf key)
  change : ∀ before r after r', records = before ++ r :: after →
    r'.lookup l.keyField = r.lookup l.keyField → (l = .dhcpServers → LeaseTimesConvertible r') →
    ∃ d', l.collect (before ++ r' :: after) = .ok d' ∧
      d'.keys = d.keys ∧ ∀ key, text r l.keyField ≠ some key → d'.get key = d.get key

namespace ListEndpoint

variable {l : ListEndpoint} {records : List Record} {d : Dict String l.Object}

lemma exists_collect_iff : (∃ d, l.collect records = .ok d) ↔
    (l = .dhcpServers → ∀ x ∈ records, LeaseTimesConvertible x) := by
  have hall : (∃ d, l.collect records = .ok d) ↔ ∃ items, records.mapM l.parse = .ok items := by
    unfold collect
    rcases records.mapM l.parse with _ | items
    · exact ⟨fun ⟨_, h⟩ => (by cases h), fun ⟨_, h⟩ => by cases h⟩
    · exact ⟨fun _ => ⟨items, rfl⟩, fun _ => ⟨_, rfl⟩⟩
  rw [hall, exists_mapM_ok_iff]
  simp only [parse_ok_iff]
  exact ⟨fun h hl x hx => h x hx hl, fun h x hx hl => h hl x hx⟩

lemma collect_eq_ok (h : l.collect records = .ok d) :
    ∃ items, List.Forall₂ (fun x o => l.parse x = .ok o) records items ∧
      d = byName l.objectName items := by
  unfold collect at h
  rcases hm : records.mapM l.parse with _ | items <;> rw [hm] at h
  · cases h
  · exact ⟨items, (mapM_eq_ok_iff _).mp hm, (Except.ok.inj h).symm⟩

lemma get_collect (h : l.collect records = .ok d) (key : String) :
    d.get key = records.findSome? (l.objectOf key) := by
  obtain ⟨items, hitems, rfl⟩ := collect_eq_ok h
  rw [get_byName]
  clear h
  induction hitems with
  | nil => rfl
  | @cons x o records items hx _ ih =>
    rw [List.find?_cons, List.findSome?_cons]
    unfold objectOf at ih ⊢
    rw [hx]
    rcases o with _ | o
    · exact ih
    · by_cases hk : l.objectName o = key
      · simp [hk]
      · simpa [hk] using ih

lemma keys_collect (h : l.collect records = .ok d) :
    d.keys = (records.map fun x => text x l.keyField).foldl addKey [] := by
  obtain ⟨items, hitems, rfl⟩ := collect_eq_ok h
  rw [keys_byName]
  congr 1
  clear h
  induction hitems with
  | nil => rfl
  | cons hx _ ih => rw [List.map_cons, List.map_cons, ih, parse_name hx]

lemma objectOf_eq_none {key : String} {record : Record} (h : text record l.keyField ≠ some key) :
    l.objectOf key record = none := by
  unfold objectOf
  split
  · next o ho => exact if_neg fun hk => h (by rw [← parse_name ho, ← hk]; rfl)
  · rfl

end ListEndpoint

/-- **A malformed record harms only itself**, exactly if it is no DHCP server or if no lease time
of a server passes for a number without being one. -/
theorem harmless_iff (l : ListEndpoint) (records : List Record) :
    (∃ d, Harmless l records d) ↔
      (l = .dhcpServers → ∀ x ∈ records, LeaseTimesConvertible x) := by
  rw [← ListEndpoint.exists_collect_iff]
  refine ⟨fun ⟨d, h⟩ => ⟨d, h.collected⟩, fun ⟨d, hd⟩ => ⟨d, hd, ListEndpoint.get_collect hd, ?_⟩⟩
  rintro before r after r' rfl hkey hr'
  have hold := ListEndpoint.exists_collect_iff.mp ⟨d, hd⟩
  obtain ⟨d', hd'⟩ : ∃ d', l.collect (before ++ r' :: after) = .ok d' := by
    refine ListEndpoint.exists_collect_iff.mpr fun hl x hx => ?_
    rcases List.mem_append.mp hx with hx | hx
    · exact hold hl x (List.mem_append_left _ hx)
    rcases List.mem_cons.mp hx with rfl | hx
    · exact hr' hl
    · exact hold hl x (List.mem_append_right _ (List.mem_cons_of_mem _ hx))
  refine ⟨d', hd', ?_⟩
  have htext : text r' l.keyField = text r l.keyField := by
    unfold text
    rw [hkey]
  refine ⟨?_, fun key hne => ?_⟩
  · rw [ListEndpoint.keys_collect hd, ListEndpoint.keys_collect hd']
    simp [htext]
  · rw [ListEndpoint.get_collect hd, ListEndpoint.get_collect hd', List.findSome?_append,
      List.findSome?_append, List.findSome?_cons, List.findSome?_cons,
      ListEndpoint.objectOf_eq_none hne, ListEndpoint.objectOf_eq_none (htext ▸ hne)]

/-- A superscript is a digit to `isdigit` and none to `int`: the other server is lost as well. -/
theorem dhcp_servers_superscript :
    let bad : Record := [("Name", .str "Guest"), ("DefaultLeaseTime", .str "6²")]
    let good : Record := [("Name", .str "Main"), ("DefaultLeaseTime", .str "60")]
    ListEndpoint.dhcpServers.collect [bad, good] = .error ⟨⟩ ∧
      ¬ ∃ d, Harmless .dhcpServers [bad, good] d := by
  intro bad good
  have hcollect : ListEndpoint.dhcpServers.collect [bad, good] = .error ⟨⟩ := rfl
  refine ⟨hcollect, fun ⟨d, h⟩ => ?_⟩
  cases hcollect.symm.trans h.collected

/-- Reading the records of an endpoint and what they become. -/
def readList (c : SophosClient) (l : ListEndpoint) : ClientM (Dict String l.Object) := do
  let records ← c.getRecords l.tag
  match l.collect records with
  | .error _ => ClientM.raise .valueError
  | .ok d => return d

lemma collect_of_pure {l : ListEndpoint} {f : Record → Option l.Object}
    (h : ∀ r, l.parse r = .ok (f r)) (records : List Record) :
    l.collect records = .ok (byName l.objectName (records.map f)) := by
  have hm : records.mapM l.parse = .ok (records.map f) := by
    rw [mapM_eq_ok_iff, List.forall₂_map_right_iff]
    exact List.forall₂_same.mpr fun r _ => h r
  unfold ListEndpoint.collect
  rw [hm]
  rfl

lemma readList_of_pure {l : ListEndpoint} {f : Record → Option l.Object}
    (h : ∀ r, l.parse r = .ok (f r)) (c : SophosClient) : readList c l = (do
      let records ← c.getRecords l.tag
      return byName l.objectName (records.map f)) := by
  unfold readList
  congr 1
  funext records
  rw [collect_of_pure h]

/-- The five methods of the client read lists. -/
lemma readList_eq (c : SophosClient) : readList c .interfaces = c.getInterfaces ∧
    readList c .firewallRules = c.getFirewallRules ∧
    readList c .webFilterPolicies = c.getWebFilterPolicies ∧
    readList c .dhcpServers = c.getDhcpServers ∧
    readList c .wirelessNetworks = c.getWirelessNetworks := by
  refine ⟨readList_of_pure (fun _ => rfl) c, readList_of_pure (fun _ => rfl) c,
    readList_of_pure (fun _ => rfl) c, ?_, readList_of_pure (fun _ => rfl) c⟩
  unfold SophosClient.getDhcpServers readList
  congr 1
  funext records
  unfold ListEndpoint.collect ListEndpoint.parse
  dsimp only
  rcases records.mapM parseDhcpServer with _ | servers <;> rfl

end SophosFw.Records
