import SophosFw.RecordLists

/-!
Static leases, from the element of a DHCP server to the object of it.

A mapping has a text where an element is empty, a mapping where it has one child of a tag and a
list where it has several, so none, one and many leases come in three shapes. They are one list
again in the end.
-/

namespace SophosFw.Records

open SophosFw.PyDict SophosFw.PyText SophosFw.ElementTree

lemma go_of_nodup {children : List Element} {result : Record}
    (h : (result.map Prod.fst ++ children.map Element.tag).Nodup) :
    elemToDict.go children result = result ++ children.map fun c => (c.tag, childValue c) := by
  induction children generalizing result with
  | nil => rw [elemToDict.go, List.map_nil, List.append_nil]
  | cons c rest ih =>
    have hnew : c.tag ∉ result.map Prod.fst := fun hmem =>
      (List.nodup_append.mp h).2.2 _ hmem c.tag (by simp) rfl
    have hnone : result.lookup c.tag = none := by
      rw [List.lookup_eq_none_iff]
      intro p hp
      rw [bne_iff_ne]
      rintro heq
      exact hnew (heq ▸ List.mem_map_of_mem hp)
    have hadd : addValue result c.tag (childValue c) = result ++ [(c.tag, childValue c)] := by
      unfold addValue
      rw [hnone]
    rw [elemToDict.go, ← childValue, hadd, ih, List.map_cons, List.append_assoc,
      List.singleton_append]
    rwa [List.map_append, List.append_assoc]

lemma elemToDict_of_nodup {e : Element} (h : (e.children.map Element.tag).Nodup) :
    elemToDict e = e.children.map fun c => (c.tag, childValue c) := by
  rcases e with ⟨tag, attrib, txt, tail, children⟩
  rw [elemToDict]
  exact go_of_nodup h

/-- An element with leaves of distinct tags. -/
structure IsFlat (e : Element) : Prop where
  nonempty : e.children ≠ []
  leaf : ∀ c ∈ e.children, c.children = []
  nodup : (e.children.map Element.tag).Nodup

/-- What a child of a lease is to become. -/
def leaseField (c : Element) : String × String :=
  (c.tag, if c.tag = "MACAddress" then lower (c.text.getD "") else c.text.getD "")

/-- The tags of a lease with their texts, the MAC address in lower case. -/
def leaseFields (lease : Element) : List (String × String) := lease.children.map leaseField

lemma setEntry_of_nodup {k v : String} {l : List (String × String)}
    (h : (l.map Prod.fst).Nodup) (hk : k ∈ l.map Prod.fst) :
    setEntry k v l = l.map fun p => if p.1 = k then (k, v) else p := by
  induction l with
  | nil => cases hk
  | cons p t ih =>
    rw [List.map_cons, List.nodup_cons] at h
    rw [setEntry, List.map_cons]
    by_cases hp : p.1 = k
    · rw [if_pos hp, if_pos hp]
      have hrest : (t.map fun p => if p.1 = k then (k, v) else p) = t.map id := by
        refine List.map_congr_left fun q hq => if_neg fun hqk => h.1 ?_
        rw [hp, ← hqk]
        exact List.mem_map_of_mem hq
      rw [hrest, List.map_id]
    · rw [if_neg hp, if_neg hp, ih h.2]
      exact (List.mem_cons.mp hk).resolve_left fun heq => hp heq.symm

lemma normaliseLease_eq {lease : Element} (h : IsFlat lease) :
    normaliseLease (elemToDict lease) = leaseFields lease := by
  set texts := lease.children.map fun c => (c.tag, c.text.getD "") with htexts
  have hkeys : texts.map Prod.fst = lease.children.map Element.tag := by
    rw [htexts, List.map_map]
    rfl
  have hrecord : elemToDict lease = texts.map fun p => (p.1, .str p.2) := by
    rw [elemToDict_of_nodup h.nodup, htexts, List.map_map]
    refine List.map_congr_left fun c hc => ?_
    rw [childValue_of_leaf (h.leaf c hc)]
    rfl
  unfold normaliseLease leaseFields
  have hsome : texts.filterMap (fun p => some (p.1, p.2)) = texts := List.filterMap_some
  rw [hrecord, List.filterMap_map]
  simp only [Function.comp_def, hsome]
  split
  · next hnone =>
    refine List.map_congr_left fun c hc => ?_
    have hne : c.tag ≠ "MACAddress" := fun heq => by
      have hno := List.lookup_eq_none_iff.mp hnone (c.tag, c.text.getD "")
        (List.mem_map_of_mem hc)
      simp [heq] at hno
    unfold leaseField
    rw [if_neg hne]
  · next mac hmac =>
    obtain ⟨l₁, l₂, hl, hbefore⟩ := List.lookup_eq_some_iff.mp hmac
    have hmem : ("MACAddress", mac) ∈ texts := by rw [hl]; simp
    have hnodup : (texts.map Prod.fst).Nodup := by rw [hkeys]; exact h.nodup
    rw [setEntry_of_nodup hnodup (List.mem_map_of_mem hmem), htexts, List.map_map]
    refine List.map_congr_left fun c hc => ?_
    unfold leaseField
    dsimp only [Function.comp]
    by_cases heq : c.tag = "MACAddress"
    · -- The tag is there once, so this is the entry that was looked up.
      have hsame : (c.tag, c.text.getD "") = ("MACAddress", mac) :=
        List.inj_on_of_nodup_map hnodup (htexts ▸ List.mem_map_of_mem hc) hmem heq
      rw [if_pos heq, if_pos heq, (Prod.mk.inj hsame).2, heq]
    · rw [if_neg heq, if_neg heq]

/-! ### The leases of a server -/

/-- A DHCP server with a name and these static leases. Its lease times, if it has any, are ASCII
texts that are not too long for `int`. -/
structure HasLeases (e : Element) (leases : List Element) : Prop where
  name : ∃ c, e.findall "Name" = [c] ∧ c.children = [] ∧ strip (c.text.getD "") ≠ ""
  container : ∃ c, e.findall "StaticLease" = [c] ∧ c.findall "Lease" = leases
  flat : ∀ lease ∈ leases, IsFlat lease
  times : ∀ c ∈ e.children, c.tag = "DefaultLeaseTime" ∨ c.tag = "MaxLeaseTime" →
    (c.text.getD "").toList.length ≤ 4300 ∧ ∀ x ∈ (c.text.getD "").toList, x.toNat < 128

lemma staticLeases_eq {e : Element} {leases : List Element} (h : HasLeases e leases) :
    staticLeases (elemToDict e) = leases.map leaseFields := by
  obtain ⟨c, hc, rfl⟩ := h.container
  have hvalue : ∀ lease ∈ c.findall "Lease",
      childValue lease = .dict (elemToDict lease) := fun lease hmem =>
    childValue_of_ne_nil (h.flat lease hmem).nonempty
  have hmap : (c.findall "Lease").map childValue =
      (c.findall "Lease").map fun lease => .dict (elemToDict lease) :=
    List.map_congr_left hvalue
  have hfields : (c.findall "Lease").map (fun lease => normaliseLease (elemToDict lease)) =
      (c.findall "Lease").map leaseFields :=
    List.map_congr_left fun lease hmem => normaliseLease_eq (h.flat lease hmem)
  unfold staticLeases
  rw [lookup_elemToDict, hc, List.map_singleton, group]
  by_cases hempty : c.children = []
  · rw [childValue_of_leaf hempty]
    have hnone : c.findall "Lease" = [] := by
      unfold Element.findall
      rw [hempty]
      rfl
    rw [hnone]
    rfl
  · rw [childValue_of_ne_nil hempty]
    dsimp only
    rw [lookup_elemToDict, hmap, ← hfields]
    rcases c.findall "Lease" with _ | ⟨lease, _ | ⟨lease', rest⟩⟩
    · rfl
    · rfl
    · simp only [List.map_cons, group, List.filterMap_cons, List.filterMap_map]
      rw [← List.filterMap_eq_map]
      rfl

lemma text_eq_some {e : Element} {key value : String} (h : text (elemToDict e) key = some value) :
    ∃ c ∈ e.children, c.tag = key ∧ value = strip (c.text.getD "") := by
  unfold text at h
  rw [lookup_elemToDict] at h
  rcases hl : e.findall key with _ | ⟨c, _ | ⟨c', rest⟩⟩ <;>
    rw [hl] at h <;> simp only [List.map_nil, List.map_cons, group] at h
  · cases h
  · have hc : c ∈ e.findall key := by rw [hl]; exact List.mem_singleton_self c
    have hmem := List.mem_filter.mp hc
    refine ⟨c, hmem.1, of_decide_eq_true hmem.2, ?_⟩
    unfold childValue at h
    split at h
    · next t ht =>
      split at ht
      · obtain rfl := Val.str.inj (Option.some.inj ht)
        split at h
        · cases h
        · exact (Option.some.inj h).symm
      · cases ht
    · cases h
  · cases h

lemma convertible_of_ascii {value : String} (hlen : value.toList.length ≤ 4300)
    (hascii : ∀ x ∈ value.toList, x.toNat < 128) : Convertible (strip value) := by
  intro hdigit
  have hsub : ∀ x ∈ (strip value).toList, x ∈ value.toList := fun x hx => by
    unfold strip stripChars at hx
    rw [String.toList_ofList] at hx
    exact (List.dropWhile_suffix _).subset ((List.rdropWhile_prefix _ _).subset hx)
  have hshort : (strip value).toList.length ≤ value.toList.length := by
    unfold strip stripChars
    rw [String.toList_ofList]
    exact ((List.rdropWhile_prefix _ _).length_le).trans (List.dropWhile_suffix _).length_le
  refine ⟨hshort.trans hlen, fun x hx => ?_⟩
  unfold isDigit at hdigit
  rw [Bool.and_eq_true, List.all_eq_true] at hdigit
  have hone := hdigit.2 x hx
  have hno : inRanges otherDigitRanges x.toNat = false := by
    have hsmall := hascii x (hsub x hx)
    unfold inRanges
    rw [List.any_eq_false]
    intro k hk
    have hfirst : 128 ≤ k.1 :=
      of_decide_eq_true (List.all_eq_true.mp (by decide : otherDigitRanges.all
        (fun k => decide (128 ≤ k.1)) = true) k hk)
    simp
    omega
  rwa [isDigitChar, hno, Bool.or_false] at hone

lemma parseDhcpServer_staticLeases {record : Record} {server : DhcpServer}
    (h : parseDhcpServer record = .ok (some server)) :
    server.staticLeases = staticLeases record := by
  unfold parseDhcpServer at h
  rcases hname : text record "Name" with _ | name <;> rw [hname] at h
  · cases h
  · rcases ha : minutes record "DefaultLeaseTime" with _ | a <;> rw [ha] at h
    · cases h
    · rcases hb : minutes record "MaxLeaseTime" with _ | b <;> rw [hb] at h
      · cases h
      · cases h
        rfl

lemma exists_server {e : Element} {leases : List Element} (h : HasLeases e leases) :
    ∃ server, parseDhcpServer (elemToDict e) = .ok (some server) ∧
      server.staticLeases = leases.map leaseFields := by
  obtain ⟨c, hc, hleaf, hname⟩ := h.name
  have htext : text (elemToDict e) "Name" = some (strip (c.text.getD "")) := by
    unfold text
    rw [lookup_elemToDict, hc, List.map_singleton, group, childValue_of_leaf hleaf]
    exact if_neg hname
  have htimes : LeaseTimesConvertible (elemToDict e) := by
    intro _ key hkey value hvalue
    obtain ⟨t, ht, rfl, rfl⟩ := text_eq_some hvalue
    obtain ⟨hlen, hascii⟩ := h.times t ht (by simpa using hkey)
    exact convertible_of_ascii hlen hascii
  obtain ⟨o, ho⟩ := (parseDhcpServer_ok_iff _).mpr htimes
  have hsome := parseDhcpServer_name ho
  rcases o with _ | server
  · rw [htext] at hsome
    cases hsome
  · exact ⟨server, ho, (parseDhcpServer_staticLeases ho).trans (staticLeases_eq h)⟩

/-- Static leases survive the conversion and the parsing, whatever the other fields are and
wherever they stand. -/
theorem staticLeases_kept {e : Element} {leases : List Element} (h : HasLeases e leases) :
    ∃ server, parseDhcpServer (elemToDict e) = .ok (some server) ∧
      server.staticLeases.length = leases.length ∧
      (∀ i : ℕ, server.staticLeases[i]? = leases[i]?.map leaseFields) ∧
      ∀ e', HasLeases e' leases → ∃ server', parseDhcpServer (elemToDict e') = .ok (some server') ∧
        server'.staticLeases = server.staticLeases := by
  obtain ⟨server, hserver, hleases⟩ := exists_server h
  refine ⟨server, hserver, by rw [hleases, List.length_map], fun i => ?_, fun e' h' => ?_⟩
  · rw [hleases, List.getElem?_map]
  · obtain ⟨server', hserver', hleases'⟩ := exists_server h'
    exact ⟨server', hserver', hleases'.trans hleases.symm⟩

/-- Two leases and other fields around them. -/
theorem staticLeases_kept_two :
    let leaf := fun tag text => Element.new tag (some text) []
    let first := Element.new "Lease" (some "\n")
      [leaf "HostName" "nas", leaf "MACAddress" "AA:BB:01"]
    let second := Element.new "Lease" none
      [leaf "MACAddress" "AA:BB:02", .new "IPAddress" none []]
    let server := Element.new "DHCPServer" none [leaf "Name" " Main ",
      .new "StaticLease" none [first, second], leaf "DefaultLeaseTime" "1440", leaf "Status" "1"]
    leaseFields first = [("HostName", "nas"), ("MACAddress", "aa:bb:01")] ∧
    ∃ parsed, parseDhcpServer (elemToDict server) = .ok (some parsed) ∧
      parsed.staticLeases.length = 2 ∧
      ∀ i : ℕ, parsed.staticLeases[i]? = [first, second][i]?.map leaseFields := by
  intro leaf first second server
  have h : HasLeases server [first, second] := by
    refine ⟨⟨_, rfl, rfl, by decide⟩, ⟨_, rfl, rfl⟩, ?_, ?_⟩
    · rw [List.forall_mem_cons, List.forall_mem_singleton]
      exact ⟨⟨nofun, by simp [first, leaf, Element.new], by decide⟩,
        ⟨nofun, by simp [second, leaf, Element.new], by decide⟩⟩
    · simp [server, leaf, Element.new]
  obtain ⟨parsed, hparsed, hlen, hall, -⟩ := staticLeases_kept h
  exact ⟨by decide, parsed, hparsed, hlen, hall⟩

end SophosFw.Records
