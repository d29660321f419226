import SophosFw.HostGroups

/-!
Blocking a device: `block_ip_in_group` as a whole.

The group is read first, so that nothing is left behind if it is the wrong one; then the hosts;
and the change reads the group a second time. A host is created only where no host of type IP
has the address.
-/

namespace SophosFw.Client

open SophosFw.PyDict SophosFw.PyText SophosFw.ElementTree SophosFw.Records SophosFw.Slot
open SophosFw.Xml (lineEnds)
open ClientM

def Request.isAdd (r : Request) : Bool :=
  match r.operation with
  | .set "add" _ => true
  | _ => false

section Firewall

variable {S : Type} (c : SophosClient) (ipHosts groups : S → List Element)

/-- How `_add_ip_host_held` ended: the host is there, or nothing has changed. -/
structure HostCreated (ip name : String) (s : S) (y : Ended S String) : Prop where
  groups_eq : groups y.server = groups s
  trace_eq : ∃ o, y.trace = [(c.request (.set "add" (SophosClient.newIpHost ip name).received), o)]
  raised : ∀ e, y.result = .error e → ipHosts y.server = ipHosts s
  returned : ∀ host, y.result = .ok host → host = name ∧ lineEnds name ∉ (ipHosts s).map nameOf ∧
    (ipHosts y.server).Perm ((SophosClient.newIpHost ip name).received :: ipHosts s)

/-- How `block_ip_in_group` ended. -/
structure BlockEnds (group ip name : String) (s : S) (y : Ended S (Bool × String)) : Prop where
  refused : (∀ g ∈ groups s, nameOf g = group → ¬ IsIpv4 g) →
    (∃ e, y.result = .error e) ∧ NoWrite y.trace
  added : ∀ x ∈ y.trace, x.1.isAdd = true → ∀ host, ¬ HasAddress (ipHosts s) ip host
  once : (y.trace.filter fun x => x.1.isAdd).length ≤ 1
  hosts : ipHosts y.server = ipHosts s ∨ (∀ host, ¬ HasAddress (ipHosts s) ip host) ∧
    lineEnds name ∉ (ipHosts s).map nameOf ∧
    (ipHosts y.server).Perm ((SophosClient.newIpHost ip name).received :: ipHosts s)
  raised : ∀ e, y.result = .error e → groups y.server = groups s
  returned : ∀ changed host, y.result = .ok (changed, host) → ∃ g ∈ groups s, nameOf g = group ∧
    (changed = false ↔ ∃ m ∈ hostMembers g, HasAddress (ipHosts s) ip m) ∧
    (c.GetsAnswered y.trace → HasAddress (ipHosts y.server) ip host ∧
      ∃ g', groups y.server = replaceRecord group g' (groups s) ∧ host ∈ hostMembers g' ∧
        (g' = g ∨ HostAdded host g g' ∧ hostMembers g' = hostMembers g ++ [host]))

/-- The host that is put into the group: the first one with the address, or a new one, if there is
none of the name it gets. -/
def hostToJoin (hosts : List Element) (ip name : String) : Option String :=
  match hosts.filterMap (ipHostName ip) with
  | host :: _ => some host
  | [] => if lineEnds name ∈ hosts.map nameOf then none else some name

/-- No carriage return is lost that matters when the host is put into the group. There is none in
the name of a host that is listed there already; else there is none in it or the group, or there is
one in the name of the group, and the group this becomes, if any, is what arrives already. -/
def Intact (groups : List Element) (g : Element) (host : String) : Prop :=
  if host ∈ hostMembers g then '\r' ∉ host.toList
  else (g.Clean ∧ '\r' ∉ host.toList) ∨ (lineEnds (nameOf g) ≠ nameOf g ∧
    ∀ r ∈ groups, nameOf r = lineEnds (nameOf g) → HostAdded (lineEnds host) g.received r)

/-- Where the address has to be put into the group, none is lost. -/
def JoinsIntact (hosts groups : List Element) (group ip name : String) : Prop :=
  ∀ g ∈ groups, nameOf g = group → IsIpv4 g → (∀ m ∈ hostMembers g, ¬ HasAddress hosts ip m) →
    ∀ host ∈ hostToJoin hosts ip name, Intact groups g host

/-- How the part of it ended that puts a host into the group. -/
structure HostJoined (group host : String) (s : S) (y : Ended S (Bool × String)) : Prop where
  hosts : ipHosts y.server = ipHosts s
  noAdd : ∀ x ∈ y.trace, x.1.isAdd = false
  raised : ∀ e, y.result = .error e → groups y.server = groups s
  returned : ∀ r, y.result = .ok r → r = (true, host) ∧ (c.GetsAnswered y.trace →
    ∃ g ∈ groups s, nameOf g = group ∧
      ∃ g', groups y.server = replaceRecord group g' (groups s) ∧ host ∈ hostMembers g' ∧
        (g' = g ∨ HostAdded host g g' ∧ '\r' ∉ host.toList))

lemma Intact.not_mem {l : List Element} {g : Element} {host : String} (h : Intact l g host)
    (hmem : host ∈ hostMembers g) : '\r' ∉ host.toList := by
  rwa [Intact, if_pos hmem] at h

lemma Intact.arrives {l : List Element} {g : Element} {group host : String} (h : Intact l g host)
    (hn : Named l) (hg : g ∈ l) (hname : nameOf g = group) (hhost : strip host = host) :
    ∀ r ∈ l, nameOf r = group → host ∉ hostMembers r →
      ∀ sent, HostAdded host r sent → Arrives l sent := by
  intro r hr hrname hout sent hadded
  obtain rfl := hn.eq_of_nameOf_eq hg hr (hrname.trans hname.symm)
  rw [Intact, if_neg hout] at h
  exact (hadded.arrives_iff hhost hg).mpr h

variable {c ipHosts groups} {serve : S → Request → S × HttpOutcome} {group ip name : String} {s : S}

lemma nameOf_newIpHost (hname : strip name = name) :
    nameOf (SophosClient.newIpHost ip name) = name := by
  simp [nameOf, Element.findtext, Element.find, SophosClient.newIpHost, Element.new, hname]

lemma nameOf_newIpHost_received (ip : String) (hname : strip name = name) :
    nameOf (SophosClient.newIpHost ip name).received = lineEnds name := by
  rw [nameOf_received, nameOf_newIpHost hname]

lemma hasAddress_newIpHost (hip : strip ip = ip) (hreturn : '\r' ∉ ip.toList)
    (hname : strip name = name) (hclean : '\r' ∉ name.toList) {hosts : List Element}
    (h : (SophosClient.newIpHost ip name).received ∈ hosts) : HasAddress hosts ip name := by
  rw [received_newIpHost hreturn hclean] at h
  refine ⟨_, h, nameOf_newIpHost hname, rfl, ?_⟩
  have haddress : childText (SophosClient.newIpHost ip name) "IPAddress" =
      if ip = "" then none else some ip := by
    simp [childText, Element.find, SophosClient.newIpHost, Element.new, hip]
  rw [haddress]
  split
  · next hempty => exact hempty.symm
  · rfl

lemma hostCreated (hk : KeepsHosts c serve ipHosts groups) (hname : strip name = name) (ip : String)
    (s : S) : HostCreated c ipHosts groups ip name s ((c.addIpHostHeld ip name).exec serve s) := by
  have hadd := hk.add s (SophosClient.newIpHost ip name).received (Element.received_tag _)
  rw [SophosClient.addIpHostHeld_eq, SophosClient.exec_post_bind]
  dsimp only at hadd ⊢
  rw [nameOf_newIpHost_received ip hname, c.accepted_iff] at hadd
  generalize serve s (c.request (.set "add" (SophosClient.newIpHost ip name).received)) = x
    at hadd ⊢
  obtain ⟨hgroups, hcases⟩ := hadd
  rcases hr : c.readAnswer x.2 with e | root
  · refine ⟨hgroups, ⟨x.2, rfl⟩, fun _ _ => ?_, nofun⟩
    rcases hcases with ⟨-, -, root, hroot, -⟩ | ⟨hsame, -⟩
    · rw [hr] at hroot
      cases hroot
    · exact hsame
  have hadded : (∃ host, SophosClient.addedHost name
      (confirm root [.text "Add IP host ", .repr name] ipHostPaths) = .ok host) ↔
      Confirmed ipHostPaths root := by
    rw [SophosClient.addedHost_ok_iff, confirm_ok_iff]
  refine ⟨hgroups, ⟨x.2, rfl⟩, fun e he => ?_, fun host hhost => ?_⟩
  · dsimp only at he ⊢
    rw [exec_ensure] at he ⊢
    rcases hcases with ⟨-, -, root', hroot, hconf⟩ | ⟨hsame, -⟩
    · rw [hr] at hroot
      obtain rfl := Except.ok.inj hroot
      obtain ⟨host, hhost⟩ := hadded.mpr hconf
      exact absurd (he.symm.trans hhost) nofun
    · exact hsame
  · dsimp only at hhost ⊢
    rw [exec_ensure] at hhost ⊢
    have hconf := hadded.mp ⟨host, hhost⟩
    obtain ⟨⟨⟩, ha⟩ :=
      (confirm_ok_iff root [.text "Add IP host ", .repr name] ipHostPaths).mpr hconf
    rcases hcases with ⟨hnew, hperm, -⟩ | ⟨-, hrej⟩
    · change SophosClient.addedHost name (confirm root _ ipHostPaths) = .ok host at hhost
      rw [ha] at hhost
      exact ⟨(Except.ok.inj hhost).symm, hnew, hperm⟩
    · exact absurd ⟨root, hr, hconf⟩ hrej

lemma isAdd_of_isSet {r : Request} (h : r.isSet = false) : r.isAdd = false := by
  unfold Request.isSet at h
  unfold Request.isAdd
  split at h
  · cases h
  · next hop =>
    split
    · next hadd => exact absurd hadd (hop _ _)
    · rfl

lemma adds_of_noWrite {trace : List (Request × HttpOutcome)} (h : NoWrite trace) :
    (trace.filter fun x => x.1.isAdd) = [] := by
  rw [List.filter_eq_nil_iff]
  intro x hx
  simp [isAdd_of_isSet (h x hx)]

lemma HostCreated.once {y : Ended S String} {pre : List (Request × HttpOutcome)}
    (h : HostCreated c ipHosts groups ip name s y) (hno : NoWrite pre) :
    ((pre ++ y.trace).filter fun x => x.1.isAdd).length ≤ 1 := by
  obtain ⟨o, ho⟩ := h.trace_eq
  rw [List.filter_append, adds_of_noWrite hno, List.nil_append, ho]
  exact List.length_filter_le _ _

lemma hostJoined (hk : KeepsHosts c serve ipHosts groups) (hn : Named (groups s)) {host : String}
    (hhost : strip host = host)
    (harr : ∀ g ∈ groups s, nameOf g = group → host ∉ hostMembers g →
      ∀ sent, HostAdded host g sent → Arrives (groups s) sent) :
    HostJoined c ipHosts groups group host s
      ((c.modifyRecordHeld "IPHostGroup" group (addMember group host)
        (some fun e => host ∈ hostMembers e) >>= fun _ => pure (true, host)).exec serve s) := by
  have hchange : ∀ g sent kept, addMember group host g = .ok (some sent, kept) →
      nameOf sent = nameOf g ∧ sent.tag = g.tag := by
    intro g sent kept h
    obtain ⟨-, hadded⟩ := addMember_eq_some h
    exact ⟨hadded.nameOf_eq, hadded.tag_eq⟩
  have hm := modified_modifyRecordHeld hk hn group (fun e => host ∈ hostMembers e) hchange
  rw [exec_bind_pure]
  generalize (c.modifyRecordHeld "IPHostGroup" group (addMember group host) _).exec serve s = y
    at hm ⊢
  refine ⟨hm.hosts, fun x hx => ?_, fun e he => ?_, fun r hr => ?_⟩
  · rcases hset : x.1.isSet with _ | _
    · exact isAdd_of_isSet hset
    · obtain ⟨sent, hsent⟩ := hm.updates x hx hset
      rw [hsent]
      rfl
  · refine hm.raised (fun g hg hname sent kept h => ?_) e (map_eq_error_iff.mp he)
    obtain ⟨hout, hadded⟩ := addMember_eq_some h
    refine ⟨harr g hg hname hout sent hadded, ?_⟩
    simp [hadded.members hhost]
  · obtain ⟨kept, hkept, rfl⟩ := map_eq_ok_iff.mp hr
    refine ⟨rfl, fun hans => ?_⟩
    obtain ⟨g, hg, hname, ⟨hc, hsame⟩ | ⟨sent, hc, happlied⟩⟩ := hm.returned kept hkept
    · refine ⟨g, hg, hname, g, ?_, addMember_eq_none hc, .inl rfl⟩
      rw [hsame, ← hname, replaceRecord_self hn hg]
    · obtain ⟨hout, hadded⟩ := addMember_eq_some hc
      obtain ⟨g', hg', hmem, hgroups⟩ := happlied (harr g hg hname hout sent hadded) hans
      refine ⟨g, hg, hname, g', hgroups, by simpa using hmem, hg'.imp_right ?_⟩
      rintro ⟨rfl, hclean⟩
      exact ⟨hadded, (hadded.clean_iff.mp hclean).2⟩

/-! ### The operation -/

lemma blockEnds_of_error {t : S} {e : PyExc} {trace : List (Request × HttpOutcome)}
    (hgroups : groups t = groups s) (hhosts : ipHosts t = ipHosts s) (hno : NoWrite trace) :
    BlockEnds c ipHosts groups group ip name s ⟨t, .error e, trace⟩ where
  refused _ := ⟨⟨e, rfl⟩, hno⟩
  added x hx hadd := by
    rw [isAdd_of_isSet (hno x hx)] at hadd
    cases hadd
  once := by
    rw [adds_of_noWrite hno]
    exact Nat.zero_le 1
  hosts := .inl hhosts
  raised _ _ := hgroups
  returned := nofun

lemma blockEnds_of_member {t : S} {g : Element} {host : String}
    {trace : List (Request × HttpOutcome)} (hn : Named (groups s)) (hg : g ∈ groups s)
    (hname : nameOf g = group) (hipv4 : IsIpv4 g) (hsame : groups t = groups s)
    (hsameHosts : ipHosts t = ipHosts s) (hno : NoWrite trace)
    (hhost : HasAddress (ipHosts s) ip host) (hmem : host ∈ hostMembers g) :
    BlockEnds c ipHosts groups group ip name s ⟨t, .ok (false, host), trace⟩ where
  refused h := absurd hipv4 (h g hg hname)
  added x hx hadd := by
    rw [isAdd_of_isSet (hno x hx)] at hadd
    cases hadd
  once := by
    rw [adds_of_noWrite hno]
    exact Nat.zero_le 1
  hosts := .inl hsameHosts
  raised := nofun
  returned changed host' h := by
    obtain ⟨rfl, rfl⟩ := Prod.mk.inj (Except.ok.inj h)
    refine ⟨g, hg, hname, iff_of_true rfl ⟨_, hmem, hhost⟩, fun _ => ⟨?_, g, ?_, hmem, .inl rfl⟩⟩
    · rw [hsameHosts]
      exact hhost
    · rw [hsame, ← hname, replaceRecord_self hn hg]

lemma blockEnds_of_joined {t : S} {g : Element} {host : String} {y : Ended S (Bool × String)}
    {pre : List (Request × HttpOutcome)} (hn : Named (groups s)) (hg : g ∈ groups s)
    (hname : nameOf g = group) (hipv4 : IsIpv4 g) (hsame : groups t = groups s)
    (hnone : ∀ m ∈ hostMembers g, ¬ HasAddress (ipHosts s) ip m)
    (hadded : ∀ x ∈ pre, x.1.isAdd = true → ∀ host, ¬ HasAddress (ipHosts s) ip host)
    (honce : (pre.filter fun x => x.1.isAdd).length ≤ 1)
    (hhosts : ipHosts t = ipHosts s ∨ (∀ host, ¬ HasAddress (ipHosts s) ip host) ∧
      lineEnds name ∉ (ipHosts s).map nameOf ∧
      (ipHosts t).Perm ((SophosClient.newIpHost ip name).received :: ipHosts s))
    (hstrip : strip host = host) (hin : host ∈ hostMembers g → '\r' ∉ host.toList)
    (hhost : '\r' ∉ host.toList → HasAddress (ipHosts t) ip host)
    (hj : HostJoined c ipHosts groups group host t y) :
    BlockEnds c ipHosts groups group ip name s ⟨y.server, y.result, pre ++ y.trace⟩ where
  refused h := absurd hipv4 (h g hg hname)
  added x hx hadd := by
    rcases List.mem_append.mp hx with hx | hx
    · exact hadded x hx hadd
    · rw [hj.noAdd x hx] at hadd
      cases hadd
  once := by
    have hnil : y.trace.filter (fun x => x.1.isAdd) = [] := by
      rw [List.filter_eq_nil_iff]
      intro x hx
      simp [hj.noAdd x hx]
    rwa [List.filter_append, hnil, List.append_nil]
  hosts := by
    rw [hj.hosts]
    exact hhosts
  raised e he := (hj.raised e he).trans hsame
  returned changed host' h := by
    obtain ⟨⟨rfl, rfl⟩, happlied⟩ := hj.returned _ h
    refine ⟨g, hg, hname, by simpa using hnone, fun hans => ?_⟩
    obtain ⟨r, hr, hrname, hrest⟩ := happlied fun x hx => hans x (List.mem_append_right _ hx)
    rw [hsame] at hr hrest
    rw [hn.eq_of_nameOf_eq hg hr (hrname.trans hname.symm)] at hrest
    obtain ⟨g', hgroups, hmem, hg'⟩ := hrest
    rw [hj.hosts]
    rcases hg' with rfl | ⟨hadded, hclean⟩
    · exact ⟨hhost (hin hmem), g', hgroups, hmem, .inl rfl⟩
    · exact ⟨hhost hclean, g', hgroups, hmem, .inr ⟨hadded, hadded.members hstrip⟩⟩

/-- What follows the two reads. -/
def SophosClient.joinGroup (c : SophosClient) (group ip name : String) (elem : Element)
    (hosts : List String) : ClientM (Bool × String) :=
  match hosts.find? fun h => h ∈ hostMembers elem with
  | some member => return (false, member)
  | none => do
    let host ← (match hosts with
      | host :: _ => pure host
      | [] => c.addIpHostHeld ip name : ClientM String)
    c.modifyRecordHeld "IPHostGroup" group (addMember group host)
      (some fun e => host ∈ hostMembers e)
    return (true, host)

variable (c serve) in
lemma exec_blockIpInGroup (group ip name : String) (s : S) :
    (c.blockIpInGroup group ip name).exec serve s =
      let get := c.request (.get "IPHostGroup")
      let x := serve s get
      let getHosts := c.request (.get "IPHost")
      let z := serve x.1 getHosts
      match c.readGroup group x.2 with
      | .error e => ⟨x.1, .error e, [(get, x.2)]⟩
      | .ok elem =>
        match c.readIpHosts ip z.2 with
        | .error e => ⟨z.1, .error e, [(get, x.2), (getHosts, z.2)]⟩
        | .ok hosts =>
          let y := (c.joinGroup group ip name elem hosts).exec serve z.1
          ⟨y.server, y.result, [(get, x.2), (getHosts, z.2)] ++ y.trace⟩ := by
  have hfirst := c.exec_getRecordElement serve "IPHostGroup" group s
  rw [SophosClient.blockIpInGroup, exec_withSlot]
  dsimp only
  rw [SophosClient.readGroup]
  rcases hr : c.readRecord "IPHostGroup" group (serve s (c.request (.get "IPHostGroup"))).2 with
    err | elem
  · rw [hr] at hfirst
    rw [exec_bind_error serve hfirst]
    rfl
  rw [hr] at hfirst
  rw [exec_bind_ok serve hfirst]
  have hensure := exec_ensure serve (checkIpv4Group elem group)
    (serve s (c.request (.get "IPHostGroup"))).1
  rcases hv : checkIpv4Group elem group with err | ⟨⟩
  · rw [hv] at hensure
    rw [exec_bind_error serve hensure]
    simp [Except.bind, Except.map, hv]
  rw [hv] at hensure
  rw [exec_bind_ok serve hensure]
  have hread := c.exec_ipHostsHeld serve ip (serve s (c.request (.get "IPHostGroup"))).1
  simp only [Except.bind, Except.map, hv]
  rcases hh : c.readIpHosts ip (serve _ (c.request (.get "IPHost"))).2 with err | hosts
  · rw [hh] at hread
    rw [exec_bind_error serve hread]
    rfl
  · rw [hh] at hread
    rw [exec_bind_ok serve hread]
    rfl

lemma blockEnds_of_created {t : S} {g : Element} {pre : List (Request × HttpOutcome)}
    (hk : KeepsHosts c serve ipHosts groups) (hgroups : Named (groups s)) (hg : g ∈ groups s)
    (hgname : nameOf g = group) (hipv4 : IsIpv4 g) (hsame : groups t = groups s)
    (hsameHosts : ipHosts t = ipHosts s) (hno : NoWrite pre)
    (hfree : ∀ host, ¬ HasAddress (ipHosts s) ip host) (hip : strip ip = ip)
    (hreturn : '\r' ∉ ip.toList) (hname : strip name = name)
    (hintact : lineEnds name ∉ (ipHosts s).map nameOf → Intact (groups s) g name) :
    let y := (c.joinGroup group ip name g []).exec serve t
    BlockEnds c ipHosts groups group ip name s ⟨y.server, y.result, pre ++ y.trace⟩ := by
  have hc := hostCreated hk hname ip t
  unfold SophosClient.joinGroup
  rw [List.find?_nil]
  dsimp only
  rcases hadd : (c.addIpHostHeld ip name).exec serve t with ⟨t', err | host, trace⟩
  · rw [hadd] at hc
    rw [exec_bind_error serve hadd]
    refine ⟨fun h => absurd hipv4 (h g hg hgname), fun _ _ _ => hfree, hc.once hno,
      .inl ((hc.raised err rfl).trans hsameHosts), fun _ _ => hc.groups_eq.trans hsame, ?_⟩
    intro _ _ h
    cases h
  · rw [hadd] at hc
    rw [exec_bind_ok serve hadd, ← List.append_assoc]
    obtain ⟨rfl, hnew, hperm⟩ := hc.returned host rfl
    rw [hsameHosts] at hnew hperm
    have hsame' : groups t' = groups s := hc.groups_eq.trans hsame
    have hnamed : Named (groups t') := by rwa [hsame']
    refine blockEnds_of_joined hgroups hg hgname hipv4 hsame' (fun m _ => hfree m)
      (fun _ _ _ => hfree) (hc.once hno) (.inr ⟨hfree, hnew, hperm⟩) hname
      (hintact hnew).not_mem
      (fun hclean => hasAddress_newIpHost hip hreturn hname hclean
        (hperm.mem_iff.mpr List.mem_cons_self)) (hostJoined hk hnamed hname ?_)
    rw [hsame']
    exact (hintact hnew).arrives hgroups hg hgname hname

lemma blockEnds_of_read {t : S} {g : Element} {hosts : List String}
    {pre : List (Request × HttpOutcome)} (hk : KeepsHosts c serve ipHosts groups)
    (hgroups : Named (groups s)) (hg : g ∈ groups s) (hgname : nameOf g = group)
    (hipv4 : IsIpv4 g) (hsame : groups t = groups s) (hsameHosts : ipHosts t = ipHosts s)
    (hno : NoWrite pre) (hhosts : Named (ipHosts s))
    (hread : hosts = (ipHosts s).filterMap (ipHostName ip)) (hip : strip ip = ip)
    (hreturn : '\r' ∉ ip.toList) (hname : strip name = name)
    (hintact : (∀ m ∈ hostMembers g, ¬ HasAddress (ipHosts s) ip m) →
      ∀ host ∈ hostToJoin (ipHosts s) ip name, Intact (groups s) g host) :
    let y := (c.joinGroup group ip name g hosts).exec serve t
    BlockEnds c ipHosts groups group ip name s ⟨y.server, y.result, pre ++ y.trace⟩ := by
  have hmem : ∀ host, host ∈ hosts ↔ HasAddress (ipHosts s) ip host := by
    rw [hread]
    exact mem_ipHostNames hhosts.nonempty ip
  rcases hfind : hosts.find? fun h => h ∈ hostMembers g with _ | member
  · rcases hosts with _ | ⟨host, hosts⟩
    · have hfree : ∀ host, ¬ HasAddress (ipHosts s) ip host := by simpa using hmem
      refine blockEnds_of_created hk hgroups hg hgname hipv4 hsame hsameHosts hno hfree hip hreturn
        hname fun hnew => hintact (fun m _ => hfree m) name ?_
      rw [hostToJoin, ← hread]
      exact if_neg hnew
    · have hout : ∀ h ∈ host :: hosts, h ∉ hostMembers g := by simpa using hfind
      have hnone : ∀ m ∈ hostMembers g, ¬ HasAddress (ipHosts s) ip m :=
        fun m hm h => hout m ((hmem m).mpr h) hm
      have hhost : HasAddress (ipHosts s) ip host := (hmem host).mp List.mem_cons_self
      have hnamed : Named (groups t) := by rwa [hsame]
      have hjoin : Intact (groups s) g host := by
        refine hintact hnone host ?_
        rw [hostToJoin, ← hread]
        rfl
      unfold SophosClient.joinGroup
      rw [hfind]
      dsimp only
      rw [pure_bind]
      refine blockEnds_of_joined hgroups hg hgname hipv4 hsame hnone ?_ ?_ (.inl hsameHosts)
        hhost.strip_eq hjoin.not_mem ?_ (hostJoined hk hnamed hhost.strip_eq ?_)
      · intro x hx hadd
        rw [isAdd_of_isSet (hno x hx)] at hadd
        cases hadd
      · rw [adds_of_noWrite hno]
        exact Nat.zero_le 1
      · rw [hsameHosts]
        exact fun _ => hhost
      · rw [hsame]
        exact hjoin.arrives hgroups hg hgname hhost.strip_eq
  · have hhost : HasAddress (ipHosts s) ip member :=
      (hmem member).mp (List.mem_of_find?_eq_some hfind)
    have hend : BlockEnds c ipHosts groups group ip name s ⟨t, .ok (false, member), pre⟩ :=
      blockEnds_of_member hgroups hg hgname hipv4 hsame hsameHosts hno hhost
        (by simpa using List.find?_some hfind)
    unfold SophosClient.joinGroup
    rw [hfind]
    dsimp only
    rw [exec_pure, List.append_nil]
    exact hend

lemma blockEnds (hk : KeepsHosts c serve ipHosts groups) (hhosts : Named (ipHosts s))
    (hgroups : Named (groups s)) (group : String) (hip : strip ip = ip)
    (hreturn : '\r' ∉ ip.toList) (hname : strip name = name)
    (hintact : JoinsIntact (ipHosts s) (groups s) group ip name) :
    BlockEnds c ipHosts groups group ip name s ((c.blockIpInGroup group ip name).exec serve s) := by
  obtain ⟨hhosts₁, hgroups₁⟩ := hk.get s "IPHostGroup"
  have hget := hk.getGroups s
  rw [exec_blockIpInGroup]
  dsimp only
  generalize serve s (c.request (.get "IPHostGroup")) = x at hhosts₁ hgroups₁ hget ⊢
  rcases hr : c.readGroup group x.2 with err | g
  · exact blockEnds_of_error hgroups₁ hhosts₁ (isSet_of_get c _ _)
  obtain ⟨hg, hgname, hipv4⟩ := c.readGroup_of_readsAs hget hgroups hr
  obtain ⟨hhosts₂, hgroups₂⟩ := hk.get x.1 "IPHost"
  have hgetHosts := hk.getHosts x.1
  dsimp only
  generalize serve x.1 (c.request (.get "IPHost")) = z at hhosts₂ hgroups₂ hgetHosts ⊢
  have hsame : groups z.1 = groups s := hgroups₂.trans hgroups₁
  have hsameHosts : ipHosts z.1 = ipHosts s := hhosts₂.trans hhosts₁
  have hno : NoWrite [(c.request (.get "IPHostGroup"), x.2), (c.request (.get "IPHost"), z.2)] := by
    simp [NoWrite, Request.isSet, SophosClient.request]
  rw [hhosts₁] at hgetHosts
  rcases hh : c.readIpHosts ip z.2 with err | hosts
  · exact blockEnds_of_error hsame hsameHosts hno
  exact blockEnds_of_read hk hgroups hg hgname hipv4 hsame hsameHosts hno hhosts
    (c.readIpHosts_of_readsAs hgetHosts hh) hip hreturn hname (hintact g hg hgname hipv4)

/-! ### What a carriage return does -/

lemma getsAnswered_of_all {trace : List (Request × HttpOutcome)}
    (h : trace.all (fun x => x.1.isSet || (c.readAnswer x.2).isOk) = true) :
    c.GetsAnswered trace := by
  intro x hx hset
  have hok := List.all_eq_true.mp h x hx
  rw [hset, Bool.false_or] at hok
  rcases hr : c.readAnswer x.2 with e | root
  · rw [hr] at hok
    cases hok
  · exact ⟨root, rfl⟩

section Lost

variable {hosts l : List Element} {g : Element} {host : String}

/-- The write of a group that loses a carriage return: nothing of it is as it should be. -/
lemma not_lost (hn : Named l) (hg : g ∈ l) (hgname : nameOf g = group) {g' sent : Element}
    (hout : host ∉ hostMembers g) (hhost : strip host = host) (hadded : HostAdded host g sent)
    (hlost : ¬ Arrives l sent) (hg' : g' = g ∨ HostAdded host g g') :
    replaceRecord (lineEnds group) sent.received l ≠ replaceRecord group g' l := by
  have hname : nameOf sent.received = lineEnds group := by
    rw [nameOf_received, hadded.nameOf_eq, hgname]
  obtain ⟨hdirty, hchanged⟩ := not_or.mp hlost
  rw [hname] at hchanged
  rcases hg' with rfl | hg'
  · rw [← hgname, replaceRecord_self hn hg, hgname]
    exact hchanged
  obtain rfl := hadded.unique hg'
  intro hsame
  have hat := List.map_inj_left.mp hsame g hg
  rw [hgname, if_pos rfl] at hat
  split at hat
  · exact hdirty hat
  · have hmembers := hadded.members hhost
    rw [← hat] at hmembers
    simpa using congrArg List.length hmembers

lemma flat_of_hostAdded {sent : Element} (h : HostAdded host g sent)
    (hflat : g.children.flatMap (Element.iter "IPHostGroup") = []) :
    sent.received.children.flatMap (Element.iter "IPHostGroup") = [] := by
  have hhost : (Element.new "Host" (some host) []).iter "IPHostGroup" = [] := by
    rw [Element.iter_eq]
    rfl
  have hlist : (Element.new "HostList" none [.new "Host" (some host) []]).iter "IPHostGroup" =
      [] := by
    rw [Element.iter_eq]
    simpa [Element.new] using hhost
  have hsent : sent.children.flatMap (Element.iter "IPHostGroup") = [] := by
    cases h with
    | @appended l₁ list l₂ hsplit hlist _ =>
      have htag := tag_of_isHostList hlist
      rw [hsplit] at hflat
      rw [List.flatMap_append, List.flatMap_cons, Element.iter_eq, htag] at hflat ⊢
      simpa [hhost] using hflat
    | @created l₁ l₂ _ hsplit _ _ =>
      rw [hsplit] at hflat
      rw [List.flatMap_append, List.flatMap_cons, hlist]
      simpa using hflat
  rw [Element.received_children, List.flatMap_map]
  simpa [Element.iter_received] using hsent

lemma readable_of_hostAdded {sent : Element} (hn : Named l) (hflat : Flat "IPHostGroup" l)
    (hg : g ∈ l) (h : HostAdded host g sent) :
    let after := replaceRecord (nameOf sent.received) sent.received l
    Flat "IPHostGroup" after ∧ ∀ e ∈ after, nameOf e ≠ "" := by
  have hcases : ∀ e ∈ replaceRecord (nameOf sent.received) sent.received l,
      e = sent.received ∨ e ∈ l := by
    intro e he
    obtain ⟨r, hr, rfl⟩ := List.mem_map.mp he
    split
    · exact .inl rfl
    · exact .inr hr
  constructor
  · intro e he
    rcases hcases e he with rfl | he
    · exact ⟨(Element.received_tag sent).trans (h.tag_eq.trans (hflat g hg).1),
        flat_of_hostAdded h (hflat g hg).2⟩
    · exact hflat e he
  · intro e he
    rcases hcases e he with rfl | he
    · rw [nameOf_received, h.nameOf_eq, ne_eq, Xml.lineEnds_eq_empty_iff]
      exact hn.nonempty g hg
    · exact hn.nonempty e he

end Lost

section OnHostFirewall

variable {g : Element} {host : String} {t : HostStore}

lemma exec_addMember_hostFirewall (host : String) (hn : Named t.groups)
    (hflat : Flat "IPHostGroup" t.groups) (hg : g ∈ t.groups)
    (hgname : nameOf g = group) (hipv4 : IsIpv4 g) :
    let y := (c.modifyRecordHeld "IPHostGroup" group (addMember group host)
      (some fun e => host ∈ hostMembers e)).exec hostFirewall t
    c.GetsAnswered y.trace ∧ y.server.hosts = t.hosts ∧
      (host ∈ hostMembers g → y.result = .ok () ∧ y.server = t) ∧
      (host ∉ hostMembers g → ∃ sent, HostAdded host g sent ∧
        y.server.groups = replaceRecord (lineEnds group) sent.received t.groups) := by
  have hroot : c.readAnswer (hostFirewall t (c.request (.get "IPHostGroup"))).2 =
      .ok (.new "Response" none t.groups) :=
    readAnswer_recordsAnswer c (by decide) (by decide) hflat hn.nonempty
  have hread : c.readRecord "IPHostGroup" group
      (hostFirewall t (c.request (.get "IPHostGroup"))).2 = .ok g :=
    (c.readRecord_ok_iff (readsAs_recordsAnswer c (by decide) t.groups) hn hroot).mpr ⟨hg, hgname⟩
  have hsame : (hostFirewall t (c.request (.get "IPHostGroup"))).1 = t := rfl
  dsimp only
  rw [SophosClient.exec_modifyRecordHeld]
  dsimp only
  rw [hread]
  rcases addMember_cases group host g with ⟨hno, -⟩ | ⟨-, hin, hc⟩ | ⟨-, hout, sent, hc, hadded⟩
  · exact absurd hipv4 hno
  · simp only [Except.bind, hc]
    refine ⟨List.forall_mem_singleton.mpr fun _ => ⟨_, hroot⟩, ?_⟩
    simp [hin, hsame]
  · simp only [Except.bind, hc]
    have hname : nameOf sent.received = lineEnds group := by
      rw [nameOf_received, hadded.nameOf_eq, hgname]
    obtain ⟨hflat', hnames⟩ := readable_of_hostAdded hn hflat hg hadded
    rw [hname] at hflat' hnames
    have hset : hostFirewall t (c.request (.set "update" sent.received)) =
        (⟨t.hosts, replaceRecord (lineEnds group) sent.received t.groups⟩,
          statusAnswer "IPHostGroup" "200" "Configuration applied") := by
      rw [← hname]
      rfl
    have hback : c.readAnswer (recordsAnswer "IPHostGroup"
        (replaceRecord (lineEnds group) sent.received t.groups)) = .ok _ :=
      readAnswer_recordsAnswer c (by decide) (by decide) hflat' hnames
    rcases c.writeBack_cases hostFirewall "IPHostGroup" group (fun e => host ∈ hostMembers e) sent
      () t with ⟨-, err, hy⟩ | ⟨-, hy⟩
    all_goals
      rw [hsame, hy, hset]
      refine ⟨?_, rfl, fun hin => absurd hin hout, fun _ => ⟨sent, hadded, rfl⟩⟩
    · exact List.forall_mem_cons.mpr ⟨fun _ => ⟨_, hroot⟩, List.forall_mem_singleton.mpr nofun⟩
    · refine List.forall_mem_cons.mpr ⟨fun _ => ⟨_, hroot⟩, List.forall_mem_cons.mpr ⟨nofun, ?_⟩⟩
      exact List.forall_mem_singleton.mpr fun _ => ⟨_, hback⟩

lemma exec_addIpHostHeld_hostFirewall (ip : String) (hname : strip name = name)
    (hnew : lineEnds name ∉ t.hosts.map nameOf) :
    ∃ o, (c.addIpHostHeld ip name).exec hostFirewall t =
      ⟨⟨(SophosClient.newIpHost ip name).received :: t.hosts, t.groups⟩, .ok name,
        [(c.request (.set "add" (SophosClient.newIpHost ip name).received), o)]⟩ := by
  rw [← nameOf_newIpHost_received ip hname] at hnew
  have hset : hostFirewall t (c.request (.set "add" (SophosClient.newIpHost ip name).received)) =
      (⟨(SophosClient.newIpHost ip name).received :: t.hosts, t.groups⟩,
        statusAnswer "IPHost" "200" "Configuration applied") := if_neg hnew
  have hacc : Accepted ipHostPaths (statusAnswer "IPHost" "200" "Configuration applied") :=
    (accepted_statusAnswer (by decide) (by decide)).mpr (by decide)
  obtain ⟨root, hroot, hconf⟩ := c.accepted_iff.mp hacc
  obtain ⟨⟨⟩, ha⟩ :=
    (confirm_ok_iff root [.text "Add IP host ", .repr name] ipHostPaths).mpr hconf
  refine ⟨statusAnswer "IPHost" "200" "Configuration applied", ?_⟩
  rw [SophosClient.addIpHostHeld_eq, SophosClient.exec_post_bind]
  dsimp only
  rw [hset, hroot]
  dsimp only
  rw [exec_ensure, show [["IPHost", "Status"]] = ipHostPaths from rfl, ha]
  rfl

lemma intact_of_joined {s : HostStore} (t : HostStore) (hn : Named s.groups)
    (hflat : Flat "IPHostGroup" s.groups) (hg : g ∈ s.groups) (hgname : nameOf g = group)
    (hipv4 : IsIpv4 g) (hhost : strip host = host) (hgroups : t.groups = s.groups)
    (hfree : host ∈ hostMembers g → HasAddress t.hosts ip host → '\r' ∉ host.toList)
    {pre : List (Request × HttpOutcome)} (hpre : c.GetsAnswered pre)
    (hend : let y := (c.modifyRecordHeld "IPHostGroup" group (addMember group host)
        (some fun e => host ∈ hostMembers e) >>= fun _ => pure (true, host)).exec hostFirewall t
      BlockEnds c HostStore.hosts HostStore.groups group ip name s
        ⟨y.server, y.result, pre ++ y.trace⟩) : Intact s.groups g host := by
  obtain ⟨hans, -, hlisted, hwritten⟩ := exec_addMember_hostFirewall (c := c) host
    (hgroups ▸ hn) (hgroups ▸ hflat) (hgroups ▸ hg) hgname hipv4
  rw [exec_bind_pure] at hend
  dsimp only at hend
  generalize (c.modifyRecordHeld "IPHostGroup" group (addMember group host) _).exec hostFirewall t
    = y at hans hlisted hwritten hend
  have hall : c.GetsAnswered (pre ++ y.trace) := by
    intro x hx
    rcases List.mem_append.mp hx with hx | hx
    · exact hpre x hx
    · exact hans x hx
  unfold Intact
  split
  · next hmem =>
    obtain ⟨hok, hserver⟩ := hlisted hmem
    obtain ⟨_, -, -, -, happlied⟩ := hend.returned true host (by rw [hok]; rfl)
    obtain ⟨haddress, -⟩ := happlied hall
    rw [hserver] at haddress
    exact hfree hmem haddress
  · next hout =>
    obtain ⟨sent, hadded, hafter⟩ := hwritten hout
    rw [hgroups] at hafter
    rw [← hadded.arrives_iff hhost hg]
    by_contra hlost
    rcases hr : y.result with e | ⟨⟩
    · refine not_lost hn hg hgname hout hhost hadded hlost (.inl rfl) ?_
      rw [← hafter, ← hgname, replaceRecord_self hn hg]
      exact hend.raised e (by rw [hr]; rfl)
    · obtain ⟨g₁, hg₁, hname₁, -, happlied⟩ := hend.returned true host (by rw [hr]; rfl)
      obtain ⟨-, g', hafter', -, hg'⟩ := happlied hall
      rw [hn.eq_of_nameOf_eq hg hg₁ (hname₁.trans hgname.symm)] at hg'
      exact not_lost hn hg hgname hout hhost hadded hlost (hg'.imp_right And.left)
        (hafter.symm.trans hafter')

/-- The two reads are answered, so the rest is up to what follows them. -/
lemma exec_blockIpInGroup_hostFirewall (ip name : String) (hhosts : Named t.hosts)
    (hflatHosts : Flat "IPHost" t.hosts) (hn : Named t.groups) (hflat : Flat "IPHostGroup" t.groups)
    (hg : g ∈ t.groups) (hgname : nameOf g = group) (hipv4 : IsIpv4 g) :
    ∃ pre, c.GetsAnswered pre ∧ (c.blockIpInGroup group ip name).exec hostFirewall t =
      let y := (c.joinGroup group ip name g (t.hosts.filterMap (ipHostName ip))).exec hostFirewall t
      ⟨y.server, y.result, pre ++ y.trace⟩ := by
  have hroot : c.readAnswer (recordsAnswer "IPHostGroup" t.groups) = .ok _ :=
    readAnswer_recordsAnswer c (by decide) (by decide) hflat hn.nonempty
  have hrootHosts : c.readAnswer (recordsAnswer "IPHost" t.hosts) = .ok _ :=
    readAnswer_recordsAnswer c (by decide) (by decide) hflatHosts hhosts.nonempty
  have hread : c.readGroup group (recordsAnswer "IPHostGroup" t.groups) = .ok g := by
    rw [SophosClient.readGroup, (c.readRecord_ok_iff (readsAs_recordsAnswer c (by decide) _)
      hn hroot).mpr ⟨hg, hgname⟩]
    rcases checkIpv4Group_cases g group with ⟨-, hc⟩ | ⟨hno, -⟩
    · simp [Except.bind, Except.map, hc]
    · exact absurd hipv4 hno
  obtain ⟨hosts, hreadHosts⟩ :
      ∃ hosts, c.readIpHosts ip (recordsAnswer "IPHost" t.hosts) = .ok hosts := by
    rw [SophosClient.readIpHosts, hrootHosts]
    exact ⟨_, rfl⟩
  obtain rfl := c.readIpHosts_of_readsAs (readsAs_recordsAnswer c (by decide) _) hreadHosts
  have hget : hostFirewall t (c.request (.get "IPHostGroup")) =
      (t, recordsAnswer "IPHostGroup" t.groups) := rfl
  have hgetHosts : hostFirewall t (c.request (.get "IPHost")) =
      (t, recordsAnswer "IPHost" t.hosts) := rfl
  have hpre : c.GetsAnswered [
      (c.request (.get "IPHostGroup"), recordsAnswer "IPHostGroup" t.groups),
      (c.request (.get "IPHost"), recordsAnswer "IPHost" t.hosts)] :=
    List.forall_mem_cons.mpr ⟨fun _ => ⟨_, hroot⟩,
      List.forall_mem_singleton.mpr fun _ => ⟨_, hrootHosts⟩⟩
  refine ⟨_, hpre, ?_⟩
  rw [exec_blockIpInGroup]
  dsimp only
  rw [hget, hread]
  dsimp only
  rw [hgetHosts, hreadHosts]

lemma joinsIntact_of_blockEnds {s : HostStore} (hhosts : Named s.hosts)
    (hflatHosts : Flat "IPHost" s.hosts) (hgroups : Named s.groups)
    (hflat : Flat "IPHostGroup" s.groups) (hname : strip name = name)
    (hend : BlockEnds c HostStore.hosts HostStore.groups group ip name s
      ((c.blockIpInGroup group ip name).exec hostFirewall s)) :
    JoinsIntact s.hosts s.groups group ip name := by
  intro g hg hgname hipv4 hnone host hjoin
  have hmem : ∀ h, h ∈ s.hosts.filterMap (ipHostName ip) ↔ HasAddress s.hosts ip h :=
    mem_ipHostNames hhosts.nonempty ip
  obtain ⟨pre, hpre, hexec⟩ := exec_blockIpInGroup_hostFirewall (c := c) ip name hhosts hflatHosts
    hgroups hflat hg hgname hipv4
  have hfind : (s.hosts.filterMap (ipHostName ip)).find? (fun h => decide (h ∈ hostMembers g)) =
      none := by
    rw [List.find?_eq_none]
    intro h hh
    simpa using fun hin => hnone h hin ((hmem h).mp hh)
  rw [hexec] at hend
  unfold SophosClient.joinGroup at hend
  rw [hfind] at hend
  dsimp only at hend
  unfold hostToJoin at hjoin
  generalize s.hosts.filterMap (ipHostName ip) = hosts at hmem hend hjoin
  rcases hosts with _ | ⟨first, hosts⟩
  · have hfresh : lineEnds name ∉ s.hosts.map nameOf ∧ host = name := by
      simpa [eq_comm] using hjoin
    obtain ⟨hnew, rfl⟩ := hfresh
    obtain ⟨o, ho⟩ := exec_addIpHostHeld_hostFirewall (c := c) ip hname hnew
    dsimp only at hend
    rw [exec_bind_ok hostFirewall ho, ← List.append_assoc] at hend
    have hpre' : c.GetsAnswered (pre ++
        [(c.request (.set "add" (SophosClient.newIpHost ip host).received), o)]) := by
      intro x hx
      rcases List.mem_append.mp hx with hx | hx
      · exact hpre x hx
      · rw [List.mem_singleton.mp hx]
        intro hget
        cases hget
    refine intact_of_joined ⟨(SophosClient.newIpHost ip host).received :: s.hosts, s.groups⟩
      hgroups hflat hg hgname hipv4 hname rfl ?_ hpre' hend
    -- the new host is the only one with the address, under the name that arrives
    rintro - ⟨e, he, hename, haddress⟩
    rcases List.mem_cons.mp he with rfl | he
    · rw [nameOf_newIpHost_received ip hname] at hename
      exact Xml.lineEnds_eq_iff.mp hename
    · exact absurd ((hmem host).mpr ⟨e, he, hename, haddress⟩) List.not_mem_nil
  · obtain rfl : host = first := by simpa [eq_comm] using hjoin
    have haddress : HasAddress s.hosts ip host := (hmem host).mp List.mem_cons_self
    dsimp only at hend
    rw [pure_bind] at hend
    exact intact_of_joined s hgroups hflat hg hgname hipv4 haddress.strip_eq rfl
      (fun hin h => absurd h (hnone host hin)) hpre hend

end OnHostFirewall

/-- **`block_ip_in_group` end to end.** Take hosts and groups under different names that are not
empty, with no record inside another one, and any firewall that keeps them. If there is no such
group of IPv4, the call raises before any write. A host is added only where no host of type IP has
the address, and at most one. A call that raises has left every group as it was. One that returns
says whether no host with the address was a member; and if its reads were answered, the host is in
the group and has the address, and the group is otherwise as before, as are the others.

All this holds on every such firewall exactly if no carriage return is lost that matters: one in
the group or in the host, where the host has to be put into the group. -/
theorem block_ip_in_group_end_to_end_iff (c : SophosClient) {hosts groups₀ : List Element}
    (hhosts : Named hosts) (hflatHosts : Flat "IPHost" hosts) (hgroups : Named groups₀)
    (hflat : Flat "IPHostGroup" groups₀) (group : String) (hip : strip ip = ip)
    (hreturn : '\r' ∉ ip.toList) (hname : strip name = name) :
    (∀ (S : Type) (serve : S → Request → S × HttpOutcome) (ipHosts groups : S → List Element)
      (s : S), KeepsHosts c serve ipHosts groups → ipHosts s = hosts → groups s = groups₀ →
      BlockEnds c ipHosts groups group ip name s
        ((c.blockIpInGroup group ip name).exec serve s)) ↔
      JoinsIntact hosts groups₀ group ip name := by
  constructor
  · intro hends
    refine joinsIntact_of_blockEnds (c := c) (s := ⟨hosts, groups₀⟩) hhosts hflatHosts hgroups hflat
      hname ?_
    exact hends HostStore hostFirewall HostStore.hosts HostStore.groups ⟨hosts, groups₀⟩
      (keepsHosts_hostFirewall c) rfl rfl
  · rintro hintact S serve ipHosts groups s hk rfl rfl
    exact blockEnds hk hhosts hgroups group hip hreturn hname hintact

/-- A device without a host, which joins a laptop in the group. -/
theorem block_ip_in_group_end_to_end_iff_phone :
    let c : SophosClient := ⟨"fw", 4444, "admin", "secret"⟩
    let s : HostStore := ⟨[device "laptop" "10.0.0.7"], [deviceGroup "IPv4" "laptop"]⟩
    let y := (c.blockIpInGroup "Blocked" "10.0.0.8" "HA 10.0.0.8").exec hostFirewall s
    y.result = .ok (true, "HA 10.0.0.8") ∧
      BlockEnds c HostStore.hosts HostStore.groups "Blocked" "10.0.0.8" "HA 10.0.0.8"
        s y := by
  intro c s y
  have hy : y.result = .ok (true, "HA 10.0.0.8") := by decide +kernel
  have hflatHosts : Flat "IPHost" s.hosts := by
    intro e he
    obtain rfl := List.mem_singleton.mp he
    exact ⟨rfl, rfl⟩
  have hflat : Flat "IPHostGroup" s.groups := by
    intro e he
    obtain rfl := List.mem_singleton.mp he
    exact ⟨rfl, rfl⟩
  have hiff := block_ip_in_group_end_to_end_iff c ⟨by decide, by decide⟩ hflatHosts
    ⟨by decide, by decide⟩ hflat "Blocked" (show strip "10.0.0.8" = "10.0.0.8" by decide)
    (by decide) (show strip "HA 10.0.0.8" = "HA 10.0.0.8" by decide)
  refine ⟨hy, hiff.mpr ?_ HostStore hostFirewall HostStore.hosts HostStore.groups s
    (keepsHosts_hostFirewall c) rfl rfl⟩
  intro g hg _ _ _ host hhost
  have hjoin : hostToJoin s.hosts "10.0.0.8" "HA 10.0.0.8" = some "HA 10.0.0.8" := by decide
  obtain rfl := List.mem_singleton.mp hg
  obtain rfl := Option.some.inj (hjoin.symm.trans hhost)
  rw [Intact, if_neg (by decide)]
  exact .inl ⟨by decide, by decide⟩

/-- A carriage return in the description of a group is a line feed after the call; and one in the
name of a new host has the call raise although the group is another one. -/
theorem blocked_with_line_feed :
    let c : SophosClient := ⟨"fw", 4444, "admin", "secret"⟩
    let group : String → Element := fun description =>
      .new "IPHostGroup" none [.new "Name" (some "Blocked") [],
        .new "Description" (some description) []]
    let texts : HostStore → List (Option String × List String) := fun s =>
      s.groups.map fun g => (g.findtext "Description", hostMembers g)
    let s : HostStore := ⟨[], [group "a\rb"]⟩
    let y := (c.blockIpInGroup "Blocked" "10.0.0.8" "HA").exec hostFirewall s
    let t : HostStore := ⟨[], [group "a"]⟩
    let z := (c.blockIpInGroup "Blocked" "10.0.0.8" "H\rA").exec hostFirewall t
    (Named s.groups ∧ Flat "IPHostGroup" s.groups ∧ y.result = .ok (true, "HA") ∧
      c.GetsAnswered y.trace ∧ texts y.server = [(some "a\nb", ["HA"])] ∧
      ¬ BlockEnds c HostStore.hosts HostStore.groups "Blocked" "10.0.0.8" "HA" s y) ∧
    z.result.isOk = false ∧ texts z.server = [(some "a", ["H\nA"])] ∧
      ¬ BlockEnds c HostStore.hosts HostStore.groups "Blocked" "10.0.0.8" "H\rA" t z := by
  intro c group texts s y t z
  have hflat : Flat "IPHostGroup" s.groups := by
    intro e he
    obtain rfl := List.mem_singleton.mp he
    exact ⟨rfl, rfl⟩
  have hnone : Named s.hosts := ⟨by decide, by decide⟩
  have hflatHosts : Flat "IPHost" s.hosts := fun _ he => absurd he List.not_mem_nil
  have hs : Named s.groups := ⟨by decide, by decide⟩
  have hz : texts z.server = [(some "a", ["H\nA"])] := by decide +kernel
  have hzr : z.result.isOk = false := by decide +kernel
  refine ⟨⟨hs, hflat, by decide +kernel, ?_, by decide +kernel, fun h => ?_⟩, hzr, hz, fun h => ?_⟩
  · exact getsAnswered_of_all (by decide +kernel)
  · have hintact := joinsIntact_of_blockEnds hnone hflatHosts hs hflat (by decide) h _
      (List.mem_singleton_self _) (by decide) (by unfold IsIpv4; decide)
      (fun _ hm => absurd hm List.not_mem_nil) "HA" (by decide)
    rw [Intact, if_neg (by decide)] at hintact
    rcases hintact with ⟨hclean, -⟩ | ⟨hname, -⟩
    · exact absurd hclean (by decide)
    · exact absurd (by decide) hname
  · rcases hr : z.result with e | r
    · have hsame := h.raised e hr
      rw [show texts z.server = texts t from congrArg (List.map _) hsame] at hz
      exact absurd hz (by decide)
    · rw [hr] at hzr
      cases hzr

end Firewall

end SophosFw.Client
