import SophosFw.BlockDevice

/-!
Unblocking a device: `unblock_ip_in_group` as a whole, and what it undoes.

It takes out every entry that names a host of type IP with the address, and nothing else. Blocking
adds one entry at most, so unblocking restores the members, unless one of them came to stand for
the address in between.
-/

namespace SophosFw.Client

open SophosFw.PyDict SophosFw.PyText SophosFw.ElementTree SophosFw.Records SophosFw.Slot
open SophosFw.Xml (lineEnds)
open ClientM

section Firewall

variable {S : Type} (c : SophosClient) (ipHosts groups : S → List Element)

/-- What became of a group `g` that is now `g'`, with these entries taken out, those of the hosts
with the address. -/
structure Cleared (ip : String) (hosts : List Element) (g g' : Element) (removed : List String) :
    Prop where
  changed : ∃ names, (∀ name, name ∈ names ↔ HasAddress hosts ip name) ∧
    removed = (hostMembers g).filter (fun m => m ∈ names) ∧
    (removed = [] ∧ g' = g ∨ removed ≠ [] ∧ HostsRemoved names g removed g') ∧
    (OneHostList g → hostMembers g' = (hostMembers g).filter fun m => m ∉ names)
  none_left : ∀ m ∈ hostMembers g', ¬ HasAddress hosts ip m

/-- How `unblock_ip_in_group` ended; what it writes of a group is that without the entries, if there
is no carriage return in the group. -/
structure UnblockEnds (group ip : String) (s : S) (y : Ended S (Bool × List String)) : Prop where
  hosts : ipHosts y.server = ipHosts s
  untouched : (∀ g ∈ groups s, nameOf g = group →
    ∀ m ∈ hostMembers g, ¬ HasAddress (ipHosts s) ip m) → NoWrite y.trace
  returned : ∀ changed removed, y.result = .ok (changed, removed) →
    (changed = true ↔ removed ≠ []) ∧ ∃ g ∈ groups s, nameOf g = group ∧
      (g.Clean → c.GetsAnswered y.trace → ∃ g',
        groups y.server = replaceRecord group g' (groups s) ∧
          Cleared ip (ipHosts s) g g' removed)

variable {c ipHosts groups} {serve : S → Request → S × HttpOutcome} {group ip name : String} {s : S}

variable (c serve) in
lemma exec_unblockIpInGroup (group ip : String) (s : S) :
    (c.unblockIpInGroup group ip).exec serve s =
      let get := c.request (.get "IPHost")
      let x := serve s get
      match c.readIpHosts ip x.2 with
      | .error e => ⟨x.1, .error e, [(get, x.2)]⟩
      | .ok hosts =>
        let y := (c.modifyRecordHeld "IPHostGroup" group (removeMembers group hosts)
          (some fun e => (hostMembers e).all fun h => h ∉ hosts)).exec serve x.1
        ⟨y.server, y.result.map fun removed => (decide (removed ≠ []), removed),
          (get, x.2) :: y.trace⟩ := by
  have hread := c.exec_ipHostsHeld serve ip s
  rw [SophosClient.unblockIpInGroup, exec_bind_pure, exec_withSlot]
  dsimp only
  rcases hh : c.readIpHosts ip (serve s (c.request (.get "IPHost"))).2 with err | hosts
  · rw [hh] at hread
    rw [exec_bind_error serve hread]
    rfl
  · rw [hh] at hread
    rw [exec_bind_ok serve hread]
    rfl

lemma cleared {names removed : List String} {g g' : Element} {hosts : List Element}
    (hnames : ∀ name, name ∈ names ↔ HasAddress hosts ip name)
    (hr : removed ≠ [] ∧ HostsRemoved names g removed g')
    (hleft : ∀ m ∈ hostMembers g', m ∉ names) : Cleared ip hosts g g' removed where
  changed := ⟨names, hnames, hr.2.removed_eq, .inr hr, hr.2.members⟩
  none_left m hm h := hleft m hm ((hnames m).mpr h)

lemma cleared_of_none {names : List String} {g : Element} {hosts : List Element}
    (hnames : ∀ name, name ∈ names ↔ HasAddress hosts ip name)
    (hnone : ∀ m ∈ hostMembers g, m ∉ names) : Cleared ip hosts g g [] where
  changed := by
    refine ⟨names, hnames, ?_, .inl ⟨rfl, rfl⟩, fun _ => ?_⟩
    · rw [eq_comm, List.filter_eq_nil_iff]
      intro m hm
      simpa using hnone m hm
    · rw [eq_comm, List.filter_eq_self]
      intro m hm
      simpa using hnone m hm
  none_left m hm h := hnone m hm ((hnames m).mpr h)

lemma unblockEnds (hk : KeepsHosts c serve ipHosts groups) (hhosts : Named (ipHosts s))
    (hgroups : Named (groups s)) (group ip : String) :
    UnblockEnds c ipHosts groups group ip s ((c.unblockIpInGroup group ip).exec serve s) := by
  obtain ⟨hhosts₁, hgroups₁⟩ := hk.get s "IPHost"
  have hget := hk.getHosts s
  rw [exec_unblockIpInGroup]
  dsimp only
  generalize serve s (c.request (.get "IPHost")) = x at hhosts₁ hgroups₁ hget ⊢
  have hno : NoWrite [(c.request (.get "IPHost"), x.2)] := isSet_of_get c _ _
  rcases hh : c.readIpHosts ip x.2 with err | names
  · exact ⟨hhosts₁, fun _ => hno, nofun⟩
  have hnames : ∀ name, name ∈ names ↔ HasAddress (ipHosts s) ip name := by
    rw [c.readIpHosts_of_readsAs hget hh]
    exact mem_ipHostNames hhosts.nonempty ip
  have hchange : ∀ g sent kept, removeMembers group names g = .ok (some sent, kept) →
      nameOf sent = nameOf g ∧ sent.tag = g.tag := by
    intro g sent kept h
    obtain ⟨-, hremoved⟩ := removeMembers_eq_some h
    exact ⟨hremoved.nameOf_eq, hremoved.tag_eq⟩
  have hnamed : Named (groups x.1) := by rwa [hgroups₁]
  have hm := modified_modifyRecordHeld hk hnamed group
    (fun e => (hostMembers e).all fun h => h ∉ names) hchange
  dsimp only
  generalize
    (c.modifyRecordHeld "IPHostGroup" group (removeMembers group names) _).exec serve x.1 = y
      at hm ⊢
  refine ⟨hm.hosts.trans hhosts₁, fun hnone => ?_, fun changed removed hr => ?_⟩
  · -- without a match the closure wants no change
    have hsilent : NoWrite y.trace := by
      refine hm.silent fun g hg hname sent removed h => ?_
      rw [hgroups₁] at hg
      obtain ⟨hne, hremoved⟩ := removeMembers_eq_some h
      rw [hremoved.removed_eq, ne_eq, List.filter_eq_nil_iff] at hne
      refine hne fun m hmem => ?_
      have hout := mt (hnames m).mp (hnone g hg hname m hmem)
      simpa using hout
    intro w hw
    rcases List.mem_cons.mp hw with rfl | hw
    · rfl
    · exact hsilent w hw
  · obtain ⟨removed', hkept, heq⟩ := map_eq_ok_iff.mp hr
    obtain ⟨rfl, rfl⟩ := Prod.mk.inj heq
    obtain ⟨g, hg, hname, hcases⟩ := hm.returned _ hkept
    rw [hgroups₁] at hg hcases
    refine ⟨by simp, g, hg, hname, fun hclean hans => ?_⟩
    rcases hcases with ⟨hc, hsame⟩ | ⟨sent, hc, happlied⟩
    · obtain ⟨rfl, hnone⟩ := removeMembers_eq_none hc
      refine ⟨g, ?_, cleared_of_none hnames hnone⟩
      dsimp only
      rw [hsame, ← hname, replaceRecord_self hgroups hg]
    · obtain ⟨hne, hremoved⟩ := removeMembers_eq_some hc
      obtain ⟨g', hg', hleft, hafter⟩ :=
        happlied (.inl (Element.received_eq_self_iff.mpr (hremoved.clean hclean)))
          fun w hw => hans w (List.mem_cons_of_mem _ hw)
      have hout : ∀ m ∈ hostMembers g', m ∉ names := by simpa using hleft
      rcases hg' with rfl | ⟨rfl, -⟩
      · -- confirmed but not applied: the read-back would have seen the entries
        rw [hremoved.removed_eq, ne_eq, List.filter_eq_nil_iff] at hne
        exact absurd (fun m hm => by simpa using hout m hm) hne
      · exact ⟨g', hafter, cleared hnames ⟨hne, hremoved⟩ hout⟩

lemma BlockEnds.hasAddress_iff {y : Ended S (Bool × String)} {m : String}
    (h : BlockEnds c ipHosts groups group ip name s y) (hname : strip name = name)
    (hreturn : '\r' ∉ name.toList) (hm : HasAddress (ipHosts y.server) ip m) :
    HasAddress (ipHosts s) ip m ∨ m = name ∧ name ∉ (ipHosts s).map nameOf := by
  have hsame : lineEnds name = name := Xml.lineEnds_eq_iff.mpr hreturn
  rcases h.hosts with hsame | ⟨-, hnew, hperm⟩
  · rw [hsame] at hm
    exact .inl hm
  · obtain ⟨e, he, hename, haddress⟩ := hm
    rcases List.mem_cons.mp (hperm.mem_iff.mp he) with rfl | he
    · rw [nameOf_newIpHost_received ip hname, hsame] at hename
      rw [hsame] at hnew
      exact .inr ⟨hename.symm, hnew⟩
    · exact .inl ⟨e, he, hename, haddress⟩

lemma BlockEnds.named_hosts {y : Ended S (Bool × String)}
    (h : BlockEnds c ipHosts groups group ip name s y) (hhosts : Named (ipHosts s))
    (hname : strip name = name) (hne : name ≠ "") : Named (ipHosts y.server) := by
  rcases h.hosts with hsame | ⟨-, hnew, hperm⟩
  · rwa [hsame]
  · constructor
    · rw [(hperm.map nameOf).nodup_iff, List.map_cons, nameOf_newIpHost_received ip hname]
      exact List.nodup_cons.mpr ⟨hnew, hhosts.nodup⟩
    · intro e he
      rcases List.mem_cons.mp (hperm.mem_iff.mp he) with rfl | he
      · rwa [nameOf_newIpHost_received ip hname, ne_eq, Xml.lineEnds_eq_empty_iff]
      · exact hhosts.nonempty e he

/-- The host that is put into the group is one of the hosts, or has the new name. -/
lemma mem_hostToJoin {hosts : List Element} {host : String} (hn : Named hosts)
    (h : host ∈ hostToJoin hosts ip name) : (∃ e ∈ hosts, nameOf e = host) ∨ host = name := by
  unfold hostToJoin at h
  split at h
  · next first rest hnames =>
    obtain rfl := Option.some.inj h
    obtain ⟨e, he, hename, -⟩ := (mem_ipHostNames hn.nonempty ip first).mp (by simp [hnames])
    exact .inl ⟨e, he, hename⟩
  · split at h
    · cases h
    · exact .inr (Option.some.inj h).symm

/-- Blocking and then unblocking restores the members. -/
lemma members_restored (hk : KeepsHosts c serve ipHosts groups) (hhosts : Named (ipHosts s))
    (hgroups : Named (groups s)) (hip : strip ip = ip) (hreturn : '\r' ∉ ip.toList)
    (hname : strip name = name) (hne : name ≠ "") (hnew : '\r' ∉ name.toList)
    (hclean : ∀ e ∈ ipHosts s, '\r' ∉ (nameOf e).toList) {g : Element} (hg : g ∈ groups s)
    (hgname : nameOf g = group) (hgclean : g.Clean) (hone : OneHostList g)
    (hnone : ∀ m ∈ hostMembers g, ¬ HasAddress (ipHosts s) ip m)
    (hstale : name ∈ hostMembers g → name ∈ (ipHosts s).map nameOf)
    {y : Ended S (Bool × String)} (hy : y = (c.blockIpInGroup group ip name).exec serve s)
    {z : Ended S (Bool × List String)} (hz : z = (c.unblockIpInGroup group ip).exec serve y.server)
    {r : Bool × String} (hr : y.result = .ok r) (hans : c.GetsAnswered y.trace)
    {r' : Bool × List String} (hr' : z.result = .ok r') (hans' : c.GetsAnswered z.trace) :
    ∃ g', groups z.server = replaceRecord group g' (groups s) ∧
      hostMembers g' = hostMembers g := by
  have hjoin : ∀ host ∈ hostToJoin (ipHosts s) ip name, '\r' ∉ host.toList := by
    intro host hhost
    rcases mem_hostToJoin hhosts hhost with ⟨e, he, rfl⟩ | rfl
    · exact hclean e he
    · exact hnew
  have hintact : JoinsIntact (ipHosts s) (groups s) group ip name := by
    intro r hr hrname _ _ host hhost
    obtain rfl := hgroups.eq_of_nameOf_eq hg hr (hrname.trans hgname.symm)
    unfold Intact
    split
    · exact hjoin host hhost
    · exact .inl ⟨hgclean, hjoin host hhost⟩
  have hblock := blockEnds hk hhosts hgroups group hip hreturn hname hintact
  rw [← hy] at hblock
  obtain ⟨changed, host⟩ := r
  obtain ⟨g₀, hg₀, hname₀, -, happlied⟩ := hblock.returned changed host hr
  obtain rfl := hgroups.eq_of_nameOf_eq hg hg₀ (hname₀.trans hgname.symm)
  obtain ⟨hhost, g₁, hgroups₁, hmem, hg₁⟩ := happlied hans
  -- none of the members stands for the address in between
  have hnone₁ : ∀ m ∈ hostMembers g₀, ¬ HasAddress (ipHosts y.server) ip m := by
    intro m hm h
    rcases hblock.hasAddress_iff hname hnew h with h | ⟨rfl, hfree⟩
    · exact hnone m hm h
    · exact hfree (hstale hm)
  obtain ⟨hadded, hmembers⟩ : HostAdded host g₀ g₁ ∧ hostMembers g₁ = hostMembers g₀ ++ [host] := by
    refine hg₁.resolve_left ?_
    rintro rfl
    exact hnone₁ host hmem hhost
  have hname₁ : nameOf g₁ = group := hadded.nameOf_eq.trans hgname
  have hgroups₂ : Named (groups y.server) := by
    rw [hgroups₁]
    exact hgroups.replaceRecord hname₁
  have hg₁mem : g₁ ∈ groups y.server := by
    rw [hgroups₁]
    exact mem_replaceRecord hg hgname
  have hunblock := unblockEnds hk (hblock.named_hosts hhosts hname hne) hgroups₂ group ip
  rw [← hz] at hunblock
  obtain ⟨-, g₂, hg₂, hname₂, happlied'⟩ := hunblock.returned r'.1 r'.2 hr'
  obtain rfl := hgroups₂.eq_of_nameOf_eq hg₁mem hg₂ (hname₂.trans hname₁.symm)
  have hhostClean : '\r' ∉ host.toList := by
    rcases hblock.hasAddress_iff hname hnew hhost with ⟨e, he, rfl, -⟩ | ⟨rfl, -⟩
    · exact hclean e he
    · exact hnew
  obtain ⟨g', hgroups', hcleared⟩ :=
    happlied' (hadded.clean_iff.mpr ⟨hgclean, hhostClean⟩) hans'
  refine ⟨g', ?_, ?_⟩
  · rw [hgroups', hgroups₁, replaceRecord_replaceRecord hname₁]
  · obtain ⟨names, hnames, -, -, hrest⟩ := hcleared.changed
    have hout : host ∈ names := (hnames host).mpr hhost
    have hkept : ∀ m ∈ hostMembers g₀, m ∉ names := fun m hm h => hnone₁ m hm ((hnames m).mp h)
    rw [hrest (hone.of_hostAdded hadded), hmembers, List.filter_append]
    simpa [hout, List.filter_eq_self] using hkept

end Firewall

/-! ### On one firewall -/

end SophosFw.Client
