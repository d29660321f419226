import SophosFw.RecordRuns

/-!
Devices that are blocked and unblocked while other operations do the same.

Two calls for one address do not both create its host, and a device stays blocked, or unblocked,
until a call says otherwise.
-/

namespace SophosFw.Client

open SophosFw.PyDict SophosFw.PyText SophosFw.ElementTree SophosFw.Records SophosFw.Slot
  SophosFw.Runs
open ClientM

section Frame

variable {S α β V : Type} {serve : S → Request → S × HttpOutcome} {Lost : HttpOutcome → Prop}
  {P : Request → Prop} (view : S → V)

lemma wp_bind_of_asks {x : ClientM α} {f : α → ClientM β} {Q : Except PyExc β → S → Prop} {s : S}
    (hx : Asks P x) (hserve : ∀ t r, P r → view (serve t r).1 = view t)
    (hok : ∀ a t, view t = view s → (f a).wp serve Lost Q t)
    (herr : ∀ e t, view t = view s → Q (.error e) t) : (x >>= f).wp serve Lost Q s := by
  have hframe : x.wp serve Lost (fun _ t => view t = view s) s :=
    wp_of_asks hx (fun t r hr ht => (hserve t r hr).trans ht) rfl
  refine ClientM.wp_bind.mpr (ClientM.wp_mono (fun r t ht => ?_) hframe)
  rcases r with e | a
  · exact herr e t ht
  · exact hok a t ht

end Frame

def AddsNone (r : Request) : Prop := ∀ e, r.operation ≠ .set "add" e

section Hosts

variable {S : Type} (c : SophosClient) (serve : S → Request → S × HttpOutcome)
  (hosts : S → List Element)

/-- A read of the hosts that is answered is answered with them; a new host is added or not, and
nothing else changes them. -/
structure StoresHosts : Prop where
  get : ∀ s root, c.readAnswer (serve s (c.request (.get "IPHost"))).2 = .ok root →
    (root.iter "IPHost").filter (fun e => !isStatusOnly e) = hosts s
  add : ∀ s ip name,
    let x := serve s (c.request (.set "add" (SophosClient.newIpHost ip name)))
    (hosts x.1).Perm (SophosClient.newIpHost ip name :: hosts s) ∨ hosts x.1 = hosts s
  other : ∀ s r, AddsNone r → hosts (serve s r).1 = hosts s

/-- The names of the hosts with an address. -/
def hostsOf (ip : String) (l : List Element) : List String := l.filterMap (ipHostName ip)

/-- What a call makes of the hosts. -/
def HostsStep (call : Call) (l l' : List Element) : Prop :=
  l' = l ∨ ∃ group ip name, call = .blockIpInGroup group ip name ∧ hostsOf ip l = [] ∧
    l'.Perm (SophosClient.newIpHost ip name :: l)

variable {c serve hosts} {Lost : HttpOutcome → Prop}

lemma wp_ipHostsHeld {ip : String} {Q : Except PyExc (List String) → S → Prop} {s : S} :
    (c.ipHostsHeld ip).wp serve Lost Q s ↔
      let x := serve s (c.request (.get "IPHost"))
      Q (c.readIpHosts ip x.2) x.1 ∧
        ∀ o, Lost o → Q (c.readIpHosts ip o) x.1 ∧ Q (c.readIpHosts ip o) s := by
  have hsame : ∀ o, onOk Q (fun root =>
      (pure ((root.iter "IPHost").filterMap (ipHostName ip)) : ClientM (List String)).wp serve
        Lost Q) (c.readAnswer o) = Q (c.readIpHosts ip o) := by
    intro o
    rw [SophosClient.readIpHosts]
    rcases c.readAnswer o with e | root <;> rfl
  unfold SophosClient.ipHostsHeld
  rw [ClientM.wp_bind, SophosClient.wp_post]
  simp only [hsame]

lemma wp_addIpHostHeld {ip name : String} {Q : Except PyExc String → S → Prop} {s : S}
    (h : ∀ r t, t = s ∨
        t = (serve s (c.request (.set "add" (SophosClient.newIpHost ip name).received))).1 →
      (∀ host, r = .ok host → host = name) → Q r t) :
    (c.addIpHostHeld ip name).wp serve Lost Q s := by
  have hanswer {rest : Element → ClientM String} (hrest : ∀ root t, t = s ∨
      t = (serve s (c.request (.set "add" (SophosClient.newIpHost ip name).received))).1 →
        (rest root).wp serve Lost Q t) (o : HttpOutcome) (t : S)
      (ht : t = s ∨
        t = (serve s (c.request (.set "add" (SophosClient.newIpHost ip name).received))).1) :
      onOk Q (fun root => (rest root).wp serve Lost Q) (c.readAnswer o) t := by
    rcases c.readAnswer o with e | root
    · exact h _ t ht fun host he => by cases he
    · exact hrest root t ht
  unfold SophosClient.addIpHostHeld
  rw [ClientM.wp_bind, SophosClient.wp_post]
  -- what follows the answer is named by unification, once for every outcome
  refine (fun hall => ⟨hall _ _ (.inr rfl), fun o _ => ⟨hall o _ (.inr rfl), hall o _ (.inl rfl)⟩⟩)
    (hanswer ?_)
  intro root t ht
  split
  · exact h _ t ht fun host he => (Except.ok.inj he).symm
  · split <;> exact h _ t ht fun host he => by cases he
  · exact h _ t ht fun host he => by cases he

lemma hostsOf_of_readIpHosts (hk : StoresHosts c serve hosts) {ip : String} {s : S}
    {l : List String}
    (h : c.readIpHosts ip (serve s (c.request (.get "IPHost"))).2 = .ok l) :
    l = hostsOf ip (hosts s) := by
  rw [SophosClient.readIpHosts] at h
  rcases hr : c.readAnswer (serve s (c.request (.get "IPHost"))).2 with e | root
  · rw [hr] at h
    cases h
  rw [hr] at h
  obtain rfl := Except.ok.inj h
  have hstatus : ∀ e : Element, (if (!isStatusOnly e) = true then ipHostName ip e else none) =
      ipHostName ip e := by
    intro e
    rcases hs : isStatusOnly e with _ | _
    · rfl
    · simp [ipHostName, hs]
  rw [hostsOf, ← hk.get s root hr, List.filterMap_filter]
  simp only [hstatus]

lemma addsNone_of_scope {call : Call} {r : Request}
    (hcall : ∀ group ip name, call ≠ .blockIpInGroup group ip name) (h : call.InScope c r) :
    AddsNone r := by
  intro e he
  obtain ⟨-, hscope⟩ := h
  rw [he] at hscope
  have hwrites : ∀ {tag name : String} {Q : Element → Prop},
      ¬ Writes tag name Q (.set "add" e) := by
    rintro tag name Q ⟨e', h, -⟩
    exact absurd (Operation.set.inj h).1 (by decide)
  cases call with
  | blockIpInGroup group ip' name' => exact hcall group ip' name' rfl
  | setFirewallRuleStatus | setWebFilterDefaultAction | setUrlInGroup =>
    rcases hscope with h | h
    · cases h
    · exact hwrites h
  | unblockIpInGroup group ip' =>
    rcases hscope with h | h | h
    · cases h
    · cases h
    · exact hwrites h
  | setWirelessNetworkStatus | setIpsecConnectionActive =>
    exact absurd (Operation.set.inj hscope).1 (by decide)
  | _ => cases hscope

lemma addsNone_get (tag : String) : AddsNone (c.request (.get tag)) := by
  intro e h
  cases h

lemma addsNone_update (e : Element) : AddsNone (c.request (.set "update" e)) := by
  intro e' h
  exact absurd (Operation.set.inj h).1 (by decide)

lemma wp_hosts_blockIpInGroup (hk : StoresHosts c serve hosts) (hlost : ∀ o, Lost o → GivenUp o)
    (group : String) {ip name : String} (hip : '\r' ∉ ip.toList) (hname : '\r' ∉ name.toList)
    (s : S) :
    (c.blockIpInGroup group ip name).wp serve Lost
      (fun _ t => HostsStep (.blockIpInGroup group ip name) (hosts s) (hosts t)) s := by
  have hframe := hk.other
  refine ClientM.wp_withSlot ?_ (.inl rfl)
  refine wp_bind_of_asks hosts (asks_record (addsNone_get _)) hframe
    (fun elem t ht => ?_) fun e t ht => .inl ht
  have hkeeps {α : Type} {x : ClientM α} (hx : Asks AddsNone x) {u : S}
      (hu : HostsStep (.blockIpInGroup group ip name) (hosts s) (hosts u)) : x.wp serve Lost
        (fun _ v => HostsStep (.blockIpInGroup group ip name) (hosts s) (hosts v)) u :=
    wp_of_asks (I := fun v => HostsStep (.blockIpInGroup group ip name) (hosts s) (hosts v)) hx
      (fun v r hr hv => by rwa [hframe v r hr]) hu
  have hjoin (host : String) : Asks AddsNone (c.modifyRecordHeld "IPHostGroup" group
      (addMember group host) (some fun e => host ∈ hostMembers e) >>= fun _ =>
        pure (true, host)) :=
    (asks_modify (addsNone_get _) fun _ sent _ _ _ _ => addsNone_update sent.received).bind
      fun _ => asks_pure _
  rw [ClientM.wp_bind, ClientM.wp_ensure]
  rcases checkIpv4Group elem group with e | ⟨⟩
  · exact .inl ht
  change ClientM.wp serve Lost (c.ipHostsHeld ip >>= _) _ t
  rw [ClientM.wp_bind, wp_ipHostsHeld]
  have hsame : hosts (serve t (c.request (.get "IPHost"))).1 = hosts s :=
    (hframe t _ (addsNone_get _)).trans ht
  refine ⟨?_, fun o ho => ?_⟩
  swap
  · obtain ⟨e, he⟩ := c.readAnswer_givenUp (hlost o ho)
    rw [SophosClient.readIpHosts, he]
    exact ⟨.inl hsame, .inl ht⟩
  rcases hr : c.readIpHosts ip (serve t (c.request (.get "IPHost"))).2 with e | names
  · exact .inl hsame
  obtain rfl := hostsOf_of_readIpHosts hk hr
  rw [ht]
  dsimp only [ClientM.onOk]
  split
  · exact .inl hsame
  rcases hnames : hostsOf ip (hosts s) with _ | ⟨host, rest⟩
  swap
  · exact hkeeps (Asks.bind (asks_pure _) hjoin) (.inl hsame)
  -- nobody has the address while the host is created
  generalize (serve t (c.request (.get "IPHost"))).1 = u at hsame
  rw [ClientM.wp_bind]
  have hadded : HostsStep (.blockIpInGroup group ip name) (hosts s) (hosts (serve u
      (c.request (.set "add" (SophosClient.newIpHost ip name).received))).1) := by
    rw [received_newIpHost hip hname]
    rcases hk.add u ip name with h | h
    · refine .inr ⟨group, ip, name, rfl, hnames, ?_⟩
      rwa [hsame] at h
    · exact .inl (h.trans hsame)
  refine wp_addIpHostHeld fun r v hv _ => ?_
  have hstep : HostsStep (.blockIpInGroup group ip name) (hosts s) (hosts v) := by
    rcases hv with rfl | rfl
    · exact .inl hsame
    · exact hadded
  rcases r with e | host
  · exact hstep
  · exact hkeeps (hjoin host) hstep

lemma wp_hostsCall (hk : StoresHosts c serve hosts) (hlost : ∀ o, Lost o → GivenUp o)
    {call : Call} (hplain : call.Plain) (s : S) :
    (call.body c).wp serve Lost (fun _ t => HostsStep call (hosts s) (hosts t)) s := by
  by_cases hcall : ∃ group ip name, call = .blockIpInGroup group ip name
  · obtain ⟨group, ip, name, rfl⟩ := hcall
    have hargs : ∀ t ∈ [group, ip, name], '\r' ∉ t.toList := hplain
    exact wp_hosts_blockIpInGroup hk hlost group (hargs ip (by simp)) (hargs name (by simp)) s
  · push Not at hcall
    refine wp_of_asks (I := fun t => HostsStep call (hosts s) (hosts t)) 
      (Call.asks_scope c hplain) (fun t r hr ht => ?_) (.inl rfl)
    rwa [hk.other t r (addsNone_of_scope hcall hr)]

lemma ipHostName_newIpHost {ip name : String} (hip : strip ip = ip) (hname : strip name ≠ "") :
    ipHostName ip (SophosClient.newIpHost ip name) = some (strip name) := by
  have haddress : (childText (SophosClient.newIpHost ip name) "IPAddress").getD "" = ip := by
    have hstripped : childText (SophosClient.newIpHost ip name) "IPAddress" =
        if ip = "" then none else some ip := by
      simp [childText, SophosClient.newIpHost, Element.find, Element.new, hip]
    rw [hstripped]
    split
    · next h => rw [h]; rfl
    · rfl
  have hnamed : childText (SophosClient.newIpHost ip name) "Name" = some (strip name) := by
    simp [childText, SophosClient.newIpHost, Element.find, Element.new, hname]
  unfold ipHostName
  rw [if_pos ⟨rfl, rfl, haddress⟩, hnamed]

/-- The hosts that were there, and some that were created for other addresses, one for each. -/
def CreatedFor {ι : Type} (calls : ι → Call) (order : List ι) (l l' : List Element) : Prop :=
  ∃ added : List (String × String),
    l'.Perm (added.map (fun p => SophosClient.newIpHost p.1 p.2) ++ l) ∧
      (added.map Prod.fst).Nodup ∧ ∀ p ∈ added, hostsOf p.1 l = [] ∧
        ∃ i ∈ order, ∃ group, calls i = .blockIpInGroup group p.1 p.2

lemma HostsStep.createdFor {ι : Type} {calls : ι → Call} {order : List ι} {l l' l'' : List Element}
    (hargs : ∀ i group ip name, calls i = .blockIpInGroup group ip name →
      strip ip = ip ∧ strip name ≠ "") {i : ι} (hi : i ∈ order)
    (h : HostsStep (calls i) l' l'') (hl : CreatedFor calls order l l') :
    CreatedFor calls order l l'' := by
  rcases h with rfl | ⟨group, ip, name, hcall, hnone, hadded⟩
  · exact hl
  obtain ⟨added, hperm, hnodup, hfor⟩ := hl
  have hsplit : hostsOf ip (added.map fun p => SophosClient.newIpHost p.1 p.2) = [] ∧
      hostsOf ip l = [] := by
    have hnames := hperm.filterMap (ipHostName ip)
    unfold hostsOf at hnone ⊢
    rwa [hnone, List.nil_perm, List.filterMap_append, List.append_eq_nil_iff] at hnames
  refine ⟨(ip, name) :: added, hadded.trans (hperm.cons _), ?_, ?_⟩
  · refine List.nodup_cons.mpr ⟨fun hmem => ?_, hnodup⟩
    obtain ⟨⟨ip', name'⟩, hp, rfl⟩ := List.mem_map.mp hmem
    obtain ⟨-, j, -, group', hj⟩ := hfor _ hp
    obtain ⟨hip, hname⟩ := hargs j group' ip' name' hj
    have hin : strip name' ∈ hostsOf ip' (added.map fun p => SophosClient.newIpHost p.1 p.2) :=
      List.mem_filterMap.mpr ⟨_, List.mem_map_of_mem hp, ipHostName_newIpHost hip hname⟩
    rw [hsplit.1] at hin
    cases hin
  · intro p hp
    rcases List.mem_cons.mp hp with rfl | hp
    · exact ⟨hsplit.2, i, hi, group, hcall⟩
    · exact hfor p hp

end Hosts

/-! ### The members of a group -/

/-- The host that a call says it has put into the group, or found there. -/
def Call.joined (group : String) : (call : Call) → call.Value → Option String
  | .blockIpInGroup group' _ _, (_, host) => if group' = group then some host else none
  | _, _ => none

/-- The hosts that a call says it has taken out of the group. -/
def Call.left (group : String) : (call : Call) → call.Value → List String
  | .unblockIpInGroup group' _, (_, removed) => if group' = group then removed else []
  | _, _ => []

lemma OneHostList.of_hostsRemoved {e sent : Element} {hosts removed : List String}
    (h : OneHostList e) (hc : HostsRemoved hosts e removed sent) : OneHostList sent := by
  unfold OneHostList at h ⊢
  cases hc with
  | @removed l₁ list l₂ hsplit hlist _ _ =>
    have hlist' : isHostList { list with
        children := list.children.filter fun c => !isMember hosts c } = true := hlist
    rw [hsplit, List.filter_append, List.filter_cons_of_pos hlist] at h
    rw [List.filter_append, List.filter_cons_of_pos hlist']
    simpa using h
  | @dropped l₁ list l₂ hsplit hlist _ _ =>
    rw [hsplit, List.filter_append, List.filter_cons_of_pos hlist] at h
    rw [List.filter_append]
    simp only [List.length_append, List.length_cons] at h ⊢
    omega

/-- A group with at most one list, and nothing in it that is lost on the way. -/
structure PlainGroup (e : Element) : Prop where
  one : OneHostList e
  clean : e.Clean

lemma PlainGroup.of_hostAdded {e sent : Element} {host : String} (h : PlainGroup e)
    (hc : HostAdded host e sent) (hhost : '\r' ∉ host.toList) : PlainGroup sent :=
  ⟨h.one.of_hostAdded hc, hc.clean_iff.mpr ⟨h.clean, hhost⟩⟩

lemma PlainGroup.of_hostsRemoved {e sent : Element} {hosts removed : List String}
    (h : PlainGroup e) (hc : HostsRemoved hosts e removed sent) : PlainGroup sent :=
  ⟨h.one.of_hostsRemoved hc, hc.clean h.clean⟩

/-- No host has a carriage return in its name. -/
def HostsPlain {S : Type} (c : SophosClient) (serve : S → Request → S × HttpOutcome) : Prop :=
  ∀ s ip names, c.readIpHosts ip (serve s (c.request (.get "IPHost"))).2 = .ok names →
    ∀ host ∈ names, '\r' ∉ host.toList

section Members

variable {S : Type} (c : SophosClient) (group : String)
  (serve : S → Request → S × HttpOutcome) (record : S → Element) (Lost : HttpOutcome → Prop)

/-- What a call makes of the group, and what it says of it. -/
structure MembersStep (call : Call) (r : call.Result) (e e' : Element) : Prop where
  differs : DiffersIn isHostList e e'
  joins : (∀ ip name, call ≠ .blockIpInGroup group ip name) →
    ∀ m ∈ hostMembers e', m ∈ hostMembers e
  leaves : (∀ ip, call ≠ .unblockIpInGroup group ip) → ∀ m ∈ hostMembers e, m ∈ hostMembers e'
  joined : ∀ a, r = .ok a → ∀ m ∈ hostMembers e',
    m ∈ hostMembers e ∨ call.joined group a = some m
  left : ∀ a, r = .ok a → ∀ m ∈ hostMembers e, m ∈ hostMembers e' ∨ m ∈ call.left group a
  stays : ∀ a m, r = .ok a → call.joined group a = some m →
    Sure c "IPHostGroup" group serve record Lost → m ∈ hostMembers e'
  gone : ∀ a, r = .ok a → ∀ m ∈ call.left group a,
    Sure c "IPHostGroup" group serve record Lost → m ∉ hostMembers e'

variable {c group serve record Lost} {e e' : Element}

lemma membersStep_block {ip name : String} {r : Except PyExc (Bool × String)}
    (hchange : e' = e ∨ ∃ host, HostAdded host e e' ∧ strip host = host)
    (hok : ∀ changed host, r = .ok (changed, host) → (e' = e ∨ HostAdded host e e') ∧
      strip host = host ∧
      (Sure c "IPHostGroup" group serve record Lost → host ∈ hostMembers e')) :
    MembersStep c group serve record Lost (.blockIpInGroup group ip name) r e e' where
  differs := by
    rcases hchange with rfl | ⟨host, h, -⟩
    · exact ⟨rfl, rfl⟩
    · exact hostAdded_differs h
  joins h := absurd rfl (h ip name)
  leaves _ m hm := by
    rcases hchange with rfl | ⟨host, h, hstrip⟩
    · exact hm
    · rw [h.members hstrip]
      exact List.mem_append_left _ hm
  joined := by
    rintro ⟨changed, host⟩ hr m hm
    obtain ⟨rfl | h, hstrip, -⟩ := hok changed host hr
    · exact .inl hm
    · rw [h.members hstrip] at hm
      rcases List.mem_append.mp hm with hm | hm
      · exact .inl hm
      · obtain rfl := List.mem_singleton.mp hm
        exact .inr (if_pos rfl)
  left := by
    rintro a - m hm
    rcases hchange with rfl | ⟨host, h, hstrip⟩
    · exact .inl hm
    · rw [h.members hstrip]
      exact .inl (List.mem_append_left _ hm)
  stays := by
    rintro ⟨changed, host⟩ m hr hm hsure
    obtain rfl : host = m := Option.some.inj ((if_pos rfl).symm.trans hm)
    exact (hok changed host hr).2.2 hsure
  gone a _ m hm := by cases hm

lemma membersStep_unblock {ip : String} {r : Except PyExc (Bool × List String)}
    (hone : OneHostList e)
    (hchange : e' = e ∨ ∃ hosts removed, HostsRemoved hosts e removed e')
    (hok : ∀ changed removed, r = .ok (changed, removed) →
      (∀ m ∈ hostMembers e, m ∈ hostMembers e' ∨ m ∈ removed) ∧
      (Sure c "IPHostGroup" group serve record Lost → ∀ m ∈ removed, m ∉ hostMembers e')) :
    MembersStep c group serve record Lost (.unblockIpInGroup group ip) r e e' := by
  have hfewer : ∀ m ∈ hostMembers e', m ∈ hostMembers e := by
    intro m hm
    rcases hchange with rfl | ⟨hosts, removed, h⟩
    · exact hm
    · rw [h.members hone] at hm
      exact (List.mem_filter.mp hm).1
  refine ⟨?_, fun _ => hfewer, fun h => absurd rfl (h ip), fun _ _ m hm => .inl (hfewer m hm), ?_,
    fun _ _ _ h => (by cases h), ?_⟩
  · rcases hchange with rfl | ⟨hosts, removed, h⟩
    · exact ⟨rfl, rfl⟩
    · exact hostsRemoved_differs h
  · rintro ⟨changed, removed⟩ hr m hm
    rcases (hok changed removed hr).1 m hm with hm | hm
    · exact .inl hm
    · exact .inr (by rwa [Call.left, if_pos rfl])
  · rintro ⟨changed, removed⟩ hr m hm hsure
    rw [Call.left, if_pos rfl] at hm
    exact (hok changed removed hr).2 hsure m hm

lemma nameOf_of_ipHostName {ip host : String} {e : Element} (h : ipHostName ip e = some host) :
    nameOf e = host := by
  unfold ipHostName at h
  split at h
  · rw [childText_name] at h
    split at h
    · cases h
    · exact Option.some.inj h
  · cases h

lemma strip_of_mem_readIpHosts {ip : String} {o : HttpOutcome} {names : List String}
    (h : c.readIpHosts ip o = .ok names) : ∀ host ∈ names, strip host = host := by
  intro host hhost
  rw [SophosClient.readIpHosts] at h
  rcases hr : c.readAnswer o with e | root
  · rw [hr] at h
    cases h
  rw [hr] at h
  obtain rfl := Except.ok.inj h
  obtain ⟨e, -, he⟩ := List.mem_filterMap.mp hhost
  rw [← nameOf_of_ipHostName he]
  exact strip_strip _

lemma wp_readHosts (hk : StoresRecord c "IPHostGroup" group serve record)
    (hplain : HostsPlain c serve) (hlost : ∀ o, Lost o → GivenUp o) {ip : String}
    {Q : Except PyExc (List String) → S → Prop} {s : S}
    (h : ∀ r t, record t = record s → (∀ names, r = .ok names →
      ∀ host ∈ names, strip host = host ∧ '\r' ∉ host.toList) → Q r t) :
    (c.ipHostsHeld ip).wp serve Lost Q s := by
  have hsame : record (serve s (c.request (.get "IPHost"))).1 = record s := by
    refine hk.other s _ ?_
    rintro ⟨e, he, -⟩
    cases he
  rw [wp_ipHostsHeld]
  refine ⟨h _ _ hsame fun names hr host hhost => ?_, fun o ho => ?_⟩
  · exact ⟨strip_of_mem_readIpHosts hr host hhost, hplain s ip names hr host hhost⟩
  · obtain ⟨err, herr⟩ := c.readAnswer_givenUp (hlost o ho)
    have hread : c.readIpHosts ip o = .error err := by
      rw [SophosClient.readIpHosts, herr]
      rfl
    rw [hread]
    have hnone : ∀ names, (Except.error err : Except PyExc (List String)) = .ok names →
        ∀ host ∈ names, strip host = host ∧ '\r' ∉ host.toList := by
      intro names hnames
      cases hnames
    exact ⟨h _ _ hsame hnone, h _ _ rfl hnone⟩

/-- The write of a block, for a host that has no blanks around its name. -/
lemma wp_join (hk : StoresRecord c "IPHostGroup" group serve record)
    (hlost : ∀ o, Lost o → GivenUp o) (hgroup : '\r' ∉ group.toList) (ip name : String)
    {host : String} (hhost : strip host = host) (hreturn : '\r' ∉ host.toList) {s : S}
    (hrec : PlainGroup (record s)) :
    (c.modifyRecordHeld "IPHostGroup" group (addMember group host)
      (some fun e => host ∈ hostMembers e) >>= fun _ => pure (true, host)).wp serve Lost
      (fun r t => PlainGroup (record t) ∧
        MembersStep c group serve record Lost (.blockIpInGroup group ip name) r (record s)
          (record t)) s := by
  rw [ClientM.wp_bind]
  refine ClientM.wp_mono (fun r t h => ?_) (wp_modifyRecordHeld hk hlost hgroup
    (fun e sent kept htag hname hc => ?_) s)
  swap
  · obtain ⟨-, hadded⟩ := addMember_eq_some hc
    exact ⟨hadded.tag_eq.trans htag, hadded.nameOf_eq.trans hname⟩
  have hsent : ∀ sent kept, addMember group host (record s) = .ok (some sent, kept) →
      PlainGroup sent :=
    fun sent kept hc => hrec.of_hostAdded (addMember_eq_some hc).2 hreturn
  have hmade := h.made_of_clean fun sent kept hc => (hsent sent kept hc).clean
  have hrec' : PlainGroup (record t) := by
    rcases hmade with hsame | ⟨kept, hc⟩
    · rwa [hsame]
    · exact hsent _ kept hc
  have hchange : record t = record s ∨ HostAdded host (record s) (record t) := by
    rcases hmade with hsame | ⟨kept, hc⟩
    · exact .inl hsame
    · exact .inr (addMember_eq_some hc).2
  have hchange' : record t = record s ∨
      ∃ host, HostAdded host (record s) (record t) ∧ strip host = host :=
    hchange.imp_right fun hadded => ⟨host, hadded, hhost⟩
  rcases r with err | ⟨⟩
  · exact ⟨hrec', membersStep_block hchange' fun changed host hr => by cases hr⟩
  refine ⟨hrec', membersStep_block hchange' fun changed host' hr => ?_⟩
  obtain ⟨rfl, rfl⟩ := Prod.mk.inj (Except.ok.inj hr)
  refine ⟨hchange, hhost, fun hsure => ?_⟩
  rcases h.returned () rfl with ⟨hc, hsame⟩ | ⟨sent, hc, happlied, hverified⟩
  · rw [hsame]
    exact addMember_eq_none hc
  rcases hsure with hconfirms | ⟨hanswers, hnone⟩
  · rw [happlied hconfirms, Element.received_eq_self_iff.mpr (hsent sent () hc).clean,
      (addMember_eq_some hc).2.members hhost]
    exact List.mem_append_right _ List.mem_cons_self
  · simpa using hverified _ rfl hanswers hnone

lemma wp_blockIpInGroup (hk : StoresRecord c "IPHostGroup" group serve record)
    (hplain : HostsPlain c serve) (hlost : ∀ o, Lost o → GivenUp o)
    (hgroup : '\r' ∉ group.toList) {ip name : String} (hname : strip name = name)
    (hreturn : '\r' ∉ name.toList) {s : S} (hrec : PlainGroup (record s)) :
    (c.blockIpInGroup group ip name).wp serve Lost (fun r t => PlainGroup (record t) ∧
      MembersStep c group serve record Lost (.blockIpInGroup group ip name) r (record s)
        (record t)) s := by
  have hraised {err : PyExc} {t : S} (h : record t = record s) : PlainGroup (record t) ∧
      MembersStep c group serve record Lost (.blockIpInGroup group ip name) (.error err)
        (record s) (record t) :=
    ⟨by rwa [h], membersStep_block (.inl h) fun changed host hr => by cases hr⟩
  refine ClientM.wp_withSlot ?_ (hraised rfl)
  rw [ClientM.wp_bind]
  refine wp_read hk hlost fun r t hsame hget _ => ?_
  rcases r with err | elem
  · exact hraised hsame
  obtain ⟨rfl, -⟩ := hget elem rfl
  change ClientM.wp serve Lost (ensure (checkIpv4Group (record s) group) >>= _) _ t
  rw [ClientM.wp_bind, ClientM.wp_ensure]
  rcases checkIpv4Group (record s) group with err | ⟨⟩
  · exact hraised hsame
  change ClientM.wp serve Lost (c.ipHostsHeld ip >>= _) _ t
  rw [ClientM.wp_bind]
  refine wp_readHosts hk hplain hlost fun r u hsame' hread => ?_
  rw [hsame] at hsame'
  rcases r with err | names
  · exact hraised hsame'
  have hnames := hread names rfl
  dsimp only [ClientM.onOk]
  split
  · next member hfind =>
    refine ⟨by rwa [hsame'], membersStep_block (.inl hsame') fun changed host hr => ?_⟩
    obtain ⟨rfl, rfl⟩ := Prod.mk.inj (Except.ok.inj hr)
    refine ⟨.inl hsame', (hnames _ (List.mem_of_find?_eq_some hfind)).1, fun _ => ?_⟩
    rw [hsame']
    simpa using List.find?_some hfind
  have hrec' : PlainGroup (record u) := by rwa [hsame']
  rcases names with _ | ⟨host, rest⟩
  · rw [ClientM.wp_bind]
    refine wp_addIpHostHeld fun r v hv hr => ?_
    have hrecord : record v = record s := by
      rcases hv with rfl | rfl
      · exact hsame'
      · refine (hk.other u _ ?_).trans hsame'
        rintro ⟨e, he, -⟩
        exact absurd (Operation.set.inj he).1 (by decide)
    rcases r with err | host
    · exact hraised hrecord
    obtain rfl := hr host rfl
    have hjoin := wp_join hk hlost hgroup ip host hname hreturn (s := v) (by rwa [hrecord])
    rwa [hrecord] at hjoin
  · obtain ⟨hhost, hhostPlain⟩ := hnames host List.mem_cons_self
    have hjoin := wp_join hk hlost hgroup ip name hhost hhostPlain hrec'
    rwa [hsame'] at hjoin

lemma wp_unblockIpInGroup (hk : StoresRecord c "IPHostGroup" group serve record)
    (hplain : HostsPlain c serve) (hlost : ∀ o, Lost o → GivenUp o)
    (hgroup : '\r' ∉ group.toList) {ip : String} {s : S} (hrec : PlainGroup (record s)) :
    (c.unblockIpInGroup group ip).wp serve Lost (fun r t => PlainGroup (record t) ∧
      MembersStep c group serve record Lost (.unblockIpInGroup group ip) r (record s)
        (record t)) s := by
  have hraised {err : PyExc} {t : S} (h : record t = record s) : PlainGroup (record t) ∧
      MembersStep c group serve record Lost (.unblockIpInGroup group ip) (.error err)
        (record s) (record t) :=
    ⟨by rwa [h], membersStep_unblock hrec.one (.inl h) fun changed removed hr => by cases hr⟩
  unfold SophosClient.unblockIpInGroup
  rw [ClientM.wp_bind]
  refine ClientM.wp_withSlot ?_ (hraised rfl)
  rw [ClientM.wp_bind]
  refine wp_readHosts hk hplain hlost fun r t hsame _ => ?_
  rcases r with err | names
  · exact hraised hsame
  refine ClientM.wp_mono (fun r u h => ?_) (wp_modifyRecordHeld hk hlost hgroup
    (fun e sent kept htag hname hc => ?_) t)
  swap
  · obtain ⟨-, hremoved⟩ := removeMembers_eq_some hc
    exact ⟨hremoved.tag_eq.trans htag, hremoved.nameOf_eq.trans hname⟩
  rw [hsame] at h
  have hsent : ∀ sent kept, removeMembers group names (record s) = .ok (some sent, kept) →
      PlainGroup sent := fun sent kept hc => hrec.of_hostsRemoved (removeMembers_eq_some hc).2
  have hmade := h.made_of_clean fun sent kept hc => (hsent sent kept hc).clean
  have hchange : record u = record s ∨
      ∃ hosts removed, HostsRemoved hosts (record s) removed (record u) := by
    rcases hmade with hsame' | ⟨kept, hc⟩
    · exact .inl hsame'
    · exact .inr ⟨names, kept, (removeMembers_eq_some hc).2⟩
  have hrec' : PlainGroup (record u) := by
    rcases hmade with hsame' | ⟨kept, hc⟩
    · rwa [hsame']
    · exact hsent _ kept hc
  rcases r with err | kept
  · exact ⟨hrec', membersStep_unblock hrec.one hchange fun changed removed hr => by cases hr⟩
  refine ⟨hrec', membersStep_unblock hrec.one hchange fun changed removed hr => ?_⟩
  obtain ⟨-, rfl⟩ := Prod.mk.inj (Except.ok.inj hr)
  rcases h.returned kept rfl with ⟨hc, hsame'⟩ | ⟨sent, hc, happlied, hverified⟩
  · obtain ⟨rfl, -⟩ := removeMembers_eq_none hc
    exact ⟨fun m hm => .inl (by rwa [hsame']), fun _ m hm => by cases hm⟩
  obtain ⟨-, hremoved⟩ := removeMembers_eq_some hc
  have hmem : ∀ m, m ∈ kept ↔ m ∈ hostMembers (record s) ∧ m ∈ names := by
    intro m
    rw [hremoved.removed_eq, List.mem_filter, decide_eq_true_eq]
  -- a write that was ignored takes nothing out, so this holds of both groups
  have hkept : ∀ m ∈ hostMembers (record s), m ∈ hostMembers (record u) ∨ m ∈ kept := by
    intro m hm
    by_cases hin : m ∈ names
    · exact .inr ((hmem m).mpr ⟨hm, hin⟩)
    rcases hmade with hsame' | ⟨kept', hc'⟩
    · exact .inl (by rwa [hsame'])
    · rw [(removeMembers_eq_some hc').2.members hrec.one]
      exact .inl (List.mem_filter.mpr ⟨hm, by simpa using hin⟩)
  refine ⟨hkept, fun hsure m hm => ?_⟩
  rcases hsure with hconfirms | ⟨hanswers, hnone⟩
  · rw [happlied hconfirms, Element.received_eq_self_iff.mpr (hsent sent kept hc).clean,
      hremoved.members hrec.one, List.mem_filter]
    rintro ⟨-, hno⟩
    exact absurd ((hmem m).mp hm).2 (by simpa using hno)
  · have hverify := hverified _ rfl hanswers hnone
    simp only [List.all_eq_true, decide_eq_true_eq] at hverify
    intro hin
    exact hverify m hin ((hmem m).mp hm).2

lemma not_updates_group {call : Call} {r : Request}
    (hblock : ∀ ip name, call ≠ .blockIpInGroup group ip name)
    (hunblock : ∀ ip, call ≠ .unblockIpInGroup group ip) (h : call.InScope c r) :
    ¬ Writes "IPHostGroup" group (fun _ => True) r.operation := by
  intro hw
  have hupdated := updated_of_scope h hw (by decide)
  cases call with
  | blockIpInGroup group' ip name =>
    obtain ⟨-, rfl⟩ := Prod.mk.inj (Option.some.inj hupdated)
    exact hblock ip name rfl
  | unblockIpInGroup group' ip =>
    obtain ⟨-, rfl⟩ := Prod.mk.inj (Option.some.inj hupdated)
    exact hunblock ip rfl
  | _ => simp [Call.updated] at hupdated

lemma joined_eq_none {call : Call} (h : ∀ ip name, call ≠ .blockIpInGroup group ip name)
    (a : call.Value) : call.joined group a = none := by
  cases call with
  | blockIpInGroup group' ip name =>
    refine if_neg ?_
    rintro rfl
    exact h ip name rfl
  | _ => rfl

lemma left_eq_nil {call : Call} (h : ∀ ip, call ≠ .unblockIpInGroup group ip) (a : call.Value) :
    call.left group a = [] := by
  cases call with
  | unblockIpInGroup group' ip =>
    refine if_neg ?_
    rintro rfl
    exact h ip rfl
  | _ => rfl

lemma wp_membersCall (hk : StoresRecord c "IPHostGroup" group serve record)
    (hhosts : HostsPlain c serve) (hlost : ∀ o, Lost o → GivenUp o) {call : Call}
    (hplain : call.Plain)
    (hname : ∀ group ip name, call = .blockIpInGroup group ip name → strip name = name) {s : S}
    (hrec : PlainGroup (record s)) :
    (call.body c).wp serve Lost (fun r t => PlainGroup (record t) ∧
      MembersStep c group serve record Lost call r (record s) (record t)) s := by
  by_cases hblock : ∃ ip name, call = .blockIpInGroup group ip name
  · obtain ⟨ip, name, rfl⟩ := hblock
    have hargs : ∀ t ∈ [group, ip, name], '\r' ∉ t.toList := hplain
    exact wp_blockIpInGroup hk hhosts hlost (hargs group (by simp)) (hname group ip name rfl)
      (hargs name (by simp)) hrec
  by_cases hunblock : ∃ ip, call = .unblockIpInGroup group ip
  · obtain ⟨ip, rfl⟩ := hunblock
    exact wp_unblockIpInGroup hk hhosts hlost (hplain group List.mem_cons_self) hrec
  push Not at hblock hunblock
  have hframe : (call.body c).wp serve Lost (fun _ t => record t = record s) s :=
    wp_of_asks (Call.asks_scope c hplain) (fun t r hr ht => by
      rw [hk.other t r (not_updates_group hblock hunblock hr), ht]) rfl
  refine ClientM.wp_mono (fun r t h => ?_) hframe
  rw [h]
  refine ⟨hrec, ⟨rfl, rfl⟩, fun _ m hm => hm, fun _ m hm => hm, fun _ _ m hm => .inl hm,
    fun _ _ m hm => .inl hm, fun a m _ hm => ?_, fun a _ m hm => ?_⟩
  · rw [joined_eq_none hblock] at hm
    cases hm
  · rw [left_eq_nil hunblock] at hm
    cases hm

end Members

section Runs

variable {ι S : Type} {c : SophosClient} {group : String}
  {serve : S → Request → S × HttpOutcome} {record : S → Element}

end Runs

/-! ### A firewall with hosts and one group -/

/-- It takes no two hosts of one name, and every update of the group. -/
def groupFirewall (group : String) (s : List Element × Element) (r : Request) :
    (List Element × Element) × HttpOutcome :=
  match r.operation with
  | .set "add" sent =>
    if nameOf sent ∈ s.1.map nameOf then
      (s, statusAnswer "IPHost" "502" "Entity having same name already exists")
    else ((sent :: s.1, s.2), statusAnswer "IPHost" "200" "Configuration applied")
  | .get "IPHost" => (s, recordsAnswer "IPHost" s.1)
  | _ =>
    ((s.1, (recordFirewall "IPHostGroup" group s.2 r).1),
      (recordFirewall "IPHostGroup" group s.2 r).2)

section GroupFirewall

variable (c : SophosClient) {group : String}

lemma storesHosts_groupFirewall : StoresHosts c (groupFirewall group) Prod.fst where
  get s root h := (readsAs_recordsAnswer c (by decide) s.1).answered root h
  add s ip name := by
    let sent := SophosClient.newIpHost ip name
    rw [show groupFirewall group s (c.request (.set "add" sent)) =
      if nameOf sent ∈ s.1.map nameOf then
        (s, statusAnswer "IPHost" "502" "Entity having same name already exists")
      else ((sent :: s.1, s.2), statusAnswer "IPHost" "200" "Configuration applied") from rfl]
    split
    · exact .inr rfl
    · exact .inl (.refl _)
  other s r h := by
    unfold groupFirewall
    split
    · next sent he => exact absurd he (h sent)
    · rfl
    · rfl

lemma storesRecord_groupFirewall :
    StoresRecord c "IPHostGroup" group (groupFirewall group) Prod.snd where
  get s e h := (storesRecord_recordFirewall c).get s.2 e h
  update s sent htag hname := (storesRecord_recordFirewall c).update s.2 sent htag hname
  other s r h := by
    unfold groupFirewall
    split
    · split <;> rfl
    · rfl
    · exact (storesRecord_recordFirewall c).other s.2 r h

lemma confirmsApplied_groupFirewall :
    ConfirmsApplied c "IPHostGroup" group (groupFirewall group) Prod.snd :=
  fun s sent htag hname h => confirmsApplied_recordFirewall c s.2 sent htag hname h

/-- Hosts without a carriage return in their names. -/
def PlainHosts (s : List Element × Element) : Prop := ∀ e ∈ s.1, '\r' ∉ (nameOf e).toList

instance : DecidablePred PlainHosts := fun s =>
  inferInstanceAs (Decidable (∀ e ∈ s.1, '\r' ∉ (nameOf e).toList))

lemma hostsPlain_groupFirewall : HostsPlain c (guarded PlainHosts (groupFirewall group)) := by
  rintro ⟨s, hs⟩ ip names hread host hhost
  unfold guarded at hread
  split at hread
  · have hreads := readsAs_recordsAnswer c (show "IPHost" ≠ "Response" by decide) s.1
    rw [c.readIpHosts_of_readsAs hreads hread] at hhost
    obtain ⟨e, he, hname⟩ := List.mem_filterMap.mp hhost
    rw [← nameOf_of_ipHostName hname]
    exact hs e he
  · cases hread

end GroupFirewall

end SophosFw.Client
