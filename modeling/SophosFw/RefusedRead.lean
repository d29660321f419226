import SophosFw.Confirmation

/-!
A read of the IP hosts that the firewall refuses. `_ip_hosts_held` skips the record that says so
and goes on with the hosts that are left, so whether the operation stops is up to the reads
that follow.
-/

namespace SophosFw.Client

open SophosFw.PyDict SophosFw.PyText SophosFw.ElementTree SophosFw.Records SophosFw.Slot
open ClientM

/-- An IP host record that is nothing but an error with a code. -/
def IsRecordError (e : Element) : Prop :=
  isStatusOnly e = true ∧ ∃ status, e.find "Status" = some status ∧
    (status.attr "code").getD "" ≠ ""

/-- A response in which the firewall refuses the read of the IP hosts. -/
def HostsRefused (outcome : HttpOutcome) : Prop :=
  ∃ status root, outcome = .answer status (.document root) ∧
    ∃ e ∈ root.iter "IPHost", IsRecordError e

section Stops

variable {S α β : Type}

/-- The operation ended with an error of the client and wrote nothing. -/
def Ended.Stopped (y : Ended S α) : Prop :=
  (∃ e, y.result = .error e ∧ e.isSophosError = true) ∧ ∀ x ∈ y.trace, x.1.isSet = false

lemma Ended.stopped_cons {y : Ended S α} {x : Request × HttpOutcome} (hx : x.1.isSet = false) :
    Ended.Stopped (⟨y.server, y.result, x :: y.trace⟩ : Ended S α) ↔ y.Stopped := by
  unfold Ended.Stopped
  simp [hx]

lemma Ended.stopped_error {t : S} {e : PyExc} :
    Ended.Stopped (⟨t, .error e, []⟩ : Ended S α) ↔ e.isSophosError = true := by
  unfold Ended.Stopped
  simp

lemma Ended.stopped_ok {t : S} {a : α} {trace : List (Request × HttpOutcome)} :
    ¬ Ended.Stopped (⟨t, .ok a, trace⟩ : Ended S α) := by
  rintro ⟨⟨e, he, -⟩, -⟩
  cases he

lemma Ended.not_stopped_of_mem {y : Ended S α} {x : Request × HttpOutcome} (hx : x ∈ y.trace)
    (hset : x.1.isSet = true) : ¬ y.Stopped := by
  rintro ⟨-, h⟩
  have hno := h x hx
  rw [hset] at hno
  cases hno

variable (serve : S → Request → S × HttpOutcome) {x : ClientM α} {f : α → ClientM β} {s t : S}
  {trace : List (Request × HttpOutcome)}

lemma stopped_bind_ok {a : α} (h : x.exec serve s = ⟨t, .ok a, trace⟩)
    (hr : ∀ r ∈ trace, r.1.isSet = false) :
    ((x >>= f).exec serve s).Stopped ↔ ((f a).exec serve t).Stopped := by
  rw [exec_bind_ok serve h]
  unfold Ended.Stopped
  refine and_congr_right fun _ => ?_
  constructor
  · intro hall r hmem
    exact hall r (List.mem_append_right _ hmem)
  · intro hall r hmem
    rcases List.mem_append.mp hmem with hmem | hmem
    · exact hr r hmem
    · exact hall r hmem

lemma stopped_bind_error {e : PyExc} (h : x.exec serve s = ⟨t, .error e, trace⟩)
    (hr : ∀ r ∈ trace, r.1.isSet = false) :
    ((x >>= f).exec serve s).Stopped ↔ e.isSophosError = true := by
  rw [exec_bind_error serve h]
  unfold Ended.Stopped
  rw [and_iff_left hr]
  simp

lemma stopped_map (g : α → β) :
    ((x >>= fun a => pure (g a)).exec serve s).Stopped ↔ (x.exec serve s).Stopped := by
  rw [exec_bind_pure]
  unfold Ended.Stopped
  rcases (x.exec serve s).result with e | a <;> simp [Except.map]

lemma mem_trace_bind {r : Request × HttpOutcome} (h : r ∈ (x.exec serve s).trace) :
    r ∈ ((x >>= f).exec serve s).trace := by
  rcases hx : x.exec serve s with ⟨t, e | a, trace⟩
  · rw [exec_bind_error serve hx]
    rw [hx] at h
    exact h
  · rw [exec_bind_ok serve hx]
    rw [hx] at h
    exact List.mem_append_left _ h

end Stops

/-- What the two operations want of a group: that it can be read, and is one of IPv4. -/
def SophosClient.readGroup (c : SophosClient) (group : String) (outcome : HttpOutcome) :
    Except PyExc Element :=
  (c.readRecord "IPHostGroup" group outcome).bind fun elem =>
    (checkIpv4Group elem group).map fun _ => elem

lemma SophosClient.readGroup_eq_ok (c : SophosClient) {group : String} {outcome : HttpOutcome}
    {elem : Element} (h : c.readGroup group outcome = .ok elem) :
    c.readRecord "IPHostGroup" group outcome = .ok elem ∧ checkIpv4Group elem group = .ok () := by
  rw [readGroup] at h
  rcases hr : c.readRecord "IPHostGroup" group outcome with e | elem'
  · rw [hr] at h
    cases h
  · rw [hr] at h
    rcases hf : checkIpv4Group elem' group with e | ⟨⟩
    · simp [Except.bind, Except.map, hf] at h
    · obtain rfl : elem' = elem := by simpa [Except.bind, Except.map, hf] using h
      exact ⟨rfl, hf⟩

/-- They do not get it, with an error of the client. -/
def SophosClient.GroupRefused (c : SophosClient) (group : String) (outcome : HttpOutcome) : Prop :=
  ∃ e, c.readGroup group outcome = .error e ∧ e.isSophosError = true

/-- A change that fails only because the group is not one of IPv4. -/
def OnlyIpv4 {σ : Type} (group : String) (change : Element → Except PyExc (Option Element × σ)) :
    Prop :=
  ∀ elem, (∀ e, checkIpv4Group elem group = .error e → change elem = .error e) ∧
    (checkIpv4Group elem group = .ok () → ∃ x, change elem = .ok x)

lemma onlyIpv4_addMember (group host : String) : OnlyIpv4 group (addMember group host) := by
  intro elem
  unfold addMember
  constructor
  · intro e h
    rw [h]
    rfl
  · intro h
    rw [h]
    simp only [bind, Except.bind]
    split
    · exact ⟨_, rfl⟩
    · split <;> exact ⟨_, rfl⟩

lemma onlyIpv4_removeMembers (group : String) (hosts : List String) :
    OnlyIpv4 group (removeMembers group hosts) := by
  intro elem
  unfold removeMembers
  constructor
  · intro e h
    rw [h]
    rfl
  · intro h
    rw [h]
    simp only [bind, Except.bind]
    split
    · exact ⟨_, rfl⟩
    · split
      · exact ⟨_, rfl⟩
      · split <;> exact ⟨_, rfl⟩

section Operations

variable {S : Type} (serve : S → Request → S × HttpOutcome) (c : SophosClient)

lemma stopped_modifyRecordHeld {σ : Type} {group : String}
    {change : Element → Except PyExc (Option Element × σ)} (hc : OnlyIpv4 group change)
    (verify : Option (Element → Bool)) (s : S) :
    ((c.modifyRecordHeld "IPHostGroup" group change verify).exec serve s).Stopped ↔
      c.GroupRefused group (serve s (c.request (.get "IPHostGroup"))).2 := by
  rw [SophosClient.exec_modifyRecordHeld, SophosClient.GroupRefused, SophosClient.readGroup]
  dsimp only
  generalize serve s (c.request (.get "IPHostGroup")) = x
  rcases hr : c.readRecord "IPHostGroup" group x.2 with e | elem
  · have hstop := Ended.stopped_cons (y := (⟨x.1, .error e, []⟩ : Ended S σ))
      (x := (c.request (.get "IPHostGroup"), x.2)) rfl
    rw [Ended.stopped_error] at hstop
    simpa [Except.bind] using hstop
  · obtain ⟨herr, hok⟩ := hc elem
    rcases hf : checkIpv4Group elem group with e | ⟨⟩
    · have hstop := Ended.stopped_cons (y := (⟨x.1, .error e, []⟩ : Ended S σ))
        (x := (c.request (.get "IPHostGroup"), x.2)) rfl
      rw [Ended.stopped_error] at hstop
      simpa [Except.bind, Except.map, herr e hf, hf] using hstop
    · obtain ⟨⟨changed, kept⟩, hch⟩ := hok hf
      have hgroup : ¬ ∃ e, ((Except.ok elem).bind fun elem =>
          (checkIpv4Group elem group).map fun _ => elem) = .error e ∧ e.isSophosError = true := by
        simp [Except.bind, Except.map, hf]
      rw [iff_false_right hgroup]
      simp only [Except.bind, hch]
      rcases changed with _ | changed
      · exact Ended.stopped_ok
      · rintro ⟨-, hset⟩
        obtain ⟨o, ho⟩ := c.mem_trace_writeBack serve "IPHostGroup" group verify changed kept x.1
        have h := hset _ (List.mem_cons_of_mem _ ho)
        cases h

lemma HostsRefused.isSophosError {outcome : HttpOutcome} (h : HostsRefused outcome) {e : PyExc}
    (he : c.readAnswer outcome = .error e) : e.isSophosError = true := by
  obtain ⟨status, root, rfl, -⟩ := h
  refine c.readAnswer_error he ?_ nofun
  rintro ⟨_, ⟨⟩, _⟩

lemma isSet_of_get (tag : String) (o : HttpOutcome) :
    ∀ r ∈ [(c.request (.get tag), o)], r.1.isSet = false := by
  intro r hr
  obtain rfl := List.mem_singleton.mp hr
  rfl

lemma mem_trace_addIpHostHeld (ip name : String) (s : S) :
    ∃ o, (c.request (.set "add" (SophosClient.newIpHost ip name).received), o) ∈
      ((c.addIpHostHeld ip name).exec serve s).trace := by
  refine ⟨(serve s (c.request (.set "add" (SophosClient.newIpHost ip name).received))).2, ?_⟩
  rw [SophosClient.addIpHostHeld_eq]
  refine mem_trace_bind serve ?_
  rw [SophosClient.exec_post]
  exact List.mem_singleton_self _

lemma stopped_unblockIpInGroup (group ip : String) (s : S)
    (h : HostsRefused (serve s (c.request (.get "IPHost"))).2) :
    ((c.unblockIpInGroup group ip).exec serve s).Stopped ↔
      (∃ e, c.readAnswer (serve s (c.request (.get "IPHost"))).2 = .error e) ∨
        c.GroupRefused group (serve (serve s (c.request (.get "IPHost"))).1
          (c.request (.get "IPHostGroup"))).2 := by
  have hhosts := c.exec_ipHostsHeld serve ip s
  rw [SophosClient.unblockIpInGroup, stopped_map, exec_withSlot]
  generalize serve s (c.request (.get "IPHost")) = x at h hhosts ⊢
  rcases hr : c.readAnswer x.2 with e | root
  · rw [SophosClient.readIpHosts, hr] at hhosts
    rw [stopped_bind_error serve hhosts (isSet_of_get c _ _)]
    simp [h.isSophosError c hr]
  · rw [SophosClient.readIpHosts, hr] at hhosts
    rw [stopped_bind_ok serve hhosts (isSet_of_get c _ _),
      stopped_modifyRecordHeld serve c (onlyIpv4_removeMembers group _)]
    simp

lemma stopped_blockIpInGroup (group ip name : String) (s : S) {elem : Element}
    (hg : c.readGroup group (serve s (c.request (.get "IPHostGroup"))).2 = .ok elem)
    (h : HostsRefused (serve (serve s (c.request (.get "IPHostGroup"))).1
      (c.request (.get "IPHost"))).2) :
    let x := serve (serve s (c.request (.get "IPHostGroup"))).1 (c.request (.get "IPHost"))
    ((c.blockIpInGroup group ip name).exec serve s).Stopped ↔
      (∃ e, c.readAnswer x.2 = .error e) ∨
        ∃ hosts, c.readIpHosts ip x.2 = .ok hosts ∧ hosts ≠ [] ∧
          (∀ host ∈ hosts, host ∉ hostMembers elem) ∧
          c.GroupRefused group (serve x.1 (c.request (.get "IPHostGroup"))).2 := by
  intro x
  have hfirst := c.exec_getRecordElement serve "IPHostGroup" group s
  obtain ⟨hread, hipv4⟩ := c.readGroup_eq_ok hg
  rw [hread] at hfirst
  have hhosts := c.exec_ipHostsHeld serve ip (serve s (c.request (.get "IPHostGroup"))).1
  have hensure := exec_ensure serve (checkIpv4Group elem group)
    (serve s (c.request (.get "IPHostGroup"))).1
  rw [hipv4] at hensure
  rw [SophosClient.blockIpInGroup, exec_withSlot, stopped_bind_ok serve hfirst (isSet_of_get c _ _),
    hipv4, stopped_bind_ok serve hensure (by simp)]
  change ((c.ipHostsHeld ip).exec serve _) = ⟨x.1, c.readIpHosts ip x.2, [(_, x.2)]⟩ at hhosts
  change HostsRefused x.2 at h
  rcases hr : c.readAnswer x.2 with e | root
  · rw [SophosClient.readIpHosts, hr] at hhosts
    rw [stopped_bind_error serve hhosts (isSet_of_get c _ _)]
    simp [h.isSophosError c hr]
  · rcases hh : c.readIpHosts ip x.2 with e | hosts
    · simp [SophosClient.readIpHosts, hr, Except.map] at hh
    rw [hh] at hhosts
    rw [stopped_bind_ok serve hhosts (isSet_of_get c _ _)]
    rcases hm : hosts.find? fun h => h ∈ hostMembers elem with _ | member
    · have hno : ∀ host ∈ hosts, host ∉ hostMembers elem := by simpa using hm
      dsimp only
      rcases hosts with _ | ⟨host, hosts⟩
      · obtain ⟨o, ho⟩ := mem_trace_addIpHostHeld serve c ip name x.1
        constructor
        · intro hstop
          exact absurd hstop (Ended.not_stopped_of_mem (mem_trace_bind serve ho) rfl)
        · rintro (⟨e, he⟩ | ⟨hosts, hhosts, hne, -⟩)
          · cases he
          · cases hhosts
            exact absurd rfl hne
      · rw [pure_bind, stopped_map,
          stopped_modifyRecordHeld serve c (onlyIpv4_addMember group host)]
        constructor
        · intro href
          exact .inr ⟨host :: hosts, rfl, by simp, hno, href⟩
        · rintro (⟨e, he⟩ | ⟨_, -, -, -, href⟩)
          · cases he
          · exact href
    · have hmem : member ∈ hosts ∧ member ∈ hostMembers elem :=
        ⟨List.mem_of_find?_eq_some hm, by simpa using List.find?_some hm⟩
      constructor
      · intro hstop
        exact absurd hstop Ended.stopped_ok
      · rintro (⟨e, he⟩ | ⟨_, ⟨⟩, -, hno, -⟩)
        · cases he
        · exact absurd hmem.2 (hno member hmem.1)

/-- **A refused read of the IP hosts stops an operation only by accident.** After a read that
the firewall refused with a record-level error, `unblock_ip_in_group` raises an error of the
client and writes nothing exactly if the response is an error as a whole too, or the group that
it reads next cannot be had; `block_ip_in_group` exactly if the response is an error as a whole
too, or lists hosts with the address beside the error, none of them in the group, and the group
cannot be had when it is read again. -/
theorem refused_hosts_stop_iff (group ip name : String) (s : S) :
    (let x := serve s (c.request (.get "IPHost"))
     HostsRefused x.2 →
      (((c.unblockIpInGroup group ip).exec serve s).Stopped ↔
        (∃ e, c.readAnswer x.2 = .error e) ∨
          c.GroupRefused group (serve x.1 (c.request (.get "IPHostGroup"))).2)) ∧
    (let g := serve s (c.request (.get "IPHostGroup"))
     let x := serve g.1 (c.request (.get "IPHost"))
     ∀ elem, c.readGroup group g.2 = .ok elem → HostsRefused x.2 →
      (((c.blockIpInGroup group ip name).exec serve s).Stopped ↔
        (∃ e, c.readAnswer x.2 = .error e) ∨
          ∃ hosts, c.readIpHosts ip x.2 = .ok hosts ∧ hosts ≠ [] ∧
            (∀ host ∈ hosts, host ∉ hostMembers elem) ∧
            c.GroupRefused group (serve x.1 (c.request (.get "IPHostGroup"))).2)) :=
  ⟨stopped_unblockIpInGroup serve c group ip s,
    fun _ hg hr => stopped_blockIpInGroup serve c group ip name s hg hr⟩

end Operations

/-! ### A firewall that refuses the read -/

def refusal : Element :=
  .new "IPHost" none [⟨"Status", .single "code" "529", some "Input request failed", none, []⟩]

/-- A group of this family with one member. -/
def deviceGroup (family member : String) : Element :=
  .new "IPHostGroup" none [.new "Name" (some "Blocked") [],
    .new "HostList" none [.new "Host" (some member) []], .new "IPFamily" (some family) []]

def device (name ip : String) : Element :=
  .new "IPHost" none [.new "Name" (some name) [], .new "HostType" (some "IP") [],
    .new "IPAddress" (some ip) []]

/-- It answers with these records to a read of hosts, and of groups, and confirms every write. -/
def refusingFirewall (hosts : List Element) (group : ℕ → Element) (n : ℕ) (r : Request) :
    ℕ × HttpOutcome :=
  (n + 1, .answer 200 (.document (.new "Response" none
    (match r.operation with
    | .get "IPHost" => hosts
    | .get _ => [group n]
    | .set _ content => [.new content.tag none
        [⟨"Status", .single "code" "200", some "Configuration applied", none, []⟩]]
    | .login => []))))

lemma hostsRefused_of_mem {root : Element} (h : refusal ∈ root.iter "IPHost") :
    HostsRefused (.answer 200 (.document root)) :=
  ⟨200, root, rfl, refusal, h, rfl, _, rfl, by decide⟩

/-- The group turns into one of IPv6 after the first read. -/
theorem refused_hosts_stop_iff_ipv6 :
    let c : SophosClient := ⟨"fw", 4444, "admin", "secret"⟩
    let serve := refusingFirewall [refusal, device "laptop" "10.0.0.7"]
      fun | 0 => deviceGroup "IPv4" "tablet" | _ + 1 => deviceGroup "IPv6" "tablet"
    ((c.unblockIpInGroup "Blocked" "10.0.0.7").exec serve 0).Stopped ∧
      ((c.blockIpInGroup "Blocked" "10.0.0.7" "ha").exec serve 0).Stopped := by
  intro c serve
  have hr : ∀ n, HostsRefused (serve n (c.request (.get "IPHost"))).2 :=
    fun n => hostsRefused_of_mem (.head _)
  have hg : c.readGroup "Blocked" (serve 0 (c.request (.get "IPHostGroup"))).2 =
    .ok (deviceGroup "IPv4" "tablet") := rfl
  have hno : ∀ n, c.GroupRefused "Blocked" (serve (n + 1) (c.request (.get "IPHostGroup"))).2 :=
    fun n => ⟨.writeError [.text "IP host group ", .repr "Blocked",
      .text " is not an IPv4 group"] none, rfl, rfl⟩
  obtain ⟨hunblock, hblock⟩ := refused_hosts_stop_iff serve c "Blocked" "10.0.0.7" "ha" 0
  constructor
  · exact (hunblock (hr 0)).mpr (.inr (hno 0))
  · refine (hblock _ hg (hr 1)).mpr (.inr ⟨["laptop"], rfl, by simp, ?_, hno 1⟩)
    decide

/-- A device that is blocked as `laptop`, and a read of the hosts that is refused: unblocking it
is reported as nothing to do, and blocking it sends a second host with its address. -/
theorem refused_hosts_taken_for_none :
    let c : SophosClient := ⟨"fw", 4444, "admin", "secret"⟩
    let serve := refusingFirewall [refusal] fun _ => deviceGroup "IPv4" "laptop"
    (∀ n, HostsRefused (serve n (c.request (.get "IPHost"))).2) ∧
      ((c.unblockIpInGroup "Blocked" "10.0.0.7").exec serve 0).result = .ok (false, []) ∧
      ((c.blockIpInGroup "Blocked" "10.0.0.7" "ha").exec serve 0).trace[2]?.map Prod.fst =
        some (c.request (.set "add" (SophosClient.newIpHost "10.0.0.7" "ha"))) := by
  intro c serve
  refine ⟨fun n => ?_, rfl, rfl⟩
  exact hostsRefused_of_mem (.head _)

end SophosFw.Client
