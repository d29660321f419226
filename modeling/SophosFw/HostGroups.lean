import SophosFw.ReadWrite
import SophosFw.RefusedRead
import SophosFw.UrlGroup

/-!
The members of an IP host group.

A group lists hosts by name, and an address stands for every host of type IP that has it. What
the two operations on a group write is the group but for a member more, or for some entries less;
what the firewall gets is that, unless a carriage return is lost on the way.
The firewall keeps hosts and groups as lists of records; a change of a group on it is settled
here, for any closure that says what to write.
-/

namespace SophosFw.Client

open SophosFw.PyDict SophosFw.PyText SophosFw.ElementTree SophosFw.Records SophosFw.Slot
open SophosFw.Xml (lineEnds)
open ClientM

/-- One of the hosts of type IP with this address has the name. -/
def HasAddress (hosts : List Element) (ip name : String) : Prop :=
  ∃ e ∈ hosts, nameOf e = name ∧ (childText e "HostType").getD "" = "IP" ∧
    (childText e "IPAddress").getD "" = ip

lemma received_newIpHost {ip name : String} (hip : '\r' ∉ ip.toList) (hname : '\r' ∉ name.toList) :
    (SophosClient.newIpHost ip name).received = SophosClient.newIpHost ip name := by
  have hfixed (t : String) (ht : '\r' ∉ t.toList) : lineEnds t = t := Xml.lineEnds_eq_iff.mpr ht
  simp [SophosClient.newIpHost, hfixed ip hip, hfixed name hname, hfixed "IPv4", hfixed "IP",
    hfixed "Created by Home Assistant"]

/-- A group of IPv4. -/
def IsIpv4 (e : Element) : Prop := (childText e "IPFamily").getD "IPv4" = "IPv4"

def isHostList (e : Element) : Bool := e.tag = "HostList"

/-- It has at most one list. -/
def OneHostList (e : Element) : Prop := (e.children.filter isHostList).length ≤ 1

/-- What is written in place of a group to have the host in it: the group but for one member more,
the last of its list or alone in a new one, which comes before the family. -/
inductive HostAdded (host : String) (e : Element) : Element → Prop
  | appended {l₁ list l₂} (hsplit : e.children = l₁ ++ list :: l₂) (hlist : isHostList list = true)
    (hbefore : ∀ c ∈ l₁, isHostList c = false) :
    HostAdded host e { e with
      children := l₁ ++ { list with
        children := list.children ++ [.new "Host" (some host) []] } :: l₂ }
  | created {l₁ l₂} (hnone : ∀ c ∈ e.children, isHostList c = false)
    (hsplit : e.children = l₁ ++ l₂) (hbefore : ∀ c ∈ l₁, c.tag ≠ "IPFamily")
    (hafter : ∀ c ∈ l₂.head?, c.tag = "IPFamily") :
    HostAdded host e { e with
      children := l₁ ++ .new "HostList" none [.new "Host" (some host) []] :: l₂ }

/-- What is written in place of a group to have none of the hosts in it, and what was taken out: the
group but for these entries of its list, and the list goes with its last entry. -/
inductive HostsRemoved (hosts : List String) (e : Element) : List String → Element → Prop
  | removed {l₁ list l₂} (hsplit : e.children = l₁ ++ list :: l₂) (hlist : isHostList list = true)
    (hbefore : ∀ c ∈ l₁, isHostList c = false)
    (hrest : list.children.filter (fun c => !isMember hosts c) ≠ []) :
    HostsRemoved hosts e ((list.children.filter (isMember hosts)).map fun h => strip (textOf h))
      { e with children := l₁ ++ { list with
        children := list.children.filter fun c => !isMember hosts c } :: l₂ }
  | dropped {l₁ list l₂} (hsplit : e.children = l₁ ++ list :: l₂) (hlist : isHostList list = true)
    (hbefore : ∀ c ∈ l₁, isHostList c = false)
    (hrest : list.children.filter (fun c => !isMember hosts c) = []) :
    HostsRemoved hosts e ((list.children.filter (isMember hosts)).map fun h => strip (textOf h))
      { e with children := l₁ ++ l₂ }

/-- The name of a record, as `_child_text` has it. -/
lemma childText_name (e : Element) :
    childText e "Name" = if nameOf e = "" then none else some (nameOf e) := by
  have hempty : strip "" = "" := rfl
  unfold childText nameOf Element.findtext
  rcases e.find "Name" with _ | ⟨_, _, _ | t, _, _⟩
  · simp [hempty]
  · simp [hempty]
  · rfl

lemma ipHostName_eq_some {ip name : String} {e : Element} (h : nameOf e ≠ "") :
    ipHostName ip e = some name ↔ nameOf e = name ∧ (childText e "HostType").getD "" = "IP" ∧
      (childText e "IPAddress").getD "" = ip := by
  have hs : isStatusOnly e = false := by
    by_contra hs
    exact h (nameOf_of_isStatusOnly (by simpa using hs))
  have hname : childText e "Name" = some (nameOf e) := by
    rw [childText_name, if_neg h]
  unfold ipHostName
  split
  · next hcond => simp [hname, hcond.2]
  · next hcond =>
    simp only [hs, Bool.not_false, true_and] at hcond
    simp [hcond]

lemma mem_ipHostNames {hosts : List Element} (hn : ∀ e ∈ hosts, nameOf e ≠ "") (ip name : String) :
    name ∈ hosts.filterMap (ipHostName ip) ↔ HasAddress hosts ip name := by
  rw [List.mem_filterMap]
  unfold HasAddress
  refine exists_congr fun e => and_congr_right fun he => ?_
  exact ipHostName_eq_some (hn e he)

lemma HasAddress.strip_eq {hosts : List Element} {ip name : String} (h : HasAddress hosts ip name) :
    strip name = name := by
  obtain ⟨e, -, rfl, -⟩ := h
  exact strip_strip _

lemma checkIpv4Group_cases (e : Element) (group : String) :
    (IsIpv4 e ∧ checkIpv4Group e group = .ok ()) ∨
      (¬ IsIpv4 e ∧ ∃ err, checkIpv4Group e group = .error err) := by
  unfold checkIpv4Group
  by_cases h : IsIpv4 e
  · exact .inl ⟨h, if_neg (not_not.mpr h)⟩
  · exact .inr ⟨h, _, if_pos h⟩

section Change

variable {e sent : Element} {group host : String} {hosts removed : List String}

lemma tag_of_isHostList {c : Element} (h : isHostList c = true) : c.tag = "HostList" := by
  simpa [isHostList] using h

lemma find_hostList (e : Element) : e.find "HostList" = e.children.find? isHostList := rfl

lemma hostMembers_of_none (h : ∀ c ∈ e.children, isHostList c = false) : hostMembers e = [] := by
  have hfind : e.find "HostList" = none := by
    rw [find_hostList]
    simpa using h
  simp only [hostMembers, hfind]

lemma hostMembers_of_split (list : Element) {l₁ l₂ : List Element}
    (hsplit : e.children = l₁ ++ list :: l₂) (hlist : isHostList list = true)
    (hbefore : ∀ c ∈ l₁, isHostList c = false) :
    hostMembers e = (list.findall "Host").map fun h => strip (textOf h) := by
  have hfind : e.find "HostList" = some list := by
    rw [find_hostList, List.find?_eq_some_iff_append]
    exact ⟨hlist, l₁, l₂, hsplit, by simpa using hbefore⟩
  simp only [hostMembers, hfind]

lemma insertBefore_split (tag : String) (child : Element) (l : List Element) :
    ∃ l₁ l₂, l = l₁ ++ l₂ ∧ insertBefore tag child l = l₁ ++ child :: l₂ ∧
      (∀ c ∈ l₁, c.tag ≠ tag) ∧ ∀ c ∈ l₂.head?, c.tag = tag := by
  induction l with
  | nil => exact ⟨[], [], rfl, rfl, by simp, by simp⟩
  | cons a l ih =>
    by_cases h : a.tag = tag
    · exact ⟨[], a :: l, rfl, if_pos h, by simp, by simpa using h⟩
    · obtain ⟨l₁, l₂, rfl, hins, hbefore, hafter⟩ := ih
      refine ⟨a :: l₁, l₂, rfl, ?_, ?_, hafter⟩
      · rw [insertBefore, if_neg h, hins]
        rfl
      · simpa using ⟨h, hbefore⟩

lemma addMember_cases (group host : String) (e : Element) :
    (¬ IsIpv4 e ∧ ∃ err, addMember group host e = .error err) ∨
    (IsIpv4 e ∧ host ∈ hostMembers e ∧ addMember group host e = .ok (none, ())) ∨
    (IsIpv4 e ∧ host ∉ hostMembers e ∧ ∃ sent,
      addMember group host e = .ok (some sent, ()) ∧ HostAdded host e sent) := by
  unfold addMember
  rcases checkIpv4Group_cases e group with ⟨hv, hc⟩ | ⟨hv, err, hc⟩
  · rw [hc]
    simp only [bind, Except.bind]
    by_cases hm : host ∈ hostMembers e
    · exact .inr (.inl ⟨hv, hm, if_pos hm⟩)
    · refine .inr (.inr ⟨hv, hm, ?_⟩)
      rw [if_neg hm]
      rcases hf : e.find "HostList" with _ | list
      · obtain ⟨l₁, l₂, hsplit, hins, hbefore, hafter⟩ := insertBefore_split "IPFamily"
          (.new "HostList" none [.new "Host" (some host) []]) e.children
        dsimp only
        rw [hins]
        rw [find_hostList] at hf
        exact ⟨_, rfl, .created (by simpa using hf) hsplit hbefore hafter⟩
      · obtain ⟨l₁, l₂, hsplit, hlist, hbefore, hmap, -⟩ := exists_split_of_find?_some hf
        dsimp only
        rw [hmap]
        exact ⟨_, rfl, .appended hsplit hlist hbefore⟩
  · refine .inl ⟨hv, err, ?_⟩
    rw [hc]
    rfl

lemma removeMembers_cases (group : String) (hosts : List String) (e : Element) :
    (¬ IsIpv4 e ∧ ∃ err, removeMembers group hosts e = .error err) ∨
    (IsIpv4 e ∧ (∀ m ∈ hostMembers e, m ∉ hosts) ∧
      removeMembers group hosts e = .ok (none, [])) ∨
    (IsIpv4 e ∧ ∃ removed sent, removeMembers group hosts e = .ok (some sent, removed) ∧
      removed ≠ [] ∧ HostsRemoved hosts e removed sent) := by
  unfold removeMembers
  rcases checkIpv4Group_cases e group with ⟨hv, hc⟩ | ⟨hv, err, hc⟩
  · rw [hc]
    simp only [bind, Except.bind]
    rcases hf : e.find "HostList" with _ | list
    · refine .inr (.inl ⟨hv, ?_, rfl⟩)
      simp [hostMembers, hf]
    · obtain ⟨l₁, l₂, hsplit, hlist, hbefore, hmap, herase⟩ := exists_split_of_find?_some hf
      dsimp only
      by_cases hrem : (list.children.filter (isMember hosts)).map (fun h => strip (textOf h)) = []
      · refine .inr (.inl ⟨hv, ?_, if_pos hrem⟩)
        intro m hm
        rw [hostMembers_of_split list hsplit hlist hbefore] at hm
        obtain ⟨h, hmem, rfl⟩ := List.mem_map.mp hm
        obtain ⟨hin, htag⟩ := List.mem_filter.mp hmem
        have hno : ∀ h ∈ list.children, h.tag = "Host" → strip (textOf h) ∉ hosts := by
          simpa [isMember] using hrem
        exact hno h hin (by simpa using htag)
      · refine .inr (.inr ⟨hv, (list.children.filter (isMember hosts)).map fun h =>
          strip (textOf h), ?_⟩)
        rw [if_neg hrem, hmap, herase]
        by_cases hrest : (without (isMember hosts) list).children = []
        · exact ⟨_, if_pos hrest, hrem, .dropped hsplit hlist hbefore hrest⟩
        · exact ⟨_, if_neg hrest, hrem, .removed hsplit hlist hbefore hrest⟩
  · refine .inl ⟨hv, err, ?_⟩
    rw [hc]
    rfl

lemma addMember_eq_some {kept : Unit} (h : addMember group host e = .ok (some sent, kept)) :
    host ∉ hostMembers e ∧ HostAdded host e sent := by
  rcases addMember_cases group host e with ⟨-, err, he⟩ | ⟨-, -, he⟩ | ⟨-, hno, sent', he, hadded⟩
  · rw [he] at h
    cases h
  · rw [he] at h
    cases h
  · rw [he] at h
    obtain ⟨⟨⟩, -⟩ := Prod.mk.inj (Except.ok.inj h)
    exact ⟨hno, hadded⟩

lemma addMember_eq_none {kept : Unit} (h : addMember group host e = .ok (none, kept)) :
    host ∈ hostMembers e := by
  rcases addMember_cases group host e with ⟨-, err, he⟩ | ⟨-, hmem, -⟩ | ⟨-, -, sent', he, -⟩
  · rw [he] at h
    cases h
  · exact hmem
  · rw [he] at h
    cases h

lemma removeMembers_eq_some (h : removeMembers group hosts e = .ok (some sent, removed)) :
    removed ≠ [] ∧ HostsRemoved hosts e removed sent := by
  rcases removeMembers_cases group hosts e with
    ⟨-, err, he⟩ | ⟨-, -, he⟩ | ⟨-, removed', sent', he, hne, hremoved⟩
  · rw [he] at h
    cases h
  · rw [he] at h
    cases h
  · rw [he] at h
    obtain ⟨⟨⟩, rfl⟩ := Prod.mk.inj (Except.ok.inj h)
    exact ⟨hne, hremoved⟩

lemma removeMembers_eq_none (h : removeMembers group hosts e = .ok (none, removed)) :
    removed = [] ∧ ∀ m ∈ hostMembers e, m ∉ hosts := by
  rcases removeMembers_cases group hosts e with
    ⟨-, err, he⟩ | ⟨-, hno, he⟩ | ⟨-, removed', sent', he, -⟩
  · rw [he] at h
    cases h
  · rw [he] at h
    exact ⟨(Prod.mk.inj (Except.ok.inj h)).2.symm, hno⟩
  · rw [he] at h
    cases h

lemma HostAdded.tag_eq (h : HostAdded host e sent) : sent.tag = e.tag := by
  cases h <;> rfl

lemma HostsRemoved.tag_eq (h : HostsRemoved hosts e removed sent) : sent.tag = e.tag := by
  cases h <;> rfl

lemma HostAdded.nameOf_eq (h : HostAdded host e sent) : nameOf sent = nameOf e := by
  unfold nameOf Element.findtext Element.find
  cases h with
  | appended hsplit hlist _ => simp [hsplit, tag_of_isHostList hlist]
  | created _ hsplit _ _ => simp [hsplit, Element.new]

lemma HostsRemoved.nameOf_eq (h : HostsRemoved hosts e removed sent) : nameOf sent = nameOf e := by
  unfold nameOf Element.findtext Element.find
  cases h with
  | removed hsplit hlist _ _ | dropped hsplit hlist _ _ =>
    simp [hsplit, tag_of_isHostList hlist]

lemma HostAdded.members (h : HostAdded host e sent) (hhost : strip host = host) :
    hostMembers sent = hostMembers e ++ [host] := by
  cases h with
  | @appended l₁ list l₂ hsplit hlist hbefore =>
    rw [hostMembers_of_split list hsplit hlist hbefore,
      hostMembers_of_split { list with
        children := list.children ++ [.new "Host" (some host) []] } rfl hlist hbefore]
    simp [Element.findall, Element.new, textOf, hhost]
  | @created l₁ l₂ hnone hsplit _ _ =>
    have hbefore : ∀ c ∈ l₁, isHostList c = false := by
      intro c hc
      refine hnone c ?_
      rw [hsplit]
      exact List.mem_append_left _ hc
    rw [hostMembers_of_none hnone,
      hostMembers_of_split (.new "HostList" none [.new "Host" (some host) []]) rfl rfl hbefore]
    simp [Element.findall, Element.new, textOf, hhost]

lemma isHostList_received (c : Element) : isHostList c.received = isHostList c := by
  rw [isHostList, isHostList, Element.received_tag]

lemma hostMembers_received (e : Element) :
    hostMembers e.received = (hostMembers e).map lineEnds := by
  have htext (c : Element) : strip (textOf c.received) = lineEnds (strip (textOf c)) := by
    rw [← strip_lineEnds]
    rcases c with ⟨_, _, _ | t, _, _⟩ <;> rfl
  rw [hostMembers, hostMembers, Element.find_received]
  rcases e.find "HostList" with _ | list
  · rfl
  · simp only [Option.map_some]
    rw [Element.findall_received, List.map_map, List.map_map]
    exact List.map_congr_left fun c _ => htext c

lemma HostAdded.unique {sent' : Element} (h : HostAdded host e sent) (h' : HostAdded host e sent') :
    sent' = sent := by
  have hlast {l₁ list l₂} (hsplit : e.children = l₁ ++ list :: l₂)
      (hlist : isHostList list = true) (hnone : ∀ c ∈ e.children, isHostList c = false) :
      False := by
    have hmem : list ∈ e.children := by
      rw [hsplit]
      exact List.mem_append_right _ List.mem_cons_self
    exact absurd hlist (by simp [hnone list hmem])
  cases h with
  | @appended l₁ list l₂ hsplit hlist hbefore =>
    cases h' with
    | @appended m₁ list' m₂ hsplit' hlist' hbefore' =>
      obtain ⟨rfl, hrest⟩ := split_unique (p := isHostList) (hsplit.symm.trans hsplit') hbefore
        (by simpa using hlist) hbefore' (by simpa using hlist')
      obtain ⟨rfl, rfl⟩ := List.cons_eq_cons.mp hrest
      rfl
    | created hnone _ _ _ => exact (hlast hsplit hlist hnone).elim
  | @created l₁ l₂ hnone hsplit hbefore hafter =>
    cases h' with
    | appended hsplit' hlist' _ => exact (hlast hsplit' hlist' hnone).elim
    | @created m₁ m₂ _ hsplit' hbefore' hafter' =>
      obtain ⟨rfl, rfl⟩ := split_unique (p := fun c => decide (c.tag = "IPFamily"))
        (hsplit.symm.trans hsplit') (by simpa using hbefore) (by simpa using hafter)
        (by simpa using hbefore') (by simpa using hafter')
      rfl

/-- What is read of it is what would be written of the group as it is read. -/
lemma HostAdded.received (h : HostAdded host e sent) :
    HostAdded (lineEnds host) e.received sent.received := by
  have hfalse {l : List Element} (hl : ∀ c ∈ l, isHostList c = false) :
      ∀ c ∈ l.map Element.received, isHostList c = false := by
    simpa [isHostList_received] using hl
  cases h with
  | @appended l₁ list l₂ hsplit hlist hbefore =>
    have hchildren : e.received.children =
        l₁.map Element.received ++ list.received :: l₂.map Element.received := by
      rw [Element.received_children, hsplit, List.map_append, List.map_cons]
    have h : HostAdded (lineEnds host) e.received _ := .appended hchildren
      (by rwa [isHostList_received]) (hfalse hbefore)
    simpa [Element.received_eq, Element.new] using h
  | @created l₁ l₂ hnone hsplit hbefore hafter =>
    have hchildren : e.received.children =
        l₁.map Element.received ++ l₂.map Element.received := by
      rw [Element.received_children, hsplit, List.map_append]
    have h : HostAdded (lineEnds host) e.received _ := .created
      (by simpa [isHostList_received] using hnone) hchildren (by simpa using hbefore)
      (by
        rcases l₂ with _ | ⟨c, l₂⟩
        · simp
        · simpa using hafter)
    simpa [Element.received_eq, Element.new] using h

lemma HostAdded.clean_iff (h : HostAdded host e sent) :
    sent.Clean ↔ e.Clean ∧ '\r' ∉ host.toList := by
  cases h with
  | appended hsplit _ _ =>
    rw [Element.clean_with_split_iff, Element.clean_concat_iff, Element.clean_leaf_iff,
      Element.clean_split_iff hsplit, and_assoc]
  | @created l₁ l₂ _ hsplit _ _ =>
    have he : e.Clean ↔ Element.Clean { e with children := l₁ ++ l₂ } := by
      rw [Element.clean_iff, Element.clean_iff, hsplit]
    rw [Element.clean_with_split_iff, Element.clean_new_singleton_iff, Element.clean_leaf_iff, he]

lemma HostsRemoved.clean (h : HostsRemoved hosts e removed sent) (hclean : e.Clean) :
    sent.Clean := by
  cases h with
  | removed hsplit _ _ _ =>
    exact hclean.replace hsplit fun hlist =>
      hlist.with_children fun c hc => hlist.of_mem (List.mem_filter.mp hc).1
  | dropped hsplit _ _ _ => exact hclean.drop hsplit

lemma HostsRemoved.removed_eq (h : HostsRemoved hosts e removed sent) :
    removed = (hostMembers e).filter fun m => m ∈ hosts := by
  cases h with
  | @removed l₁ list l₂ hsplit hlist hbefore _ | @dropped l₁ list l₂ hsplit hlist hbefore _ =>
    rw [hostMembers_of_split list hsplit hlist hbefore, Element.findall, List.filter_map,
      List.filter_filter]
    congr
    funext c
    simp [isMember, Bool.and_comm]

lemma OneHostList.of_hostAdded (h : OneHostList e) (hc : HostAdded host e sent) :
    OneHostList sent := by
  unfold OneHostList at h ⊢
  cases hc with
  | @appended l₁ list l₂ hsplit hlist _ =>
    have hlist' : isHostList { list with
        children := list.children ++ [.new "Host" (some host) []] } = true := hlist
    rw [hsplit, List.filter_append, List.filter_cons_of_pos hlist] at h
    rw [List.filter_append, List.filter_cons_of_pos hlist']
    simpa using h
  | @created l₁ l₂ hnone hsplit _ _ =>
    have hnil : (l₁ ++ l₂).filter isHostList = [] := by
      rw [← hsplit]
      simpa using hnone
    rw [List.filter_append, List.append_eq_nil_iff] at hnil
    rw [List.filter_append, List.filter_cons_of_pos rfl, hnil.1, hnil.2]
    exact le_refl 1

/-- The members of what is sent are those with other names, if there is one list. -/
lemma HostsRemoved.members (h : HostsRemoved hosts e removed sent) (hone : OneHostList e) :
    hostMembers sent = (hostMembers e).filter fun m => m ∉ hosts := by
  cases h with
  | @removed l₁ list l₂ hsplit hlist hbefore _ =>
    rw [hostMembers_of_split list hsplit hlist hbefore,
      hostMembers_of_split { list with
        children := list.children.filter fun c => !isMember hosts c } rfl hlist hbefore,
      Element.findall, Element.findall, List.filter_map, List.filter_filter, List.filter_filter]
    congr
    funext c
    by_cases htag : c.tag = "Host"
    · simp [isMember, htag]
    · simp [htag]
  | @dropped l₁ list l₂ hsplit hlist hbefore hrest =>
    have hnone : ∀ c ∈ l₁ ++ l₂, isHostList c = false := by
      unfold OneHostList at hone
      rw [hsplit, List.filter_append, List.filter_cons_of_pos hlist, List.length_append,
        List.length_cons] at hone
      have hafter : l₂.filter isHostList = [] := List.length_eq_zero_iff.mp (by omega)
      intro c hc
      rcases List.mem_append.mp hc with hc | hc
      · exact hbefore c hc
      · simpa using List.filter_eq_nil_iff.mp hafter c hc
    have hall : ∀ c ∈ list.children, isMember hosts c = true := by
      simpa [List.filter_eq_nil_iff] using hrest
    rw [hostMembers_of_none hnone, hostMembers_of_split list hsplit hlist hbefore, eq_comm,
      List.filter_eq_nil_iff]
    intro m hm
    obtain ⟨c, hc, rfl⟩ := List.mem_map.mp hm
    have hmem := hall c (List.mem_filter.mp hc).1
    simp only [isMember, Bool.and_eq_true, decide_eq_true_eq] at hmem
    simpa using hmem.2

end Change

/-! ### Records on the firewall -/

/-- Records with different names, none of them empty. -/
structure Named (l : List Element) : Prop where
  nodup : (l.map nameOf).Nodup
  nonempty : ∀ e ∈ l, nameOf e ≠ ""

/-- The records after an update: one takes the place of the one with its name. -/
def replaceRecord (name : String) (e : Element) (l : List Element) : List Element :=
  l.map fun r => if nameOf r = name then e else r

section Records

variable {l : List Element} {g g' : Element} {name : String}

lemma Named.eq_of_nameOf_eq (h : Named l) {r : Element} (hg : g ∈ l) (hr : r ∈ l)
    (hname : nameOf r = nameOf g) : r = g :=
  List.inj_on_of_nodup_map h.nodup hr hg hname

lemma Named.find?_eq_some_iff (h : Named l) :
    l.find? (fun e => nameOf e = name) = some g ↔ g ∈ l ∧ nameOf g = name := by
  constructor
  · intro hf
    exact ⟨List.mem_of_find?_eq_some hf, by simpa using List.find?_some hf⟩
  · rintro ⟨hg, rfl⟩
    rcases hf : l.find? (fun e => nameOf e = nameOf g) with _ | r
    · simp only [List.find?_eq_none, decide_eq_true_eq] at hf
      exact absurd rfl (hf g hg)
    · have hr : nameOf r = nameOf g := by simpa using List.find?_some hf
      rw [h.eq_of_nameOf_eq hg (List.mem_of_find?_eq_some hf) hr]

lemma replaceRecord_eq_self_iff :
    replaceRecord name g l = l ↔ ∀ r ∈ l, nameOf r = name → r = g := by
  have hmap : replaceRecord name g l = l.map (fun r => r) ↔
      ∀ r ∈ l, (if nameOf r = name then g else r) = r := List.map_inj_left
  rw [List.map_id'] at hmap
  rw [hmap]
  refine forall₂_congr fun r _ => ?_
  by_cases hname : nameOf r = name
  · simpa [hname] using eq_comm
  · simp [hname]

lemma replaceRecord_self (h : Named l) (hg : g ∈ l) : replaceRecord (nameOf g) g l = l :=
  replaceRecord_eq_self_iff.mpr fun _ hr hname => h.eq_of_nameOf_eq hg hr hname

lemma map_nameOf_replaceRecord (hname : nameOf g' = name) :
    (replaceRecord name g' l).map nameOf = l.map nameOf := by
  rw [replaceRecord, List.map_map]
  refine List.map_congr_left fun r _ => ?_
  by_cases hr : nameOf r = name
  · simp [hr, hname]
  · simp [hr]

lemma Named.replaceRecord (h : Named l) (hname : nameOf g' = name) :
    Named (replaceRecord name g' l) := by
  have hmap := map_nameOf_replaceRecord (l := l) hname
  constructor
  · rw [hmap]
    exact h.nodup
  · intro e he
    have hmem : nameOf e ∈ l.map nameOf := by
      rw [← hmap]
      exact List.mem_map_of_mem he
    obtain ⟨r, hr, heq⟩ := List.mem_map.mp hmem
    rw [← heq]
    exact h.nonempty r hr

lemma replaceRecord_replaceRecord (hname : nameOf g = name) :
    replaceRecord name g' (replaceRecord name g l) = replaceRecord name g' l := by
  rw [replaceRecord, replaceRecord, List.map_map, replaceRecord]
  refine List.map_congr_left fun r _ => ?_
  by_cases hr : nameOf r = name
  · simp [hr, hname]
  · simp [hr]

lemma mem_replaceRecord (hg : g ∈ l) (hname : nameOf g = name) : g' ∈ replaceRecord name g' l :=
  List.mem_map.mpr ⟨g, hg, if_pos hname⟩

/-- What is written of a group is what is read of it, or it comes under a name of no group (or of
one that looks the same). -/
def Arrives (groups : List Element) (sent : Element) : Prop :=
  sent.received = sent ∨ replaceRecord (nameOf sent.received) sent.received groups = groups

lemma HostAdded.arrives_iff {host : String} (h : HostAdded host g g') (hhost : strip host = host)
    (hg : g ∈ l) : Arrives l g' ↔
      (g.Clean ∧ '\r' ∉ host.toList) ∨ (lineEnds (nameOf g) ≠ nameOf g ∧
        ∀ r ∈ l, nameOf r = lineEnds (nameOf g) → HostAdded (lineEnds host) g.received r) := by
  have hname : nameOf g'.received = lineEnds (nameOf g) := by rw [nameOf_received, h.nameOf_eq]
  rw [Arrives, Element.received_eq_self_iff, h.clean_iff, hname, replaceRecord_eq_self_iff]
  refine or_congr_right ⟨fun hsame => ⟨fun heq => ?_, fun r hr hrname => ?_⟩, ?_⟩
  · have hmembers := congrArg hostMembers (hsame g hg heq.symm)
    rw [hostMembers_received, h.members hhost] at hmembers
    simpa using congrArg List.length hmembers
  · rw [hsame r hr hrname]
    exact h.received
  · rintro ⟨-, hall⟩ r hr hrname
    exact h.received.unique (hall r hr hrname)

end Records

lemma tag_of_mem_iter {tag : String} {e c : Element} (h : c ∈ e.iter tag) : c.tag = tag := by
  induction e using Element.inductionOn with
  | h e ih =>
    rw [Element.iter_eq] at h
    rcases List.mem_append.mp h with h | h
    · split at h
      · next htag => rwa [List.mem_singleton.mp h]
      · cases h
    · obtain ⟨d, hd, hc⟩ := List.mem_flatMap.mp h
      exact ih d hd hc

namespace SophosClient

variable (c : SophosClient)

/-- A read of these records: it fails with an error of the client, or it is answered with all of
them. -/
structure ReadsAs (tag : String) (records : List Element) (outcome : HttpOutcome) : Prop where
  failed : ∀ e, c.readAnswer outcome = .error e → e.isSophosError = true
  answered : ∀ root, c.readAnswer outcome = .ok root →
    (root.iter tag).filter (fun e => !isStatusOnly e) = records

/-- Every read was answered. -/
def GetsAnswered (trace : List (Request × HttpOutcome)) : Prop :=
  ∀ x ∈ trace, x.1.isSet = false → ∃ root, c.readAnswer x.2 = .ok root

lemma scanRecords_ok_iff {tag name : String} {l : List Element} {error : Option Element}
    {e : Element} : scanRecords tag name l error = .ok e ↔
      (l.filter fun e => !isStatusOnly e).find? (fun e => nameOf e = name) = some e := by
  induction l generalizing error with
  | nil => cases error <;> simp [scanRecords]
  | cons a l ih =>
    rw [scanRecords]
    rcases hs : isStatusOnly a with _ | _
    · by_cases ha : nameOf a = name
      · have ha' : strip ((a.findtext "Name").getD "") = name := ha
        simp [hs, ha, ha']
      · have ha' : ¬ strip ((a.findtext "Name").getD "") = name := ha
        simp [hs, ha, ha', ih]
    · simp [hs, ih]

lemma readRecord_ok_iff {tag name : String} {records : List Element} {outcome : HttpOutcome}
    {root g : Element} (h : c.ReadsAs tag records outcome) (hn : Named records)
    (hroot : c.readAnswer outcome = .ok root) :
    c.readRecord tag name outcome = .ok g ↔ g ∈ records ∧ nameOf g = name := by
  rw [readRecord, hroot]
  change scanRecords tag name (root.iter tag) none = .ok g ↔ _
  rw [scanRecords_ok_iff, h.answered root hroot, hn.find?_eq_some_iff]

lemma answered_of_readRecord {tag name : String} {outcome : HttpOutcome} {g : Element}
    (h : c.readRecord tag name outcome = .ok g) : ∃ root, c.readAnswer outcome = .ok root := by
  rcases ha : c.readAnswer outcome with e | root
  · rw [readRecord, ha] at h
    cases h
  · exact ⟨root, rfl⟩

lemma tag_of_readsAs {tag : String} {records : List Element} {outcome : HttpOutcome}
    {root g : Element} (h : c.ReadsAs tag records outcome)
    (hroot : c.readAnswer outcome = .ok root) (hg : g ∈ records) : g.tag = tag := by
  rw [← h.answered root hroot] at hg
  exact tag_of_mem_iter (List.mem_filter.mp hg).1

lemma readGroup_of_readsAs {group : String} {records : List Element} {outcome : HttpOutcome}
    {g : Element} (h : c.ReadsAs "IPHostGroup" records outcome) (hn : Named records)
    (hr : c.readGroup group outcome = .ok g) : g ∈ records ∧ nameOf g = group ∧ IsIpv4 g := by
  obtain ⟨hread, hv⟩ := c.readGroup_eq_ok hr
  obtain ⟨root, hroot⟩ := c.answered_of_readRecord hread
  obtain ⟨hg, hname⟩ := (c.readRecord_ok_iff h hn hroot).mp hread
  refine ⟨hg, hname, ?_⟩
  rcases checkIpv4Group_cases g group with ⟨hipv4, -⟩ | ⟨-, err, he⟩
  · exact hipv4
  · rw [hv] at he
    cases he

lemma verdict_of_readsAs {σ : Type} {tag name : String} {records : List Element}
    {outcome : HttpOutcome} {g : Element} (h : c.ReadsAs tag records outcome)
    (hn : Named records) (hg : g ∈ records) (hname : nameOf g = name) (verify : Element → Bool)
    (kept : σ) :
    ((∀ root, c.readAnswer outcome ≠ .ok root) ∧
      verdict tag name verify kept (c.readRecord tag name outcome) = .ok kept) ∨
    (verify g = true ∧
      verdict tag name verify kept (c.readRecord tag name outcome) = .ok kept) ∨
    (verify g = false ∧
      ∃ e, verdict tag name verify kept (c.readRecord tag name outcome) = .error e) := by
  rcases hr : c.readAnswer outcome with e | root
  · refine .inl ⟨by simp, ?_⟩
    have he : c.readRecord tag name outcome = .error e := by
      rw [readRecord, hr]
      rfl
    rw [he, verdict, if_pos (h.failed e hr)]
  · rw [(c.readRecord_ok_iff h hn hr).mpr ⟨hg, hname⟩, verdict]
    rcases hv : verify g with _ | _
    · exact .inr (.inr ⟨rfl, _, rfl⟩)
    · exact .inr (.inl ⟨rfl, rfl⟩)

lemma readIpHosts_of_readsAs {ip : String} {records : List Element} {outcome : HttpOutcome}
    {hosts : List String} (h : c.ReadsAs "IPHost" records outcome)
    (hr : c.readIpHosts ip outcome = .ok hosts) :
    hosts = records.filterMap (ipHostName ip) := by
  rw [readIpHosts] at hr
  rcases ha : c.readAnswer outcome with e | root
  · rw [ha] at hr
    cases hr
  · rw [ha] at hr
    obtain rfl := Except.ok.inj hr
    rw [← h.answered root ha, List.filterMap_filter]
    have hsame : ∀ e, (if (!isStatusOnly e) = true then ipHostName ip e else none) =
        ipHostName ip e := by
      intro e
      rcases hs : isStatusOnly e with _ | _
      · rfl
      · simp [ipHostName, hs]
    simp only [hsame]

end SophosClient

def hostGroupPaths : List (List String) := [["IPHostGroup", "Status"]]

def ipHostPaths : List (List String) := [["IPHost", "Status"]]

section Firewall

variable {S : Type} (c : SophosClient) (serve : S → Request → S × HttpOutcome)
  (ipHosts groups : S → List Element)

/-- A read changes nothing, and tells what there is. A new group takes the place of the one with
its name, and that is confirmed; or it is not applied, confirmed or not. A new host is added and
confirmed, or, as always if its name is taken, neither. -/
structure KeepsHosts : Prop where
  get : ∀ s tag, ipHosts (serve s (c.request (.get tag))).1 = ipHosts s ∧
    groups (serve s (c.request (.get tag))).1 = groups s
  getHosts : ∀ s, c.ReadsAs "IPHost" (ipHosts s) (serve s (c.request (.get "IPHost"))).2
  getGroups : ∀ s, c.ReadsAs "IPHostGroup" (groups s) (serve s (c.request (.get "IPHostGroup"))).2
  update : ∀ s sent, sent.tag = "IPHostGroup" →
    let x := serve s (c.request (.set "update" sent))
    ipHosts x.1 = ipHosts s ∧
      ((groups x.1 = replaceRecord (nameOf sent) sent (groups s) ∧ Accepted hostGroupPaths x.2) ∨
        (groups x.1 = groups s ∧ ¬ Accepted hostGroupPaths x.2) ∨
        (groups x.1 = groups s ∧ Accepted hostGroupPaths x.2))
  add : ∀ s sent, sent.tag = "IPHost" →
    let x := serve s (c.request (.set "add" sent))
    groups x.1 = groups s ∧
      ((nameOf sent ∉ (ipHosts s).map nameOf ∧ (ipHosts x.1).Perm (sent :: ipHosts s) ∧
          Accepted ipHostPaths x.2) ∨
        (ipHosts x.1 = ipHosts s ∧ ¬ Accepted ipHostPaths x.2))

variable {σ : Type}

/-- How a change of a group ended. -/
structure Modified (group : String) (change : Element → Except PyExc (Option Element × σ))
    (verify : Element → Bool) (s : S) (y : Ended S σ) : Prop where
  hosts : ipHosts y.server = ipHosts s
  updates : ∀ x ∈ y.trace, x.1.isSet = true → ∃ sent, x.1 = c.request (.set "update" sent)
  raised : (∀ g ∈ groups s, nameOf g = group → ∀ sent kept, change g = .ok (some sent, kept) →
      Arrives (groups s) sent ∧ verify sent = true) →
    ∀ e, y.result = .error e → groups y.server = groups s
  silent : (∀ g ∈ groups s, nameOf g = group → ∀ sent kept, change g ≠ .ok (some sent, kept)) →
    NoWrite y.trace
  returned : ∀ kept, y.result = .ok kept → ∃ g ∈ groups s, nameOf g = group ∧
    ((change g = .ok (none, kept) ∧ groups y.server = groups s) ∨
      ∃ sent, change g = .ok (some sent, kept) ∧ (Arrives (groups s) sent →
        c.GetsAnswered y.trace → ∃ g', (g' = g ∨ g' = sent ∧ sent.Clean) ∧ verify g' = true ∧
          groups y.server = replaceRecord group g' (groups s)))

/-- How the write of a group ended that was `g`. -/
structure Written (group : String) (g sent : Element) (verify : Element → Bool) (kept : σ) (s : S)
    (y : Ended S σ) : Prop where
  hosts : ipHosts y.server = ipHosts s
  updates : ∀ x ∈ y.trace, x.1.isSet = true → x.1 = c.request (.set "update" sent.received)
  raised : Arrives (groups s) sent → verify sent = true →
    ∀ e, y.result = .error e → groups y.server = groups s
  returned : ∀ k, y.result = .ok k → k = kept ∧ (Arrives (groups s) sent →
    c.GetsAnswered y.trace → ∃ g', (g' = g ∨ g' = sent ∧ sent.Clean) ∧ verify g' = true ∧
      groups y.server = replaceRecord group g' (groups s))

variable {c serve ipHosts groups} {group : String} {g sent : Element} {s : S}

lemma KeepsHosts.update_cases (hk : KeepsHosts c serve ipHosts groups) (hn : Named (groups s))
    (hg : g ∈ groups s) (hname : nameOf g = group) (hsent : nameOf sent = group)
    (htag : sent.tag = "IPHostGroup") (harr : Arrives (groups s) sent) :
    let x := serve s (c.request (.set "update" sent.received))
    (¬ Accepted hostGroupPaths x.2 → groups x.1 = groups s) ∧
      ∃ g', (g' = g ∧ groups x.1 = groups s ∨ g' = sent ∧ sent.Clean) ∧
        groups x.1 = replaceRecord group g' (groups s) := by
  have hself : replaceRecord group g (groups s) = groups s := by
    rw [← hname]
    exact replaceRecord_self hn hg
  obtain ⟨-, h⟩ := hk.update s sent.received ((Element.received_tag sent).trans htag)
  dsimp only at h ⊢
  rcases h with ⟨happ, hacc⟩ | ⟨hsame, hrej⟩ | ⟨hsame, hacc⟩
  · rcases harr with hclean | hunchanged
    · rw [hclean] at happ hacc ⊢
      rw [hsent] at happ
      exact ⟨fun hno => absurd hacc hno, sent,
        .inr ⟨rfl, Element.received_eq_self_iff.mp hclean⟩, happ⟩
    · rw [hunchanged] at happ
      exact ⟨fun _ => happ, g, .inl ⟨rfl, happ⟩, happ.trans hself.symm⟩
  · exact ⟨fun _ => hsame, g, .inl ⟨rfl, hsame⟩, hsame.trans hself.symm⟩
  · exact ⟨fun hno => absurd hacc hno, g, .inl ⟨rfl, hsame⟩, hsame.trans hself.symm⟩

lemma SophosClient.verdict_eq_ok {tag name : String} {verify : Element → Bool} {kept k : σ}
    {r : Except PyExc Element} (h : SophosClient.verdict tag name verify kept r = .ok k) :
    k = kept := by
  unfold SophosClient.verdict at h
  split at h <;> split at h
  · exact (Except.ok.inj h).symm
  · cases h
  · exact (Except.ok.inj h).symm
  · cases h

lemma written_of_reading (hk : KeepsHosts c serve ipHosts groups) (hn : Named (groups s))
    (hg : g ∈ groups s) (hname : nameOf g = group) (hsent : nameOf sent = group)
    (htag : sent.tag = "IPHostGroup") (verify : Element → Bool) (kept : σ) :
    let x := serve s (c.request (.set "update" sent.received))
    let z := serve x.1 (c.request (.get "IPHostGroup"))
    Written c ipHosts groups group g sent verify kept s
      ⟨z.1, SophosClient.verdict "IPHostGroup" group verify kept
          (c.readRecord "IPHostGroup" group z.2),
        [(c.request (.set "update" sent.received), x.2),
          (c.request (.get "IPHostGroup"), z.2)]⟩ := by
  intro x z
  obtain ⟨hhosts, -⟩ := hk.update s sent.received ((Element.received_tag sent).trans htag)
  obtain ⟨hread, hkeep⟩ := hk.get x.1 "IPHostGroup"
  have hback := hk.getGroups x.1
  -- what is read back is one of two groups, or the read is not answered
  have hcases : Arrives (groups s) sent →
      ∃ g', (g' = g ∧ groups x.1 = groups s ∨ g' = sent ∧ sent.Clean) ∧
      groups x.1 = replaceRecord group g' (groups s) ∧
      (((∀ root, c.readAnswer z.2 ≠ .ok root) ∧ SophosClient.verdict "IPHostGroup" group verify kept
          (c.readRecord "IPHostGroup" group z.2) = .ok kept) ∨
        (verify g' = true ∧ SophosClient.verdict "IPHostGroup" group verify kept
          (c.readRecord "IPHostGroup" group z.2) = .ok kept) ∨
        (verify g' = false ∧ ∃ e, SophosClient.verdict "IPHostGroup" group verify kept
          (c.readRecord "IPHostGroup" group z.2) = .error e)) := by
    intro harr
    obtain ⟨-, g', hg', hgroups⟩ := hk.update_cases hn hg hname hsent htag harr
    have hname' : nameOf g' = group := by
      rcases hg' with ⟨rfl, -⟩ | ⟨rfl, -⟩
      · exact hname
      · exact hsent
    have hn' : Named (groups x.1) := by
      rw [hgroups]
      exact hn.replaceRecord hname'
    have hmem : g' ∈ groups x.1 := by
      rw [hgroups]
      exact mem_replaceRecord hg hname
    exact ⟨g', hg', hgroups, c.verdict_of_readsAs hback hn' hmem hname' verify kept⟩
  constructor
  · exact hread.trans hhosts
  · intro w hw hset
    rcases List.mem_cons.mp hw with rfl | hw
    · rfl
    · obtain rfl := List.mem_singleton.mp hw
      cases hset
  · intro harr hverify e he
    obtain ⟨g', hg', hgroups, hverdict⟩ := hcases harr
    rcases hg' with ⟨-, hsame⟩ | ⟨rfl, -⟩
    · exact hkeep.trans hsame
    · rcases hverdict with ⟨-, hok⟩ | ⟨-, hok⟩ | ⟨hno, -⟩
      · cases hok.symm.trans he
      · cases hok.symm.trans he
      · cases hverify.symm.trans hno
  · intro k hk'
    refine ⟨SophosClient.verdict_eq_ok hk', fun harr hans => ?_⟩
    obtain ⟨g', hg', hgroups, hverdict⟩ := hcases harr
    rcases hverdict with ⟨hno, -⟩ | ⟨hyes, -⟩ | ⟨-, e, he⟩
    · obtain ⟨root, hroot⟩ := hans _ (List.mem_cons_of_mem _ (List.mem_singleton_self _)) rfl
      exact absurd hroot (hno root)
    · exact ⟨g', hg'.imp_left And.left, hyes, hkeep.trans hgroups⟩
    · cases he.symm.trans hk'

lemma written_of_writeBack (hk : KeepsHosts c serve ipHosts groups) (hn : Named (groups s))
    (hg : g ∈ groups s) (hname : nameOf g = group) (hsent : nameOf sent = group)
    (htag : sent.tag = "IPHostGroup") (verify : Element → Bool) (kept : σ) :
    Written c ipHosts groups group g sent verify kept s
      (c.writeBack serve "IPHostGroup" group (some verify) sent kept s) := by
  rcases c.writeBack_cases serve "IPHostGroup" group verify sent kept s with
    ⟨hno, err, hy⟩ | ⟨-, hy⟩
  · obtain ⟨hhosts, -⟩ := hk.update s sent.received ((Element.received_tag sent).trans htag)
    rw [hy]
    constructor
    · exact hhosts
    · intro w hw _
      rw [List.mem_singleton.mp hw]
    · intro harr _ _ _
      exact (hk.update_cases hn hg hname hsent htag harr).1 hno
    · intro k hk'
      cases hk'
  · rw [hy]
    exact written_of_reading hk hn hg hname hsent htag verify kept

lemma modified_modifyRecordHeld (hk : KeepsHosts c serve ipHosts groups) (hn : Named (groups s))
    (group : String) (verify : Element → Bool)
    {change : Element → Except PyExc (Option Element × σ)}
    (hchange : ∀ g sent kept, change g = .ok (some sent, kept) →
      nameOf sent = nameOf g ∧ sent.tag = g.tag) :
    Modified c ipHosts groups group change verify s
      ((c.modifyRecordHeld "IPHostGroup" group change (some verify)).exec serve s) := by
  obtain ⟨hhosts, hgroups⟩ := hk.get s "IPHostGroup"
  have hget := hk.getGroups s
  rw [SophosClient.exec_modifyRecordHeld]
  dsimp only
  generalize serve s (c.request (.get "IPHostGroup")) = x at hhosts hgroups hget ⊢
  have hno : NoWrite [(c.request (.get "IPHostGroup"), x.2)] := isSet_of_get c _ _
  have hupd : ∀ w ∈ [(c.request (.get "IPHostGroup"), x.2)], w.1.isSet = true →
      ∃ sent, w.1 = c.request (.set "update" sent) := by
    intro w hw hset
    rw [hno w hw] at hset
    cases hset
  rcases hr : c.readRecord "IPHostGroup" group x.2 with err | g
  · exact ⟨hhosts, hupd, fun _ _ _ => hgroups, fun _ => hno, nofun⟩
  · obtain ⟨root, hroot⟩ := c.answered_of_readRecord hr
    obtain ⟨hg, hname⟩ := (c.readRecord_ok_iff hget hn hroot).mp hr
    rcases hc : change g with err | ⟨_ | sent, kept⟩
    · simp only [Except.bind, hc]
      exact ⟨hhosts, hupd, fun _ _ _ => hgroups, fun _ => hno, nofun⟩
    · simp only [Except.bind, hc]
      refine ⟨hhosts, hupd, nofun, fun _ => hno, ?_⟩
      rintro _ ⟨⟩
      exact ⟨g, hg, hname, .inl ⟨hc, hgroups⟩⟩
    · simp only [Except.bind, hc]
      obtain ⟨hsent, htag⟩ := hchange g sent kept hc
      have hn' : Named (groups x.1) := by rwa [hgroups]
      have hg' : g ∈ groups x.1 := by rwa [hgroups]
      have hw := written_of_writeBack hk hn' hg' hname (hsent.trans hname)
        (htag.trans (c.tag_of_readsAs hget hroot hg)) verify kept
      refine ⟨hw.hosts.trans hhosts, ?_, ?_, ?_, ?_⟩
      · intro w hmem hset
        rcases List.mem_cons.mp hmem with rfl | hmem
        · cases hset
        · exact ⟨sent.received, hw.updates w hmem hset⟩
      · intro harr e he
        obtain ⟨harr, hverify⟩ := harr g hg hname sent kept hc
        rw [← hgroups] at harr
        exact (hw.raised harr hverify e he).trans hgroups
      · intro hsilent
        exact absurd hc (hsilent g hg hname sent kept)
      · intro k hk'
        obtain ⟨rfl, hret⟩ := hw.returned k hk'
        refine ⟨g, hg, hname, .inr ⟨sent, hc, fun harr hans => ?_⟩⟩
        rw [← hgroups] at harr ⊢
        exact hret harr fun w hmem => hans w (List.mem_cons_of_mem _ hmem)

end Firewall

/-! ### A firewall with hosts and groups -/

structure HostStore where
  hosts : List Element
  groups : List Element

/-- The answer to a write of a record with this tag. -/
def statusAnswer (tag code text : String) : HttpOutcome :=
  .answer 200 (.document (.new "Response" none [.new tag none
    [⟨"Status", .single "code" code, some text, none, []⟩]]))

/-- The answer to a read, if no record is inside another one. -/
def recordsAnswer (tag : String) (records : List Element) : HttpOutcome :=
  if records.all fun e => decide (e.tag = tag) && !isStatusOnly e &&
      (e.children.flatMap (Element.iter tag)).isEmpty then
    .answer 200 (.document (.new "Response" none records))
  else .timeout

/-- Records with this tag, with none inside another one. -/
def Flat (tag : String) (records : List Element) : Prop :=
  ∀ e ∈ records, e.tag = tag ∧ e.children.flatMap (Element.iter tag) = []

lemma readAnswer_recordsAnswer (c : SophosClient) {tag : String} (hlogin : tag ≠ "Login")
    (hstatus : tag ≠ "Status") {records : List Element} (hflat : Flat tag records)
    (hn : ∀ e ∈ records, nameOf e ≠ "") :
    c.readAnswer (recordsAnswer tag records) = .ok (.new "Response" none records) := by
  have htag : ∀ e ∈ records, e.tag = tag := fun e he => (hflat e he).1
  have hall : (records.all fun e => decide (e.tag = tag) && !isStatusOnly e &&
      (e.children.flatMap (Element.iter tag)).isEmpty) = true := by
    rw [List.all_eq_true]
    intro e he
    have hs : isStatusOnly e = false := by
      by_contra hs
      exact hn e he (nameOf_of_isStatusOnly (by simpa using hs))
    rw [(hflat e he).2, htag e he, hs]
    simp
  have hfind {t : String} (ht : tag ≠ t) : (records.filter fun e => e.tag = t) = [] := by
    rw [List.filter_eq_nil_iff]
    intro e he
    simpa [htag e he] using ht
  rw [recordsAnswer, if_pos hall, c.readAnswer_ok_iff]
  refine ⟨200, rfl, .inl rfl, ?_, ?_⟩
  · simp [LoginOk, Element.findPath, Element.select, Element.findall, Element.new, hfind hlogin]
  · simp [StatusOk, Element.find_eq_head_findall, Element.findall, Element.new, hfind hstatus]

/-- It applies every write, but takes no two hosts of one name. -/
def hostFirewall (s : HostStore) (r : Request) : HostStore × HttpOutcome :=
  match r.operation with
  | .set "add" sent =>
    if nameOf sent ∈ s.hosts.map nameOf then
      (s, statusAnswer "IPHost" "502" "Entity having same name already exists")
    else ({ s with hosts := sent :: s.hosts }, statusAnswer "IPHost" "200" "Configuration applied")
  | .set _ sent =>
    ({ s with groups := replaceRecord (nameOf sent) sent s.groups },
      statusAnswer "IPHostGroup" "200" "Configuration applied")
  | .get "IPHost" => (s, recordsAnswer "IPHost" s.hosts)
  | _ => (s, recordsAnswer "IPHostGroup" s.groups)

lemma accepted_statusAnswer {tag code text : String} (hlogin : tag ≠ "Login")
    (hstatus : tag ≠ "Status") :
    Accepted [[tag, "Status"]] (statusAnswer tag code text) ↔ isSuccess code = true := by
  have hroot : ∀ status root, statusAnswer tag code text = .answer status (.document root) →
      root = .new "Response" none [.new tag none
        [⟨"Status", .single "code" code, some text, none, []⟩]] := by
    intro status root h
    cases h
    rfl
  have hcode : (Dict.single "code" code).get "code" = some code := rfl
  constructor
  · rintro ⟨status, root, h, -, -, -, hconf⟩
    obtain rfl := hroot status root h
    simpa [Confirmed, Element.findPath, Element.select, Element.findall, Element.new, Element.attr,
      hcode, isSuccess_iff] using hconf
  · intro hs
    refine ⟨200, _, rfl, .inl rfl, ?_, ?_, ?_⟩
    · simp [LoginOk, Element.findPath, Element.select, Element.findall, Element.new, hlogin]
    · simp [StatusOk, Element.find, Element.new, hstatus]
    · simpa [Confirmed, Element.findPath, Element.select, Element.findall, Element.new,
        Element.attr, hcode, isSuccess_iff] using hs

lemma readsAs_recordsAnswer (c : SophosClient) {tag : String} (htag : tag ≠ "Response")
    (records : List Element) : c.ReadsAs tag records (recordsAnswer tag records) := by
  unfold recordsAnswer
  split
  · next hflat =>
    simp only [List.all_eq_true, Bool.and_eq_true, decide_eq_true_eq, Bool.not_eq_true',
      List.isEmpty_iff] at hflat
    constructor
    · intro e he
      exact c.readAnswer_error he (by simp [Undecodable]) nofun
    · intro root hroot
      obtain ⟨_, ⟨⟩, -⟩ := c.readAnswer_ok_iff.mp hroot
      have hone : ∀ e ∈ records, e.iter tag = [e] := by
        intro e he
        obtain ⟨⟨htag, -⟩, hnested⟩ := hflat e he
        rw [Element.iter_eq, if_pos htag, hnested]
        rfl
      rw [Element.iter_eq]
      simp only [Element.new, htag.symm, if_false, List.nil_append]
      rw [List.flatMap_congr hone, List.flatMap_singleton', List.filter_eq_self]
      intro e he
      simp [(hflat e he).1.2]
  · constructor
    · intro e he
      exact c.readAnswer_error he nofun nofun
    · intro root hroot
      obtain ⟨_, ⟨⟩, -⟩ := c.readAnswer_ok_iff.mp hroot

lemma keepsHosts_hostFirewall (c : SophosClient) :
    KeepsHosts c hostFirewall HostStore.hosts HostStore.groups where
  get s tag := by
    unfold hostFirewall
    dsimp only [SophosClient.request]
    split <;> simp_all
  getHosts s := readsAs_recordsAnswer c (by decide) s.hosts
  getGroups s := readsAs_recordsAnswer c (by decide) s.groups
  update s sent _ := by
    refine ⟨rfl, .inl ⟨rfl, ?_⟩⟩
    exact (accepted_statusAnswer (by decide) (by decide)).mpr (by decide)
  add s sent _ := by
    rw [show hostFirewall s (c.request (.set "add" sent)) =
      if nameOf sent ∈ s.hosts.map nameOf then
        (s, statusAnswer "IPHost" "502" "Entity having same name already exists")
      else ({ s with hosts := sent :: s.hosts },
        statusAnswer "IPHost" "200" "Configuration applied") from rfl]
    dsimp only
    split
    · refine ⟨rfl, .inr ⟨rfl, ?_⟩⟩
      intro h
      have hno := (accepted_statusAnswer (by decide) (by decide)).mp h
      exact absurd hno (by decide)
    · next hnew =>
      refine ⟨rfl, .inl ⟨hnew, .refl _, ?_⟩⟩
      exact (accepted_statusAnswer (by decide) (by decide)).mpr (by decide)

end SophosFw.Client
