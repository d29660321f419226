import SophosFw.HostGroups
import SophosFw.UrlGroup
import SophosFw.RequestDocuments

/-!
What an operation of the client may send, whatever the firewall answers and whatever else runs at
the same time.

An operation that reads only reads. One that writes only writes the record it was asked to, and the
checks it makes before (that a URL group is editable, that a host group is of IPv4) hold of what it
sends.
-/

namespace SophosFw.Client

open SophosFw.PyDict SophosFw.PyText SophosFw.ElementTree SophosFw.Records SophosFw.Slot
  SophosFw.Runs
open SophosFw.Xml (lineEnds)
open ClientM

/-- The same element but for children of a kind. -/
structure DiffersIn (p : Element → Bool) (e e' : Element) : Prop where
  tag : e'.tag = e.tag
  others : (e'.children.filter fun c => !p c) = e.children.filter fun c => !p c

namespace DiffersIn

variable {p : Element → Bool} {e e' : Element}

lemma trans {e'' : Element} (h : DiffersIn p e e') (h' : DiffersIn p e' e'') : DiffersIn p e e'' :=
  ⟨h'.tag.trans h.tag, h'.others.trans h.others⟩

lemma find_eq (h : DiffersIn p e e') {t : String} (ht : ∀ c : Element, c.tag = t → p c = false) :
    e'.find t = e.find t := by
  have hfind (l : List Element) : l.find? (fun c => decide (c.tag = t)) =
      (l.filter fun c => !p c).find? fun c => decide (c.tag = t) := by
    rw [List.find?_filter]
    congr 1
    funext c
    by_cases hc : c.tag = t
    · simp [hc, ht c hc]
    · simp [hc]
  unfold Element.find
  rw [hfind, h.others, ← hfind]

lemma nameOf_eq (h : DiffersIn p e e') (ht : ∀ c : Element, c.tag = "Name" → p c = false) :
    nameOf e' = nameOf e := by
  unfold nameOf Element.findtext
  rw [h.find_eq ht]

lemma childText_eq (h : DiffersIn p e e') {t : String}
    (ht : ∀ c : Element, c.tag = t → p c = false) : childText e' t = childText e t := by
  unfold childText
  rw [h.find_eq ht]

end DiffersIn

lemma filter_eraseFirst {α : Type} (p : α → Bool) (l : List α) :
    ((eraseFirst p l).filter fun a => !p a) = l.filter fun a => !p a := by
  induction l with
  | nil => rfl
  | cons a l ih =>
    cases ha : p a
    · simp [eraseFirst, ha, ih]
    · simp [eraseFirst, ha]

lemma differsIn_mapFirst {p : Element → Bool} {f : Element → Element}
    (hf : ∀ c, p c → p (f c)) (e : Element) :
    DiffersIn p e { e with children := mapFirst p f e.children } :=
  ⟨rfl, filter_mapFirst (fun c hc => by simp [hc]) (fun c hc => by simp [hf c hc]) _⟩

lemma differsIn_eraseFirst (p : Element → Bool) (e : Element) :
    DiffersIn p e { e with children := eraseFirst p e.children } :=
  ⟨rfl, filter_eraseFirst p _⟩

section Closures

variable {e sent : Element}

lemma changeField_differs {tag name field value : String} {kept : Unit}
    (h : changeField tag name field value e = .ok (some sent, kept)) :
    DiffersIn (fun c => c.tag = field) e sent ∧
      (sent.find field).bind Element.text = some value := by
  unfold changeField at h
  split at h
  · cases h
  · next c hc =>
    obtain ⟨⟨⟩, -⟩ := Prod.mk.inj (Except.ok.inj h)
    have hkeeps (c : Element) (hc : decide (c.tag = field) = true) :
        decide ((c.setText value).tag = field) = true := hc
    refine ⟨differsIn_mapFirst hkeeps e, ?_⟩
    rw [Element.find_setChildText, hc]
    rfl

lemma changeUrls_differs {group wanted : String} {present kept : Bool}
    (h : changeUrls group wanted present e = .ok (some sent, kept)) :
    DiffersIn isUrlList e sent ∧ Editable e := by
  have hkeeps (f : Element → Element) (hf : ∀ c, (f c).tag = c.tag) :=
    differsIn_mapFirst (p := isUrlList) (f := f) (fun c hc => by simpa [isUrlList, hf c] using hc) e
  unfold changeUrls at h
  split at h
  · cases h
  · next hdefault =>
    refine ⟨?_, not_not.mp hdefault⟩
    dsimp only at h
    split at h
    · split at h
      · cases h
      · split at h
        · obtain ⟨⟨⟩, -⟩ := Prod.mk.inj (Except.ok.inj h)
          refine ⟨rfl, ?_⟩
          have hnew : isUrlList (.new "URLlist" none [.new "URL" (some wanted) []]) = true := by
            simp [isUrlList, Element.new]
          simp [append, hnew]
        · obtain ⟨⟨⟩, -⟩ := Prod.mk.inj (Except.ok.inj h)
          exact hkeeps _ fun c => rfl
    · split at h
      · cases h
      · split at h
        · cases h
        · split at h
          · obtain ⟨⟨⟩, -⟩ := Prod.mk.inj (Except.ok.inj h)
            exact differsIn_eraseFirst _ e
          · obtain ⟨⟨⟩, -⟩ := Prod.mk.inj (Except.ok.inj h)
            exact hkeeps _ fun c => rfl

lemma ipv4_of_addMember {group host : String} {x : Option Element × Unit}
    (h : addMember group host e = .ok x) : IsIpv4 e := by
  rcases addMember_cases group host e with ⟨-, err, he⟩ | ⟨hv, -⟩ | ⟨hv, -⟩
  · rw [he] at h
    cases h
  · exact hv
  · exact hv

lemma ipv4_of_removeMembers {group : String} {hosts : List String}
    {x : Option Element × List String} (h : removeMembers group hosts e = .ok x) : IsIpv4 e := by
  rcases removeMembers_cases group hosts e with ⟨-, err, he⟩ | ⟨hv, -⟩ | ⟨hv, -⟩
  · rw [he] at h
    cases h
  · exact hv
  · exact hv

lemma hostAdded_differs {host : String} (h : HostAdded host e sent) :
    DiffersIn isHostList e sent := by
  cases h with
  | appended hsplit hlist _ =>
    refine ⟨rfl, ?_⟩
    rw [hsplit]
    simp [isHostList, tag_of_isHostList hlist]
  | created _ hsplit _ _ =>
    refine ⟨rfl, ?_⟩
    rw [hsplit]
    simp [isHostList, Element.new]

lemma hostsRemoved_differs {hosts removed : List String} (h : HostsRemoved hosts e removed sent) :
    DiffersIn isHostList e sent := by
  cases h with
  | removed hsplit hlist _ _ | dropped hsplit hlist _ _ =>
    refine ⟨rfl, ?_⟩
    rw [hsplit]
    simp [isHostList, tag_of_isHostList hlist]

lemma childText_received (e : Element) (tag : String) :
    childText e.received tag = (childText e tag).map lineEnds := by
  rw [childText, childText, Element.find_received]
  rcases e.find tag with _ | c
  · rfl
  rw [Option.map_some, Option.bind_some, Option.bind_some, Element.received_text]
  rcases c.text with _ | t
  · rfl
  rw [Option.map_some, Option.bind_some, Option.bind_some, strip_lineEnds]
  by_cases hempty : strip t = ""
  · rw [if_pos hempty, if_pos (Xml.lineEnds_eq_empty_iff.mpr hempty)]
    rfl
  · rw [if_neg hempty, if_neg (mt Xml.lineEnds_eq_empty_iff.mp hempty)]
    rfl

lemma Editable.received (h : Editable e) : Editable e.received := by
  unfold Editable at h ⊢
  rw [childText_received]
  generalize childText e "IsDefault" = x at h ⊢
  rcases x with _ | t
  · exact h
  have hclean : '\r' ∉ t.toList := by
    intro hmem
    have hlow : IsLow '\r' := ⟨rfl, by decide⟩
    have hin : '\r' ∈ (lower t).toList := by
      rw [lower, String.toList_ofList]
      exact mem_lowerChars hlow hmem
    rw [show lower t = "no" from h] at hin
    exact absurd hin (by decide)
  rwa [Option.map_some, Xml.lineEnds_eq_iff.mpr hclean]

lemma IsIpv4.received (h : IsIpv4 e) : IsIpv4 e.received := by
  unfold IsIpv4 at h ⊢
  rw [childText_received]
  generalize childText e "IPFamily" = x at h ⊢
  rcases x with _ | t
  · exact h
  · rw [show t = "IPv4" from h]
    rfl

lemma bind_text_received {tag value : String} (h : (e.find tag).bind Element.text = some value)
    (hvalue : '\r' ∉ value.toList) : (e.received.find tag).bind Element.text = some value := by
  obtain ⟨c, hc, ht⟩ := Option.bind_eq_some_iff.mp h
  rw [Element.find_received, hc, Option.map_some, Option.bind_some, Element.received_text, ht,
    Option.map_some, Xml.lineEnds_eq_iff.mpr hvalue]

lemma ipv4_of_differs (h : DiffersIn isHostList e sent) (hv : IsIpv4 e) : IsIpv4 sent := by
  unfold IsIpv4 at hv ⊢
  rwa [h.childText_eq fun c hc => by simp [isHostList, hc]]

end Closures

/-- It writes back a record of this tag and name. -/
def Writes (tag name : String) (P : Element → Prop) (o : Operation) : Prop :=
  ∃ e, o = .set "update" e ∧ e.tag = tag ∧ nameOf e = name ∧ P e

namespace Call

/-- What an operation may ask for. -/
def Scope : Call → Operation → Prop
  | testConnection, o => o = .login
  | getInterfaces, o => o = .get "Interface"
  | getFirewallRules, o => o = .get "FirewallRule"
  | getWebFilterPolicies, o => o = .get "WebFilterPolicy"
  | getDhcpServers, o => o = .get "DHCPServer"
  | getBackup, o => o = .get "BackupRestore"
  | getAdminSettings, o => o = .get "AdminSettings"
  | getWirelessNetworks, o => o = .get "WirelessNetworks"
  | setFirewallRuleStatus name enable, o => o = .get "FirewallRule" ∨
      Writes "FirewallRule" name (fun e => (e.find "Status").bind Element.text =
        some (if enable then "Enable" else "Disable")) o
  | setWebFilterDefaultAction name allow, o => o = .get "WebFilterPolicy" ∨
      Writes "WebFilterPolicy" name (fun e => (e.find "DefaultAction").bind Element.text =
        some (if allow then "Allow" else "Deny")) o
  | setUrlInGroup group _ _, o => o = .get "WebFilterURLGroup" ∨
      Writes "WebFilterURLGroup" group Editable o
  | blockIpInGroup group ip name, o => o = .get "IPHostGroup" ∨ o = .get "IPHost" ∨
      o = (Action.addIpHost ip name).operation ∨ Writes "IPHostGroup" group IsIpv4 o
  | unblockIpInGroup group _, o => o = .get "IPHost" ∨ o = .get "IPHostGroup" ∨
      Writes "IPHostGroup" group IsIpv4 o
  | setWirelessNetworkStatus hardwareName enable, o =>
      o = (Action.wirelessNetworkStatus hardwareName enable).operation
  | setIpsecConnectionActive name active, o =>
      o = (Action.ipsecConnectionActive name active).operation

/-- The strings an operation looks for or sends. -/
def strings : Call → List String
  | setFirewallRuleStatus name _ | setWebFilterDefaultAction name _ => [name]
  | setUrlInGroup group url _ => [group, lower (strip url)]
  | blockIpInGroup group ip name => [group, ip, name]
  | unblockIpInGroup group _ => [group]
  | setWirelessNetworkStatus name _ | setIpsecConnectionActive name _ => [name]
  | _ => []

/-- None of them has a carriage return. -/
def Plain (call : Call) : Prop := ∀ t ∈ call.strings, '\r' ∉ t.toList

instance : DecidablePred Plain := fun call =>
  inferInstanceAs (Decidable (∀ t ∈ call.strings, '\r' ∉ t.toList))

/-- What an operation may send: a request in its scope, with the credentials of its client. -/
def InScope (c : SophosClient) (call : Call) (r : Request) : Prop :=
  r = c.request r.operation ∧ call.Scope r.operation

end Call

/-! ### Every operation keeps to its scope -/

section Asks

variable {P : Request → Prop} {α β σ : Type} {c : SophosClient} {tag name : String}

lemma asks_ensure_bind {x : Except PyExc α} {f : α → ClientM β}
    (h : ∀ a, x = .ok a → Asks P (f a)) : Asks P (ensure x >>= f) := by
  rcases x with e | a
  · exact .ret _
  · exact h a rfl

lemma asks_posting {operation : Operation} (h : P (c.request operation)) (slotHeld : Bool) :
    Asks P (c.post operation slotHeld) := by
  have hx : Asks P (c.exchange operation) := .send h fun _ => .ret _
  refine Asks.bind ?_ fun _ => asks_ensure _
  cases slotHeld
  · exact hx.withSlot
  · exact hx

lemma asks_records (h : P (c.request (.get tag))) : Asks P (c.getRecords tag) :=
  (asks_posting h false).bind fun _ => asks_pure _

lemma asks_record_bind (h : P (c.request (.get tag))) {f : Element → ClientM β}
    (hf : ∀ e, e.tag = tag → nameOf e = name → Asks P (f e)) :
    Asks P (c.getRecordElement tag name >>= f) := by
  unfold SophosClient.getRecordElement
  rw [bind_assoc]
  refine (asks_posting h true).bind fun root => asks_ensure_bind fun e he => ?_
  have hfind := SophosClient.scanRecords_ok_iff.mp he
  have hmem := (List.mem_filter.mp (List.mem_of_find?_eq_some hfind)).1
  exact hf e (tag_of_mem_iter hmem) (by simpa using List.find?_some hfind)

lemma asks_record (h : P (c.request (.get tag))) : Asks P (c.getRecordElement tag name) := by
  have hbind : Asks P (c.getRecordElement tag name >>= pure) :=
    asks_record_bind h fun e _ _ => asks_pure e
  rwa [bind_pure] at hbind

lemma asks_modify (h : P (c.request (.get tag)))
    {change : Element → Except PyExc (Option Element × σ)} {verify : Option (Element → Bool)}
    (hset : ∀ e sent kept, e.tag = tag → nameOf e = name → change e = .ok (some sent, kept) →
      P (c.request (.set "update" sent.received))) :
    Asks P (c.modifyRecordHeld tag name change verify) := by
  refine asks_record_bind h fun e htag hname => asks_ensure_bind fun x hx => ?_
  rcases x with ⟨_ | sent, kept⟩
  · exact asks_pure _
  refine (asks_posting (hset e sent kept htag hname hx) true).bind fun root =>
    (asks_ensure _).bind fun _ => ?_
  rcases verify with _ | verify
  · exact asks_pure _
  refine (((asks_record h).bind fun _ => asks_pure _).catchSophosError
    fun _ => asks_pure none).bind fun after => ?_
  rcases after with _ | after
  · exact asks_pure _
  · dsimp only
    split
    · exact asks_pure _
    · exact asks_raise _

/-- A record that differs in other children than its name is written under its name, if there is no
carriage return in it. -/
lemma writes_of_differs {p : Element → Bool} {e sent : Element} {Q : Element → Prop}
    (htag : e.tag = tag) (hname : nameOf e = name) (hreturn : '\r' ∉ name.toList)
    (h : DiffersIn p e sent) (hp : ∀ c : Element, c.tag = "Name" → p c = false)
    (hQ : Q sent.received) : Writes tag name Q (.set "update" sent.received) := by
  refine ⟨sent.received, rfl, (Element.received_tag sent).trans (h.tag.trans htag), ?_, hQ⟩
  rw [nameOf_received, h.nameOf_eq hp, hname, Xml.lineEnds_eq_iff.mpr hreturn]

lemma isHostList_name (c : Element) (h : c.tag = "Name") : isHostList c = false := by
  simp [isHostList, h]

end Asks

namespace Call

lemma asks_scope (c : SophosClient) {call : Call} (hplain : call.Plain) :
    (call.prog c).Asks (call.InScope c) := by
  have hreturn : ∀ t ∈ call.strings, '\r' ∉ t.toList := hplain
  cases call with
  | testConnection => exact (asks_posting ⟨rfl, rfl⟩ false).bind fun _ => asks_pure _
  | getInterfaces => exact (asks_records ⟨rfl, rfl⟩).bind fun _ => asks_pure _
  | getFirewallRules => exact (asks_records ⟨rfl, rfl⟩).bind fun _ => asks_pure _
  | getWebFilterPolicies => exact (asks_records ⟨rfl, rfl⟩).bind fun _ => asks_pure _
  | getDhcpServers =>
    refine (asks_records ⟨rfl, rfl⟩).bind fun records => ?_
    split
    · exact asks_raise _
    · exact asks_pure _
  | getBackup => exact (asks_records ⟨rfl, rfl⟩).bind fun _ => asks_pure _
  | getAdminSettings => exact (asks_records ⟨rfl, rfl⟩).bind fun _ => asks_pure _
  | getWirelessNetworks => exact (asks_records ⟨rfl, rfl⟩).bind fun _ => asks_pure _
  | setFirewallRuleStatus name enable =>
    refine (asks_modify ⟨rfl, .inl rfl⟩ fun e sent kept htag hname h => ⟨rfl, .inr ?_⟩).withSlot
    obtain ⟨hdiffers, hvalue⟩ := changeField_differs h
    exact writes_of_differs htag hname (hreturn name List.mem_cons_self) hdiffers
      (fun c hc => by simp [hc]) (bind_text_received hvalue (by split <;> decide))
  | setWebFilterDefaultAction name allow =>
    refine (asks_modify ⟨rfl, .inl rfl⟩ fun e sent kept htag hname h => ⟨rfl, .inr ?_⟩).withSlot
    obtain ⟨hdiffers, hvalue⟩ := changeField_differs h
    exact writes_of_differs htag hname (hreturn name List.mem_cons_self) hdiffers
      (fun c hc => by simp [hc]) (bind_text_received hvalue (by split <;> decide))
  | setUrlInGroup group url present =>
    refine (asks_modify ⟨rfl, .inl rfl⟩ fun e sent kept htag hname h => ⟨rfl, .inr ?_⟩).withSlot
    obtain ⟨hdiffers, heditable⟩ := changeUrls_differs h
    have hne (t : String) (ht : lower t ≠ lower "URLlist") (c : Element) (hc : c.tag = t) :
        isUrlList c = false := by simpa [isUrlList, hc] using ht
    refine writes_of_differs htag hname (hreturn group List.mem_cons_self) hdiffers
      (hne _ (by decide)) (Editable.received ?_)
    unfold Editable at heditable ⊢
    rwa [hdiffers.childText_eq (hne _ (by decide))]
  | blockIpInGroup group ip name =>
    refine Asks.withSlot (asks_record_bind ⟨rfl, .inl rfl⟩ fun elem _ _ =>
      (asks_ensure _).bind fun _ => Asks.bind ?_ fun hosts => ?_)
    · exact (asks_posting ⟨rfl, .inr (.inl rfl)⟩ true).bind fun _ => asks_pure _
    split
    · exact asks_pure _
    · refine Asks.bind ?_ fun host => Asks.bind ?_ fun _ => asks_pure _
      · split
        · exact asks_pure _
        · refine (asks_posting ⟨rfl, .inr (.inr (.inl rfl))⟩ true).bind fun root => ?_
          split
          · exact asks_pure _
          · split
            · exact asks_raise _
            · exact asks_raise _
          · exact asks_raise _
      · refine asks_modify ⟨rfl, .inl rfl⟩ fun e sent kept htag hname h =>
          ⟨rfl, .inr (.inr (.inr ?_))⟩
        have hdiffers := hostAdded_differs (addMember_eq_some h).2
        exact writes_of_differs htag hname (hreturn group List.mem_cons_self) hdiffers
          isHostList_name (ipv4_of_differs hdiffers (ipv4_of_addMember h)).received
  | unblockIpInGroup group ip =>
    refine Asks.bind (Asks.withSlot (Asks.bind ?_ fun hosts => ?_)) fun _ => asks_pure _
    · exact (asks_posting ⟨rfl, .inl rfl⟩ true).bind fun _ => asks_pure _
    · refine asks_modify ⟨rfl, .inr (.inl rfl)⟩ fun e sent kept htag hname h =>
        ⟨rfl, .inr (.inr ?_)⟩
      have hdiffers := hostsRemoved_differs (removeMembers_eq_some h).2
      exact writes_of_differs htag hname (hreturn group List.mem_cons_self) hdiffers isHostList_name
        (ipv4_of_differs hdiffers (ipv4_of_removeMembers h)).received
  | setWirelessNetworkStatus name enable =>
    exact (asks_posting ⟨rfl, rfl⟩ false).bind fun _ => asks_ensure _
  | setIpsecConnectionActive name active =>
    exact (asks_posting ⟨rfl, rfl⟩ false).bind fun _ => asks_ensure _

end Call

/-- **Nothing outside its scope.** However operations of the client interleave, and whatever the
firewall answers, every request it gets from an operation is in the scope of that operation, if
there is no carriage return in the names it is called with. -/
theorem requests_in_scope {ι S : Type} [DecidableEq ι] (c : SophosClient) {calls : ι → Call}
    (hplain : ∀ i, (calls i).Plain) (serve : S → Request → S × HttpOutcome) {s₀ : S}
    {es : List (Label ι HttpOutcome)} {s : Sys S Request HttpOutcome fun i => (calls i).Result}
    (h : Run (step serve) (Sys.init (fun i => (calls i).prog c) s₀) es s) :
    ∀ x ∈ s.log, (calls x.1).InScope c x.2 :=
  (asks_run serve _ s₀ (fun i => Call.asks_scope c (hplain i)) h).2

/-- It has one rule, with a description of two lines, confirms every write, and answers anything
else with nonsense. -/
def descriptionFirewall (u : Unit) (r : Request) : Unit × HttpOutcome :=
  match r.operation with
  | .get "FirewallRule" => (u, recordsAnswer "FirewallRule" [.new "FirewallRule" none
      [.new "Name" (some "Guest") [], .new "Status" (some "Enable") [],
        .new "Description" (some "a\rb") []]])
  | .set _ _ => (u, statusAnswer "FirewallRule" "200" "Configuration applied")
  | _ => (u, .answer 500 .undecodable)

/-- A rule is switched, with the update confirmed, and a poll is answered with nonsense. -/
theorem requests_in_scope_poll_and_write :
    let c : SophosClient := ⟨"fw", 4444, "admin", "secret"⟩
    let calls : Bool → Call := fun b =>
      if b then .setFirewallRuleStatus "Guest" false else .getAdminSettings
    let es : List (Label Bool HttpOutcome) := [.acquire true, .send true, .serve true, .answer true,
      .send true, .serve true, .answer true, .release true, .acquire false, .send false,
      .serve false]
    ∃ s : Sys Unit Request HttpOutcome fun i => (calls i).Result,
      Run (step descriptionFirewall) (Sys.init (fun i => (calls i).prog c) ()) es s ∧
        s.log.map (fun x => (x.1, x.2.isSet)) = [(true, false), (true, true), (false, false)] ∧
        ∀ x ∈ s.log, (calls x.1).InScope c x.2 := by
  intro c calls es
  obtain ⟨s, hs, hlog⟩ : ∃ s, replay (step descriptionFirewall)
      (Sys.init (fun i => (calls i).prog c) ()) es = some s ∧
      s.log.map (fun x => (x.1, x.2.isSet)) = [(true, false), (true, true), (false, false)] :=
    ⟨_, rfl, rfl⟩
  have hrun := run_of_replay hs
  exact ⟨s, hrun, hlog, requests_in_scope c (by decide) descriptionFirewall hrun⟩

end SophosFw.Client
