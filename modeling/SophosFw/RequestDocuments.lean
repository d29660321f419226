import SophosFw.ClientRuns
import SophosFw.Xml

/-!
The documents the client posts.

An operation is written as text around the strings of its caller, or around a record that was
read and is written back changed. What the firewall parses is the request the client means, with
line feeds for carriage returns, and the structure of the former does not depend on the strings.
-/

namespace SophosFw.Client

open SophosFw.PyDict SophosFw.ElementTree SophosFw.Xml

/-- The record types the client reads. -/
inductive XmlTag
  | interface
  | firewallRule
  | webFilter
  | dhcpServer
  | backup
  | admin
  | urlGroup
  | ipHost
  | ipHostGroup
  | wirelessNetworks
  deriving DecidableEq, Repr

namespace XmlTag

def name : XmlTag → String
  | interface => "Interface"
  | firewallRule => "FirewallRule"
  | webFilter => "WebFilterPolicy"
  | dhcpServer => "DHCPServer"
  | backup => "BackupRestore"
  | admin => "AdminSettings"
  | urlGroup => "WebFilterURLGroup"
  | ipHost => "IPHost"
  | ipHostGroup => "IPHostGroup"
  | wirelessNetworks => "WirelessNetworks"

lemma isName_name (tag : XmlTag) : isName tag.name.toList := by
  cases tag <;> rfl

end XmlTag

/-- What the client asks of the firewall in a document of its own. -/
inductive Action
  | login
  | get (tag : XmlTag)
  | addIpHost (ip name : String)
  | wirelessNetworkStatus (hardwareName : String) (enable : Bool)
  | ipsecConnectionActive (name : String) (active : Bool)

def getBody (tag : XmlTag) : String := "<Get><" ++ tag.name ++ "/></Get>"

/-- The body `_add_ip_host_held` passes to `_request`. -/
def addIpHostBody (ip name : String) : String :=
  "<Set operation=\"add\"><IPHost>" ++
    "<Name>" ++ escape name ++ "</Name><IPFamily>IPv4</IPFamily>" ++
    "<HostType>IP</HostType><IPAddress>" ++ escape ip ++ "</IPAddress>" ++
    "<Description>Created by Home Assistant</Description>" ++
    "</IPHost></Set>"

/-- The body `set_wireless_network_status` passes to `_request`. -/
def wirelessNetworkStatusBody (hardwareName : String) (enable : Bool) : String :=
  let status := if enable then "Enable" else "Disable"
  "<Set operation=\"update\"><WirelessNetworkStatus>" ++
    "<Name>" ++ escape hardwareName ++ "</Name><Status>" ++ status ++ "</Status>" ++
    "</WirelessNetworkStatus></Set>"

/-- The body `set_ipsec_connection_active` passes to `_request`. -/
def ipsecConnectionActiveBody (name : String) (active : Bool) : String :=
  let action := if active then "Active" else "DeActive"
  "<Set operation=\"update\"><VPNIPSecConnection><" ++ action ++ ">" ++
    "<Name>" ++ escape name ++ "</Name>" ++
    "</" ++ action ++ "></VPNIPSecConnection></Set>"

def Action.body : Action → String
  | login => ""
  | get tag => getBody tag
  | addIpHost ip name => addIpHostBody ip name
  | wirelessNetworkStatus hardwareName enable => wirelessNetworkStatusBody hardwareName enable
  | ipsecConnectionActive name active => ipsecConnectionActiveBody name active

namespace SophosClient

variable (c : SophosClient)

/-- `_login_block`. -/
def loginBlock : String :=
  "<Login>" ++
    "<Username>" ++ escape c.username ++ "</Username>" ++
    "<Password>" ++ escape c.password ++ "</Password>" ++
    "</Login>"

/-- `_request`. -/
def envelope (body : String) : String := "<Request>" ++ c.loginBlock ++ body ++ "</Request>"

def document (a : Action) : String := c.envelope a.body

/-- The body `_modify_record_held` passes to `_request`. -/
def updateBody (content : Element) : String :=
  "<Set operation=\"update\">" ++ content.tostring ++ "</Set>"

def updateDocument (content : Element) : String := c.envelope (updateBody content)

end SophosClient

def Operation.nodes : Operation → List Node
  | login => []
  | get tag => [.element "Get" [] [.element tag [] []]]
  | set operation content => [.element "Set" [("operation", operation)] (nodeOf.go [content])]

def Request.node (r : Request) : Node :=
  .element "Request" []
    (.element "Login" []
      [.element "Username" [] (textNodes r.username.toList),
        .element "Password" [] (textNodes r.password.toList)] :: r.operation.nodes)

/-- The operation as it is read where it is sent to. -/
def Operation.received : Operation → Operation
  | set operation content => .set operation content.received
  | o => o

/-- The operation that an action writes. -/
def Action.written : Action → Operation
  | login => .login
  | get tag => .get tag.name
  | addIpHost ip name => .set "add" (SophosClient.newIpHost ip name)
  | wirelessNetworkStatus hardwareName enable =>
    .set "update" (.new "WirelessNetworkStatus" none
      [.new "Name" (some hardwareName) [],
        .new "Status" (some (if enable then "Enable" else "Disable")) []])
  | ipsecConnectionActive name active =>
    .set "update" (.new "VPNIPSecConnection" none
      [.new (if active then "Active" else "DeActive") none [.new "Name" (some name) []]])

/-- The operation of the client an action is. -/
def Action.operation (a : Action) : Operation := a.written.received

/-- An action less the strings of its caller. -/
inductive Kind
  | login
  | get (tag : XmlTag)
  | addIpHost
  | wirelessNetworkStatus (enable : Bool)
  | ipsecConnectionActive (active : Bool)

namespace Kind

/-- The tags, attributes and order of the operation. -/
def operation : Kind → List Node
  | login => []
  | get tag => [.element "Get" [] [.element tag.name [] []]]
  | addIpHost =>
    [.element "Set" [("operation", "add")]
      [.element "IPHost" []
        [.element "Name" [] [], .element "IPFamily" [] [], .element "HostType" [] [],
          .element "IPAddress" [] [], .element "Description" [] []]]]
  | wirelessNetworkStatus _ =>
    [.element "Set" [("operation", "update")]
      [.element "WirelessNetworkStatus" [] [.element "Name" [] [], .element "Status" [] []]]]
  | ipsecConnectionActive active =>
    [.element "Set" [("operation", "update")]
      [.element "VPNIPSecConnection" []
        [.element (if active then "Active" else "DeActive") [] [.element "Name" [] []]]]]

/-- The tags, attributes and order of a request. -/
def skeleton (k : Kind) : Node :=
  .element "Request" []
    (.element "Login" [] [.element "Username" [] [], .element "Password" [] []] :: k.operation)

/-- The tags of operations in it. -/
def verbs : Kind → List String
  | login => []
  | get _ => ["Get"]
  | addIpHost | wirelessNetworkStatus _ | ipsecConnectionActive _ => ["Set"]

end Kind

namespace Action

def kind : Action → Kind
  | login => .login
  | get tag => .get tag
  | addIpHost _ _ => .addIpHost
  | wirelessNetworkStatus _ enable => .wirelessNetworkStatus enable
  | ipsecConnectionActive _ active => .ipsecConnectionActive active

/-- The strings of the caller, with the elements that carry them. -/
def carried : Action → List (List String × String)
  | login | get _ => []
  | addIpHost ip name => [(["Set", "IPHost", "Name"], name), (["Set", "IPHost", "IPAddress"], ip)]
  | wirelessNetworkStatus hardwareName _ =>
    [(["Set", "WirelessNetworkStatus", "Name"], hardwareName)]
  | ipsecConnectionActive name active =>
    [(["Set", "VPNIPSecConnection", if active then "Active" else "DeActive", "Name"], name)]

end Action

/-- The strings in a document, with the elements that carry them. -/
def SophosClient.carried (c : SophosClient) (a : Action) : List (List String × String) :=
  (["Login", "Username"], c.username) :: (["Login", "Password"], c.password) :: a.carried

/-- Characters XML allows in text, other than carriage return. -/
def IsText (s : String) : Prop := ∀ ch ∈ s.toList, isXmlChar ch ∧ ch ≠ '\r'

instance (s : String) : Decidable (IsText s) := List.decidableBAll _ s.toList

/-! ### Reading them back -/

lemma proper_of_isName {tag : String} (h : isName tag.toList) : Proper tag [] :=
  ⟨h, nofun, List.nodup_nil⟩

lemma proper_set {operation : String} (h : operation = "add" ∨ operation = "update") :
    Proper "Set" [("operation", operation)] := by
  refine ⟨rfl, fun a ha => ?_, List.nodup_singleton _⟩
  rw [List.mem_singleton] at ha
  subst ha
  rcases h with rfl | rfl <;> exact ⟨rfl, rfl⟩

lemma yields_escaped {tag s : String} (h : isName tag.toList) (hs : IsText s) :
    Yields (elementText tag [] (escape s)) [.element tag [] (textNodes s.toList)] :=
  yields_elementText (proper_of_isName h) (fills_escape hs)

lemma yields_constant {tag s : String} (h : isName tag.toList) (hs : IsText s)
    (he : escape s = s) :
    Yields (elementText tag [] s) [.element tag [] (textNodes s.toList)] := by
  have := yields_escaped h hs
  rwa [he] at this

lemma loginBlock_eq (c : SophosClient) :
    c.loginBlock = elementText "Login" []
      (elementText "Username" [] (escape c.username) ++
        elementText "Password" [] (escape c.password)) := by
  apply String.toList_injective
  unfold SophosClient.loginBlock
  simp [elementText, startText, State.endText]

lemma getBody_eq (tag : XmlTag) :
    getBody tag = elementText "Get" [] (emptyElementText tag.name []) := by
  apply String.toList_injective
  unfold getBody
  simp [elementText, emptyElementText, startText, State.endText]

set_option maxRecDepth 2000 in
lemma addIpHostBody_eq (ip name : String) :
    addIpHostBody ip name = elementText "Set" [("operation", "add")]
      (elementText "IPHost" []
        (elementText "Name" [] (escape name) ++ (elementText "IPFamily" [] "IPv4" ++
          (elementText "HostType" [] "IP" ++ (elementText "IPAddress" [] (escape ip) ++
            elementText "Description" [] "Created by Home Assistant"))))) := by
  apply String.toList_injective
  unfold addIpHostBody
  simp [elementText, startText, State.endText, State.attributeText, escapeAttribChar]

lemma wirelessNetworkStatusBody_eq (hardwareName : String) (enable : Bool) :
    wirelessNetworkStatusBody hardwareName enable =
      elementText "Set" [("operation", "update")]
        (elementText "WirelessNetworkStatus" []
          (elementText "Name" [] (escape hardwareName) ++
            elementText "Status" [] (if enable then "Enable" else "Disable"))) := by
  apply String.toList_injective
  unfold wirelessNetworkStatusBody
  simp [elementText, startText, State.endText, State.attributeText, escapeAttribChar]

lemma ipsecConnectionActiveBody_eq (name : String) (active : Bool) :
    ipsecConnectionActiveBody name active =
      elementText "Set" [("operation", "update")]
        (elementText "VPNIPSecConnection" []
          (elementText (if active then "Active" else "DeActive") []
            (elementText "Name" [] (escape name)))) := by
  apply String.toList_injective
  unfold ipsecConnectionActiveBody
  simp [elementText, startText, State.endText, State.attributeText, escapeAttribChar]

lemma updateBody_eq (content : Element) : SophosClient.updateBody content =
    elementText "Set" [("operation", "update")] content.tostring := by
  apply String.toList_injective
  unfold SophosClient.updateBody
  simp [elementText, startText, State.endText, State.attributeText, escapeAttribChar]

lemma envelope_eq (c : SophosClient) (body : String) :
    c.envelope body = elementText "Request" [] (c.loginBlock ++ body) := by
  apply String.toList_injective
  unfold SophosClient.envelope
  simp [elementText, startText, State.endText]

lemma yields_loginBlock {c : SophosClient} (hu : IsText c.username) (hp : IsText c.password) :
    Yields c.loginBlock
      [.element "Login" [] [.element "Username" [] (textNodes c.username.toList),
        .element "Password" [] (textNodes c.password.toList)]] := by
  rw [loginBlock_eq]
  exact yields_elementText (proper_of_isName rfl)
    ((yields_escaped rfl hu).append (yields_escaped rfl hp)).fills

lemma Action.yields_body {a : Action} (h : ∀ x ∈ a.carried, IsText x.2) :
    Yields a.body a.written.nodes := by
  cases a with
  | login => exact .nil
  | get tag =>
    rw [body, getBody_eq]
    exact yields_elementText (proper_of_isName rfl)
      (yields_emptyElementText (proper_of_isName tag.isName_name)).fills
  | addIpHost ip name =>
    have hname : IsText name := h (_, name) List.mem_cons_self
    have hip : IsText ip := h (_, ip) (List.mem_cons_of_mem _ List.mem_cons_self)
    rw [body, addIpHostBody_eq]
    simp only [written, Operation.nodes, SophosClient.newIpHost, nodeOf_new, nodeOf_go_new,
      nodeOf_text, nodeOf_go_nil]
    refine yields_elementText (proper_set (.inl rfl))
      (yields_elementText (proper_of_isName rfl) (Yields.fills ?_)).fills
    refine (yields_escaped rfl hname).append ?_
    refine (yields_constant rfl (by decide) rfl).append ?_
    refine (yields_constant rfl (by decide) rfl).append ?_
    exact (yields_escaped rfl hip).append (yields_constant rfl (by decide) rfl)
  | wirelessNetworkStatus hardwareName enable =>
    have hname : IsText hardwareName := h (_, hardwareName) List.mem_cons_self
    rw [body, wirelessNetworkStatusBody_eq]
    simp only [written, Operation.nodes, nodeOf_new, nodeOf_go_new, nodeOf_text, nodeOf_go_nil]
    refine yields_elementText (proper_set (.inr rfl))
      (yields_elementText (proper_of_isName rfl) (Yields.fills ?_)).fills
    refine (yields_escaped rfl hname).append ?_
    cases enable <;> exact yields_constant rfl (by decide) rfl
  | ipsecConnectionActive name active =>
    have hname : IsText name := h (_, name) List.mem_cons_self
    rw [body, ipsecConnectionActiveBody_eq]
    simp only [written, Operation.nodes, nodeOf_new, nodeOf_go_new, nodeOf_text, nodeOf_go_nil]
    refine yields_elementText (proper_set (.inr rfl))
      (yields_elementText (proper_of_isName rfl) (Yields.fills ?_)).fills
    cases active <;>
      exact yields_elementText (proper_of_isName rfl) (yields_escaped rfl hname).fills

/-- An action with line feeds for the carriage returns in its strings. -/
def Action.received : Action → Action
  | login => .login
  | get tag => .get tag
  | addIpHost ip name => .addIpHost (lineEnds ip) (lineEnds name)
  | wirelessNetworkStatus hardwareName enable =>
    .wirelessNetworkStatus (lineEnds hardwareName) enable
  | ipsecConnectionActive name active => .ipsecConnectionActive (lineEnds name) active

lemma Action.operation_eq (a : Action) : a.operation = a.received.written := by
  cases a with
  | ipsecConnectionActive name active =>
    simp [operation, written, received, Operation.received]
  | wirelessNetworkStatus name enable =>
    have hstatus : lineEnds (if enable then "Enable" else "Disable") =
        if enable then "Enable" else "Disable" := by
      cases enable <;> decide
    simp [operation, written, received, Operation.received, hstatus]
  | addIpHost ip name =>
    have hconstant : lineEnds "IPv4" = "IPv4" ∧ lineEnds "IP" = "IP" ∧
        lineEnds "Created by Home Assistant" = "Created by Home Assistant" := by
      decide
    simp [operation, written, received, Operation.received, SophosClient.newIpHost, hconstant]
  | _ => rfl

lemma parse_document_of_isText {c : SophosClient} {a : Action} (h : ∀ x ∈ c.carried a, IsText x.2) :
    parse (c.document a) = some (c.request a.written).node := by
  have hu : IsText c.username := h (_, c.username) List.mem_cons_self
  have hp : IsText c.password :=
    h (_, c.password) (List.mem_cons_of_mem _ List.mem_cons_self)
  have ha : ∀ x ∈ a.carried, IsText x.2 := fun x hx =>
    h x (List.mem_cons_of_mem _ (List.mem_cons_of_mem _ hx))
  rw [SophosClient.document, envelope_eq]
  exact parse_elementText (proper_of_isName rfl)
    ((yields_loginBlock hu hp).append (Action.yields_body ha)).fills

lemma lineEnds_elementText_append {tag s : String} {attributes : Attributes}
    (hp : Proper tag attributes) (t : String) : lineEnds (elementText tag attributes s ++ t) =
      elementText tag attributes (lineEnds s) ++ lineEnds t := by
  rw [lineEnds_append (.inl (by simp [getLast?_elementText])), lineEnds_elementText hp]

lemma lineEnds_body (a : Action) : lineEnds a.body = a.received.body := by
  have hname {tag : String} (h : isName tag.toList) : Proper tag [] := proper_of_isName h
  cases a with
  | addIpHost ip name =>
    have hconstant : lineEnds "IPv4" = "IPv4" ∧ lineEnds "IP" = "IP" ∧
        lineEnds "Created by Home Assistant" = "Created by Home Assistant" := by
      decide
    rw [Action.body, Action.received, Action.body, addIpHostBody_eq, addIpHostBody_eq,
      lineEnds_elementText (proper_set (.inl rfl)), lineEnds_elementText (hname rfl),
      lineEnds_elementText_append (hname rfl), lineEnds_elementText_append (hname rfl),
      lineEnds_elementText_append (hname rfl), lineEnds_elementText_append (hname rfl),
      lineEnds_elementText (hname rfl), lineEnds_escape, lineEnds_escape, hconstant.1,
      hconstant.2.1, hconstant.2.2]
  | wirelessNetworkStatus hardwareName enable =>
    have hstatus : lineEnds (if enable then "Enable" else "Disable") =
        if enable then "Enable" else "Disable" := by
      cases enable <;> decide
    rw [Action.body, Action.received, Action.body, wirelessNetworkStatusBody_eq,
      wirelessNetworkStatusBody_eq, lineEnds_elementText (proper_set (.inr rfl)),
      lineEnds_elementText (hname rfl), lineEnds_elementText_append (hname rfl),
      lineEnds_elementText (hname rfl), lineEnds_escape, hstatus]
  | ipsecConnectionActive name active =>
    have haction : isName (if active then "Active" else "DeActive").toList := by
      cases active <;> rfl
    rw [Action.body, Action.received, Action.body, ipsecConnectionActiveBody_eq,
      ipsecConnectionActiveBody_eq, lineEnds_elementText (proper_set (.inr rfl)),
      lineEnds_elementText (hname rfl), lineEnds_elementText (hname haction),
      lineEnds_elementText (hname rfl), lineEnds_escape]
  | get tag =>
    rw [Action.received, Action.body, getBody_eq, lineEnds_elementText (hname rfl)]
    have h := (yields_emptyElementText (hname tag.isName_name)).lines
    rw [lineEnds_eq_iff.mpr h]
  | login => rfl

/-- Around a body, only the body has line ends. -/
lemma lineEnds_envelope {c : SophosClient} (hu : IsText c.username) (hp : IsText c.password)
    (body : String) : lineEnds (c.envelope body) = c.envelope (lineEnds body) := by
  have hlogin := (yields_loginBlock hu hp).lines
  rw [envelope_eq, envelope_eq, lineEnds_elementText (proper_of_isName rfl),
    lineEnds_append (.inl fun h => hlogin (List.mem_of_getLast? h)), lineEnds_eq_iff.mpr hlogin]

lemma parse_document {c : SophosClient} (hu : IsText c.username) (hp : IsText c.password)
    {a : Action} (h : ∀ x ∈ a.carried, ∀ ch ∈ x.2.toList, isXmlChar ch) :
    parse (c.document a) = some (c.request a.operation).node := by
  have htext {s : String} (hs : ∀ ch ∈ s.toList, isXmlChar ch) : IsText (lineEnds s) :=
    fun ch hch => ⟨isXmlChar_of_mem_lineEnds hs ch hch,
      fun hcr => not_mem_lineEnds s (hcr ▸ hch)⟩
  have hreceived : ∀ x ∈ c.carried a.received, IsText x.2 := by
    intro x hx
    rcases List.mem_cons.mp hx with rfl | hx
    · exact hu
    rcases List.mem_cons.mp hx with rfl | hx
    · exact hp
    cases a with
    | login | get => cases hx
    | addIpHost ip name =>
      rcases List.mem_pair.mp hx with rfl | rfl
      · exact htext (h (_, name) List.mem_cons_self)
      · exact htext (h (_, ip) (List.mem_cons_of_mem _ List.mem_cons_self))
    | wirelessNetworkStatus name enable | ipsecConnectionActive name active =>
      rw [List.mem_singleton.mp hx]
      exact htext (h (_, name) List.mem_cons_self)
  rw [← parse_lineEnds, SophosClient.document, lineEnds_envelope hu hp, lineEnds_body,
    a.operation_eq]
  exact parse_document_of_isText hreceived

lemma parse_updateDocument {c : SophosClient} (hu : IsText c.username) (hp : IsText c.password)
    {content : Element} (h : content.WellFormed) :
    parse (c.updateDocument content) = some (c.request (.set "update" content.received)).node := by
  rw [← parse_lineEnds, SophosClient.updateDocument, lineEnds_envelope hu hp, updateBody_eq,
    lineEnds_elementText (proper_set (.inr rfl)), envelope_eq]
  exact parse_elementText (proper_of_isName rfl) ((yields_loginBlock hu hp).append
    (yields_elementText (proper_set (.inr rfl)) (Element.fills_received h))).fills

namespace SophosClient

lemma skeleton_node (c : SophosClient) (a : Action) :
    (c.request a.written).node.skeleton = [a.kind.skeleton] := by
  cases a <;>
    simp [request, Request.node, Action.written, Operation.nodes, Action.kind, Kind.skeleton,
      Kind.operation, newIpHost, Node.skeleton, Node.skeleton.go]

lemma tags_node (c : SophosClient) (a : Action) :
    (c.request a.written).node.tags.filter (fun t => t = "Get" ∨ t = "Set") = a.kind.verbs := by
  cases a with
  | get tag =>
    cases tag <;>
      simp [request, Request.node, Action.written, Operation.nodes, Action.kind, Kind.verbs,
        Node.tags, Node.tags.go, XmlTag.name]
  | ipsecConnectionActive _ active =>
    cases active <;>
      simp [request, Request.node, Action.written, Operation.nodes, Action.kind, Kind.verbs,
        Node.tags, Node.tags.go]
  | _ =>
    simp [request, Request.node, Action.written, Operation.nodes, Action.kind, Kind.verbs,
      newIpHost, Node.tags, Node.tags.go]

lemma textsAt_node (c : SophosClient) (a : Action) :
    ∀ x ∈ c.carried a, (c.request a.written).node.textsAt x.1 = [x.2] := by
  cases a with
  | ipsecConnectionActive _ active =>
    cases active <;>
      simp [carried, Action.carried, request, Request.node, Action.written, Operation.nodes,
        Node.textsAt, Node.select, Node.children, Node.isElement]
  | _ =>
    simp [carried, Action.carried, request, Request.node, Action.written, Operation.nodes,
      newIpHost, Node.textsAt, Node.select, Node.children, Node.isElement]

/-- **No string changes a request.** Whatever user name, password, name and address of text
characters go into a document of the client, it is well-formed; its tags, attributes and their
order are those of its kind, with exactly the one `Get` or `Set` meant; and the element that
carries a string parses back to that string. -/
theorem document_structure (c : SophosClient) (a : Action)
    (h : ∀ x ∈ c.carried a, IsText x.2) :
    ∃ root, parse (c.document a) = some root ∧
      root.skeleton = [a.kind.skeleton] ∧
      root.tags.filter (fun t => t = "Get" ∨ t = "Set") = a.kind.verbs ∧
      ∀ x ∈ c.carried a, root.textsAt x.1 = [x.2] :=
  ⟨_, parse_document_of_isText h, c.skeleton_node a, c.tags_node a, c.textsAt_node a⟩

/-- A name that closes the elements around it and asks for another operation. -/
theorem document_structure_injection :
    let c : SophosClient := ⟨"fw", 4444, "admin", "p<&>\"'w"⟩
    let name := "x</Name></IPHost></Set><Set operation=\"remove\"><IPHost><Name>&lt;"
    ∃ root, parse (c.document (.addIpHost "10.0.0.1" name)) = some root ∧
      root.skeleton = [Kind.addIpHost.skeleton] ∧
      root.tags.filter (fun t => t = "Get" ∨ t = "Set") = ["Set"] ∧
      ∀ x ∈ c.carried (.addIpHost "10.0.0.1" name), root.textsAt x.1 = [x.2] := by
  intro c name
  exact document_structure c (.addIpHost "10.0.0.1" name) (by decide)

end SophosClient

namespace ClientM

open SophosFw.Slot

variable {P : Request → Prop} {α β : Type}

/-- However it goes, it only posts requests of this kind. -/
def Asks (P : Request → Prop) (x : ClientM α) : Prop := x.run.Asks P

lemma asks_pure (a : α) : Asks P (pure a : ClientM α) := .ret _

lemma asks_raise (e : PyExc) : Asks P (raise e : ClientM α) := .ret _

lemma asks_ensure (x : Except PyExc α) : Asks P (ensure x) := .ret _

lemma Asks.bind {x : ClientM α} {f : α → ClientM β} (hx : Asks P x) (hf : ∀ a, Asks P (f a)) :
    Asks P (x >>= f) := by
  refine Prog.Asks.bind hx fun r => ?_
  rcases r with e | a
  · exact .ret _
  · exact hf a

lemma Asks.catchSophosError {x : ClientM α} {handler : PyExc → ClientM α} (hx : Asks P x)
    (hh : ∀ e, Asks P (handler e)) : Asks P (ClientM.catchSophosError x handler) := by
  refine Prog.Asks.bind hx fun r => ?_
  rcases r with e | a
  · dsimp only
    split
    · exact hh e
    · exact .ret _
  · exact .ret _

lemma Asks.withSlot {x : ClientM α} (hx : Asks P x) : Asks P (ClientM.withSlot x) := by
  refine .acquire fun b => ?_
  cases b
  · exact .ret _
  · exact Prog.Asks.bind hx fun r => .release (.ret r)

end ClientM

/-- The request of an action, or a record that was read and is written back changed. -/
def Documented (c : SophosClient) (r : Request) : Prop :=
  (∃ a : Action, r = c.request a.operation) ∨
    ∃ content : Element, r = c.request (.set "update" content.received)

namespace SophosClient

open ClientM

variable {c : SophosClient} {σ : Type}

lemma asks_post {operation : Operation} (h : Documented c (c.request operation))
    (slotHeld : Bool) : Asks (Documented c) (c.post operation slotHeld) := by
  have hx : Asks (Documented c) (c.exchange operation) := .send h fun _ => .ret _
  refine Asks.bind ?_ fun _ => asks_ensure _
  cases slotHeld
  · exact hx.withSlot
  · exact hx

lemma asks_action (a : Action) (slotHeld : Bool) :
    Asks (Documented c) (c.post a.operation slotHeld) :=
  asks_post (.inl ⟨a, rfl⟩) slotHeld

lemma asks_getRecords (tag : XmlTag) : Asks (Documented c) (c.getRecords tag.name) :=
  (asks_action (.get tag) false).bind fun _ => asks_pure _

lemma asks_getRecordElement (tag : XmlTag) (name : String) :
    Asks (Documented c) (c.getRecordElement tag.name name) :=
  (asks_action (.get tag) true).bind fun _ => asks_ensure _

lemma asks_readBack (tag : XmlTag) (name : String) (verify : Element → Bool) (kept : σ) :
    Asks (Documented c) (c.readBack tag.name name verify kept) := by
  refine (((asks_getRecordElement tag name).bind fun _ => asks_pure _).catchSophosError
    fun _ => asks_pure none).bind fun after => ?_
  rcases after with _ | after
  · exact asks_pure _
  · dsimp only
    split
    · exact asks_pure _
    · exact asks_raise _

lemma asks_modifyRecordHeld (tag : XmlTag) (name : String)
    (change : Element → Except PyExc (Option Element × σ)) (verify : Option (Element → Bool)) :
    Asks (Documented c) (c.modifyRecordHeld tag.name name change verify) := by
  refine (asks_getRecordElement tag name).bind fun elem => (asks_ensure _).bind fun x => ?_
  rcases x with ⟨_ | changed, kept⟩
  · exact asks_pure _
  refine (asks_post (.inr ⟨changed, rfl⟩) true).bind fun root => (asks_ensure _).bind fun _ => ?_
  rcases verify with _ | verify
  · exact asks_pure _
  · exact asks_readBack tag name verify kept

lemma asks_ipHostsHeld (ip : String) : Asks (Documented c) (c.ipHostsHeld ip) :=
  (asks_action (.get .ipHost) true).bind fun _ => asks_pure _

lemma asks_addIpHostHeld (ip name : String) : Asks (Documented c) (c.addIpHostHeld ip name) := by
  refine (asks_action (.addIpHost ip name) true).bind fun root => ?_
  split
  · exact asks_pure _
  · split
    · exact asks_raise _
    · exact asks_raise _
  · exact asks_raise _

lemma asks_blockIpInGroup (group ip name : String) :
    Asks (Documented c) (c.blockIpInGroup group ip name) := by
  refine Asks.withSlot ((asks_getRecordElement .ipHostGroup group).bind fun elem =>
    (asks_ensure _).bind fun _ => (asks_ipHostsHeld ip).bind fun hosts => ?_)
  split
  · exact asks_pure _
  · refine Asks.bind ?_ fun host =>
      (asks_modifyRecordHeld .ipHostGroup group _ _).bind fun _ => asks_pure _
    split
    · exact asks_pure _
    · exact asks_addIpHostHeld ip name

end SophosClient

open SophosFw.Slot ClientM SophosClient in
/-- Every request of every operation is one of the documented ones. -/
lemma Call.asks (c : SophosClient) (call : Call) : (call.prog c).Asks (Documented c) := by
  cases call with
  | testConnection => exact (asks_action .login false).bind fun _ => asks_pure _
  | getInterfaces => exact (asks_getRecords .interface).bind fun _ => asks_pure _
  | getFirewallRules => exact (asks_getRecords .firewallRule).bind fun _ => asks_pure _
  | getWebFilterPolicies => exact (asks_getRecords .webFilter).bind fun _ => asks_pure _
  | getDhcpServers =>
    refine (asks_getRecords .dhcpServer).bind fun records => ?_
    split
    · exact asks_raise _
    · exact asks_pure _
  | getBackup => exact (asks_getRecords .backup).bind fun _ => asks_pure _
  | getAdminSettings => exact (asks_getRecords .admin).bind fun _ => asks_pure _
  | getWirelessNetworks => exact (asks_getRecords .wirelessNetworks).bind fun _ => asks_pure _
  | setFirewallRuleStatus name enable =>
    exact (asks_modifyRecordHeld .firewallRule name _ _).withSlot
  | setWebFilterDefaultAction name allow =>
    exact (asks_modifyRecordHeld .webFilter name _ _).withSlot
  | setUrlInGroup group url present =>
    exact (asks_modifyRecordHeld .urlGroup group _ _).withSlot
  | blockIpInGroup group ip name => exact asks_blockIpInGroup group ip name
  | unblockIpInGroup group ip =>
    exact Asks.bind (Asks.withSlot ((asks_ipHostsHeld ip).bind fun _ =>
      asks_modifyRecordHeld .ipHostGroup group _ _)) fun _ => asks_pure _
  | setWirelessNetworkStatus name enable =>
    exact (asks_action (.wirelessNetworkStatus name enable) false).bind fun _ => asks_ensure _
  | setIpsecConnectionActive name active =>
    exact (asks_action (.ipsecConnectionActive name active) false).bind fun _ => asks_ensure _

/-- What an operation sends is what the firewall parses. -/
theorem Call.trace_documents {S : Type} (serve : S → Request → S × HttpOutcome) {c : SophosClient}
    (hu : IsText c.username) (hp : IsText c.password) (call : Call) (s : S) :
    ∀ x ∈ (Slot.exec serve (call.prog c) s).trace,
      (∃ a : Action, x.1 = c.request a.operation ∧
        ((∀ y ∈ a.carried, ∀ ch ∈ y.2.toList, isXmlChar ch) →
          parse (c.document a) = some x.1.node)) ∨
      ∃ content : Element, x.1 = c.request (.set "update" content.received) ∧
        (content.WellFormed → parse (c.updateDocument content) = some x.1.node) := by
  intro x hx
  rcases Slot.mem_trace_of_asks serve (call.asks c) s x hx with ⟨a, ha⟩ | ⟨content, hcontent⟩
  · exact .inl ⟨a, ha, fun h => ha ▸ parse_document hu hp h⟩
  · exact .inr ⟨content, hcontent, fun h => hcontent ▸ parse_updateDocument hu hp h⟩

end SophosFw.Client
