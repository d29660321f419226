import SophosFw.Records
import SophosFw.Slot
import SophosFw.Tostring
import Mathlib.Data.List.Infix

/-!
The client of the XML API.

Every operation is a program over the request slot: it posts requests, one at a time, and
what it makes of the answers decides how it goes on. A request is its envelope and one
operation, as the firewall reads them; an answer is a status and whatever the body decodes and
parses to.
-/

namespace SophosFw.Client

open SophosFw.PyDict SophosFw.PyText SophosFw.ElementTree SophosFw.Records SophosFw.Slot

/-- A part of a message: text as it is, or a text quoted as `repr` does. -/
inductive Piece
  | text (s : String)
  | repr (s : String)
  deriving DecidableEq, Repr

abbrev Message := List Piece

/-- The exceptions an operation can end with. -/
inductive PyExc
  | connectionError (message : Message)
  | authError (message : Message)
  | accessError (message : Message) (code : Option String)
  | apiError (message : Message)
  | notFoundError (message : Message)
  | writeError (message : Message) (code : Option String)
  | unicodeDecodeError
  | valueError
  | cancelledError
  deriving DecidableEq, Repr

/-- The subclasses of `SophosError`. -/
def PyExc.isSophosError : PyExc → Bool
  | unicodeDecodeError | valueError | cancelledError => false
  | _ => true

inductive Operation
  | login
  | get (tag : String)
  /-- The content is what the firewall reads of the element that was written. -/
  | set (operation : String) (content : Element)

structure Request where
  username : String
  password : String
  operation : Operation

def Request.isSet (r : Request) : Bool :=
  match r.operation with
  | .set _ _ => true
  | _ => false

/-- What `resp.text()` and `ET.fromstring` make of a body. -/
inductive Body
  | undecodable
  | malformed (error : String)
  | document (root : Element)

/-- How a request ends for the client. -/
inductive HttpOutcome
  | answer (status : ℕ) (body : Body)
  | timeout
  | clientError (error : String)
  | cancelled

/-- An operation in progress. -/
abbrev ClientM (α : Type) := ExceptT PyExc (Prog Request HttpOutcome) α

namespace ClientM

variable {α : Type}

def raise (e : PyExc) : ClientM α := ExceptT.mk (.ret (.error e))

def ensure (x : Except PyExc α) : ClientM α := ExceptT.mk (.ret x)

/-- `async with self._semaphore`. -/
def withSlot (body : ClientM α) : ClientM α :=
  ExceptT.mk (.acquire fun
    | true => body.run >>= fun r => .release (.ret r)
    | false => .ret (.error .cancelledError))

/-- Take the slot unless the caller holds it already. -/
def turn (slotHeld : Bool) (body : ClientM α) : ClientM α :=
  match slotHeld with
  | true => body
  | false => withSlot body

/-- `try: ... except SophosError`. -/
def catchSophosError (body : ClientM α) (handler : PyExc → ClientM α) : ClientM α :=
  ExceptT.mk (body.run >>= fun
    | .error e => if e.isSophosError then (handler e).run else .ret (.error e)
    | .ok a => .ret (.ok a))

end ClientM

open ClientM

structure SophosClient where
  host : String
  port : ℕ
  username : String
  password : String

/-! ### Reading an answer -/

/-- `sub in s`. -/
def contains (sub s : String) : Bool := decide (sub.toList <:+: s.toList)

/-- `status_el.text or ''`. -/
def textOf (e : Element) : String := e.text.getD ""

/-- The status of a response as a whole. -/
def checkStatus (root : Element) : Except PyExc Element :=
  match root.find "Status" with
  | none => .ok root
  | some status =>
    let code := (status.attr "code").getD ""
    let message := strip ("(code " ++ code ++ ") " ++ textOf status)
    if code = "532" ∨ code = "534" then
      .error (.accessError [.text ("API access denied " ++ message)] (some code))
    else if code = "535" then .error (.authError [.text ("Authentication failed " ++ message)])
    else if code = "200" ∨ code = "201" ∨ code = "202" ∨ code = "" then .ok root
    else .error (.apiError [.text ("API request failed " ++ message)])

def checkLogin (root : Element) : Except PyExc Element :=
  match root.findPath ["Login", "status"] with
  | none => checkStatus root
  | some login =>
    if contains "fail" (lower (textOf login)) ∨ contains "invalid" (lower (textOf login)) then
      .error (.authError [.text ("Authentication failed: " ++ textOf login)])
    else checkStatus root

namespace SophosClient

variable (c : SophosClient)

/-- What `_post` makes of the end of a request while it holds the slot. -/
def readText : HttpOutcome → Except PyExc (Except String Element)
  | .timeout =>
    .error (.connectionError [.text ("Timeout talking to " ++ c.host ++ ":" ++ toString c.port)])
  | .clientError error =>
    .error (.connectionError
      [.text ("Cannot talk to " ++ c.host ++ ":" ++ toString c.port ++ ": " ++ error)])
  | .cancelled => .error .cancelledError
  | .answer status body =>
    if status = 403 then
      .error (.accessError [.text ("HTTP 403 from " ++ c.host ++ ": API access forbidden")]
        (some "403"))
    else if status ≠ 200 ∧ status ≠ 201 then
      .error (.apiError
        [.text ("Unexpected HTTP " ++ toString status ++ " from " ++ c.host ++ ":" ++
          toString c.port)])
    else
      match body with
      | .undecodable => .error .unicodeDecodeError
      | .malformed error => .ok (.error error)
      | .document root => .ok (.ok root)

/-- What it makes of the text after that. -/
def parseResponse : Except String Element → Except PyExc Element
  | .error error => .error (.apiError [.text ("Invalid XML response: " ++ error)])
  | .ok root => checkLogin root

def request (operation : Operation) : Request := ⟨c.username, c.password, operation⟩

def exchange (operation : Operation) : ClientM (Except String Element) :=
  ExceptT.mk (.send (c.request operation) fun outcome => .ret (c.readText outcome))

/-- `_post`. -/
def post (operation : Operation) (slotHeld : Bool) : ClientM Element := do
  let text ← turn slotHeld (c.exchange operation)
  ensure (parseResponse text)

def getRecords (tag : String) : ClientM (List Record) := do
  let root ← c.post (.get tag) false
  return (((root.iter tag).filter fun e => !isStatusOnly e).map elemToDict).filter
    fun record => !record.isEmpty

/-- The search of `_get_record_element`: the first record with this name, and which error
was reported last before the end. -/
def scanRecords (tag name : String) : List Element → Option Element → Except PyExc Element
  | [], some error =>
    .error (.apiError
      [.text (strip ("Reading " ++ tag ++ " failed (code " ++ (error.attr "code").getD "None" ++
        "): " ++ textOf error))])
  | [], none => .error (.notFoundError [.text (tag ++ " "), .repr name,
      .text " not found on the firewall"])
  | e :: rest, error =>
    if isStatusOnly e then
      scanRecords tag name rest
        (((e.find "Status").filter fun s => (s.attr "code").getD "" ≠ "").or error)
    else if strip ((e.findtext "Name").getD "") = name then .ok e
    else scanRecords tag name rest error

def getRecordElement (tag name : String) : ClientM Element := do
  let root ← c.post (.get tag) true
  ensure (scanRecords tag name (root.iter tag) none)

def testConnection : ClientM String := do
  let root ← c.post .login false
  return (root.attr "APIVersion").getD "unknown"

def getInterfaces : ClientM (Dict String Interface) := do
  let records ← c.getRecords "Interface"
  return byName Interface.name (records.map parseInterface)

def getFirewallRules : ClientM (Dict String FirewallRule) := do
  let records ← c.getRecords "FirewallRule"
  return byName FirewallRule.name (records.map parseFirewallRule)

def getWebFilterPolicies : ClientM (Dict String WebFilterPolicy) := do
  let records ← c.getRecords "WebFilterPolicy"
  return byName WebFilterPolicy.name (records.map parseWebFilterPolicy)

def getDhcpServers : ClientM (Dict String DhcpServer) := do
  let records ← c.getRecords "DHCPServer"
  match records.mapM parseDhcpServer with
  | .error _ => raise .valueError
  | .ok servers => return byName DhcpServer.name servers

def getBackup : ClientM BackupSettings := do
  let records ← c.getRecords "BackupRestore"
  return parseBackup (records.head?.getD [])

def getAdminSettings : ClientM AdminSettings := do
  let records ← c.getRecords "AdminSettings"
  return parseAdmin (records.head?.getD [])

def getWirelessNetworks : ClientM (Dict String WirelessNetwork) := do
  let records ← c.getRecords "WirelessNetworks"
  return byName WirelessNetwork.hardwareName (records.map parseWirelessNetwork)

end SophosClient

/-! ### Writing records -/

/-- `_is_success`. -/
def isSuccess (code : String) : Bool :=
  decide (code.toList.length = 3) && isDigit code && decide (code.toList.head? = some '2')

/-- `_confirm`: raise unless the answer confirms the write with a 2xx code. -/
def confirm (root : Element) (what : Message) (paths : List (List String)) : Except PyExc Unit :=
  match paths.findSome? root.findPath with
  | none => .error (.apiError (what ++ [.text ": the firewall did not confirm the change"]))
  | some status =>
    let code := (status.attr "code").getD ""
    if isSuccess code then .ok ()
    else
      let params := strip (" ".intercalate ((root.iter "Params").map textOf))
      let detail := strip (textOf status ++ " " ++ params)
      .error (.writeError
        (what ++ [.text (" failed (code " ++ (if code = "" then "?" else code) ++ "): " ++ detail)])
        (some code))

/-- The closure `change` of `_update_field`. -/
def changeField (tag name field value : String) (e : Element) :
    Except PyExc (Option Element × Unit) :=
  match e.find field with
  | none => .error (.apiError [.text (tag ++ " "), .repr name,
      .text (" has no <" ++ field ++ "> element")])
  | some _ => .ok (some (e.setChildText field value), ())

namespace SophosClient

variable (c : SophosClient)

/-- The end of `_modify_record_held`: read a confirmed write back. -/
def readBack {σ : Type} (tag name : String) (verify : Element → Bool) (kept : σ) : ClientM σ := do
  let after ← catchSophosError (do return some (← c.getRecordElement tag name)) fun _ => pure none
  match after with
  | none => return kept
  | some after =>
    if verify after then return kept
    else raise (.writeError [.text (tag ++ " "), .repr name,
      .text (": the firewall confirmed the change, " ++
        "but reading it back shows it was not applied")] (some "not_applied"))

/-- `_modify_record_held`. The change sees the record and returns what to write instead, if
anything, with what the caller keeps of it. -/
def modifyRecordHeld {σ : Type} (tag name : String)
    (change : Element → Except PyExc (Option Element × σ)) (verify : Option (Element → Bool)) :
    ClientM σ := do
  let elem ← c.getRecordElement tag name
  let (changed, kept) ← ensure (change elem)
  match changed with
  | none => return kept
  | some changed =>
    let root ← c.post (.set "update" changed.received) true
    ensure (confirm root [.text ("Set " ++ tag ++ " "), .repr name] [[tag, "Status"]])
    match verify with
    | none => return kept
    | some verify => c.readBack tag name verify kept

def modifyRecord {σ : Type} (tag name : String)
    (change : Element → Except PyExc (Option Element × σ)) (verify : Option (Element → Bool)) :
    ClientM σ :=
  withSlot (c.modifyRecordHeld tag name change verify)

/-- `_update_field`. -/
def updateField (tag name field value : String) : ClientM Unit :=
  c.modifyRecord tag name (changeField tag name field value) none

def setFirewallRuleStatus (name : String) (enable : Bool) : ClientM Unit :=
  c.updateField "FirewallRule" name "Status" (if enable then "Enable" else "Disable")

def setWebFilterDefaultAction (name : String) (allow : Bool) : ClientM Unit :=
  c.updateField "WebFilterPolicy" name "DefaultAction" (if allow then "Allow" else "Deny")

end SophosClient

/-- An entry of a URL list that names the domain. -/
def isUrlEntry (wanted : String) (e : Element) : Bool :=
  decide (lower e.tag = "url") && decide (lower (strip (textOf e)) = wanted)

def isUrlList (e : Element) : Bool := decide (lower e.tag = lower "URLlist")

/-- `urls`: the entries of a group that name the domain. -/
def urls (wanted : String) (e : Element) : List Element :=
  match childCi e "URLlist" with
  | none => []
  | some list => list.children.filter (isUrlEntry wanted)

/-- Append a child. -/
def append (child e : Element) : Element := { e with children := e.children ++ [child] }

/-- Take out the children that satisfy `p`. -/
def without (p : Element → Bool) (e : Element) : Element :=
  { e with children := e.children.filter fun c => !p c }

/-- The closure `change` of `set_url_in_group`. -/
def changeUrls (group wanted : String) (present : Bool) (e : Element) :
    Except PyExc (Option Element × Bool) :=
  if lower ((childText e "IsDefault").getD "No") ≠ "no" then
    .error (.writeError [.text "URL group ", .repr group,
      .text " is a built-in group and cannot be edited"] (some "528"))
  else
    let existing := urls wanted e
    if present then
      if existing ≠ [] then .ok (none, false)
      else
        let entry := Element.new "URL" (some wanted) []
        match childCi e "URLlist" with
        | none => .ok (some (append (.new "URLlist" none [entry]) e), true)
        | some _ =>
          .ok (some { e with children := mapFirst isUrlList (append entry) e.children }, true)
    else
      match childCi e "URLlist" with
      | none => .ok (none, false)
      | some list =>
        if existing = [] then .ok (none, false)
        else if (without (isUrlEntry wanted) list).children = [] then
          .ok (some { e with children := eraseFirst isUrlList e.children }, true)
        else
          .ok (some { e with
            children := mapFirst isUrlList (without (isUrlEntry wanted)) e.children }, true)

/-- `set_url_in_group`. -/
def SophosClient.setUrlInGroup (c : SophosClient) (group url : String) (present : Bool) :
    ClientM Bool :=
  let wanted := lower (strip url)
  c.modifyRecord "WebFilterURLGroup" group (changeUrls group wanted present)
    (some fun e => decide (urls wanted e ≠ []) == present)

/-- `_host_members`. -/
def hostMembers (e : Element) : List String :=
  match e.find "HostList" with
  | none => []
  | some list => (list.findall "Host").map fun h => strip (textOf h)

/-- `_check_ipv4_group`. -/
def checkIpv4Group (e : Element) (group : String) : Except PyExc Unit :=
  if (childText e "IPFamily").getD "IPv4" ≠ "IPv4" then
    .error (.writeError [.text "IP host group ", .repr group, .text " is not an IPv4 group"] none)
  else .ok ()

/-- The name of an IP host of type IP with this address. -/
def ipHostName (ip : String) (e : Element) : Option String :=
  if !isStatusOnly e ∧ (childText e "HostType").getD "" = "IP" ∧
      (childText e "IPAddress").getD "" = ip then
    childText e "Name"
  else none

/-- Put a child before the first one with this tag, or at the end. -/
def insertBefore (tag : String) (child : Element) : List Element → List Element
  | [] => [child]
  | e :: rest => if e.tag = tag then child :: e :: rest else e :: insertBefore tag child rest

/-- The closure `change` of `block_ip_in_group`. -/
def addMember (group host : String) (e : Element) : Except PyExc (Option Element × Unit) := do
  checkIpv4Group e group
  if host ∈ hostMembers e then return (none, ())
  else
    let member := Element.new "Host" (some host) []
    match e.find "HostList" with
    | none =>
      let list := Element.new "HostList" none [member]
      return (some { e with children := insertBefore "IPFamily" list e.children }, ())
    | some _ =>
      return (some { e with
        children := mapFirst (fun c => c.tag = "HostList") (append member) e.children }, ())

/-- A member of a group with one of these names. -/
def isMember (hosts : List String) (e : Element) : Bool :=
  decide (e.tag = "Host") && decide (strip (textOf e) ∈ hosts)

/-- The closure `change` of `unblock_ip_in_group`; it keeps the names it took out. -/
def removeMembers (group : String) (hosts : List String) (e : Element) :
    Except PyExc (Option Element × List String) := do
  checkIpv4Group e group
  match e.find "HostList" with
  | none => return (none, [])
  | some list =>
    let removed := (list.children.filter (isMember hosts)).map fun h => strip (textOf h)
    if removed = [] then return (none, [])
    else if (without (isMember hosts) list).children = [] then
      return (some { e with children := eraseFirst (fun c => c.tag = "HostList") e.children },
        removed)
    else
      return (some { e with
        children := mapFirst (fun c => c.tag = "HostList") (without (isMember hosts)) e.children },
        removed)

namespace SophosClient

variable (c : SophosClient)

/-- `_ip_hosts_held`. -/
def ipHostsHeld (ip : String) : ClientM (List String) := do
  let root ← c.post (.get "IPHost") true
  return (root.iter "IPHost").filterMap (ipHostName ip)

/-- The element `_add_ip_host_held` writes. -/
def newIpHost (ip name : String) : Element :=
  .new "IPHost" none
    [.new "Name" (some name) [], .new "IPFamily" (some "IPv4") [], .new "HostType" (some "IP") [],
      .new "IPAddress" (some ip) [], .new "Description" (some "Created by Home Assistant") []]

/-- `_add_ip_host_held`. -/
def addIpHostHeld (ip name : String) : ClientM String := do
  let root ← c.post (.set "add" (newIpHost ip name).received) true
  match confirm root [.text "Add IP host ", .repr name] [["IPHost", "Status"]] with
  | .ok () => return name
  | .error (.writeError message code) =>
    if code = some "502" then
      raise (.writeError [.text "An IP host named ", .repr name,
        .text " already exists with another address"] (some "502"))
    else raise (.writeError message code)
  | .error e => raise e

/-- `block_ip_in_group`. -/
def blockIpInGroup (group ip name : String) : ClientM (Bool × String) :=
  withSlot do
    let elem ← c.getRecordElement "IPHostGroup" group
    ensure (checkIpv4Group elem group)
    let hosts ← c.ipHostsHeld ip
    match hosts.find? fun h => h ∈ hostMembers elem with
    | some member => return (false, member)
    | none =>
      let host ← (match hosts with
        | host :: _ => pure host
        | [] => c.addIpHostHeld ip name : ClientM String)
      c.modifyRecordHeld "IPHostGroup" group (addMember group host)
        (some fun e => host ∈ hostMembers e)
      return (true, host)

/-- `unblock_ip_in_group`. -/
def unblockIpInGroup (group ip : String) : ClientM (Bool × List String) := do
  let removed ← withSlot do
    let hosts ← c.ipHostsHeld ip
    c.modifyRecordHeld "IPHostGroup" group (removeMembers group hosts)
      (some fun e => (hostMembers e).all fun h => h ∉ hosts)
  return (decide (removed ≠ []), removed)

def setWirelessNetworkStatus (hardwareName : String) (enable : Bool) : ClientM Unit := do
  let root ← c.post (.set "update" (Element.new "WirelessNetworkStatus" none
    [.new "Name" (some hardwareName) [],
      .new "Status" (some (if enable then "Enable" else "Disable")) []]).received) false
  ensure (confirm root [.text "Wireless network ", .repr hardwareName]
    [["WirelessNetworkStatus", "Status"]])

def setIpsecConnectionActive (name : String) (active : Bool) : ClientM Unit := do
  let action := if active then "Active" else "DeActive"
  let root ← c.post (.set "update" (Element.new "VPNIPSecConnection" none
    [.new action none [.new "Name" (some name) []]]).received) false
  ensure (confirm root [.text "IPsec connection ", .repr name]
    [["VPNIPSecConnection", action, "Status"], ["VPNIPSecConnection", "Status"],
      [action, "Status"], ["Configuration", "Status"]])

end SophosClient

end SophosFw.Client
