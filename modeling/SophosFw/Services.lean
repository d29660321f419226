import SophosFw.ServiceArgs
import SophosFw.Coordinator
import SophosFw.Confirmation
import SophosFw.RequestDocuments

/-!
The actions: block or unblock a site or a device.

An action checks its arguments, looks its entry up, and runs one write operation of the entry's
client. What the operation raises is translated for the user, by the kind of the error and the code
of the firewall.
-/

namespace SophosFw.Services

open SophosFw.PyDict SophosFw.PyText SophosFw.Coordinator SophosFw.Client SophosFw.Slot
open ClientM

def DOMAIN : String := "sophos_firewall"

/-- A config entry, as an action finds it. -/
structure TargetEntry where
  domain : String
  loaded : Bool
  title : String
  options : String → Option OptionValue
  client : SophosClient

/-- `call.data` before the schema. -/
inductive ServiceCall
  | blockUrl (entryId urlGroup url : String)
  | unblockUrl (entryId urlGroup url : String)
  | blockDevice (entryId hostGroup ipAddress : String) (hostName : Option String)
  | unblockDevice (entryId hostGroup ipAddress : String)

inductive ServiceError
  /-- `vol.Invalid` -/
  | invalid (message : String)
  /-- `ServiceValidationError` -/
  | validation (translationKey : String) (placeholder : String × String)
  /-- `HomeAssistantError`, with the placeholders `name` and `error`. -/
  | homeAssistant (translationKey name : String) (error : Message)
  | other (exc : PyExc)

/-- What an action returns: `changed`, and the host or the hosts. -/
inductive Response
  | changed (b : Bool)
  | host (changed : Bool) (host : String)
  | hosts (changed : Bool) (hosts : List String)

abbrev ServiceM (α : Type) := Prog Request HttpOutcome (Except ServiceError α)

namespace ServiceCall

def entryId : ServiceCall → String
  | blockUrl entryId _ _ | unblockUrl entryId _ _ | blockDevice entryId _ _ _
  | unblockDevice entryId _ _ => entryId

/-- The schemas. -/
def validate : ServiceCall → Except String ServiceCall
  | blockUrl entryId group url => do return blockUrl entryId group (← domain url)
  | unblockUrl entryId group url => do return unblockUrl entryId group (← domain url)
  | blockDevice entryId group ip none => do return blockDevice entryId group (← ipv4 ip) none
  | blockDevice entryId group ip (some name) => do
    let ip ← ipv4 ip
    return blockDevice entryId group ip (some (← Services.hostName name))
  | unblockDevice entryId group ip => do return unblockDevice entryId group (← ipv4 ip)

end ServiceCall

/-- `_client` -/
def clientOf (entries : String → Option TargetEntry) (entryId : String) :
    Except ServiceError SophosClient :=
  match entries entryId with
  | none => .error (.validation "entry_not_found" ("entry_id", entryId))
  | some entry =>
    if entry.domain ≠ DOMAIN then .error (.validation "entry_not_found" ("entry_id", entryId))
    else if !entry.loaded then .error (.validation "entry_not_loaded" ("title", entry.title))
    else if !((entry.options "write_access").getD (.bool false)).truthy then
      .error (.validation "write_access_disabled" ("title", entry.title))
    else .ok entry.client

/-- `err.code if isinstance(err, SophosWriteError) else None` -/
def writeCode : PyExc → Option String
  | .writeError _ code => code
  | _ => none

/-- `str(err)`, of a `SophosError`. -/
def messageOf : PyExc → Message
  | .connectionError m | .authError m | .accessError m _ | .apiError m | .notFoundError m
  | .writeError m _ => m
  | .unicodeDecodeError | .valueError | .cancelledError => []

def isNotFound : PyExc → Bool
  | .notFoundError _ => true
  | _ => false

/-- The table of `_raise`. -/
def codeKey (code : String) : String :=
  if code = "528" then "group_not_editable"
  else if code = "522" ∨ code = "523" ∨ code = "524" ∨ code = "525" then "group_full"
  else if code = "not_applied" then "write_not_applied"
  else "write_failed"

/-- `_raise` -/
def translate (err : PyExc) (name : String) (hostName : Option String) : ServiceError :=
  let key := if isNotFound err then "group_not_found" else codeKey ((writeCode err).getD "")
  match writeCode err, hostName with
  | some "502", some hostName => .homeAssistant "host_name_taken" hostName (messageOf err)
  | _, _ => .homeAssistant key name (messageOf err)

/-- What a handler makes of the end of its operation. -/
def conclude {α : Type} (name : String) (hostName : Option String) (response : α → Response) :
    Except PyExc α → Except ServiceError Response
  | .ok a => .ok (response a)
  | .error e => .error (if e.isSophosError then translate e name hostName else .other e)

/-- `try: ... except SophosError as err: _raise(err, ...)`, and the response. -/
def translated {α : Type} (x : ClientM α) (name : String) (hostName : Option String)
    (response : α → Response) : ServiceM Response :=
  Prog.bind x.run fun r => .ret (conclude name hostName response r)

/-- `call.data.get(ATTR_HOST_NAME) or f"HA {ip}"` -/
def nameOrDefault (hostName : Option String) (ip : String) : String :=
  match hostName with
  | none => defaultHostName ip
  | some name => if name = "" then defaultHostName ip else name

namespace ServiceCall

/-- The operation an action runs. -/
def operation : ServiceCall → Call
  | blockUrl _ group url => .setUrlInGroup group url true
  | unblockUrl _ group url => .setUrlInGroup group url false
  | blockDevice _ group ip hostName => .blockIpInGroup group ip (nameOrDefault hostName ip)
  | unblockDevice _ group ip => .unblockIpInGroup group ip

end ServiceCall

section Handlers

variable (entries : String → Option TargetEntry)

/-- `_set_url` -/
def setUrl (entryId group url : String) (present : Bool) : ServiceM Response :=
  match clientOf entries entryId with
  | .error e => .ret (.error e)
  | .ok c => translated (c.setUrlInGroup group url present) group none .changed

/-- `_block_device` -/
def blockDevice (entryId group ip : String) (hostName : Option String) : ServiceM Response :=
  match clientOf entries entryId with
  | .error e => .ret (.error e)
  | .ok c =>
    let name := nameOrDefault hostName ip
    translated (c.blockIpInGroup group ip name) group (some name) fun r => .host r.1 r.2

/-- `_unblock_device` -/
def unblockDevice (entryId group ip : String) : ServiceM Response :=
  match clientOf entries entryId with
  | .error e => .ret (.error e)
  | .ok c => translated (c.unblockIpInGroup group ip) group none fun r => .hosts r.1 r.2

/-- The registered handlers. -/
def ServiceCall.handle : ServiceCall → ServiceM Response
  | blockUrl entryId group url => setUrl entries entryId group url true
  | unblockUrl entryId group url => setUrl entries entryId group url false
  | blockDevice entryId group ip hostName => Services.blockDevice entries entryId group ip hostName
  | unblockDevice entryId group ip => Services.unblockDevice entries entryId group ip

/-- A service call: the schema, then the handler. -/
def ServiceCall.run (call : ServiceCall) : ServiceM Response :=
  match call.validate with
  | .error message => .ret (.error (.invalid message))
  | .ok call => call.handle entries

end Handlers

/-! ### What an action sends, and how it ends -/

section Exec

variable {S : Type} (serve : S → Request → S × HttpOutcome)
  {entries : String → Option TargetEntry}

/-- The entry an action may write to. -/
def Permitted (entries : String → Option TargetEntry) (entryId : String) (c : SophosClient) :
    Prop :=
  ∃ entry, entries entryId = some entry ∧ entry.domain = DOMAIN ∧ entry.loaded = true ∧
    ((entry.options "write_access").getD (.bool false)).truthy = true ∧ entry.client = c

lemma clientOf_eq_ok_iff {entryId : String} {c : SophosClient} :
    clientOf entries entryId = .ok c ↔ Permitted entries entryId c := by
  unfold clientOf Permitted
  cases entries entryId with
  | none => simp
  | some entry =>
    by_cases hdomain : entry.domain = DOMAIN
    · cases hloaded : entry.loaded
      · simp [hdomain, hloaded]
      · cases hwrite : ((entry.options "write_access").getD (.bool false)).truthy <;>
          simp [hdomain, hloaded, hwrite]
    · simp [hdomain]

/-- The action runs one operation; what comes after it sends nothing. -/
lemma exec_translated {α : Type} (x : ClientM α) (name : String) (hostName : Option String)
    (response : α → Response) (s : S) :
    (Slot.exec serve (translated x name hostName response) s).trace = (x.exec serve s).trace ∧
    (Slot.exec serve (translated x name hostName response) s).result =
      conclude name hostName response (x.exec serve s).result := by
  change (Slot.exec serve (x.run >>= _) s).trace = _ ∧ (Slot.exec serve (x.run >>= _) s).result = _
  rw [exec_bind]
  simp [Slot.exec, ClientM.exec]

namespace ServiceCall

/-- The group the messages name, and the host they may name. -/
def names : ServiceCall → String × Option String
  | blockUrl _ group _ | unblockUrl _ group _ | unblockDevice _ group _ => (group, none)
  | blockDevice _ group ip hostName => (group, some (nameOrDefault hostName ip))

def response : (call : ServiceCall) → call.operation.Value → Response
  | blockUrl _ _ _, changed | unblockUrl _ _ _, changed => .changed changed
  | blockDevice _ _ _ _, r => .host r.1 r.2
  | unblockDevice _ _ _, r => .hosts r.1 r.2

lemma handle_eq (call : ServiceCall) : call.handle entries =
    match clientOf entries call.entryId with
    | .error e => .ret (.error e)
    | .ok c => translated (call.operation.body c) call.names.1 call.names.2 call.response := by
  cases call <;> rfl

lemma operation_isWrite (call : ServiceCall) : call.operation.isWrite = true := by
  cases call <;> rfl

lemma entryId_of_validate {call call' : ServiceCall} (h : call.validate = .ok call') :
    call'.entryId = call.entryId := by
  cases call with
  | blockUrl entryId group url =>
    cases hd : domain url <;> simp [validate, hd, bind, Except.bind, pure, Except.pure] at h
    rw [← h]
    rfl
  | unblockUrl entryId group url =>
    cases hd : domain url <;> simp [validate, hd, bind, Except.bind, pure, Except.pure] at h
    rw [← h]
    rfl
  | blockDevice entryId group ip hostName =>
    cases hostName with
    | none =>
      cases hi : ipv4 ip <;> simp [validate, hi, bind, Except.bind, pure, Except.pure] at h
      rw [← h]
      rfl
    | some name =>
      cases hi : ipv4 ip <;> cases hn : Services.hostName name <;>
        simp [validate, hi, hn, bind, Except.bind, pure, Except.pure] at h
      rw [← h]
      rfl
  | unblockDevice entryId group ip =>
    cases hi : ipv4 ip <;> simp [validate, hi, bind, Except.bind, pure, Except.pure] at h
    rw [← h]
    rfl

end ServiceCall

/-- The codes of the firewall that have a reason of their own. -/
def knownCodes : List String := ["528", "522", "523", "524", "525", "not_applied"]

/-- The reason an action gives for an error of its operation, and the group or host it names. -/
inductive Reason (names : String × Option String) : PyExc → String → String → Prop
  | notFound (m : Message) : Reason names (.notFoundError m) "group_not_found" names.1
  | notEditable (m : Message) :
      Reason names (.writeError m (some "528")) "group_not_editable" names.1
  | full (m : Message) {code : String} (hcode : code ∈ ["522", "523", "524", "525"]) :
      Reason names (.writeError m (some code)) "group_full" names.1
  | notApplied (m : Message) :
      Reason names (.writeError m (some "not_applied")) "write_not_applied" names.1
  | hostTaken (m : Message) {host : String} (hhost : names.2 = some host) :
      Reason names (.writeError m (some "502")) "host_name_taken" host
  | failed {e : PyExc} (hkind : isNotFound e = false)
      (hcode : ∀ code, writeCode e = some code →
        code ∉ knownCodes ∧ (code = "502" → names.2 = none)) :
      Reason names e "write_failed" names.1

lemma codeKey_eq (code : String) : code ∉ knownCodes ∧ codeKey code = "write_failed" ∨
    code = "528" ∧ codeKey code = "group_not_editable" ∨
    code ∈ ["522", "523", "524", "525"] ∧ codeKey code = "group_full" ∨
    code = "not_applied" ∧ codeKey code = "write_not_applied" := by
  unfold codeKey
  by_cases h528 : code = "528"
  · simp [h528]
  by_cases hfull : code = "522" ∨ code = "523" ∨ code = "524" ∨ code = "525"
  · simp [h528, hfull]
  by_cases happlied : code = "not_applied"
  · simp [happlied]
  · simp [h528, hfull, happlied, knownCodes]

lemma reason_of_translate (err : PyExc) (names : String × Option String) :
    ∃ key shown, translate err names.1 names.2 = .homeAssistant key shown (messageOf err) ∧
      Reason names err key shown := by
  cases err with
  | notFoundError m => exact ⟨_, _, rfl, .notFound m⟩
  | writeError m code =>
    rcases code with _ | code
    · exact ⟨_, _, rfl, .failed rfl nofun⟩
    by_cases h502 : code = "502"
    · subst h502
      rcases hhost : names.2 with _ | host
      · refine ⟨_, _, rfl, .failed rfl ?_⟩
        rintro _ ⟨⟩
        exact ⟨by decide, fun _ => hhost⟩
      · exact ⟨_, _, rfl, .hostTaken m hhost⟩
    · have htranslate : translate (.writeError m (some code)) names.1 names.2 =
          .homeAssistant (codeKey code) names.1 m := by
        simp [translate, writeCode, isNotFound, messageOf, h502]
      refine ⟨_, _, htranslate, ?_⟩
      rcases codeKey_eq code with ⟨hcode, hkey⟩ | ⟨rfl, hkey⟩ | ⟨hcode, hkey⟩ | ⟨rfl, hkey⟩
      · rw [hkey]
        refine .failed rfl ?_
        rintro _ ⟨⟩
        exact ⟨hcode, fun h => absurd h h502⟩
      · rw [hkey]
        exact .notEditable m
      · rw [hkey]
        exact .full m hcode
      · rw [hkey]
        exact .notApplied m
  | connectionError | authError | accessError | apiError | unicodeDecodeError | valueError
  | cancelledError => exact ⟨_, _, rfl, .failed rfl nofun⟩

/-- Why an action may not write to an entry, and what its message names. -/
inductive Refused (entries : String → Option TargetEntry) (entryId : String) :
    String → String × String → Prop
  | notFound (h : ∀ entry, entries entryId = some entry → entry.domain ≠ DOMAIN) :
      Refused entries entryId "entry_not_found" ("entry_id", entryId)
  | notLoaded {entry : TargetEntry} (h : entries entryId = some entry)
      (hdomain : entry.domain = DOMAIN) (hloaded : entry.loaded = false) :
      Refused entries entryId "entry_not_loaded" ("title", entry.title)
  | readOnly {entry : TargetEntry} (h : entries entryId = some entry)
      (hdomain : entry.domain = DOMAIN) (hloaded : entry.loaded = true)
      (hwrite : ((entry.options "write_access").getD (.bool false)).truthy = false) :
      Refused entries entryId "write_access_disabled" ("title", entry.title)

lemma refused_of_clientOf {entryId : String} {e : ServiceError}
    (h : clientOf entries entryId = .error e) :
    ∃ key placeholder, e = .validation key placeholder ∧
      Refused entries entryId key placeholder := by
  unfold clientOf at h
  split at h
  · next hnone =>
    cases h
    exact ⟨_, _, rfl, .notFound (by simp [hnone])⟩
  · next entry hentry =>
    split_ifs at h with hdomain hloaded hwrite <;> cases h
    · exact ⟨_, _, rfl, .notFound (by simpa [hentry] using hdomain)⟩
    · exact ⟨_, _, rfl, .notLoaded hentry (by simpa using hdomain) (by simpa using hloaded)⟩
    · exact ⟨_, _, rfl, .readOnly hentry (by simpa using hdomain) (by simpa using hloaded)
        (by simpa using hwrite)⟩

lemma credentials (c : SophosClient) (call : Call) (s : S) :
    ∀ x ∈ ((call.body c).exec serve s).trace,
      x.1.username = c.username ∧ x.1.password = c.password := by
  intro x hx
  rcases mem_trace_of_asks serve (call.asks c) s x hx with ⟨a, ha⟩ | ⟨content, hcontent⟩
  · rw [ha]
    exact ⟨rfl, rfl⟩
  · rw [hcontent]
    exact ⟨rfl, rfl⟩

lemma run_eq {call call' : ServiceCall} {c : SophosClient} (hv : call.validate = .ok call')
    (hc : clientOf entries call.entryId = .ok c) :
    call.run entries =
      translated (call'.operation.body c) call'.names.1 call'.names.2 call'.response := by
  simp only [ServiceCall.run, hv]
  rw [call'.handle_eq, ServiceCall.entryId_of_validate hv, hc]

/-- **What an action may do, and how it ends.** Whatever the firewall answers, an action sends
nothing unless its arguments are accepted and its entry exists, is loaded and allows changes, and
then every request carries the credentials of that entry. It returns what its operation returns.
Otherwise it names the reason: the argument, what is wrong with the entry, or, if the operation
failed, the reason for the error and the code of the firewall, about its own group or host. An
error that is not translated is that of the operation, and comes of an answer that cannot be
decoded or a cancelled request. -/
theorem actions_gated_and_translated (entries : String → Option TargetEntry) (call : ServiceCall)
    (s : S) :
    let y := Slot.exec serve (call.run entries) s
    (y.trace ≠ [] → ∃ c, Permitted entries call.entryId c ∧
      ∀ x ∈ y.trace, x.1.username = c.username ∧ x.1.password = c.password) ∧
    match y.result with
    | .ok r => ∃ c call' a, call.validate = .ok call' ∧ Permitted entries call.entryId c ∧
        ((call'.operation.body c).exec serve s).result = .ok a ∧ r = call'.response a
    | .error (.invalid message) => y.trace = [] ∧ call.validate = .error message
    | .error (.validation key placeholder) => y.trace = [] ∧
        Refused entries call.entryId key placeholder
    | .error (.homeAssistant key name message) =>
        ∃ c call' e, call.validate = .ok call' ∧ Permitted entries call.entryId c ∧
          ((call'.operation.body c).exec serve s).result = .error e ∧ e.isSophosError = true ∧
          Reason call'.names e key name ∧ message = messageOf e
    | .error (.other e) => ∃ c call', call.validate = .ok call' ∧
        Permitted entries call.entryId c ∧
        ((call'.operation.body c).exec serve s).result = .error e ∧ e.isSophosError = false ∧
        ∃ x ∈ y.trace, Undecodable x.2 ∨ x.2 = .cancelled := by
  intro y
  cases hv : call.validate with
  | error message =>
    have hy : y = ⟨s, .error (.invalid message), []⟩ := by simp [y, ServiceCall.run, hv, Slot.exec]
    rw [hy]
    exact ⟨fun h => absurd rfl h, rfl, hv.symm ▸ rfl⟩
  | ok call' =>
    cases hc : clientOf entries call.entryId with
    | error e =>
      obtain ⟨key, placeholder, rfl, hrefused⟩ := refused_of_clientOf hc
      have hy : y = ⟨s, .error (.validation key placeholder), []⟩ := by
        simp only [y, ServiceCall.run, hv]
        rw [call'.handle_eq, ServiceCall.entryId_of_validate hv, hc]
        rfl
      rw [hy]
      exact ⟨fun h => absurd rfl h, rfl, hrefused⟩
    | ok c =>
      have hpermitted := clientOf_eq_ok_iff.mp hc
      obtain ⟨htrace, hresult⟩ := exec_translated serve (call'.operation.body c) call'.names.1
        call'.names.2 call'.response s
      rw [← run_eq hv hc] at htrace hresult
      change y.trace = _ at htrace
      change y.result = _ at hresult
      refine ⟨fun _ => ⟨c, hpermitted, ?_⟩, ?_⟩
      · rw [htrace]
        exact credentials serve c _ s
      · rw [hresult]
        cases hr : ((call'.operation.body c).exec serve s).result with
        | ok a => exact ⟨c, call', a, rfl, hpermitted, hr, rfl⟩
        | error e =>
          by_cases hsophos : e.isSophosError = true
          · obtain ⟨key, shown, htranslate, hreason⟩ := reason_of_translate e call'.names
            simp only [conclude, hsophos, if_true, htranslate]
            exact ⟨c, call', e, rfl, hpermitted, hr, hsophos, hreason, rfl⟩
          · simp only [conclude, hsophos, if_false, Bool.false_eq_true]
            refine ⟨c, call', rfl, hpermitted, hr, trivial, ?_⟩
            -- it is an answer that cannot be decoded, or a cancellation
            have hsound := call'.operation.sound c serve call'.operation_isWrite s
            by_contra hno
            push Not at hno
            rw [htrace] at hno
            exact hsophos (hsound.sophos hno e hr)

end Exec

end SophosFw.Services
