import SophosFw.Client

/-!
Operations of the client running at the same time. Every one of them takes the request slot
once, sends all its requests while it holds it, and looks at the last answer after it gave
it back; so their runs are serial.
-/

namespace SophosFw.Client

open SophosFw.PyDict SophosFw.ElementTree SophosFw.Records SophosFw.Slot SophosFw.Runs
open ClientM

namespace ClientM

variable {α β : Type}

/-- It runs inside a slot somebody else holds. -/
def InSlot (x : ClientM α) : Prop := x.run.Sends

lemma inSlot_pure (a : α) : InSlot (pure a : ClientM α) := .ret _

lemma inSlot_raise (e : PyExc) : InSlot (raise e : ClientM α) := .ret _

lemma inSlot_ensure (x : Except PyExc α) : InSlot (ensure x) := .ret _

lemma InSlot.bind {x : ClientM α} {f : α → ClientM β} (hx : InSlot x) (hf : ∀ a, InSlot (f a)) :
    InSlot (x >>= f) := by
  refine Prog.Sends.bind hx fun r => ?_
  rcases r with e | a
  · exact .ret _
  · exact hf a

lemma InSlot.catchSophosError {x : ClientM α} {handler : PyExc → ClientM α} (hx : InSlot x)
    (hh : ∀ e, InSlot (handler e)) : InSlot (ClientM.catchSophosError x handler) := by
  refine Prog.Sends.bind hx fun r => ?_
  rcases r with e | a
  · dsimp only
    split
    · exact hh e
    · exact .ret _
  · exact .ret _

lemma disciplined_withSlot {x : ClientM α} (hx : InSlot x) : (withSlot x).run.Disciplined :=
  .acquire (hx.held id) rfl

lemma disciplined_bind {x : ClientM α} {f : α → ClientM β} (hx : x.run.Disciplined)
    (hf : ∀ a, ∃ r, (f a).run = .ret r) : (x >>= f).run.Disciplined := by
  refine Prog.Disciplined.bind hx fun r => ?_
  rcases r with e | a
  · exact ⟨_, rfl⟩
  · exact hf a

end ClientM

namespace SophosClient

variable (c : SophosClient)

lemma inSlot_exchange (operation : Operation) : InSlot (c.exchange operation) :=
  .send fun _ => .ret _

lemma inSlot_post (operation : Operation) : InSlot (c.post operation true) :=
  (c.inSlot_exchange operation).bind fun _ => inSlot_ensure _

lemma disciplined_post (operation : Operation) : (c.post operation false).run.Disciplined :=
  disciplined_bind (disciplined_withSlot (c.inSlot_exchange operation)) fun _ => ⟨_, rfl⟩

lemma disciplined_getRecords (tag : String) : (c.getRecords tag).run.Disciplined :=
  disciplined_bind (c.disciplined_post _) fun _ => ⟨_, rfl⟩

lemma inSlot_getRecordElement (tag name : String) : InSlot (c.getRecordElement tag name) :=
  (c.inSlot_post _).bind fun _ => inSlot_ensure _

lemma inSlot_readBack {σ : Type} (tag name : String) (verify : Element → Bool) (kept : σ) :
    InSlot (c.readBack tag name verify kept) := by
  refine (((c.inSlot_getRecordElement tag name).bind fun _ => inSlot_pure _).catchSophosError
    fun _ => inSlot_pure none).bind fun after => ?_
  rcases after with _ | after
  · exact inSlot_pure _
  · dsimp only
    split
    · exact inSlot_pure _
    · exact inSlot_raise _

lemma inSlot_modifyRecordHeld {σ : Type} (tag name : String)
    (change : Element → Except PyExc (Option Element × σ)) (verify : Option (Element → Bool)) :
    InSlot (c.modifyRecordHeld tag name change verify) := by
  refine (c.inSlot_getRecordElement tag name).bind fun elem => ?_
  refine (inSlot_ensure _).bind fun x => ?_
  rcases x with ⟨_ | changed, kept⟩
  · exact inSlot_pure _
  refine (c.inSlot_post _).bind fun root => (inSlot_ensure _).bind fun _ => ?_
  rcases verify with _ | verify
  · exact inSlot_pure _
  · exact c.inSlot_readBack tag name verify kept

lemma disciplined_modifyRecord {σ : Type} (tag name : String)
    (change : Element → Except PyExc (Option Element × σ)) (verify : Option (Element → Bool)) :
    (c.modifyRecord tag name change verify).run.Disciplined :=
  disciplined_withSlot (c.inSlot_modifyRecordHeld tag name change verify)

lemma inSlot_ipHostsHeld (ip : String) : InSlot (c.ipHostsHeld ip) :=
  (c.inSlot_post _).bind fun _ => inSlot_pure _

lemma inSlot_addIpHostHeld (ip name : String) : InSlot (c.addIpHostHeld ip name) := by
  refine (c.inSlot_post _).bind fun root => ?_
  split
  · exact inSlot_pure _
  · split
    · exact inSlot_raise _
    · exact inSlot_raise _
  · exact inSlot_raise _

lemma disciplined_blockIpInGroup (group ip name : String) :
    (c.blockIpInGroup group ip name).run.Disciplined := by
  refine disciplined_withSlot ((c.inSlot_getRecordElement _ _).bind fun elem =>
    (inSlot_ensure _).bind fun _ => (c.inSlot_ipHostsHeld ip).bind fun hosts => ?_)
  split
  · exact inSlot_pure _
  · refine InSlot.bind ?_ fun host =>
      (c.inSlot_modifyRecordHeld _ _ _ _).bind fun _ => inSlot_pure _
    split
    · exact inSlot_pure _
    · exact c.inSlot_addIpHostHeld ip name

lemma disciplined_unblockIpInGroup (group ip : String) :
    (c.unblockIpInGroup group ip).run.Disciplined :=
  disciplined_bind (disciplined_withSlot ((c.inSlot_ipHostsHeld ip).bind fun _ =>
    c.inSlot_modifyRecordHeld _ _ _ _)) fun _ => ⟨_, rfl⟩

end SophosClient

/-- A call of a public method of the client. -/
inductive Call
  | testConnection
  | getInterfaces
  | getFirewallRules
  | getWebFilterPolicies
  | getDhcpServers
  | getBackup
  | getAdminSettings
  | getWirelessNetworks
  | setFirewallRuleStatus (name : String) (enable : Bool)
  | setWebFilterDefaultAction (name : String) (allow : Bool)
  | setUrlInGroup (group url : String) (present : Bool)
  | blockIpInGroup (group ip name : String)
  | unblockIpInGroup (group ip : String)
  | setWirelessNetworkStatus (hardwareName : String) (enable : Bool)
  | setIpsecConnectionActive (name : String) (active : Bool)

namespace Call

/-- What the call returns. -/
abbrev Value : Call → Type
  | testConnection => String
  | getInterfaces => Dict String Interface
  | getFirewallRules => Dict String FirewallRule
  | getWebFilterPolicies => Dict String WebFilterPolicy
  | getDhcpServers => Dict String DhcpServer
  | getBackup => BackupSettings
  | getAdminSettings => AdminSettings
  | getWirelessNetworks => Dict String WirelessNetwork
  | setFirewallRuleStatus _ _ | setWebFilterDefaultAction _ _ => Unit
  | setUrlInGroup _ _ _ => Bool
  | blockIpInGroup _ _ _ => Bool × String
  | unblockIpInGroup _ _ => Bool × List String
  | setWirelessNetworkStatus _ _ | setIpsecConnectionActive _ _ => Unit

/-- What it returns or raises. -/
abbrev Result (call : Call) : Type := Except PyExc call.Value

def body (c : SophosClient) : (call : Call) → ClientM call.Value
  | testConnection => c.testConnection
  | getInterfaces => c.getInterfaces
  | getFirewallRules => c.getFirewallRules
  | getWebFilterPolicies => c.getWebFilterPolicies
  | getDhcpServers => c.getDhcpServers
  | getBackup => c.getBackup
  | getAdminSettings => c.getAdminSettings
  | getWirelessNetworks => c.getWirelessNetworks
  | setFirewallRuleStatus name enable => c.setFirewallRuleStatus name enable
  | setWebFilterDefaultAction name allow => c.setWebFilterDefaultAction name allow
  | setUrlInGroup group url present => c.setUrlInGroup group url present
  | blockIpInGroup group ip name => c.blockIpInGroup group ip name
  | unblockIpInGroup group ip => c.unblockIpInGroup group ip
  | setWirelessNetworkStatus name enable => c.setWirelessNetworkStatus name enable
  | setIpsecConnectionActive name active => c.setIpsecConnectionActive name active

def prog (c : SophosClient) (call : Call) : Prog Request HttpOutcome call.Result :=
  (call.body c).run

/-- Every operation keeps to the slot. -/
theorem disciplined (c : SophosClient) (call : Call) : (call.prog c).Disciplined := by
  cases call with
  | testConnection => exact disciplined_bind (c.disciplined_post _) fun _ => ⟨_, rfl⟩
  | getInterfaces => exact disciplined_bind (c.disciplined_getRecords _) fun _ => ⟨_, rfl⟩
  | getFirewallRules => exact disciplined_bind (c.disciplined_getRecords _) fun _ => ⟨_, rfl⟩
  | getWebFilterPolicies => exact disciplined_bind (c.disciplined_getRecords _) fun _ => ⟨_, rfl⟩
  | getDhcpServers =>
    refine disciplined_bind (c.disciplined_getRecords _) fun records => ?_
    split <;> exact ⟨_, rfl⟩
  | getBackup => exact disciplined_bind (c.disciplined_getRecords _) fun _ => ⟨_, rfl⟩
  | getAdminSettings => exact disciplined_bind (c.disciplined_getRecords _) fun _ => ⟨_, rfl⟩
  | getWirelessNetworks => exact disciplined_bind (c.disciplined_getRecords _) fun _ => ⟨_, rfl⟩
  | setFirewallRuleStatus name enable => exact c.disciplined_modifyRecord _ _ _ _
  | setWebFilterDefaultAction name allow => exact c.disciplined_modifyRecord _ _ _ _
  | setUrlInGroup group url present => exact c.disciplined_modifyRecord _ _ _ _
  | blockIpInGroup group ip name => exact c.disciplined_blockIpInGroup group ip name
  | unblockIpInGroup group ip => exact c.disciplined_unblockIpInGroup group ip
  | setWirelessNetworkStatus name enable =>
    exact disciplined_bind (c.disciplined_post _) fun _ => ⟨_, rfl⟩
  | setIpsecConnectionActive name active =>
    exact disciplined_bind (c.disciplined_post _) fun _ => ⟨_, rfl⟩

end Call

/-! ### Runs -/

section Runs

variable {ι S : Type} [DecidableEq ι]

/-- **The client is serializable.** Any operations, started together and interleaved in any
way, some of them cancelled or timed out:

* at most one request is in flight;
* the requests of an operation are consecutive in the log of the firewall, and come in the
  order in which the operations got the slot;
* no operation waits for the slot while it holds it;
* as long as requests are answered, some operation that has not ended can go on;
* once all have ended, the firewall is in the state, and every operation has the result, that
  running them one after another gives, in the order in which they got the slot; an operation
  that was cancelled before it got the slot sends nothing. -/
theorem client_serializable (c : SophosClient) (calls : ι → Call)
    (serve : S → Request → S × HttpOutcome) {s₀ : S} {es : List (Label ι HttpOutcome)}
    {s : Sys S Request HttpOutcome fun i => (calls i).Result}
    (h : Run (step serve) (Sys.init (fun i => (calls i).prog c) s₀) es s) :
    (∀ i j, s.flight i ≠ .idle → s.flight j ≠ .idle → i = j) ∧
    ((order es).Nodup ∧ s.log = (order es).flatMap fun i => s.log.filter fun x => x.1 = i) ∧
    (∀ i k, s.prog i = .acquire k → .granted ∉ fates es i) ∧
    ((∃ i, ∀ a, s.prog i ≠ .ret a) → ∃ l s', l.regular = true ∧ step serve s l = some s') ∧
    ∀ res : ∀ i, (calls i).Result, (∀ i, s.prog i = .ret (res i)) →
      serial serve (fun i => (calls i).prog c) (fates es) (order es) s₀ =
        some (s.server, (order es).map fun i => ⟨i, res i⟩) ∧
      ∀ i ∉ order es, ∀ t, solo serve ((calls i).prog c) (fates es i) t = some (t, res i) := by
  have hd : ∀ i, ((calls i).prog c).Disciplined := fun i => (calls i).disciplined c
  have hi := inv_run hd h
  exact ⟨fun i j => one_in_flight hd h, ⟨hi.nodup, hi.log⟩, fun i k => not_granted_of_waiting hd h,
    progress hd h, fun res => serializable hd h⟩

/-- It has ended with a result of this kind. -/
def EndedWith {α : Type} (P : α → Prop) (p : Prog Request HttpOutcome α) : Prop :=
  ∃ r, p = .ret r ∧ P r

instance {α : Type} (P : α → Prop) [DecidablePred P] :
    (p : Prog Request HttpOutcome α) → Decidable (EndedWith P p)
  | .ret r => decidable_of_iff (P r) ⟨fun h => ⟨r, rfl, h⟩, fun ⟨_, hr, h⟩ => Prog.ret.inj hr ▸ h⟩
  | .acquire _ | .release _ | .send _ _ => .isFalse nofun

/-- It has one rule, of which it keeps the status. -/
def statusFirewall (status : String) (r : Request) : String × HttpOutcome :=
  match r.operation with
  | .set _ sent => ((sent.findtext "Status").getD status,
      .answer 200 (.document (.new "Response" none [.new "FirewallRule" none
        [⟨"Status", .single "code" "200", some "Applied", none, []⟩]])))
  | _ => (status, .answer 200 (.document (.new "Response" none [.new "FirewallRule" none
      [.new "Name" (some "Guest") [], .new "Status" (some status) []]])))

/-- A rule is switched off, and on by a call that is cancelled while its update is with the
firewall, and then polled; all three were started at once. -/
theorem client_serializable_poll_and_writes :
    let c : SophosClient := ⟨"fw", 4444, "admin", "secret"⟩
    let calls : Option Bool → Call := fun i =>
      i.elim .getFirewallRules fun enable => .setFirewallRuleStatus "Guest" enable
    let exchange (i : Option Bool) : List (Label (Option Bool) HttpOutcome) :=
      [.send i, .serve i, .answer i]
    let es : List (Label (Option Bool) HttpOutcome) :=
      .acquire (some false) :: exchange (some false) ++ exchange (some false) ++
        [.release (some false), .acquire (some true)] ++ exchange (some true) ++
        [.send (some true), .serve (some true), .abandon (some true) true .cancelled,
          .release (some true), .acquire none] ++ exchange none ++ [.release none]
    ∃ rules : Dict String FirewallRule,
      (rules.get "Guest").bind FirewallRule.enabled = some true ∧
      serial statusFirewall (fun i => (calls i).prog c) (fates es) [some false, some true, none]
        "Enable" = some ("Enable", [⟨some false, .ok ()⟩, ⟨some true, .error .cancelledError⟩,
          ⟨none, .ok rules⟩]) := by
  intro c calls exchange es
  have hreplay : (replay (step statusFirewall) (Sys.init (fun i => (calls i).prog c) "Enable")
      es).map (fun s => (s.server,
        decide (EndedWith (fun r : Except PyExc Unit => r = .ok ()) (s.prog (some false))),
        decide (EndedWith (fun r : Except PyExc Unit => r = .error .cancelledError)
          (s.prog (some true))),
        decide (EndedWith (fun r : Except PyExc (Dict String FirewallRule) =>
          (r.toOption.bind fun rules => rules.get "Guest").bind FirewallRule.enabled = some true)
            (s.prog none)))) = some ("Enable", true, true, true) := by
    decide +kernel
  obtain ⟨s, hs, hend⟩ := Option.map_eq_some_iff.mp hreplay
  simp only [Prod.mk.injEq, decide_eq_true_eq] at hend
  obtain ⟨hserver, ⟨_, hoff, rfl⟩, ⟨_, hon, rfl⟩, e | rules, hpoll, hrules⟩ := hend
  · cases hrules
  obtain ⟨-, -, -, -, hserial⟩ := client_serializable c calls statusFirewall (run_of_replay hs)
  obtain ⟨h, -⟩ := hserial (fun
    | some false => .ok ()
    | some true => .error .cancelledError
    | none => .ok rules) (by rintro (_ | _ | _) <;> assumption)
  rw [hserver] at h
  exact ⟨rules, hrules, h⟩

end Runs

end SophosFw.Client
