import SophosFw.Client
import SophosFw.Migration

/-!
New connection data for config entries.

A flow looks whether another entry has the new address, tests the connection, and stores the
address if the test succeeds. The test takes its time and other flows go on meanwhile, so the
check may be out of date by then. It is said exactly when it is.
-/

namespace SophosFw.ConfigFlow

open SophosFw.PyDict SophosFw.Runs SophosFw.Migration
open SophosFw.Coordinator (OptionValue)
open SophosFw.Client (PyExc)

/-- What passes `_connection_schema`. -/
structure ConnectionInput where
  host : String
  port : ℤ
  username : String
  password : String
  verifySsl : Bool
  port_range : 1 ≤ port ∧ port ≤ 65535

def ConnectionInput.toDict (input : ConnectionInput) : Dict String OptionValue where
  entries := [("host", .text input.host), ("port", .int input.port),
    ("username", .text input.username), ("password", .text input.password),
    ("verify_ssl", .bool input.verifySsl)]
  nodup := by simp

/-- What a flow was started for. -/
inductive FlowSource
  | reauth | reconfigure
  deriving DecidableEq, Repr

inductive UserInput
  | connection (input : ConnectionInput)
  | password (password : String)

/-- The flow whose form asks for this. -/
def UserInput.source : UserInput → FlowSource
  | .connection _ => .reconfigure
  | .password _ => .reauth

inductive FlowStatus
  /-- It shows its form, with the error under `base` if there is one. -/
  | form (base : Option String)
  /-- It waits for the connection test. -/
  | testing (input : UserInput)
  | aborted (reason : String)

structure Flow where
  source : FlowSource
  entryId : String
  status : FlowStatus

/-- `async_test_xml_connection`, from how `test_connection` ended. A cancelled test is not
caught. -/
def asyncTestXmlConnection : Except PyExc String → Except PyExc (Option String)
  | .ok _ => .ok none
  | .error (.authError _) => .ok (some "invalid_auth")
  | .error (.accessError _ _) => .ok (some "api_access_denied")
  | .error .cancelledError => .error .cancelledError
  | .error e => .ok (some (if e.isSophosError then "cannot_connect" else "unknown"))

/-- `(data.get(CONF_HOST), data.get(CONF_PORT))` -/
def hostPort (e : ConfigEntry) : Option OptionValue × Option OptionValue :=
  (e.data.get "host", e.data.get "port")

/-- `f"{host}:{port}"` -/
def uniqueIdOf (host : String) (port : ℤ) : String := host ++ ":" ++ toString port

/-- The check of `async_step_reconfigure`. It leaves out ignored entries, which only an integration
with discovery has. -/
def alreadyConfigured (c : ConfigEntries) (entryId host : String) (port : ℤ) : Bool :=
  c.entries.any fun other => decide (other.entryId ≠ entryId ∧
    (hostPort other = (some (.text host), some (.int port)) ∨
      other.uniqueId = some (uniqueIdOf host port)))

/-- The unique id and the data a successful `async_step_reconfigure` stores. -/
def reconfigured (entry : ConfigEntry) (input : ConnectionInput) : ConfigEntry :=
  { entry with
    uniqueId := some (uniqueIdOf input.host input.port)
    data := entry.data.update input.toDict
    host_isSome := by
      rw [Dict.get_update]
      rfl }

/-- The data a successful `async_step_reauth_confirm` stores. -/
def reauthenticated (entry : ConfigEntry) (password : String) : ConfigEntry :=
  { entry with
    data := entry.data.set "password" (.text password)
    host_isSome := by
      rw [Dict.get_set, if_neg (by decide)]
      exact entry.host_isSome }

/-! ### Flows side by side -/

/-- Home Assistant, as far as the flows see it. -/
structure World where
  configEntries : ConfigEntries
  title : String → String
  /-- `entry.state is ConfigEntryState.LOADED` -/
  loaded : String → Bool
  flows : List Flow
  /-- The entries `async_schedule_reload` was called for. -/
  reloads : List String

inductive Event
  /-- A flow is started and shows its form. -/
  | init (source : FlowSource) (entryId : String)
  /-- The form of a flow is submitted. -/
  | submit (flow : ℕ) (input : UserInput)
  /-- The connection test of a flow ends. -/
  | tested (flow : ℕ) (result : Except PyExc String)
  /-- An entry is set up or unloaded. -/
  | setup (entryId : String) (loaded : Bool)

namespace World

def setStatus (w : World) (i : ℕ) (flow : Flow) (status : FlowStatus) : World :=
  { w with flows := w.flows.set i { flow with status := status } }

/-- What a form leads to: the test, or the end at an address that is taken. -/
def submit (w : World) (i : ℕ) (flow : Flow) (input : UserInput) : World :=
  w.setStatus i flow <|
    match input with
    | .connection new =>
      if alreadyConfigured w.configEntries flow.entryId new.host new.port then
        .aborted "already_configured"
      else .testing input
    | .password _ => .testing input

/-- `_async_update_and_finish`. A loaded entry whose data change is left to its listener. -/
def asyncUpdateAndFinish (w : World) (i : ℕ) (flow : Flow) (entry changed : ConfigEntry)
    (title : String) : World :=
  let reason :=
    if flow.source = .reauth then "reauth_successful" else "reconfigure_successful"
  let reload := w.loaded entry.entryId = false ∨ changed.data.same entry.data = true
  { w.setStatus i flow (.aborted reason) with
    configEntries := w.configEntries.asyncUpdateEntry changed
    title := Function.update w.title entry.entryId title
    reloads := if reload then w.reloads ++ [entry.entryId] else w.reloads }

/-- What a successful test leads to, for the entry as it is by then. -/
def finish (w : World) (i : ℕ) (flow : Flow) (entry : ConfigEntry) : UserInput → World
  | .connection input =>
    w.asyncUpdateAndFinish i flow entry (reconfigured entry input)
      (if entry.data.get "host" = some (.text (w.title entry.entryId)) then input.host
      else w.title entry.entryId)
  | .password password =>
    w.asyncUpdateAndFinish i flow entry (reauthenticated entry password) (w.title entry.entryId)

def step (w : World) : Event → Option World
  | .init source entryId =>
    (w.configEntries.asyncGetEntry entryId).map fun _ =>
      { w with flows := w.flows ++ [⟨source, entryId, .form none⟩] }
  | .submit i input =>
    w.flows[i]?.bind fun flow => (w.configEntries.asyncGetEntry flow.entryId).bind fun _ =>
      match flow.status with
      | .form _ => if input.source = flow.source then some (w.submit i flow input) else none
      | _ => none
  | .tested i result =>
    w.flows[i]?.bind fun flow => (w.configEntries.asyncGetEntry flow.entryId).bind fun entry =>
      match flow.status with
      | .testing input =>
        match asyncTestXmlConnection result with
        | .ok none => some (w.finish i flow entry input)
        | .ok (some base) => some (w.setStatus i flow (.form (some base)))
        | .error _ => some (w.setStatus i flow (.form none))
      | _ => none
  | .setup entryId loaded => some { w with loaded := Function.update w.loaded entryId loaded }

variable {w w' : World} {e : Event}

lemma step_cases (h : w.step e = some w') :
    (∃ source entryId, e = .init source entryId ∧
      w' = { w with flows := w.flows ++ [⟨source, entryId, .form none⟩] }) ∨
    (∃ i input flow base, e = .submit i input ∧ w.flows[i]? = some flow ∧
      flow.status = .form base ∧ w' = w.submit i flow input) ∨
    (∃ i result flow base, e = .tested i result ∧ w.flows[i]? = some flow ∧
      (∀ v, result ≠ .ok v) ∧ w' = w.setStatus i flow (.form base)) ∨
    (∃ i v flow entry input, e = .tested i (.ok v) ∧ w.flows[i]? = some flow ∧
      w.configEntries.asyncGetEntry flow.entryId = some entry ∧ flow.status = .testing input ∧
      w' = w.finish i flow entry input) ∨
    (∃ entryId loaded, e = .setup entryId loaded ∧
      w' = { w with loaded := Function.update w.loaded entryId loaded }) := by
  cases e with
  | init source entryId =>
    obtain ⟨_, -, rfl⟩ := Option.map_eq_some_iff.mp h
    exact .inl ⟨source, entryId, rfl, rfl⟩
  | submit i input =>
    obtain ⟨flow, hflow, h⟩ := Option.bind_eq_some_iff.mp h
    obtain ⟨_, -, h⟩ := Option.bind_eq_some_iff.mp h
    split at h
    · next base hform =>
      split at h
      · exact .inr (.inl ⟨i, input, flow, base, rfl, hflow, hform, (Option.some.inj h).symm⟩)
      · cases h
    · cases h
  | tested i result =>
    obtain ⟨flow, hflow, h⟩ := Option.bind_eq_some_iff.mp h
    obtain ⟨entry, hentry, h⟩ := Option.bind_eq_some_iff.mp h
    split at h
    · next input htesting =>
      rcases result with err | v
      · have hfailed : ∀ v, (Except.error err : Except PyExc String) ≠ .ok v := nofun
        split at h
        · next hnone => cases err <;> cases hnone
        · exact .inr (.inr (.inl ⟨i, _, flow, _, rfl, hflow, hfailed, (Option.some.inj h).symm⟩))
        · exact .inr (.inr (.inl ⟨i, _, flow, _, rfl, hflow, hfailed, (Option.some.inj h).symm⟩))
      · exact .inr (.inr (.inr (.inl ⟨i, v, flow, entry, input, rfl, hflow, hentry, htesting,
          (Option.some.inj h).symm⟩)))
    · cases h
  | setup entryId loaded =>
    exact .inr (.inr (.inr (.inr ⟨entryId, loaded, rfl, (Option.some.inj h).symm⟩)))

end World

section Entries

variable {c : ConfigEntries} {e new : ConfigEntry} {entryId host : String} {port : ℤ}

/-- No two entries have one address or one unique id. -/
structure Separate (c : ConfigEntries) : Prop where
  hostPort : ∀ e ∈ c.entries, ∀ e' ∈ c.entries,
    ConfigFlow.hostPort e = ConfigFlow.hostPort e' → e = e'
  uniqueId : ∀ e ∈ c.entries, ∀ e' ∈ c.entries, e.uniqueId = e'.uniqueId → e = e'

lemma hostPort_reconfigured (entry : ConfigEntry) (input : ConnectionInput) :
    hostPort (reconfigured entry input) = (some (.text input.host), some (.int input.port)) := by
  unfold hostPort reconfigured
  dsimp only
  rw [Dict.get_update, Dict.get_update]
  rfl

lemma hostPort_reauthenticated (entry : ConfigEntry) (password : String) :
    hostPort (reauthenticated entry password) = hostPort entry := by
  unfold hostPort reauthenticated
  simp

lemma alreadyConfigured_eq_false_iff : alreadyConfigured c entryId host port = false ↔
    ∀ x ∈ c.entries, x.entryId ≠ entryId →
      hostPort x ≠ (some (.text host), some (.int port)) ∧
        x.uniqueId ≠ some (uniqueIdOf host port) := by
  unfold alreadyConfigured
  rw [List.any_eq_false]
  refine forall₂_congr fun x _ => ?_
  rw [decide_eq_true_eq, not_and, not_or]

lemma separate_asyncUpdateEntry_iff (hs : Separate c) (he : e ∈ c.entries)
    (hid : new.entryId = e.entryId) :
    Separate (c.asyncUpdateEntry new) ↔ ∀ x ∈ c.entries, x.entryId ≠ e.entryId →
      hostPort x ≠ hostPort new ∧ x.uniqueId ≠ new.uniqueId := by
  have haddress := ConfigEntries.alike_asyncUpdateEntry_iff (fun _ _ => Eq.symm) hs.hostPort he hid
  have huid := ConfigEntries.alike_asyncUpdateEntry_iff (fun _ _ => Eq.symm) hs.uniqueId he hid
  constructor
  · intro h x hx hne
    exact ⟨haddress.mp h.hostPort x hx hne, huid.mp h.uniqueId x hx hne⟩
  · intro h
    exact ⟨haddress.mpr fun x hx hne => (h x hx hne).1,
      huid.mpr fun x hx hne => (h x hx hne).2⟩

lemma separate_reconfigured_iff (hs : Separate c) (he : e ∈ c.entries) (input : ConnectionInput) :
    Separate (c.asyncUpdateEntry (reconfigured e input)) ↔
      alreadyConfigured c e.entryId input.host input.port = false := by
  have hupdate := @separate_asyncUpdateEntry_iff _ _ (reconfigured e input) hs he rfl
  rw [hupdate, alreadyConfigured_eq_false_iff, hostPort_reconfigured]
  rfl

lemma Separate.reauthenticated (hs : Separate c) (he : e ∈ c.entries) (password : String) :
    Separate (c.asyncUpdateEntry (ConfigFlow.reauthenticated e password)) := by
  have hupdate :=
    @separate_asyncUpdateEntry_iff _ _ (ConfigFlow.reauthenticated e password) hs he rfl
  rw [hupdate, hostPort_reauthenticated]
  intro x hx hne
  exact ⟨fun heq => hne (congrArg _ (hs.hostPort x hx e he heq)),
    fun heq => hne (congrArg _ (hs.uniqueId x hx e he heq))⟩

end Entries

section Runs

variable {w w' : World} {e : Event} {es : List Event}

/-- Where a test for a new address succeeds, the check before it would pass again. -/
def StillFree (e : Event) (w : World) : Prop :=
  ∀ i v flow entry input, e = .tested i (.ok v) → w.flows[i]? = some flow →
    w.configEntries.asyncGetEntry flow.entryId = some entry →
    flow.status = .testing (.connection input) →
    alreadyConfigured w.configEntries flow.entryId input.host input.port = false

/-- The flow whose test succeeds. -/
def Event.succeeded : Event → Option ℕ
  | .tested i (.ok _) => some i
  | _ => none

/-- The address a flow tests. -/
def Flow.tests (flow : Flow) : Option ConnectionInput :=
  match flow.status with
  | .testing (.connection input) => some input
  | _ => none

lemma stillFree_iff : StillFree e w ↔ ∀ i ∈ e.succeeded, ∀ flow ∈ w.flows[i]?,
    ∀ _ ∈ w.configEntries.asyncGetEntry flow.entryId, ∀ input ∈ flow.tests,
      alreadyConfigured w.configEntries flow.entryId input.host input.port = false := by
  constructor
  · intro h i hi flow hflow entry hentry input hinput
    unfold Event.succeeded at hi
    unfold Flow.tests at hinput
    split at hi <;> cases hi
    split at hinput <;> cases hinput
    next htesting => exact h _ _ flow entry _ rfl hflow hentry htesting
  · rintro h i v flow entry input rfl hflow hentry htesting
    refine h i rfl flow hflow entry hentry input ?_
    unfold Flow.tests
    rw [htesting]
    rfl

instance (e : Event) (w : World) : Decidable (StillFree e w) :=
  decidable_of_iff _ stillFree_iff.symm

lemma finish_configEntries (w : World) (i : ℕ) (flow : Flow) (entry : ConfigEntry)
    (input : UserInput) : (w.finish i flow entry input).configEntries =
      w.configEntries.asyncUpdateEntry
        (match input with
        | .connection input => reconfigured entry input
        | .password password => reauthenticated entry password) := by
  cases input <;> rfl

lemma separate_step_iff (hs : Separate w.configEntries) (h : w.step e = some w') :
    Separate w'.configEntries ↔ StillFree e w := by
  have hother : (∀ i v, e ≠ .tested i (.ok v)) → StillFree e w := fun hno i v _ _ _ he =>
    absurd he (hno i v)
  rcases World.step_cases h with ⟨source, entryId, rfl, rfl⟩ |
    ⟨i, input, flow, base, rfl, -, -, rfl⟩ | ⟨i, result, flow, base, rfl, -, hfailed, rfl⟩ |
    ⟨i, v, flow, entry, input, rfl, hflow, hentry, htesting, rfl⟩ | ⟨entryId, loaded, rfl, rfl⟩
  · exact iff_of_true hs (hother nofun)
  · exact iff_of_true hs (hother nofun)
  · refine iff_of_true hs (hother ?_)
    rintro _ v ⟨⟩
    exact hfailed v rfl
  · obtain ⟨hmem, hid⟩ := ConfigEntries.asyncGetEntry_eq_some.mp hentry
    rw [finish_configEntries]
    cases input with
    | connection input =>
      refine (separate_reconfigured_iff hs hmem input).trans ?_
      rw [hid]
      constructor
      · rintro hfree _ _ flow' entry' input' ⟨⟩ hflow' - htesting'
        obtain rfl := Option.some.inj (hflow.symm.trans hflow')
        rw [htesting] at htesting'
        cases htesting'
        exact hfree
      · intro hfree
        exact hfree i v flow entry input rfl hflow hentry htesting
    | password password =>
      refine iff_of_true (hs.reauthenticated hmem password) ?_
      rintro _ _ flow' entry' input' ⟨⟩ hflow' - htesting'
      obtain rfl := Option.some.inj (hflow.symm.trans hflow')
      rw [htesting] at htesting'
      cases htesting'
  · exact iff_of_true hs (hother nofun)

/-- **Addresses of their own.** Whatever flows run side by side, in any order of their steps, no two
entries come to share an address or a unique id exactly if no address was taken during the test
for it. -/
theorem separate_iff_stillFree (hs : Separate w.configEntries) (es : List Event) :
    (∀ before after w', es = before ++ after → Run World.step w before w' →
      Separate w'.configEntries) ↔ AtEach World.step w StillFree es := by
  constructor
  · intro h before e after v hes hrun i r flow entry input he hflow hentry htesting
    obtain rfl := he
    obtain ⟨v', hstep⟩ : ∃ v', v.step (.tested i (.ok r)) = some v' :=
      ⟨v.finish i flow entry (.connection input), by
        simp [World.step, hflow, hentry, htesting, asyncTestXmlConnection]⟩
    have hv := h before (.tested i (.ok r) :: after) v hes hrun
    have hv' := h (before ++ [.tested i (.ok r)]) after v' (by simp [hes]) (hrun.snoc hstep)
    exact (separate_step_iff hv hstep).mp hv' i r flow entry input rfl hflow hentry htesting
  · intro h before after w' hes hrun
    refine @Run.invariant_atEach _ _ World.step w w' StillFree
      (fun w => Separate w.configEntries) hs ?_ before hrun (AtEach.of_append (hes ▸ h))
    exact fun v e v' hfree hv hstep => (separate_step_iff hv hstep).mpr hfree

/-- An entry of version 2 at a host. -/
def entryAt (entryId host : String) : ConfigEntry where
  entryId := entryId
  version := 2
  minorVersion := 1
  uniqueId := some (uniqueIdOf host 4444)
  data := (Dict.single "host" (.text host)).set "port" (.int 4444)
  options := .empty
  host_isSome := by rw [Dict.get_set, if_neg (by decide)]; rfl

def twoEntries : ConfigEntries := ⟨[entryAt "a" "10.0.0.1", entryAt "b" "10.0.0.2"], by decide⟩

/-- Two loaded entries and these flows. -/
def twoLoaded (flows : List Flow) : World where
  configEntries := twoEntries
  title entryId := if entryId = "a" then "10.0.0.1" else "10.0.0.2"
  loaded _ := true
  flows := flows
  reloads := []

/-- The input both flows get. -/
def newAddress : ConnectionInput := ⟨"10.0.0.3", 4444, "admin", "secret", false, by decide⟩

lemma separate_twoEntries : Separate twoEntries where
  hostPort _ he _ he' := List.inj_on_of_nodup_map (by decide +kernel) he he'
  uniqueId _ he _ he' := List.inj_on_of_nodup_map (by decide +kernel) he he'

/-- Two flows for two entries, with an address each, in steps that alternate. -/
theorem separate_iff_stillFree_two :
    let other : ConnectionInput := ⟨"10.0.0.4", 4444, "admin", "secret", false, by decide⟩
    let events : List Event := [.init .reconfigure "a", .init .reconfigure "b",
      .submit 0 (.connection newAddress), .submit 1 (.connection other),
      .tested 0 (.ok "2000.1"), .tested 1 (.ok "2000.1")]
    (∃ w, Run World.step (twoLoaded []) events w ∧
      w.configEntries.entries.map ConfigEntry.uniqueId =
        [some "10.0.0.3:4444", some "10.0.0.4:4444"]) ∧
    ∀ before after w, events = before ++ after → Run World.step (twoLoaded []) before w →
      Separate w.configEntries := by
  intro other events
  have hreplay : (replay World.step (twoLoaded []) events).map (fun w =>
      w.configEntries.entries.map ConfigEntry.uniqueId) = some
        [some "10.0.0.3:4444", some "10.0.0.4:4444"] := by
    decide +kernel
  obtain ⟨w, hw, hids⟩ := Option.map_eq_some_iff.mp hreplay
  refine ⟨⟨w, run_of_replay hw, hids⟩, (separate_iff_stillFree separate_twoEntries _).mpr ?_⟩
  decide +kernel

/-- Two flows for two entries are submitted with one address before either test ends. -/
theorem separate_not_always :
    let events : List Event := [.init .reconfigure "a", .init .reconfigure "b",
      .submit 0 (.connection newAddress), .submit 1 (.connection newAddress),
      .tested 0 (.ok "2000.1"), .tested 1 (.ok "2000.1")]
    Separate (twoLoaded []).configEntries ∧ ∃ w, Run World.step (twoLoaded []) events w ∧
      w.configEntries.entries.map (fun e => (hostPort e, e.uniqueId)) =
        [((some (.text "10.0.0.3"), some (.int 4444)), some "10.0.0.3:4444"),
          ((some (.text "10.0.0.3"), some (.int 4444)), some "10.0.0.3:4444")] ∧
      ¬ Separate w.configEntries := by
  intro events
  refine ⟨separate_twoEntries, ?_⟩
  have hreplay : (replay World.step (twoLoaded []) events).map (fun w =>
      w.configEntries.entries.map fun e => (hostPort e, e.uniqueId)) = some
        [((some (.text "10.0.0.3"), some (.int 4444)), some "10.0.0.3:4444"),
          ((some (.text "10.0.0.3"), some (.int 4444)), some "10.0.0.3:4444")] := by
    decide +kernel
  obtain ⟨w, hw, hentries⟩ := Option.map_eq_some_iff.mp hreplay
  refine ⟨w, run_of_replay hw, hentries, fun hs => ?_⟩
  have hnodup : (w.configEntries.entries.map ConfigEntry.uniqueId).Nodup :=
    (List.Nodup.of_map _ w.configEntries.nodup).map_on hs.uniqueId
  have hids := congrArg (List.map Prod.snd) hentries
  rw [List.map_map] at hids
  rw [show w.configEntries.entries.map ConfigEntry.uniqueId = _ from hids] at hnodup
  exact absurd hnodup (by decide)

/-- No flow of another entry tests the address that is submitted. -/
def Alone (e : Event) (w : World) : Prop :=
  ∀ i input flow, e = .submit i (.connection input) → w.flows[i]? = some flow →
    ∀ f ∈ w.flows, f.entryId ≠ flow.entryId → ∀ input', f.status = .testing (.connection input') →
      uniqueIdOf input'.host input'.port ≠ uniqueIdOf input.host input.port

/-- The flows that test an address have it to themselves. -/
structure Reserved (w : World) : Prop where
  free : ∀ f ∈ w.flows, ∀ input, f.status = .testing (.connection input) →
    alreadyConfigured w.configEntries f.entryId input.host input.port = false
  apart : ∀ f ∈ w.flows, ∀ f' ∈ w.flows, ∀ input input', f.status = .testing (.connection input) →
    f'.status = .testing (.connection input') → f.entryId ≠ f'.entryId →
      uniqueIdOf input.host input.port ≠ uniqueIdOf input'.host input'.port

lemma Reserved.mono (hr : Reserved w) (hc : w'.configEntries = w.configEntries)
    (hf : ∀ f ∈ w'.flows, ∀ input, f.status = .testing (.connection input) → f ∈ w.flows) :
    Reserved w' where
  free f hmem input hst := by
    rw [hc]
    exact hr.free f (hf f hmem input hst) input hst
  apart f hmem f' hmem' input input' hst hst' :=
    hr.apart f (hf f hmem input hst) f' (hf f' hmem' input' hst') input input' hst hst'

lemma Reserved.setStatus (hr : Reserved w) (i : ℕ) (flow : Flow) {status : FlowStatus}
    (hst : ∀ input, status ≠ .testing (.connection input)) :
    Reserved (w.setStatus i flow status) := by
  refine hr.mono rfl fun f hf input htesting => ?_
  rcases List.mem_or_eq_of_mem_set hf with hf | rfl
  · exact hf
  · exact absurd htesting (hst input)

/-- A flow whose check passes has the address to itself, if no other one tests it. -/
lemma Reserved.submit (hr : Reserved w) {i : ℕ} {flow : Flow} {input : ConnectionInput}
    (hflow : w.flows[i]? = some flow) (halone : Alone (.submit i (.connection input)) w)
    (hfree : alreadyConfigured w.configEntries flow.entryId input.host input.port = false) :
    Reserved (w.setStatus i flow (.testing (.connection input))) := by
  have hothers := halone i input flow rfl hflow
  constructor
  · intro f hf new hst
    rcases List.mem_or_eq_of_mem_set hf with hf | rfl
    · exact hr.free f hf new hst
    · cases hst
      exact hfree
  · intro f hf f' hf' new new' hst hst' hne
    rcases List.mem_or_eq_of_mem_set hf with hf | rfl <;>
      rcases List.mem_or_eq_of_mem_set hf' with hf' | rfl
    · exact hr.apart f hf f' hf' new new' hst hst' hne
    · cases hst'
      exact hothers f hf hne new hst
    · cases hst
      exact (hothers f' hf' hne.symm new' hst').symm
    · exact absurd rfl hne

lemma alreadyConfigured_asyncUpdateEntry {c : ConfigEntries} {x new : ConfigEntry}
    {entryId host : String} {port : ℤ} (hx : x ∈ c.entries) (hid : new.entryId = x.entryId)
    (hfree : alreadyConfigured c entryId host port = false)
    (hnew : new.entryId ≠ entryId → hostPort new ≠ (some (.text host), some (.int port)) ∧
      new.uniqueId ≠ some (uniqueIdOf host port)) :
    alreadyConfigured (c.asyncUpdateEntry new) entryId host port = false := by
  rw [alreadyConfigured_eq_false_iff] at hfree ⊢
  intro y hy hne
  rcases (ConfigEntries.mem_asyncUpdateEntry hx hid).mp hy with rfl | ⟨hy, -⟩
  · exact hnew hne
  · exact hfree y hy hne

lemma Reserved.finish (hr : Reserved w) {i : ℕ} {flow : Flow} {entry : ConfigEntry}
    {input : UserInput} (hflow : w.flows[i]? = some flow)
    (hentry : w.configEntries.asyncGetEntry flow.entryId = some entry)
    (htesting : flow.status = .testing input) : Reserved (w.finish i flow entry input) := by
  obtain ⟨hmem, hid⟩ := ConfigEntries.asyncGetEntry_eq_some.mp hentry
  have hold : ∀ f ∈ (w.finish i flow entry input).flows, ∀ new,
      f.status = .testing (.connection new) → f ∈ w.flows := by
    intro f hf new hst
    cases input <;>
    · rcases List.mem_or_eq_of_mem_set hf with hf | rfl
      · exact hf
      · cases hst
  constructor
  · intro f hf new hst
    have hfw := hold f hf new hst
    have hfree := hr.free f hfw new hst
    rw [finish_configEntries]
    cases input with
    | connection input =>
      refine alreadyConfigured_asyncUpdateEntry hmem rfl hfree fun hne => ?_
      have huid := hr.apart flow (List.mem_of_getElem? hflow) f hfw input new htesting hst
        (fun heq => hne (hid.trans heq))
      rw [hostPort_reconfigured]
      refine ⟨fun heq => huid ?_, fun heq => huid (Option.some.inj heq)⟩
      simp only [Prod.mk.injEq, Option.some.injEq, OptionValue.text.injEq,
        OptionValue.int.injEq] at heq
      rw [heq.1, heq.2]
    | password password =>
      refine alreadyConfigured_asyncUpdateEntry hmem rfl hfree fun hne => ?_
      rw [hostPort_reauthenticated]
      exact alreadyConfigured_eq_false_iff.mp hfree entry hmem hne
  · intro f hf f' hf' new new' hst hst'
    exact hr.apart f (hold f hf new hst) f' (hold f' hf' new' hst') new new' hst hst'

lemma Reserved.step (hr : Reserved w) (halone : Alone e w) (h : w.step e = some w') :
    Reserved w' := by
  rcases World.step_cases h with ⟨source, entryId, rfl, rfl⟩ |
    ⟨i, input, flow, base, rfl, hflow, -, rfl⟩ | ⟨i, result, flow, base, rfl, -, -, rfl⟩ |
    ⟨i, v, flow, entry, input, rfl, hflow, hentry, htesting, rfl⟩ | ⟨entryId, loaded, rfl, rfl⟩
  · refine hr.mono rfl fun f hf input hst => ?_
    rcases List.mem_append.mp hf with hf | hf
    · exact hf
    · obtain rfl := List.mem_singleton.mp hf
      cases hst
  · cases input with
    | connection new =>
      unfold World.submit
      dsimp only
      split
      · exact hr.setStatus i flow nofun
      · next hfree => exact hr.submit hflow halone (by simpa using hfree)
    | password password => exact hr.setStatus i flow nofun
  · exact hr.setStatus i flow nofun
  · exact hr.finish hflow hentry htesting
  · exact hr.mono rfl fun f hf _ _ => hf

lemma Reserved.stillFree (hr : Reserved w) : StillFree e w := by
  intro i v flow entry input _ hflow _ htesting
  exact hr.free flow (List.mem_of_getElem? hflow) input htesting

/-- The check is enough where no two entries are moved to one address at the same time. -/
theorem separate_of_alone (hs : Separate w.configEntries) (hnone : w.flows = [])
    (h : Run World.step w es w') (halone : AtEach World.step w Alone es) :
    Separate w'.configEntries := by
  have hreserved : Reserved w := by
    constructor <;> simp [hnone]
  refine (@Run.invariant_atEach _ _ World.step w w' Alone
    (fun w => Separate w.configEntries ∧ Reserved w) ⟨hs, hreserved⟩ ?_ es h halone).1
  rintro v e v' hv ⟨hsv, hrv⟩ hstep
  exact ⟨(separate_step_iff hsv hstep).mpr hrv.stillFree, hrv.step hv hstep⟩

end Runs

end SophosFw.ConfigFlow
