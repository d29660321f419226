import SophosFw.Client
import SophosFw.Diagnostics

/-!
Sensors with a fixed list of states.

Home Assistant takes no other state from them. What the firewall reports beyond the lists is shown
as unknown, and written to the log so that it can be added to them: once for all sensors with the
same key, however often they are read and of whatever entry they are.
-/

namespace SophosFw.SensorStates

open SophosFw.PyDict SophosFw.PyText SophosFw.Records SophosFw.Diagnostics

/-- `_unknown_logged`, in the order of the warnings. -/
abbrev Logged := List (String × String)

/-- `_enum_state`. -/
def enumState (key : String) (value : Option String) (options : List String) (logged : Logged) :
    Option String × Logged :=
  match value with
  | none => (none, logged)
  | some value =>
    let state := lower (strip value)
    if state ∈ options then (some state, logged)
    else if (key, value) ∈ logged then (none, logged)
    else (none, logged ++ [(key, value)])

/-- `_code_state`. -/
def codeState (key : String) (code : Option ℤ) (states : List String) (logged : Logged) :
    Option String × Logged :=
  match code with
  | none => (none, logged)
  | some code =>
    if 0 ≤ code ∧ code < states.length then (states[code.toNat]?, logged)
    else enumState key (some (toString code)) [] logged

def webFilterActions : List String := ["allow", "deny"]

def backupFrequencies : List String := ["never", "daily", "weekly", "monthly"]

def serviceStates : List String :=
  ["untouched", "stopped", "initializing", "running", "exiting", "dead", "frozen", "unregistered"]

def licenseStates : List String :=
  ["none", "evaluating", "not_subscribed", "subscribed", "expired", "deactivated"]

/-- `_HA_STATE_MAP`. -/
def haStateMap : List (ℤ × String) :=
  [(0, "not_applicable"), (1, "auxiliary"), (2, "standalone"), (3, "primary"), (4, "faulty"),
   (5, "ready")]

/-- The data of both coordinators that these sensors read. -/
structure Snapshot where
  xml : XmlData
  services : Option (Dict String (Option ℤ))
  licenses : Option (Dict String License)
  ha : Option HaStatus

/-- The policy whose action is shown: the first one named after the default, or else the first. -/
def defaultPolicy (data : XmlData) : Option WebFilterPolicy :=
  let policies := (data.webFilterPolicies.map Dict.values).getD []
  (policies.find? fun p => Client.contains "default" (lower p.name)).or policies.head?

/-- `_default_web_filter_action`. -/
def defaultWebFilterAction (data : XmlData) (logged : Logged) : Option String × Logged :=
  match defaultPolicy data with
  | none => (none, logged)
  | some policy =>
    enumState "web_filter_default_action" policy.defaultAction webFilterActions logged

/-- `_backup_frequency`. -/
def backupFrequency (data : XmlData) (logged : Logged) : Option String × Logged :=
  enumState "backup_frequency" (data.backup.bind BackupSettings.frequency) backupFrequencies logged

/-- The sensors of device class `ENUM`. -/
inductive EnumSensor
  | webFilterDefaultAction
  | backupFrequency
  | dhcpLeases (server : String)
  | haState
  | haPeerState
  | service (key : String)
  | license (key : String)

namespace EnumSensor

/-- `options`. -/
def options : EnumSensor → List String
  | webFilterDefaultAction => webFilterActions
  | backupFrequency => backupFrequencies
  | dhcpLeases _ => ["off", "on"]
  | haState | haPeerState => haStateMap.map Prod.snd
  | service _ => serviceStates
  | license _ => licenseStates

/-- `native_value`. -/
def nativeValue : EnumSensor → Snapshot → Logged → Option String × Logged
  | webFilterDefaultAction, d, logged => defaultWebFilterAction d.xml logged
  | backupFrequency, d, logged => SensorStates.backupFrequency d.xml logged
  | dhcpLeases server, d, logged =>
    (((d.xml.dhcpServers.bind fun t => t.get server).bind DhcpServer.running).map
      fun running => if running then "on" else "off", logged)
  | haState, d, logged =>
    ((d.ha.bind HaStatus.currentState).bind fun code => haStateMap.lookup code, logged)
  | haPeerState, d, logged =>
    ((d.ha.bind HaStatus.peerState).bind fun code => haStateMap.lookup code, logged)
  | service key, d, logged =>
    codeState ("service " ++ key) ((d.services.bind fun t => t.get key).join) serviceStates logged
  | license key, d, logged =>
    match d.licenses.bind fun t => t.get key with
    | none => (none, logged)
    | some lic => codeState ("license " ++ key) lic.statusCode licenseStates logged

end EnumSensor

/-- One sensor after another is read: what they show, and what was logged. -/
def readAll (reads : List (EnumSensor × Snapshot)) : List (Option String) × Logged :=
  reads.foldl (fun y r =>
    let z := r.1.nativeValue r.2 y.2
    (y.1 ++ [z.1], z.2)) ([], [])

/-! ### What the firewall reports -/

/-- A text, or the number of a state. -/
inductive Report
  | text (value : String)
  | code (number : ℤ)

namespace Report

/-- The state that is meant: by its name up to case and blanks, or by its number. -/
def meaning (options : List String) : Report → Option String
  | text value => options.find? fun o => o = lower (strip value)
  | code number => if 0 ≤ number then options[number.toNat]? else none

/-- As it is written to the log. -/
def written : Report → String
  | text value => value
  | code number => toString number

/-- What is logged of a report that means none of the states. -/
def unknown (key : String) (options : List String) (r : Report) : Option (String × String) :=
  if r.meaning options = none then some (key, r.written) else none

end Report

namespace EnumSensor

/-- What the firewall reports for a sensor. -/
def report : EnumSensor → Snapshot → Option Report
  | webFilterDefaultAction, d =>
    ((defaultPolicy d.xml).bind WebFilterPolicy.defaultAction).map .text
  | backupFrequency, d => (d.xml.backup.bind BackupSettings.frequency).map .text
  | dhcpLeases server, d =>
    ((d.xml.dhcpServers.bind fun t => t.get server).bind DhcpServer.running).map
      fun running => .code (if running then 1 else 0)
  | haState, d => (d.ha.bind HaStatus.currentState).map .code
  | haPeerState, d => (d.ha.bind HaStatus.peerState).map .code
  | service key, d => ((d.services.bind fun t => t.get key).join).map .code
  | license key, d => ((d.licenses.bind fun t => t.get key).bind License.statusCode).map .code

/-- The key under which unknown reports are logged, if they are. -/
def logKey : EnumSensor → Option String
  | webFilterDefaultAction => some "web_filter_default_action"
  | backupFrequency => some "backup_frequency"
  | dhcpLeases _ | haState | haPeerState => none
  | service key => some ("service " ++ key)
  | license key => some ("license " ++ key)

def shown (s : EnumSensor) (d : Snapshot) : Option String :=
  (s.report d).bind fun r => r.meaning s.options

def unknown (s : EnumSensor) (d : Snapshot) : Option (String × String) :=
  s.logKey.bind fun key => (s.report d).bind fun r => r.unknown key s.options

end EnumSensor

/-- Something is logged unless it has been. -/
def note (entry : Option (String × String)) (logged : Logged) : Logged :=
  match entry with
  | none => logged
  | some entry => if entry ∈ logged then logged else logged ++ [entry]

lemma note_eraseDups (entry : String × String) (l : Logged) :
    note (some entry) l.eraseDups = (l ++ [entry]).eraseDups := by
  rw [List.eraseDups_append]
  by_cases h : entry ∈ l <;> simp [note, List.removeAll, h, List.eraseDups_cons]

lemma mem_of_meaning {options : List String} {r : Report} {state : String}
    (h : r.meaning options = some state) : state ∈ options := by
  cases r with
  | text value => exact List.mem_of_find?_eq_some h
  | code number =>
    obtain ⟨-, hget⟩ := Option.ite_none_right_eq_some.mp h
    exact List.mem_of_getElem? hget

lemma enumState_eq (key : String) (value : Option String) (options : List String)
    (logged : Logged) :
    enumState key value options logged =
      ((value.map Report.text).bind fun r => r.meaning options,
        note ((value.map Report.text).bind fun r => r.unknown key options) logged) := by
  rcases value with _ | value
  · rfl
  simp only [enumState, Option.map_some, Option.bind_some, Report.meaning, Report.unknown,
    Report.written]
  by_cases hin : lower (strip value) ∈ options
  · have hfind : options.find? (fun o => o = lower (strip value)) = some (lower (strip value)) := by
      have hsome : (options.find? fun o => o = lower (strip value)).isSome :=
        List.find?_isSome.mpr ⟨_, hin, by simp⟩
      obtain ⟨o, ho⟩ := Option.isSome_iff_exists.mp hsome
      have heq : o = lower (strip value) := by simpa using List.find?_some ho
      rw [ho, heq]
    simp [hin, hfind, note]
  · have hfind : options.find? (fun o => o = lower (strip value)) = none := by
      simpa using fun o ho (h : o = lower (strip value)) => hin (h ▸ ho)
    simp only [hin, hfind, note, if_false, if_true]
    split <;> rfl

lemma codeState_eq (key : String) (code : Option ℤ) (states : List String) (logged : Logged) :
    codeState key code states logged =
      ((code.map Report.code).bind fun r => r.meaning states,
        note ((code.map Report.code).bind fun r => r.unknown key states) logged) := by
  rcases code with _ | code
  · rfl
  simp only [codeState, Option.map_some, Option.bind_some]
  split
  · next hin =>
    have hlt : code.toNat < states.length := by omega
    have hmeaning : (Report.code code).meaning states = states[code.toNat]? := if_pos hin.1
    have hknown : (Report.code code).unknown key states = none := by
      rw [Report.unknown, hmeaning, List.getElem?_eq_getElem hlt, if_neg (by simp)]
    rw [hmeaning, hknown]
    rfl
  · next hout =>
    have hmeaning : (Report.code code).meaning states = none := by
      unfold Report.meaning
      dsimp only
      split
      · next hpos => exact List.getElem?_eq_none (by omega)
      · rfl
    rw [enumState_eq, hmeaning, Report.unknown, if_pos hmeaning]
    rfl

lemma lookup_haStateMap (code : ℤ) :
    haStateMap.lookup code = (Report.code code).meaning (haStateMap.map Prod.snd) := by
  match code with
  | 0 | 1 | 2 | 3 | 4 | 5 => rfl
  | .ofNat (n + 6) => rfl
  | .negSucc n => rfl

lemma nativeValue_eq (s : EnumSensor) (d : Snapshot) (logged : Logged) :
    s.nativeValue d logged = (s.shown d, note (s.unknown d) logged) := by
  cases s with
  | webFilterDefaultAction =>
    simp only [EnumSensor.nativeValue, defaultWebFilterAction, EnumSensor.shown,
      EnumSensor.unknown, EnumSensor.report]
    rcases defaultPolicy d.xml with _ | policy
    · rfl
    · exact enumState_eq _ _ _ _
  | backupFrequency => exact enumState_eq _ _ _ _
  | dhcpLeases server =>
    simp only [EnumSensor.nativeValue, EnumSensor.shown, EnumSensor.unknown, EnumSensor.report]
    rcases (d.xml.dhcpServers.bind fun t => t.get server).bind DhcpServer.running with
      _ | _ | _ <;> rfl
  | haState | haPeerState =>
    simp only [EnumSensor.nativeValue, lookup_haStateMap, EnumSensor.shown, EnumSensor.unknown,
      EnumSensor.report, Option.bind_map]
    rfl
  | service key => exact codeState_eq _ _ _ _
  | license key =>
    simp only [EnumSensor.nativeValue, EnumSensor.shown, EnumSensor.unknown, EnumSensor.report]
    rcases d.licenses.bind fun t => t.get key with _ | lic
    · rfl
    · exact codeState_eq _ _ _ _

lemma readAll_snoc (reads : List (EnumSensor × Snapshot)) (r : EnumSensor × Snapshot) :
    readAll (reads ++ [r]) =
      ((readAll reads).1 ++ [r.1.shown r.2], note (r.1.unknown r.2) (readAll reads).2) := by
  rw [readAll, List.foldl_append, List.foldl_cons, List.foldl_nil, nativeValue_eq]
  rfl

/-- **What the sensors show and what is logged.** Whatever the firewall reports, however often and
in whatever order the sensors of any entries are read: each shows the state that the report means,
by its name up to case and blanks or by its number, and otherwise none, so never a state that is
not among its options. The warnings are the unknown reports of the sensors that log them, each
once, in the order in which they were first read. -/
theorem states_and_warnings (reads : List (EnumSensor × Snapshot)) :
    readAll reads = (reads.map fun r => r.1.shown r.2,
      (reads.filterMap fun r => r.1.unknown r.2).eraseDups) ∧
    ∀ r ∈ reads, ∀ state, r.1.shown r.2 = some state → state ∈ r.1.options := by
  constructor
  · induction reads using List.reverseRecOn with
    | nil => rfl
    | append_singleton reads r ih =>
      rw [readAll_snoc, ih, List.map_append, List.filterMap_append]
      refine Prod.ext rfl ?_
      rcases hu : r.1.unknown r.2 with _ | entry
      · simp [hu, note]
      · have hone : [r].filterMap (fun r => r.1.unknown r.2) = [entry] := by simp [hu]
        rw [hone]
        exact note_eraseDups entry _
  · rintro ⟨s, d⟩ - state hstate
    obtain ⟨report, -, hmeaning⟩ := Option.bind_eq_some_iff.mp hstate
    exact mem_of_meaning hmeaning

example : enumState "backup_frequency" (some " Daily") backupFrequencies [] = (some "daily", []) ∧
    enumState "backup_frequency" (some "Yearly") backupFrequencies [] =
      (none, [("backup_frequency", "Yearly")]) := by decide +kernel

end SophosFw.SensorStates
