import SophosFw.SnmpIssue

/-!
The repair issues over the life of the config entries: setups, cycles, reloads, entries that are
disabled, enabled and removed.

An issue is there as long as its cause is. What raises and clears it are single cycles and moments
of an entry's life; what is shown at any time is told here from all that happened to the entry.
-/

namespace SophosFw.Issues

open SophosFw.PyDict SophosFw.Coordinator SophosFw.Sources SophosFw.Runs

def ISSUE_API_ACCESS_DENIED : String := "api_access_denied"

def ISSUES : List String := [ISSUE_API_ACCESS_DENIED, issueSnmpUnreachable]

inductive Severity
  | error | warning
  deriving DecidableEq, Repr

structure Issue where
  severity : Severity
  translationKey : String
  placeholders : Dict String String

abbrev IssueRegistry := String → Option Issue

structure Entry where
  title : String
  config : ConfigEntry

def issueId (kind entryId : String) : String := kind ++ "_" ++ entryId

def asyncRaiseIssue (reg : IssueRegistry) (entry : Entry) (entryId kind : String)
    (placeholders : List (String × String)) : IssueRegistry :=
  Function.update reg (issueId kind entryId) (some
    { severity := if kind = issueSnmpUnreachable then .warning else .error
      translationKey := kind
      placeholders := placeholders.foldl (fun d p => d.set p.1 p.2)
        ((Dict.empty.set "title" entry.title).set "host" entry.config.host) })

def asyncClearIssue (reg : IssueRegistry) (entryId kind : String) : IssueRegistry :=
  Function.update reg (issueId kind entryId) none

def asyncClearAllIssues (reg : IssueRegistry) (entryId : String) : IssueRegistry :=
  ISSUES.foldl (fun reg kind => asyncClearIssue reg entryId kind) reg

/-- What a cycle does to the registry, in order. -/
def applyIssues (entry : Entry) (entryId : String) (reg : IssueRegistry) :
    List IssueAction → IssueRegistry
  | [] => reg
  | .raise kind placeholders :: rest =>
    applyIssues entry entryId (asyncRaiseIssue reg entry entryId kind placeholders) rest
  | .clear kind :: rest => applyIssues entry entryId (asyncClearIssue reg entryId kind) rest

/-- No two entries share an issue, and no entry's two issues are one. -/
lemma issueId_inj {kind kind' i j : String} (hk : kind ∈ ISSUES) (hk' : kind' ∈ ISSUES)
    (h : issueId kind i = issueId kind' j) : kind = kind' ∧ i = j := by
  simp only [ISSUES, ISSUE_API_ACCESS_DENIED, issueSnmpUnreachable, List.mem_cons,
    List.not_mem_nil, or_false] at hk hk'
  have hl := congrArg String.toList h
  rcases hk with rfl | rfl <;> rcases hk' with rfl | rfl
  · exact ⟨rfl, String.toList_inj.mp (by simpa [issueId] using hl)⟩
  · simp [issueId] at hl
  · simp [issueId] at hl
  · exact ⟨rfl, String.toList_inj.mp (by simpa [issueId] using hl)⟩

section World

variable {V : Type}

/-- What happens to an entry, as far as its issues are concerned. -/
inductive Incident (V : Type)
  | xmlCycle (result : Except CycleError (Updates V × Failures))
  | snmpCycle (issues : List IssueAction)
  | withoutSnmp
  | disabled
  | removed

/-- The coordinators of a setup, for the entry as it was then. -/
structure Setup (V : Type) where
  entry : Entry
  xml : Sys (xmlCoordinator V entry.config)
  snmp : Option (Guarded V entry.config)

/-- The registry, and of each entry its present setup. -/
structure World (V : Type) where
  registry : IssueRegistry
  setups : String → Option (Setup V)
  disabled : String → Bool
  /-- `_WATCHED` -/
  watched : String → Bool
  /-- What happened to each entry, the latest first. -/
  log : String → List (Incident V)

inductive Life (V : Type)
  /-- `async_setup_entry`, up to the first refresh. -/
  | setup (i : String) (entry : Entry) (clock : ℚ)
  | xml (i : String) (e : Event V)
  /-- The setup goes on without SNMP: switched off, or not usable. -/
  | withoutSnmp (i : String)
  | withSnmp (i : String) (clock : ℚ)
  | snmp (i : String) (e : Event (SnmpValue V))
  /-- The setup failed, or the entry is unloaded. -/
  | unload (i : String)
  /-- Home Assistant unloads the entry and tells its state callbacks. -/
  | disable (i : String)
  | enable (i : String)
  | remove (i : String)

namespace World

def init (V : Type) : World V where
  registry := fun _ => none
  setups := fun _ => none
  disabled := fun _ => false
  watched := fun _ => false
  log := fun _ => []

def note (w : World V) (i : String) (incident : Incident V) : World V :=
  { w with log := Function.update w.log i (incident :: w.log i) }

def put (w : World V) (i : String) (setup : Option (Setup V)) : World V :=
  { w with setups := Function.update w.setups i setup }

/-- An ended cycle of the XML coordinator. -/
def endXml (w : World V) (i : String) (entry : Entry) (x : Cycle V (Updates V × Failures)) :
    World V :=
  ({ w with registry := applyIssues entry i w.registry x.issues }).note i (.xmlCycle x.result)

def step (w : World V) : Life V → Option (World V)
  | .setup i entry clock =>
    if w.disabled i then none
    else some
      { w.put i (some ⟨entry, .init _ clock, none⟩) with
        watched := Function.update w.watched i true }
  | .xml i e =>
    match w.setups i with
    | none => none
    | some s => (s.xml.step e).map fun y =>
      let w' := w.put i (some { s with xml := y })
      match e, s.xml.running with
      | .finish attempt, some plan =>
        w'.endXml i s.entry ((xmlCoordinator V s.entry.config).collect plan attempt)
      | _, _ => w'
  | .withoutSnmp i =>
    if (w.setups i).isNone then none
    else some
      ({ w with registry := asyncClearIssue w.registry i issueSnmpUnreachable }.note i
        .withoutSnmp)
  | .withSnmp i clock =>
    match w.setups i with
    | none => none
    | some s => some (w.put i (some { s with snmp := some (.init V _ clock) }))
  | .snmp i e =>
    match w.setups i with
    | none => none
    | some s =>
      match s.snmp with
      | none => none
      | some g => (g.step e).map fun g' =>
        let issues := (g'.log.drop g.log.length).flatMap SnmpCycle.issues
        { w.put i (some { s with snmp := some g' }) with
          registry := applyIssues s.entry i w.registry issues }.note i (.snmpCycle issues)
  | .unload i => some (w.put i none)
  | .disable i =>
    let w' := { w.put i none with disabled := Function.update w.disabled i true }
    if w.watched i then
      some ({ w' with registry := asyncClearAllIssues w.registry i }.note i .disabled)
    else some w'
  | .enable i => some { w with disabled := Function.update w.disabled i false }
  | .remove i => some
    ({ w.put i none with
      registry := asyncClearAllIssues w.registry i
      watched := Function.update w.watched i false }.note i .removed)

end World

/-! ### What is shown -/

/-- Whether a cycle tells if the access is denied: it says so, or it fetched something. -/
def tells : Except CycleError (Updates V × Failures) → Option Bool
  | .error (.updateFailed key _) => if key = ISSUE_API_ACCESS_DENIED then some true else none
  | .error _ => none
  | .ok (updates, _) => if updates.isEmpty then none else some false

/-- The access was denied when it was last told. -/
def denied : List (Incident V) → Bool
  | [] => false
  | .xmlCycle result :: log => (tells result).getD (denied log)
  | .disabled :: _ | .removed :: _ => false
  | .snmpCycle _ :: log | .withoutSnmp :: log => denied log

/-- The agent never answered, when that was last told. -/
def silent : List (Incident V) → Bool
  | [] => false
  | .snmpCycle issues :: log =>
    if .clear issueSnmpUnreachable ∈ issues then false
    else if .raise issueSnmpUnreachable [] ∈ issues then true
    else silent log
  | .withoutSnmp :: _ | .disabled :: _ | .removed :: _ => false
  | .xmlCycle _ :: log => silent log

/-- The issue actions of a cycle are what its result tells. -/
def Tells (x : Cycle V (Updates V × Failures)) : Prop :=
  match tells x.result with
  | none => x.issues = []
  | some true => ∃ placeholders, x.issues = [.raise ISSUE_API_ACCESS_DENIED placeholders]
  | some false => x.issues = [.clear ISSUE_API_ACCESS_DENIED]

/-- It tells nothing yet: it touches no issue, and what it raises is no denied access. -/
def Quiet {α : Type} (x : Cycle V α) : Prop :=
  x.issues = [] ∧ ∀ e, x.result = .error e →
    tells (.error e : Except CycleError (Updates V × Failures)) = none

lemma Quiet.bind {α β : Type} {x : Cycle V α} {f : α → Cycle V β} (hx : Quiet x)
    (hf : ∀ a, Quiet (f a)) : Quiet (x >>= f) := by
  obtain ⟨hissues, herror⟩ := hx
  rcases hr : x.result with e | a
  · refine ⟨by simpa [Bind.bind, hr] using hissues, fun e' he' => herror e' ?_⟩
    simpa [Bind.bind, hr] using he'
  · obtain ⟨hissues', herror'⟩ := hf a
    refine ⟨by simp [Bind.bind, hr, hissues, hissues'], fun e' he' => herror' e' ?_⟩
    simpa [Bind.bind, hr] using he'

lemma Quiet.tells_bind {α : Type} {x : Cycle V α} {f : α → Cycle V (Updates V × Failures)}
    (hx : Quiet x) (hf : ∀ a, Tells (f a)) : Tells (x >>= f) := by
  obtain ⟨hissues, herror⟩ := hx
  rcases hr : x.result with e | a
  · have hresult : (x >>= f).result = .error e := by simp only [Bind.bind, hr]
    rw [Tells, hresult, herror e hr]
    simpa only [Bind.bind, hr] using hissues
  · have hresult : (x >>= f).result = (f a).result := by simp only [Bind.bind, hr]
    have hall : (x >>= f).issues = (f a).issues := by
      simp only [Bind.bind, hr, hissues, List.nil_append]
    rw [Tells, hresult, hall]
    exact hf a

lemma quiet_fetch (attempt : String → Result V) (endpoints : List Endpoint) :
    Quiet (fetch attempt endpoints) := by
  refine ⟨rfl, ?_⟩
  have sorted (l : List (String × Result V)) (updates : Updates V) (failures : Failures)
      (e : CycleError) (h : sortResults l updates failures = .error e) : e = .baseException := by
    induction l generalizing updates failures with
    | nil => cases h
    | cons p l ih =>
      obtain ⟨key, v | x | _⟩ := p
      · exact ih _ _ h
      · exact ih _ _ h
      · cases h
        rfl
  intro e h
  rw [sorted _ _ _ e h]
  rfl

lemma quiet_retryAuth (endpoints : List Endpoint) (retry : String → Result V)
    (updates : Updates V) (failures : Failures) :
    Quiet (retryAuth endpoints retry updates failures) := by
  unfold retryAuth
  split
  · exact ⟨rfl, nofun⟩
  · refine (quiet_fetch _ _).bind fun more => ?_
    dsimp only
    split
    · refine ⟨rfl, fun e he => ?_⟩
      cases he
      rfl
    · exact ⟨rfl, nofun⟩

lemma tells_checkAccess (entry : ConfigEntry) (updates : Updates V) (failures : Failures) :
    Tells (checkAccess entry updates failures) := by
  unfold checkAccess
  split
  · exact ⟨_, rfl⟩
  · split
    · next h =>
      simp [Tells, tells, h, pure]
    · next h =>
      simp [Tells, tells, h, Bind.bind, Cycle.issue, pure, ISSUE_API_ACCESS_DENIED]

lemma tells_batch (entry : ConfigEntry) (first retry : String → Result V)
    (endpoints : List Endpoint) : Tells ((xmlCoordinator V entry).batch first retry endpoints) :=
  (quiet_fetch first endpoints).tells_bind fun fetched =>
    (quiet_retryAuth xmlEndpoints retry fetched.1 fetched.2).tells_bind fun x =>
      tells_checkAccess entry x.1 x.2

lemma tells_collect (entry : ConfigEntry) (plan : Plan (xmlCoordinator V entry))
    (attempt : ℕ → String → Result V) :
    Tells ((xmlCoordinator V entry).collect plan attempt) := by
  have hfirst := tells_batch entry (attempt 0) (attempt 1) plan.due
  have hlater := tells_batch entry (attempt 2) (attempt 3) plan.later
  unfold SophosCoordinator.collect
  generalize (xmlCoordinator V entry).batch (attempt 0) (attempt 1) plan.due = x at hfirst ⊢
  generalize (xmlCoordinator V entry).batch (attempt 2) (attempt 3) plan.later = y at hlater ⊢
  rcases x with ⟨e | ⟨updates, failures⟩, attempts, issues⟩
  · exact hfirst
  · simp only [Bind.bind]
    by_cases hmore : plan.later ≠ [] ∧ updates.isEmpty = true ∧
        ¬ failures.values.all (xmlCoordinator V entry).connectionErrors = true
    · -- the first batch brought nothing, so the second one tells
      obtain rfl : issues = [] := by simpa [Tells, tells, hmore.2.1] using hfirst
      rw [if_pos hmore]
      rcases y with ⟨e | ⟨more, failures'⟩, attempts', issues'⟩
      · exact hlater
      · have hsame : (updates.update more).isEmpty = more.isEmpty := by
          rw [Bool.eq_iff_iff, Dict.isEmpty_iff, Dict.isEmpty_iff]
          have hnone := updates.isEmpty_iff.mp hmore.2.1
          simp [Dict.get_update, hnone]
        simpa [Tells, tells, hsame, pure] using hlater
    · rw [if_neg hmore]
      simpa [Tells, tells, pure] using hfirst

lemma snmp_issues {entry : ConfigEntry} {g g' : Guarded V entry} {e : Event (SnmpValue V)}
    (h : g.step e = some g') :
    (g'.log.drop g.log.length).flatMap SnmpCycle.issues = [] ∨
    (g'.log.drop g.log.length).flatMap SnmpCycle.issues = [.raise issueSnmpUnreachable []] ∨
    (g'.log.drop g.log.length).flatMap SnmpCycle.issues = [.clear issueSnmpUnreachable] := by
  obtain ⟨y, -, rfl⟩ := Option.map_eq_some_iff.mp h
  split
  · left
    simp
  · simp only [Guarded.conclude, List.drop_left, List.flatMap_singleton]
    unfold Watch.update
    split
    · split
      · exact Or.inl rfl
      · dsimp only
        split
        · exact Or.inr (Or.inl rfl)
        · exact Or.inl rfl
    · exact Or.inl rfl
    · split
      · exact Or.inr (Or.inr rfl)
      · exact Or.inl rfl

section Registry

variable {reg : IssueRegistry} {kind kind' i j : String}

/-- The issue is shown. -/
def Shown (reg : IssueRegistry) (kind i : String) : Prop := (reg (issueId kind i)).isSome = true

lemma api_mem : ISSUE_API_ACCESS_DENIED ∈ ISSUES := by simp [ISSUES]

lemma snmp_mem : issueSnmpUnreachable ∈ ISSUES := by simp [ISSUES]

lemma api_ne_snmp : ISSUE_API_ACCESS_DENIED ≠ issueSnmpUnreachable := by decide

lemma shown_raise (entry : Entry) (placeholders : List (String × String)) (hk : kind ∈ ISSUES)
    (hk' : kind' ∈ ISSUES) : Shown (asyncRaiseIssue reg entry i kind placeholders) kind' j ↔
      (kind' = kind ∧ j = i) ∨ Shown reg kind' j := by
  unfold Shown asyncRaiseIssue
  by_cases h : issueId kind' j = issueId kind i
  · simp [issueId_inj hk' hk h]
  · have hne : ¬ (kind' = kind ∧ j = i) := fun ⟨hkind, hij⟩ => h (by rw [hkind, hij])
    simp [Function.update_of_ne h, hne]

lemma shown_clear (hk : kind ∈ ISSUES) (hk' : kind' ∈ ISSUES) :
    Shown (asyncClearIssue reg i kind) kind' j ↔ ¬ (kind' = kind ∧ j = i) ∧ Shown reg kind' j := by
  unfold Shown asyncClearIssue
  by_cases h : issueId kind' j = issueId kind i
  · simp [issueId_inj hk' hk h]
  · have hne : ¬ (kind' = kind ∧ j = i) := fun ⟨hkind, hij⟩ => h (by rw [hkind, hij])
    simp [Function.update_of_ne h, hne]

lemma shown_clearAll (hk' : kind' ∈ ISSUES) :
    Shown (asyncClearAllIssues reg i) kind' j ↔ j ≠ i ∧ Shown reg kind' j := by
  have hcases : kind' = ISSUE_API_ACCESS_DENIED ∨ kind' = issueSnmpUnreachable := by
    simpa [ISSUES] using hk'
  simp only [asyncClearAllIssues, ISSUES, List.foldl_cons, List.foldl_nil,
    shown_clear snmp_mem hk', shown_clear api_mem hk']
  rcases hcases with rfl | rfl
  · simp [api_ne_snmp]
  · simp [api_ne_snmp.symm]

end Registry

section Runs

variable {w w' : World V} {i : String}

/-- What is shown of an entry is what its log says; an entry that is disabled, or that was never
set up, has neither a coordinator nor an issue. -/
structure Told (w : World V) (i : String) : Prop where
  api : Shown w.registry ISSUE_API_ACCESS_DENIED i ↔ denied (w.log i) = true
  snmp : Shown w.registry issueSnmpUnreachable i ↔ silent (w.log i) = true
  calm : w.disabled i = true ∨ w.watched i = false →
    w.setups i = none ∧ denied (w.log i) = false ∧ silent (w.log i) = false

lemma Told.congr (h : Told w i) (hlog : w'.log i = w.log i)
    (hdisabled : w'.disabled i = w.disabled i) (hwatched : w'.watched i = w.watched i)
    (hsetups : w'.setups i = w.setups i)
    (hshown : ∀ kind ∈ ISSUES, Shown w'.registry kind i ↔ Shown w.registry kind i) : Told w' i where
  api := by rw [hshown _ api_mem, hlog]; exact h.api
  snmp := by rw [hshown _ snmp_mem, hlog]; exact h.snmp
  calm := by rw [hdisabled, hwatched, hsetups, hlog]; exact h.calm

lemma Told.live (h : Told w i) (hlive : w.setups i ≠ none) :
    ¬ (w.disabled i = true ∨ w.watched i = false) := fun hno => hlive (h.calm hno).1

/-- Only the two issues are touched. -/
def OwnIssues (actions : List IssueAction) : Prop :=
  ∀ a ∈ actions, (∃ kind placeholders, a = .raise kind placeholders ∧ kind ∈ ISSUES) ∨
    ∃ kind, a = .clear kind ∧ kind ∈ ISSUES

lemma Tells.ownIssues {x : Cycle V (Updates V × Failures)} (hx : Tells x) :
    OwnIssues x.issues := by
  unfold Tells at hx
  split at hx
  · simp [OwnIssues, hx]
  · obtain ⟨placeholders, hissues⟩ := hx
    simp [OwnIssues, hissues, api_mem]
  · simp [OwnIssues, hx, api_mem]

lemma shown_applyIssues_ne {reg : IssueRegistry} {entry : Entry} {kind j : String}
    {actions : List IssueAction} (hk : kind ∈ ISSUES) (hj : j ≠ i) (hactions : OwnIssues actions) :
    Shown (applyIssues entry i reg actions) kind j ↔ Shown reg kind j := by
  induction actions generalizing reg with
  | nil => exact Iff.rfl
  | cons a actions ih =>
    obtain ⟨ha, hrest⟩ := List.forall_mem_cons.mp hactions
    rcases ha with ⟨kind', placeholders, rfl, hkind⟩ | ⟨kind', rfl, hkind⟩
    · rw [applyIssues, ih hrest, shown_raise entry placeholders hkind hk]
      simp [hj]
    · rw [applyIssues, ih hrest, shown_clear hkind hk]
      simp [hj]

lemma Told.endXml (h : Told w i) (hlive : ¬ (w.disabled i = true ∨ w.watched i = false))
    (entry : Entry) {x : Cycle V (Updates V × Failures)} (hx : Tells x) :
    Told (w.endXml i entry x) i := by
  have hlog : (w.endXml i entry x).log i = .xmlCycle x.result :: w.log i :=
    Function.update_self _ _ _
  have hreg : (w.endXml i entry x).registry = applyIssues entry i w.registry x.issues := rfl
  refine ⟨?_, ?_, fun hno => absurd hno hlive⟩
  · rw [hlog, hreg, denied]
    unfold Tells at hx
    split at hx
    · next ht => simpa [hx, ht, applyIssues] using h.api
    · next ht =>
      obtain ⟨placeholders, hissues⟩ := hx
      simp [hissues, ht, applyIssues, shown_raise _ _ api_mem api_mem]
    · next ht => simp [hx, ht, applyIssues, shown_clear api_mem api_mem]
  · rw [hlog, hreg, silent, ← h.snmp]
    unfold Tells at hx
    split at hx
    · simp [hx, applyIssues]
    · obtain ⟨placeholders, hissues⟩ := hx
      simp [hissues, applyIssues, shown_raise _ _ api_mem snmp_mem, api_ne_snmp.symm]
    · simp [hx, applyIssues, shown_clear api_mem snmp_mem, api_ne_snmp.symm]

lemma told_endXml (h : ∀ j, Told w j) (hlive : ¬ (w.disabled i = true ∨ w.watched i = false))
    (entry : Entry) {x : Cycle V (Updates V × Failures)} (hx : Tells x) (j : String) :
    Told (w.endXml i entry x) j := by
  by_cases hj : j = i
  · subst hj
    exact (h j).endXml hlive entry hx
  · exact (h j).congr (Function.update_of_ne hj _ _) rfl rfl rfl fun kind hk =>
      shown_applyIssues_ne hk hj hx.ownIssues

lemma told_quiet (h : ∀ j, Told w j) (hlog : w'.log = w.log) (hreg : w'.registry = w.registry)
    (hother : ∀ j, j ≠ i → w'.disabled j = w.disabled j ∧ w'.watched j = w.watched j ∧
      w'.setups j = w.setups j)
    (hlive : ¬ (w'.disabled i = true ∨ w'.watched i = false)) (j : String) : Told w' j := by
  by_cases hj : j = i
  · subst hj
    refine ⟨?_, ?_, fun hno => absurd hno hlive⟩
    · rw [hreg, hlog]
      exact (h j).api
    · rw [hreg, hlog]
      exact (h j).snmp
  · obtain ⟨hdisabled, hwatched, hsetups⟩ := hother j hj
    exact (h j).congr (by rw [hlog]) hdisabled hwatched hsetups fun _ _ => by rw [hreg]

lemma told_cleared (h : ∀ j, Told w j) {incident : Incident V}
    (hincident : incident = .disabled ∨ incident = .removed)
    (hlog : w'.log = Function.update w.log i (incident :: w.log i))
    (hreg : w'.registry = asyncClearAllIssues w.registry i) (hgone : w'.setups i = none)
    (hother : ∀ j, j ≠ i → w'.disabled j = w.disabled j ∧ w'.watched j = w.watched j ∧
      w'.setups j = w.setups j) (j : String) : Told w' j := by
  by_cases hj : j = i
  · subst hj
    have hself : w'.log j = incident :: w.log j := by rw [hlog, Function.update_self]
    have hdenied : denied (w'.log j) = false := by
      rw [hself]
      rcases hincident with rfl | rfl <;> rfl
    have hsilent : silent (w'.log j) = false := by
      rw [hself]
      rcases hincident with rfl | rfl <;> rfl
    refine ⟨?_, ?_, fun _ => ⟨hgone, hdenied, hsilent⟩⟩
    · simp [hreg, hdenied, shown_clearAll api_mem]
    · simp [hreg, hsilent, shown_clearAll snmp_mem]
  · obtain ⟨hdisabled, hwatched, hsetups⟩ := hother j hj
    refine (h j).congr (by rw [hlog, Function.update_of_ne hj]) hdisabled hwatched hsetups ?_
    intro kind hk
    simp [hreg, shown_clearAll hk, hj]

/-- The coordinators go, and what is shown stays. -/
lemma told_dropped (h : ∀ j, Told w j) (hlog : w'.log = w.log) (hreg : w'.registry = w.registry)
    (hgone : w'.setups i = none)
    (hcalm : w'.disabled i = true ∨ w'.watched i = false → w.disabled i = true ∨
      w.watched i = false)
    (hother : ∀ j, j ≠ i → w'.disabled j = w.disabled j ∧ w'.watched j = w.watched j ∧
      w'.setups j = w.setups j) (j : String) : Told w' j := by
  by_cases hj : j = i
  · subst hj
    refine ⟨?_, ?_, fun hno => ⟨hgone, ?_⟩⟩
    · rw [hreg, hlog]
      exact (h j).api
    · rw [hreg, hlog]
      exact (h j).snmp
    · rw [hlog]
      exact ((h j).calm (hcalm hno)).2
  · obtain ⟨hdisabled, hwatched, hsetups⟩ := hother j hj
    exact (h j).congr (by rw [hlog]) hdisabled hwatched hsetups fun _ _ => by rw [hreg]

lemma told_snmpCycle (h : ∀ j, Told w j)
    (hlive : ¬ (w.disabled i = true ∨ w.watched i = false)) (entry : Entry)
    {issues : List IssueAction} (hissues : issues = [] ∨
      issues = [.raise issueSnmpUnreachable []] ∨ issues = [.clear issueSnmpUnreachable])
    (hlog : w'.log = Function.update w.log i (.snmpCycle issues :: w.log i))
    (hreg : w'.registry = applyIssues entry i w.registry issues)
    (hself : w'.disabled = w.disabled ∧ w'.watched = w.watched)
    (hother : ∀ j, j ≠ i → w'.setups j = w.setups j) (j : String) : Told w' j := by
  obtain ⟨hdisabled, hwatched⟩ := hself
  have hown : OwnIssues issues := by
    rcases hissues with rfl | rfl | rfl <;> simp [OwnIssues, snmp_mem]
  by_cases hj : j = i
  · subst hj
    refine ⟨?_, ?_, fun hno => absurd (by rwa [hdisabled, hwatched] at hno) hlive⟩
    · rw [hlog, hreg, Function.update_self, denied, ← (h j).api]
      rcases hissues with rfl | rfl | rfl
      · rfl
      · simp [applyIssues, shown_raise _ _ snmp_mem api_mem, api_ne_snmp]
      · simp [applyIssues, shown_clear snmp_mem api_mem, api_ne_snmp]
    · rw [hlog, hreg, Function.update_self, silent]
      rcases hissues with rfl | rfl | rfl
      · simpa [applyIssues] using (h j).snmp
      · simp [applyIssues, shown_raise _ _ snmp_mem snmp_mem]
      · simp [applyIssues, shown_clear snmp_mem snmp_mem]
  · refine (h j).congr (by rw [hlog, Function.update_of_ne hj]) (by rw [hdisabled])
      (by rw [hwatched]) (hother j hj) fun kind hk => ?_
    rw [hreg]
    exact shown_applyIssues_ne hk hj hown

lemma told_setup (h : ∀ j, Told w j) {entry : Entry} {clock : ℚ}
    (hs : w.step (.setup i entry clock) = some w') : ∀ j, Told w' j := by
  simp only [World.step, Option.ite_none_left_eq_some, Option.some.injEq] at hs
  obtain ⟨hdisabled, rfl⟩ := hs
  refine told_quiet (i := i) h rfl rfl (fun j hj => ⟨rfl, ?_, ?_⟩) ?_
  · exact Function.update_of_ne hj _ _
  · exact Function.update_of_ne hj _ _
  · simpa [World.put] using hdisabled

lemma told_xml (h : ∀ j, Told w j) {e : Event V} (hs : w.step (.xml i e) = some w') :
    ∀ j, Told w' j := by
  simp only [World.step] at hs
  split at hs
  · cases hs
  next s hsetup =>
  obtain ⟨y, -, rfl⟩ := Option.map_eq_some_iff.mp hs
  have hlive := (h i).live (by simp [hsetup])
  have hquiet : ∀ j, Told (w.put i (some { s with xml := y })) j :=
    told_quiet (i := i) h rfl rfl (fun j hj => ⟨rfl, rfl, Function.update_of_ne hj _ _⟩) hlive
  split
  · exact told_endXml hquiet hlive s.entry (tells_collect _ _ _)
  · exact hquiet

lemma told_withoutSnmp (h : ∀ j, Told w j) (hs : w.step (.withoutSnmp i) = some w') :
    ∀ j, Told w' j := by
  simp only [World.step, Option.ite_none_left_eq_some, Option.some.injEq,
    Option.isNone_iff_eq_none] at hs
  obtain ⟨hsetup, rfl⟩ := hs
  have hlive := (h i).live hsetup
  intro j
  by_cases hj : j = i
  · subst hj
    refine ⟨?_, ?_, fun hno => absurd hno hlive⟩
    · simpa [World.note, denied, shown_clear snmp_mem api_mem, api_ne_snmp] using (h j).api
    · simp [World.note, silent, shown_clear snmp_mem snmp_mem]
  · refine (h j).congr (Function.update_of_ne hj _ _) rfl rfl rfl fun kind hk => ?_
    simp [World.note, shown_clear snmp_mem hk, hj]

lemma told_withSnmp (h : ∀ j, Told w j) {clock : ℚ}
    (hs : w.step (.withSnmp i clock) = some w') : ∀ j, Told w' j := by
  simp only [World.step] at hs
  split at hs
  · cases hs
  next s hsetup =>
  cases hs
  exact told_quiet (i := i) h rfl rfl (fun j hj => ⟨rfl, rfl, Function.update_of_ne hj _ _⟩)
    ((h i).live (by simp [hsetup]))

lemma told_snmp (h : ∀ j, Told w j) {e : Event (SnmpValue V)}
    (hs : w.step (.snmp i e) = some w') : ∀ j, Told w' j := by
  simp only [World.step] at hs
  split at hs
  · cases hs
  next s hsetup =>
  split at hs
  · cases hs
  next g hg =>
  obtain ⟨g', hg', rfl⟩ := Option.map_eq_some_iff.mp hs
  exact told_snmpCycle h ((h i).live (by simp [hsetup])) s.entry (snmp_issues hg') rfl rfl
    ⟨rfl, rfl⟩ fun j hj => Function.update_of_ne hj _ _

lemma told_unload (h : ∀ j, Told w j) (hs : w.step (.unload i) = some w') : ∀ j, Told w' j := by
  cases hs
  exact told_dropped h rfl rfl (Function.update_self _ _ _) id
    fun j hj => ⟨rfl, rfl, Function.update_of_ne hj _ _⟩

lemma told_disable (h : ∀ j, Told w j) (hs : w.step (.disable i) = some w') : ∀ j, Told w' j := by
  simp only [World.step] at hs
  split at hs
  · cases hs
    exact told_cleared h (Or.inl rfl) rfl rfl (Function.update_self _ _ _) fun j hj =>
      ⟨Function.update_of_ne hj _ _, rfl, Function.update_of_ne hj _ _⟩
  · next hwatched =>
    -- never set up, so no callback was registered and there is nothing to clear
    cases hs
    exact told_dropped h rfl rfl (Function.update_self _ _ _)
      (fun _ => Or.inr (by simpa using hwatched)) fun j hj =>
        ⟨Function.update_of_ne hj _ _, rfl, Function.update_of_ne hj _ _⟩

lemma told_enable (h : ∀ j, Told w j) (hs : w.step (.enable i) = some w') : ∀ j, Told w' j := by
  cases hs
  intro j
  by_cases hj : j = i
  · subst hj
    refine ⟨(h j).api, (h j).snmp, fun hno => (h j).calm (Or.inr ?_)⟩
    simpa using hno
  · exact (h j).congr rfl (Function.update_of_ne hj _ _) rfl rfl fun _ _ => Iff.rfl

lemma told_remove (h : ∀ j, Told w j) (hs : w.step (.remove i) = some w') : ∀ j, Told w' j := by
  cases hs
  exact told_cleared h (Or.inr rfl) rfl rfl (Function.update_self _ _ _) fun j hj =>
    ⟨rfl, Function.update_of_ne hj _ _, Function.update_of_ne hj _ _⟩

lemma told_step {e : Life V} (h : ∀ j, Told w j) (hs : w.step e = some w') :
    ∀ j, Told w' j := by
  cases e with
  | setup i entry clock => exact told_setup h hs
  | xml i e => exact told_xml h hs
  | withoutSnmp i => exact told_withoutSnmp h hs
  | withSnmp i clock => exact told_withSnmp h hs
  | snmp i e => exact told_snmp h hs
  | unload i => exact told_unload h hs
  | disable i => exact told_disable h hs
  | enable i => exact told_enable h hs
  | remove i => exact told_remove h hs

theorem told_run {es : List (Life V)} (h : Run World.step (World.init V) es w)
    (i : String) : Told w i := by
  refine h.invariant (I := fun _ w => ∀ i, Told w i) (fun i => ⟨?_, ?_, fun _ => ?_⟩)
    (fun _ _ _ _ _ hi hs => told_step hi hs) i
  · simp [World.init, Shown, denied]
  · simp [World.init, Shown, silent]
  · exact ⟨rfl, rfl, rfl⟩

/-- **An issue is shown exactly as long as its cause is.** In every run of any number of entries,
the "API access denied" issue of an entry is there if and only if, of its cycles since it was last
disabled or removed, the last that told was denied access: one that fetched something tells, too,
one that only met other errors does not. The "SNMP unreachable" issue is there if and only if the
last thing to touch it raised it, and no setup went on without SNMP, nor was the entry disabled or
removed, since. A disabled entry has no issue. -/
theorem issues_shown_iff {es : List (Life V)} (h : Run World.step (World.init V) es w)
    (i : String) :
    (Shown w.registry ISSUE_API_ACCESS_DENIED i ↔ denied (w.log i) = true) ∧
    (Shown w.registry issueSnmpUnreachable i ↔ silent (w.log i) = true) ∧
    (w.disabled i = true → ∀ kind ∈ ISSUES, ¬ Shown w.registry kind i) := by
  obtain ⟨hapi, hsnmp, hcalm⟩ := told_run h i
  refine ⟨hapi, hsnmp, fun hdisabled kind hk => ?_⟩
  obtain ⟨-, hdenied, hsilent⟩ := hcalm (Or.inl hdisabled)
  rcases (show kind = _ ∨ kind = _ by simpa [ISSUES] using hk) with rfl | rfl
  · simp [hapi, hdenied]
  · simp [hsnmp, hsilent]

/-- Two firewalls deny the access; one of the entries is disabled then. The other is set up again
with another address, where the access is granted. -/
theorem issues_shown_iff_two :
    let deny : ℕ → String → Result ℕ := fun _ _ => .exception (.access "denied" (some "532"))
    let cycle (i host : String) (attempt : ℕ → String → Result ℕ) : List (Life ℕ) :=
      [.setup i ⟨i, ⟨host, fun _ => none⟩⟩ 0, .xml i (.start (some ["admin"])),
        .xml i (.finish attempt)]
    ∃ w w' : World ℕ,
      replay World.step (World.init ℕ) (cycle "a" "fw" deny ++ cycle "b" "fw2" deny ++
        [.disable "b"]) = some w ∧
      Shown w.registry ISSUE_API_ACCESS_DENIED "a" ∧
      ¬ Shown w.registry ISSUE_API_ACCESS_DENIED "b" ∧
      replay World.step w ([.unload "a"] ++ cycle "a" "fw3" fun _ _ => .value 0) = some w' ∧
      ¬ Shown w'.registry ISSUE_API_ACCESS_DENIED "a" := by
  intro deny cycle
  obtain ⟨w, w', hw, ha, hb, hw', ha'⟩ : ∃ w w' : World ℕ,
      replay World.step (World.init ℕ) (cycle "a" "fw" deny ++ cycle "b" "fw2" deny ++
        [.disable "b"]) = some w ∧
      denied (w.log "a") = true ∧ w.disabled "b" = true ∧
      replay World.step w ([.unload "a"] ++ cycle "a" "fw3" fun _ _ => .value 0) = some w' ∧
      denied (w'.log "a") = false := ⟨_, _, rfl, rfl, rfl, rfl, rfl⟩
  have hrun := run_of_replay hw
  have hagain := (issues_shown_iff (hrun.trans_replay hw') "a").1
  rw [ha'] at hagain
  exact ⟨w, w', hw, (issues_shown_iff hrun "a").1.mpr ha,
    (issues_shown_iff hrun "b").2.2 hb _ api_mem, hw', fun hno => by cases hagain.mp hno⟩

end Runs

end World

end SophosFw.Issues
