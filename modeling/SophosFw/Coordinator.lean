import SophosFw.PyDict
import Mathlib.Data.Rat.Defs
import Mathlib.Algebra.Order.Ring.Rat
import Mathlib.Data.List.Perm.Subperm
import Mathlib.Logic.Function.Basic
import Mathlib.Tactic.Linarith

/-!
The coordinator both sources share: a table of endpoints, a scheduler that says which of
them are due, and the update cycle that fetches the due ones and merges what came back.

A cycle suspends while its fetches run, and only `invalidate` touches the coordinator in
between. So the cycle is given in three parts: `beginUpdate` up to the first fetch,
`collect` for the fetches and the handling of their failures, `finishUpdate` after them.
-/

namespace SophosFw.Coordinator

open SophosFw.PyDict

/-- Polling tier; each endpoint belongs to exactly one. -/
inductive Tier
  | realtime | fast | operative | static
  deriving DecidableEq, Repr

/-- What an option of a config entry can hold. -/
inductive OptionValue
  | bool (b : Bool)
  | int (n : ℤ)
  | text (s : String)
  deriving DecidableEq, Repr

/-- `bool(value)`. -/
def OptionValue.truthy : OptionValue → Bool
  | .bool b => b
  | .int n => n ≠ 0
  | .text s => s ≠ ""

structure ConfigEntry where
  host : String
  options : String → Option OptionValue

def readOption (entry : ConfigEntry) (key : String) (default : OptionValue) : OptionValue :=
  (entry.options key).getD default

structure Endpoint where
  key : String
  tier : Tier
  toggle : Option String := none
  toggleDefault : Bool := true
  deriving DecidableEq, Repr

structure TierScheduler where
  intervals : Tier → ℕ
  tolerance : ℚ
  last : String → Option ℚ

namespace TierScheduler

def init (intervals : Tier → ℕ) (baseInterval : ℕ) : TierScheduler :=
  ⟨intervals, baseInterval / 2, fun _ => none⟩

def isDue (s : TierScheduler) (key : String) (tier : Tier) (now : ℚ) : Bool :=
  match s.last key with
  | none => true
  | some last => decide (s.intervals tier - s.tolerance ≤ now - last)

def markFetched (s : TierScheduler) (key : String) (stamp : ℚ) : TierScheduler :=
  { s with last := Function.update s.last key (some stamp) }

def invalidate (s : TierScheduler) (key : String) : TierScheduler :=
  { s with last := Function.update s.last key none }

/-- Once due, an endpoint stays due until it is marked as fetched. -/
lemma isDue_mono {s : TierScheduler} {key : String} {tier : Tier} {now now' : ℚ}
    (h : s.isDue key tier now) (hn : now ≤ now') : s.isDue key tier now' := by
  unfold isDue at h ⊢
  split at h
  · rfl
  · next last hl =>
    rw [decide_eq_true_eq] at h ⊢
    linarith

lemma isDue_invalidate {s : TierScheduler} {key : String} {tier : Tier} {now : ℚ}
    (key' : String) (h : s.isDue key tier now) : (s.invalidate key').isDue key tier now := by
  by_cases hk : key = key'
  · subst hk; simp [isDue, invalidate]
  · simpa [isDue, invalidate, Function.update_of_ne hk] using h

lemma isDue_congr {s s' : TierScheduler} {key : String} (tier : Tier) (now : ℚ)
    (hi : s'.intervals = s.intervals) (ht : s'.tolerance = s.tolerance)
    (hl : s'.last key = s.last key) : s'.isDue key tier now = s.isDue key tier now := by
  unfold isDue
  rw [hi, ht, hl]

end TierScheduler

def minBaseInterval : ℤ := 5

/-- A polling interval from the options; anything but an integer of at least 5 is ignored. -/
def intOption (entry : ConfigEntry) (key : String) (default : ℕ) : ℕ :=
  match readOption entry key (.int default) with
  | .int n => if n < minBaseInterval then default else n.toNat
  | _ => default

/-- `TIER_INTERVAL_KEYS`. -/
def tierIntervalKeys : Tier → String × ℕ
  | .realtime => ("interval_realtime", 30)
  | .fast => ("interval_fast", 120)
  | .operative => ("interval_operative", 600)
  | .static => ("interval_static", 1800)

def intervals (entry : ConfigEntry) (tier : Tier) : ℕ :=
  intOption entry (tierIntervalKeys tier).1 (tierIntervalKeys tier).2

/-- The exceptions of a fetch, as far as the coordinators tell them apart. -/
inductive FetchError
  | connection (text : String)
  | auth (text : String)
  | access (text : String) (code : Option String)
  /-- Any other error the client raises by design. -/
  | expected (text : String)
  | unexpected (text : String)
  deriving DecidableEq, Repr

namespace FetchError

/-- `str(exc)`. -/
def text : FetchError → String
  | .connection t | .auth t | .access t _ | .expected t | .unexpected t => t

def isAuth : FetchError → Bool
  | .auth _ => true
  | _ => false

def accessCode : FetchError → Option (Option String)
  | .access _ code => some code
  | _ => none

end FetchError

/-- One entry of `asyncio.gather(..., return_exceptions=True)`. -/
inductive Result (V : Type)
  | value (v : V)
  | exception (e : FetchError)
  /-- `CancelledError`, `KeyboardInterrupt`, … -/
  | baseException

/-- How a cycle ends when it does not return data. -/
inductive CycleError
  | updateFailed (translationKey : String) (placeholders : List (String × String))
  | configEntryAuthFailed
  | baseException
  deriving DecidableEq, Repr

inductive IssueAction
  | raise (kind : String) (placeholders : List (String × String))
  | clear (kind : String)
  deriving DecidableEq, Repr

/-- A computation inside a cycle: it may raise, and it leaves a trace of the fetch attempts
it made and of the repair issues it touched. -/
structure Cycle (V α : Type) where
  result : Except CycleError α
  attempts : List (String × Result V) := []
  issues : List IssueAction := []

namespace Cycle

variable {V α β : Type}

instance : Monad (Cycle V) where
  pure a := { result := .ok a }
  bind x f :=
    match x.result with
    | .error e => { result := .error e, attempts := x.attempts, issues := x.issues }
    | .ok a =>
      { result := (f a).result
        attempts := x.attempts ++ (f a).attempts
        issues := x.issues ++ (f a).issues }

def raise (e : CycleError) : Cycle V α := { result := .error e }

def issue (i : IssueAction) : Cycle V Unit := { result := .ok (), issues := [i] }

@[simp] lemma pure_result (a : α) : (pure a : Cycle V α).result = .ok a := rfl
@[simp] lemma pure_attempts (a : α) : (pure a : Cycle V α).attempts = [] := rfl

lemma bind_ok {x : Cycle V α} {f : α → Cycle V β} {b : β} (h : (x >>= f).result = .ok b) :
    ∃ a, x.result = .ok a ∧ (f a).result = .ok b ∧
      (x >>= f).attempts = x.attempts ++ (f a).attempts := by
  rcases hx : x.result with e | a
  · simp [bind, hx] at h
  · refine ⟨a, rfl, ?_, ?_⟩ <;> simp_all [bind]

lemma bind_attempts_left (x : Cycle V α) (f : α → Cycle V β) (p : String × Result V)
    (hp : p ∈ x.attempts) : p ∈ (x >>= f).attempts := by
  rcases hx : x.result with e | a
  · simpa [bind, hx] using hp
  · simp [bind, hx, hp]

lemma bind_attempts {x : Cycle V α} {f : α → Cycle V β} {P : String × Result V → Prop}
    (hx : ∀ p ∈ x.attempts, P p)
    (hf : ∀ a, x.result = .ok a → ∀ p ∈ (f a).attempts, P p) :
    ∀ p ∈ (x >>= f).attempts, P p := by
  intro p hp
  rcases hr : x.result with e | a
  · simp only [bind, hr] at hp
    exact hx p hp
  · simp only [bind, hr, List.mem_append] at hp
    exact hp.elim (hx p) (hf a hr p)

end Cycle

abbrev Updates (V : Type) := Dict String V
abbrev Failures := Dict String FetchError

section Fetch

variable {V : Type}

/-- Sort the gathered results into the two dictionaries, in the order of the endpoints. -/
def sortResults : List (String × Result V) → Updates V → Failures →
    Except CycleError (Updates V × Failures)
  | [], updates, failures => .ok (updates, failures)
  | (key, .exception e) :: rest, updates, failures => sortResults rest updates (failures.set key e)
  | (_, .baseException) :: _, _, _ => .error .baseException
  | (key, .value v) :: rest, updates, failures => sortResults rest (updates.set key v) failures

def fetch (attempt : String → Result V) (endpoints : List Endpoint) :
    Cycle V (Updates V × Failures) :=
  let results := endpoints.map fun ep => (ep.key, attempt ep.key)
  { result := sortResults results .empty .empty, attempts := results }

/-- The last attempt of an endpoint in a trace. -/
def lastAttempt (attempts : List (String × Result V)) (key : String) : Option (Result V) :=
  attempts.reverse.lookup key

/-- The two dictionaries say of every endpoint what its last attempt came to. -/
def Reflects (attempts : List (String × Result V)) (updates : Updates V) (failures : Failures) :
    Prop :=
  ∀ key, match lastAttempt attempts key with
    | none => updates.get key = none ∧ failures.get key = none
    | some (.value v) => updates.get key = some v ∧ failures.get key = none
    | some (.exception e) => updates.get key = none ∧ failures.get key = some e
    | some .baseException => False

end Fetch

/-! ### The coordinator -/

/-- The part of a coordinator that does not change while it runs, with the hooks its source
overrides. The hooks come with what the cycle relies on: handling failures keeps the
dictionaries in step with the attempts and only retries what failed, and preparing the
results neither adds nor loses a field. -/
structure SophosCoordinator (V σ : Type) where
  entry : ConfigEntry
  endpoints : List Endpoint
  keys_nodup : (endpoints.map Endpoint.key).Nodup
  connectionErrors : FetchError → Bool
  unreachableTranslationKey : String
  handleFailures : (String → Result V) → Updates V → Failures → Cycle V (Updates V × Failures)
  handle_attempts : ∀ retry updates failures,
    ∀ p ∈ (handleFailures retry updates failures).attempts,
      p.1 ∈ failures.keys ∧ p.2 = retry p.1
  handle_reflects : ∀ retry updates failures attempts updates' failures',
    (∀ key ∈ failures.keys, key ∈ endpoints.map Endpoint.key) →
    Reflects attempts updates failures →
    (handleFailures retry updates failures).result = .ok (updates', failures') →
    Reflects (attempts ++ (handleFailures retry updates failures).attempts) updates' failures'
  prepare : σ → Updates V → Updates V × σ
  prepare_keys : ∀ extra updates key,
    ((prepare extra updates).1.get key).isSome = (updates.get key).isSome
  /-- The new state of the subclass and the endpoints it switches off for the session. -/
  afterUpdate : σ → (String → Option V) → Updates V → σ × List String
  initExtra : σ

/-- A data container: one field per endpoint, `none` for "never fetched". -/
abbrev Data (V : Type) := String → Option V

/-- The attributes that change, with what Home Assistant's base class keeps: the data of the
last cycle that returned some, and whether the last cycle returned. -/
structure State (V σ : Type) where
  scheduler : TierScheduler
  ok : String → Option Bool
  failureLogged : String → Bool
  fetchedAt : String → Option ℚ
  generation : String → Option ℕ
  runtimeDisabled : String → Bool
  data : Option (Data V)
  lastUpdateSuccess : Bool
  extra : σ

/-- What a running cycle remembers from its start. The endpoints to fetch, now and perhaps
later in the cycle, come from the table, and none twice. -/
structure Plan {V σ : Type} (c : SophosCoordinator V σ) where
  previous : Data V
  generation : String → Option ℕ
  due : List Endpoint
  later : List Endpoint
  subperm : (due ++ later).Subperm c.endpoints

namespace SophosCoordinator

variable {V σ : Type} (c : SophosCoordinator V σ)

def init : State V σ where
  scheduler := .init (intervals c.entry) (intervals c.entry .realtime)
  ok := fun _ => none
  failureLogged := fun _ => false
  fetchedAt := fun _ => none
  generation := fun _ => none
  runtimeDisabled := fun _ => false
  data := none
  lastUpdateSuccess := true
  extra := c.initExtra

/-- The user's options enable polling of this endpoint. -/
def endpointConfigured (key : String) : Bool :=
  match c.endpoints.find? fun ep => ep.key = key with
  | none => false
  | some ep =>
    match ep.toggle with
    | none => true
    | some toggle => (readOption c.entry toggle (.bool ep.toggleDefault)).truthy

def endpointEnabled (s : State V σ) (key : String) : Bool :=
  !s.runtimeDisabled key && c.endpointConfigured key

def isDue (s : State V σ) (now : ℚ) (ep : Endpoint) : Bool :=
  c.endpointEnabled s ep.key && s.scheduler.isDue ep.key ep.tier now

/-- Up to the first fetch: `none` when nothing is due and the cycle returns at once. The
restriction is the one `async_first_refresh_of` puts on the first cycle. -/
def beginUpdate (s : State V σ) (restrictTo : Option (List String)) (now : ℚ) :
    Option (Plan c) :=
  let due := c.endpoints.filter (c.isDue s now)
  let all : Plan c :=
    { previous := s.data.getD fun _ => none, generation := s.generation, due := due, later := []
      subperm := by simpa [due] using List.filter_sublist.subperm }
  if due = [] then none
  else
    match restrictTo with
    | none => some all
    | some keys =>
      let limited := fun ep : Endpoint => decide (ep.key ∈ keys)
      if due.filter limited = [] then some all
      else some
        { all with
          due := due.filter limited
          later := due.filter fun ep => !limited ep
          subperm := (List.filter_append_perm limited due).subperm.trans
            List.filter_sublist.subperm }

/-- One fetch of some endpoints and the handling of its failures, which may try again. -/
def batch (first retry : String → Result V) (endpoints : List Endpoint) :
    Cycle V (Updates V × Failures) := do
  let fetched ← fetch first endpoints
  c.handleFailures retry fetched.1 fetched.2

/-- The fetches of a cycle. The attempts are numbered: the due endpoints, the retry of
those, the endpoints left out by a restriction, and their retry. -/
def collect (plan : Plan c) (attempt : ℕ → String → Result V) :
    Cycle V (Updates V × Failures) := do
  let (updates, failures) ← c.batch (attempt 0) (attempt 1) plan.due
  if plan.later ≠ [] ∧ updates.isEmpty ∧ ¬ failures.values.all c.connectionErrors then
    let (moreUpdates, moreFailures) ← c.batch (attempt 2) (attempt 3) plan.later
    pure (updates.update moreUpdates, failures.update moreFailures)
  else
    pure (updates, failures)

end SophosCoordinator

namespace State

variable {V σ : Type}

def endpointAvailable (s : State V σ) (key : String) : Bool := (s.ok key).getD false

def invalidateKey (s : State V σ) (key : String) : State V σ :=
  { s with
    scheduler := s.scheduler.invalidate key
    generation := Function.update s.generation key (some ((s.generation key).getD 0 + 1)) }

/-- Make the given endpoints due on the next run. -/
def invalidate (s : State V σ) (keys : List String) : State V σ := keys.foldl invalidateKey s

/-- Record a fetch unless the endpoint was invalidated while the cycle ran. -/
def markFetched {c : SophosCoordinator V σ} (plan : Plan c) (done : ℚ) (s : State V σ)
    (key : String) : State V σ :=
  if s.generation key ≠ plan.generation key then s
  else
    { s with
      scheduler := s.scheduler.markFetched key done
      fetchedAt := Function.update s.fetchedAt key (some done) }

def setEndpointState (log : Bool) (s : State V σ) (key : String) (error : Option FetchError) :
    State V σ :=
  { s with
    ok := Function.update s.ok key (some error.isNone)
    failureLogged :=
      match error with
      | none => Function.update s.failureLogged key false
      | some _ =>
        if !log || s.failureLogged key then s.failureLogged
        else Function.update s.failureLogged key true }

def disableEndpoint (s : State V σ) (key : String) : State V σ :=
  { s with runtimeDisabled := Function.update s.runtimeDisabled key true }

/-- What Home Assistant's `DataUpdateCoordinator` makes of the outcome of a cycle. -/
def conclude (s : State V σ) : Except CycleError (Data V) → State V σ
  | .ok data => { s with data := some data, lastUpdateSuccess := true }
  | .error _ => { s with lastUpdateSuccess := false }

/-- A cycle with nothing due returns the data it has. -/
def idleCycle (s : State V σ) : State V σ := s.conclude (.ok (s.data.getD fun _ => none))

end State

namespace SophosCoordinator

variable {V σ : Type} (c : SophosCoordinator V σ)

def isOutage (updates : Updates V) (failures : Failures) : Bool :=
  !failures.isEmpty && updates.isEmpty && failures.values.all c.connectionErrors

/-- The stamps and the success flags a cycle leaves behind. -/
def recordResults (s : State V σ) (plan : Plan c) (done : ℚ) (updates : Updates V)
    (failures : Failures) : State V σ :=
  let s := updates.keys.foldl (State.markFetched plan done) s
  let s := updates.keys.foldl (fun s key => s.setEndpointState true key none) s
  failures.entries.foldl
    (fun s p => s.setEndpointState (!c.isOutage updates failures) p.1 (some p.2)) s

/-- The rest of `_update` after the fetches. -/
def finishUpdate (s : State V σ) (plan : Plan c) (done : ℚ) (updates : Updates V)
    (failures : Failures) : State V σ × Except CycleError (Data V) :=
  let outage := c.isOutage updates failures
  let s := c.recordResults s plan done updates failures
  if outage ∨ (s.data.isNone ∧ updates.isEmpty) then
    (s, .error (.updateFailed (if outage then c.unreachableTranslationKey else "no_data")
      [("host", c.entry.host), ("error", ((failures.values.head?).map FetchError.text).getD "")]))
  else
    let prepared := c.prepare s.extra updates
    let data : Data V := fun key => (prepared.1.get key).or (plan.previous key)
    let after := c.afterUpdate prepared.2 data updates
    (after.2.foldl State.disableEndpoint { s with extra := after.1 }, .ok data)

/-- The end of a cycle, from its last answer to the new data. -/
def endCycle (s : State V σ) (plan : Plan c) (attempt : ℕ → String → Result V) (done : ℚ) :
    State V σ :=
  match (c.collect plan attempt).result with
  | .error e => s.conclude (.error e)
  | .ok (updates, failures) =>
    let (s, outcome) := c.finishUpdate s plan done updates failures
    s.conclude outcome

end SophosCoordinator

end SophosFw.Coordinator
