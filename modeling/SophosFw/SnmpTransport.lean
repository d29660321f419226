import SophosFw.Runs
import SophosFw.Permits
import Mathlib.Logic.Function.Basic

/-!
The sender of the SNMP client. Every request is a call of `_send`: it waits in turn for one of
the `SNMP_MAX_CONCURRENT` permits and makes its attempts with `_send_udp`, each on a UDP endpoint
of its own. Any number of calls run at the same time, datagrams and errors reach any open endpoint
at any time, and a call may be cancelled at each of its awaits.
-/

namespace SophosFw.SnmpTransport

open SophosFw.Runs SophosFw.Permits

def SNMP_MAX_CONCURRENT : ℕ := 2

section Endpoint

variable {Data Err : Type}

/-- `_UDPRequest` and its transport. -/
structure UDPRequest (Data Err : Type) where
  packet : Data
  response : Option (Except Err Data)
  closed : Bool
  /-- What reached the endpoint, oldest first. -/
  arrived : List (Except Err Data)

namespace UDPRequest

def connectionMade (packet : Data) : UDPRequest Data Err where
  packet := packet
  response := none
  closed := false
  arrived := []

/-- The future is set only once. -/
def settle (u : UDPRequest Data Err) (reply : Except Err Data) : UDPRequest Data Err :=
  { u with
    response := if u.response.isNone then some reply else u.response
    arrived := u.arrived ++ [reply] }

def datagramReceived (u : UDPRequest Data Err) (data : Data) : UDPRequest Data Err :=
  u.settle (.ok data)

def errorReceived (u : UDPRequest Data Err) (exc : Err) : UDPRequest Data Err :=
  u.settle (.error exc)

/-- The event loop gives the transport up. -/
def connectionLost (u : UDPRequest Data Err) (exc : Err) : UDPRequest Data Err :=
  { u.settle (.error exc) with closed := true }

def close (u : UDPRequest Data Err) : UDPRequest Data Err := { u with closed := true }

/-- The future holds what came first. -/
def FirstWins (u : UDPRequest Data Err) : Prop := u.response = u.arrived.head?

lemma FirstWins.settle {u : UDPRequest Data Err} (h : u.FirstWins) (reply : Except Err Data) :
    (u.settle reply).FirstWins := by
  unfold FirstWins UDPRequest.settle at *
  cases ha : u.arrived with
  | nil => simp [h, ha]
  | cons a rest => simp [h, ha]

@[simp] lemma settle_packet (u : UDPRequest Data Err) (reply : Except Err Data) :
    (u.settle reply).packet = u.packet := rfl

@[simp] lemma settle_closed (u : UDPRequest Data Err) (reply : Except Err Data) :
    (u.settle reply).closed = u.closed := rfl

end UDPRequest

end Endpoint

inductive Outcome (Data Err : Type)
  | returned (data : Data)
  | raised (exc : Err)
  /-- The `Timeout` of puresnmp, with the number of its message. -/
  | timeout (retries : ℤ)
  | cancelled

/-- Where a call of `_send` is; `left` counts the attempts after the present one. -/
inductive Phase (Data Err : Type)
  | idle
  | queued
  | opening (left : ℕ)
  | listening (left : ℕ)
  | ended (o : Outcome Data Err)

namespace Phase

variable {Data Err : Type}

/-- It is inside `async with self._in_flight`. -/
def Holds : Phase Data Err → Prop
  | opening _ | listening _ => True
  | _ => False

end Phase

/-- The calls of a client: what each sends, and how often. -/
structure Calls (ι Data Err : Type) where
  packet : ι → Data
  retries : ι → ℤ
  /-- The exception is a `TimeoutError`, as an `OSError` of the socket can be, too. -/
  isTimeout : Err → Bool

structure Sender (ι Data Err : Type) where
  phase : ι → Phase Data Err
  /-- The endpoints a call made, the newest first. -/
  made : ι → List (UDPRequest Data Err)
  free : ℕ
  /-- The waiters of the semaphore. It wakes the one that has waited longest. -/
  queue : List ι

inductive Event (ι Data Err : Type)
  | call (i : ι)
  | acquire (i : ι)
  | opened (i : ι)
  | openFails (i : ι) (exc : Err)
  | datagram (i : ι) (k : ℕ) (data : Data)
  | error (i : ι) (k : ℕ) (exc : Err)
  | lost (i : ι) (k : ℕ) (exc : Err)
  | resume (i : ι)
  | timer (i : ι)
  | cancel (i : ι)

section Model

variable {ι Data Err : Type}

/-- Whose event it is. -/
def Event.op : Event ι Data Err → ι
  | call i | acquire i | opened i | openFails i _ | datagram i _ _ | error i _ _ | lost i _ _
  | resume i | timer i | cancel i => i

/-- `max(retries, 1)`. -/
def attempts (retries : ℤ) : ℕ := (max retries 1).toNat

namespace Sender

def init : Sender ι Data Err where
  phase := fun _ => .idle
  made := fun _ => []
  free := SNMP_MAX_CONCURRENT
  queue := []

variable [DecidableEq ι] (s : Sender ι Data Err)

def setPhase (i : ι) (p : Phase Data Err) : Sender ι Data Err :=
  { s with phase := Function.update s.phase i p }

def setMade (i : ι) (us : List (UDPRequest Data Err)) : Sender ι Data Err :=
  { s with made := Function.update s.made i us }

/-- The `finally` of an attempt. -/
def closeNewest (i : ι) : Sender ι Data Err :=
  s.setMade i ((s.made i).modifyHead .close)

/-- The call leaves `async with self._in_flight`. -/
def leave (i : ι) (o : Outcome Data Err) : Sender ι Data Err :=
  { s.setPhase i (.ended o) with free := s.free + 1 }

/-- Something reaches an open endpoint. -/
def reach (i : ι) (k : ℕ) (f : UDPRequest Data Err → UDPRequest Data Err) :
    Option (Sender ι Data Err) :=
  match (s.made i)[k]? with
  | some u => if u.closed then none else some (s.setMade i ((s.made i).set k (f u)))
  | none => none

end Sender

namespace Calls

variable (c : Calls ι Data Err) [DecidableEq ι]

/-- The next round of the loop, or its end. -/
def retry (s : Sender ι Data Err) (i : ι) : ℕ → Sender ι Data Err
  | 0 => s.leave i (.timeout (c.retries i))
  | left + 1 => s.setPhase i (.opening left)

def step (s : Sender ι Data Err) : Event ι Data Err → Option (Sender ι Data Err)
  | .call i =>
    match s.phase i with
    | .idle => some { s.setPhase i .queued with queue := s.queue ++ [i] }
    | _ => none
  | .acquire i =>
    match s.phase i with
    | .queued =>
      if 0 < s.free ∧ s.queue.head? = some i then
        some { s.setPhase i (.opening (attempts (c.retries i) - 1)) with
          free := s.free - 1
          queue := s.queue.tail }
      else none
    | _ => none
  | .opened i =>
    match s.phase i with
    | .opening left => some
      ((s.setMade i (.connectionMade (c.packet i) :: s.made i)).setPhase i (.listening left))
    | _ => none
  | .openFails i exc =>
    match s.phase i with
    | .opening _ => some (s.leave i (.raised exc))
    | _ => none
  | .datagram i k data => s.reach i k fun u => u.datagramReceived data
  | .error i k exc => s.reach i k fun u => u.errorReceived exc
  | .lost i k exc => s.reach i k fun u => u.connectionLost exc
  | .resume i =>
    match s.phase i, (s.made i).head?.bind (·.response) with
    | .listening _, some (.ok data) => some ((s.closeNewest i).leave i (.returned data))
    | .listening left, some (.error exc) =>
      if c.isTimeout exc then some (c.retry (s.closeNewest i) i left)
      else some ((s.closeNewest i).leave i (.raised exc))
    | _, _ => none
  | .timer i =>
    match s.phase i with
    | .listening left => some (c.retry (s.closeNewest i) i left)
    | _ => none
  | .cancel i =>
    match s.phase i with
    | .queued => some { s.setPhase i (.ended .cancelled) with queue := s.queue.erase i }
    -- a cancelled `create_datagram_endpoint` leaves no transport behind
    | .opening _ => some (s.leave i .cancelled)
    | .listening _ => some ((s.closeNewest i).leave i .cancelled)
    | _ => none

/-- What a step makes of its call: the new phase, the endpoints, the permits that are left, and
who waits for one. -/
inductive Does (s : Sender ι Data Err) (i : ι) :
    Event ι Data Err → Phase Data Err → List (UDPRequest Data Err) → ℕ → List ι → Prop
  | call (hp : s.phase i = .idle) :
      Does s i (.call i) .queued (s.made i) s.free (s.queue ++ [i])
  | acquire (hp : s.phase i = .queued) (hfree : 0 < s.free) (hfirst : s.queue.head? = some i) :
      Does s i (.acquire i) (.opening (attempts (c.retries i) - 1)) (s.made i) (s.free - 1)
        s.queue.tail
  | opened {left : ℕ} (hp : s.phase i = .opening left) :
      Does s i (.opened i) (.listening left) (.connectionMade (c.packet i) :: s.made i) s.free
        s.queue
  | openFails {left : ℕ} (exc : Err) (hp : s.phase i = .opening left) :
      Does s i (.openFails i exc) (.ended (.raised exc)) (s.made i) (s.free + 1) s.queue
  | reach {e : Event ι Data Err} {k : ℕ} {u : UDPRequest Data Err} (reply : Except Err Data)
      (closed : Bool) (hu : (s.made i)[k]? = some u) (hopen : u.closed = false) :
      Does s i e (s.phase i) ((s.made i).set k { u.settle reply with closed := closed }) s.free
        s.queue
  | again {e : Event ι Data Err} {left : ℕ} (hp : s.phase i = .listening (left + 1)) :
      Does s i e (.opening left) ((s.made i).modifyHead .close) s.free s.queue
  | giveUp {e : Event ι Data Err} (hp : s.phase i = .listening 0) :
      Does s i e (.ended (.timeout (c.retries i))) ((s.made i).modifyHead .close) (s.free + 1)
        s.queue
  | answer {left : ℕ} {data : Data} (hp : s.phase i = .listening left)
      (hr : (s.made i).head?.bind (·.response) = some (.ok data)) :
      Does s i (.resume i) (.ended (.returned data)) ((s.made i).modifyHead .close) (s.free + 1)
        s.queue
  | fail {left : ℕ} {exc : Err} (hp : s.phase i = .listening left)
      (hr : (s.made i).head?.bind (·.response) = some (.error exc))
      (hexc : c.isTimeout exc = false) :
      Does s i (.resume i) (.ended (.raised exc)) ((s.made i).modifyHead .close) (s.free + 1)
        s.queue
  | cancelQueued (hp : s.phase i = .queued) :
      Does s i (.cancel i) (.ended .cancelled) (s.made i) s.free (s.queue.erase i)
  | cancelOpening {left : ℕ} (hp : s.phase i = .opening left) :
      Does s i (.cancel i) (.ended .cancelled) (s.made i) (s.free + 1) s.queue
  | cancelListening {left : ℕ} (hp : s.phase i = .listening left) :
      Does s i (.cancel i) (.ended .cancelled) ((s.made i).modifyHead .close) (s.free + 1) s.queue

end Calls

/-- Only this call, the permits and their queue change. -/
def Sender.put [DecidableEq ι] (s : Sender ι Data Err) (i : ι) (p : Phase Data Err)
    (us : List (UDPRequest Data Err)) (free : ℕ) (queue : List ι) : Sender ι Data Err where
  phase := Function.update s.phase i p
  made := Function.update s.made i us
  free := free
  queue := queue

section Steps

variable {c : Calls ι Data Err} [DecidableEq ι] {s s' : Sender ι Data Err}

lemma setPhase_eq_put (s : Sender ι Data Err) (i : ι) (p : Phase Data Err) :
    s.setPhase i p = s.put i p (s.made i) s.free s.queue := by
  simp [Sender.setPhase, Sender.put]

lemma leave_eq_put (s : Sender ι Data Err) (i : ι) (o : Outcome Data Err) :
    s.leave i o = s.put i (.ended o) (s.made i) (s.free + 1) s.queue := by
  simp [Sender.leave, Sender.setPhase, Sender.put]

lemma closeNewest_leave (s : Sender ι Data Err) (i : ι) (o : Outcome Data Err) :
    (s.closeNewest i).leave i o =
      s.put i (.ended o) ((s.made i).modifyHead .close) (s.free + 1) s.queue := rfl

lemma retry_does {i : ι} {left : ℕ} (e : Event ι Data Err) (hp : s.phase i = .listening left) :
    ∃ p us free queue, c.Does s i e p us free queue ∧
      c.retry (s.closeNewest i) i left = s.put i p us free queue := by
  cases left with
  | zero => exact ⟨_, _, _, _, .giveUp hp, rfl⟩
  | succ left => exact ⟨_, _, _, _, .again hp, rfl⟩

lemma reach_does {i : ι} {k : ℕ} {f : UDPRequest Data Err → UDPRequest Data Err}
    (e : Event ι Data Err) (h : s.reach i k f = some s')
    (hf : ∀ u : UDPRequest Data Err, u.closed = false → ∃ reply closed,
      f u = { u.settle reply with closed := closed }) :
    ∃ p us free queue, c.Does s i e p us free queue ∧ s' = s.put i p us free queue := by
  unfold Sender.reach at h
  split at h
  · next u hu =>
    by_cases hopen : u.closed = true
    · simp [hopen] at h
    · obtain ⟨reply, closed, hfu⟩ := hf u (by simpa using hopen)
      refine ⟨_, _, _, _, .reach reply closed hu (by simpa using hopen), ?_⟩
      simpa [hopen, Sender.setMade, Sender.put, hfu] using h.symm
  · cases h

lemma step_does {e : Event ι Data Err} (h : c.step s e = some s') :
    ∃ p us free queue, c.Does s e.op e p us free queue ∧ s' = s.put e.op p us free queue := by
  cases e with
  | call i =>
    simp only [Calls.step] at h
    split at h
    · exact ⟨_, _, _, _, .call ‹_›, by rw [← Option.some.inj h, setPhase_eq_put]; rfl⟩
    · cases h
  | acquire i =>
    simp only [Calls.step] at h
    split at h
    · split at h
      · next hq =>
        refine ⟨_, _, _, _, .acquire ‹_› hq.1 hq.2, ?_⟩
        rw [← Option.some.inj h, setPhase_eq_put]
        rfl
      · cases h
    · cases h
  | opened i =>
    simp only [Calls.step] at h
    split at h
    · exact ⟨_, _, _, _, .opened ‹_›, (Option.some.inj h).symm⟩
    · cases h
  | openFails i exc =>
    simp only [Calls.step] at h
    split at h
    · exact ⟨_, _, _, _, .openFails exc ‹_›, by rw [← Option.some.inj h, leave_eq_put, Event.op]⟩
    · cases h
  | datagram i k data =>
    refine reach_does _ h fun u hopen => ⟨.ok data, false, ?_⟩
    simp [UDPRequest.datagramReceived, UDPRequest.settle, ← hopen]
  | error i k exc =>
    refine reach_does _ h fun u hopen => ⟨.error exc, false, ?_⟩
    simp [UDPRequest.errorReceived, UDPRequest.settle, ← hopen]
  | lost i k exc => exact reach_does _ h fun u _ => ⟨.error exc, true, rfl⟩
  | resume i =>
    simp only [Calls.step] at h
    split at h
    · exact ⟨_, _, _, _, .answer ‹_› ‹_›, (Option.some.inj h).symm⟩
    · next left exc hp hr =>
      by_cases hexc : c.isTimeout exc = true
      · obtain ⟨p, us, free, queue, hdoes, heq⟩ := retry_does (c := c) (.resume i) hp
        exact ⟨p, us, free, queue, hdoes, by simpa [hexc, heq, Event.op] using h.symm⟩
      · refine ⟨_, _, _, _, .fail hp hr (by simpa using hexc), ?_⟩
        simpa [hexc, closeNewest_leave, Event.op] using h.symm
    · cases h
  | timer i =>
    simp only [Calls.step] at h
    split at h
    · next left hp =>
      obtain ⟨p, us, free, queue, hdoes, heq⟩ := retry_does (c := c) (.timer i) hp
      exact ⟨p, us, free, queue, hdoes, by rw [← Option.some.inj h, heq, Event.op]⟩
    · cases h
  | cancel i =>
    simp only [Calls.step] at h
    split at h
    · exact ⟨_, _, _, _, .cancelQueued ‹_›, by rw [← Option.some.inj h, setPhase_eq_put]; rfl⟩
    · exact ⟨_, _, _, _, .cancelOpening ‹_›, by rw [← Option.some.inj h, leave_eq_put, Event.op]⟩
    · exact ⟨_, _, _, _, .cancelListening ‹_›, (Option.some.inj h).symm⟩
    · cases h

end Steps

/-! ### What holds at every moment -/

namespace Calls

variable (c : Calls ι Data Err)

/-- How the events and the endpoints of a call account for its outcome. -/
def Accounts (es : List (Event ι Data Err)) (i : ι) (us : List (UDPRequest Data Err)) :
    Outcome Data Err → Prop
  | .returned data => ∃ u ∈ us.head?, u.arrived.head? = some (.ok data)
  | .raised exc =>
    .openFails i exc ∈ es ∨
      c.isTimeout exc = false ∧ ∃ u ∈ us.head?, u.arrived.head? = some (.error exc)
  | .timeout retries => retries = c.retries i ∧ us.length = attempts retries
  | .cancelled => .cancel i ∈ es

/-- What the endpoints of a call are in each phase. -/
def InPhase (es : List (Event ι Data Err)) (i : ι) (us : List (UDPRequest Data Err)) :
    Phase Data Err → Prop
  | .idle | .queued => us = []
  | .opening left => (∀ u ∈ us, u.closed = true) ∧ us.length + left + 1 = attempts (c.retries i)
  | .listening left =>
    (∀ u ∈ us.tail, u.closed = true) ∧ us ≠ [] ∧ us.length + left = attempts (c.retries i)
  | .ended o =>
    (∀ u ∈ us, u.closed = true) ∧ us.length ≤ attempts (c.retries i) ∧ c.Accounts es i us o

structure CallInv (es : List (Event ι Data Err)) (i : ι) (p : Phase Data Err)
    (us : List (UDPRequest Data Err)) : Prop where
  packet : ∀ u ∈ us, u.packet = c.packet i
  first : ∀ u ∈ us, u.FirstWins
  inPhase : c.InPhase es i us p

structure Inv (es : List (Event ι Data Err)) (s : Sender ι Data Err) : Prop where
  permits : Shared (fun i => (s.phase i).Holds) s.free SNMP_MAX_CONCURRENT
  waiting : ∀ i, i ∈ s.queue ↔ s.phase i = .queued
  once : s.queue.Nodup
  calls : ∀ i, c.CallInv es i (s.phase i) (s.made i)

end Calls

section Invariant

variable {c : Calls ι Data Err} {es : List (Event ι Data Err)} {i : ι}
  {us : List (UDPRequest Data Err)} {p : Phase Data Err}

lemma inv_init : c.Inv [] (Sender.init : Sender ι Data Err) where
  permits := .all_free fun _ => id
  waiting _ := ⟨fun h => (List.not_mem_nil h).elim, nofun⟩
  once := .nil
  calls _ := ⟨fun _ hu => (List.not_mem_nil hu).elim, fun _ hu => (List.not_mem_nil hu).elim, rfl⟩

lemma one_le_attempts (retries : ℤ) : 1 ≤ attempts retries := by
  unfold attempts
  omega

lemma Calls.Accounts.mono {o : Outcome Data Err} (h : c.Accounts es i us o)
    (e : Event ι Data Err) : c.Accounts (es ++ [e]) i us o := by
  cases o with
  | returned data => exact h
  | raised exc => exact h.imp_left fun h => List.mem_append_left _ h
  | timeout retries => exact h
  | cancelled => exact List.mem_append_left _ h

lemma Calls.InPhase.mono (h : c.InPhase es i us p) (e : Event ι Data Err) :
    c.InPhase (es ++ [e]) i us p := by
  cases p with
  | ended o => exact ⟨h.1, h.2.1, h.2.2.mono e⟩
  | idle | queued | opening left | listening left => exact h

namespace Calls.CallInv

lemma mono (h : c.CallInv es i p us) (e : Event ι Data Err) : c.CallInv (es ++ [e]) i p us :=
  ⟨h.packet, h.first, h.inPhase.mono e⟩

lemma move (h : c.CallInv es i p us) {e : Event ι Data Err} {p' : Phase Data Err}
    (hp : c.InPhase (es ++ [e]) i us p') : c.CallInv (es ++ [e]) i p' us :=
  ⟨h.packet, h.first, hp⟩

lemma close (h : c.CallInv es i p us) {e : Event ι Data Err} {p' : Phase Data Err}
    (hp : c.InPhase (es ++ [e]) i (us.modifyHead .close) p') :
    c.CallInv (es ++ [e]) i p' (us.modifyHead .close) := by
  cases us with
  | nil => exact h.move hp
  | cons u before =>
    refine ⟨?_, ?_, hp⟩
    · exact List.forall_mem_cons.mpr (List.forall_mem_cons.mp h.packet)
    · obtain ⟨hu, hbefore⟩ := List.forall_mem_cons.mp h.first
      exact List.forall_mem_cons.mpr ⟨hu, hbefore⟩

end Calls.CallInv

lemma closed_of_listening {left : ℕ} (h : c.InPhase es i us (.listening left)) :
    (∀ u ∈ us.modifyHead .close, u.closed = true) ∧
      (us.modifyHead .close).length + left = attempts (c.retries i) := by
  obtain ⟨hclosed, hne, hlen⟩ := h
  obtain ⟨u, before, rfl⟩ := List.exists_cons_of_ne_nil hne
  refine ⟨?_, by simpa using hlen⟩
  exact List.forall_mem_cons.mpr ⟨rfl, hclosed⟩

lemma arrived_of_response (h : c.CallInv es i p us) {reply : Except Err Data}
    (hr : us.head?.bind (·.response) = some reply) :
    ∃ u ∈ (us.modifyHead .close).head?, u.arrived.head? = some reply := by
  cases us with
  | nil => simp at hr
  | cons u before =>
    refine ⟨u.close, rfl, ?_⟩
    have hfirst : u.response = u.arrived.head? := h.first u List.mem_cons_self
    change u.arrived.head? = some reply
    rw [← hfirst]
    simpa using hr

lemma listening_of_open (h : c.InPhase es i us p) {k : ℕ} {u : UDPRequest Data Err}
    (hu : us[k]? = some u) (hopen : u.closed = false) :
    ∃ left before, p = .listening left ∧ k = 0 ∧ us = u :: before := by
  have hmem : u ∈ us := List.mem_of_getElem? hu
  cases p with
  | idle | queued =>
    have hnil : us = [] := h
    simp [hnil] at hu
  | opening left => simp [h.1 u hmem] at hopen
  | ended o => simp [h.1 u hmem] at hopen
  | listening left =>
    obtain ⟨hclosed, -, -⟩ := h
    cases k with
    | zero =>
      cases us with
      | nil => simp at hu
      | cons v before => exact ⟨left, before, rfl, rfl, by simpa using hu⟩
    | succ k =>
      have htail : u ∈ us.tail := by
        refine List.mem_of_getElem? (i := k) ?_
        simpa using hu
      simp [hclosed u htail] at hopen

lemma Calls.CallInv.reach (h : c.CallInv es i p us) {k : ℕ} {u : UDPRequest Data Err}
    (e : Event ι Data Err) (reply : Except Err Data) (closed : Bool) (hu : us[k]? = some u)
    (hopen : u.closed = false) :
    c.CallInv (es ++ [e]) i p (us.set k { u.settle reply with closed := closed }) := by
  obtain ⟨left, before, rfl, rfl, rfl⟩ := listening_of_open h.inPhase hu hopen
  obtain ⟨hpu, hpb⟩ := List.forall_mem_cons.mp h.packet
  obtain ⟨hfu, hfb⟩ := List.forall_mem_cons.mp h.first
  obtain ⟨hclosed, -, hlen⟩ := h.inPhase
  refine ⟨?_, ?_, hclosed, by simp, by simpa using hlen⟩
  · exact List.forall_mem_cons.mpr ⟨hpu, hpb⟩
  · exact List.forall_mem_cons.mpr ⟨hfu.settle reply, hfb⟩

variable [DecidableEq ι] {s s' : Sender ι Data Err}

lemma Calls.CallInv.step {e : Event ι Data Err} {p' : Phase Data Err}
    {us' : List (UDPRequest Data Err)} {free : ℕ} {queue : List ι}
    (h : c.CallInv es i (s.phase i) (s.made i)) (hd : c.Does s i e p' us' free queue) :
    c.CallInv (es ++ [e]) i p' us' := by
  have hin := h.inPhase
  cases hd with
  | call hp =>
    rw [hp] at hin
    exact h.move hin
  | acquire hp _ _ =>
    rw [hp] at hin
    have hnil : s.made i = [] := hin
    refine h.move ⟨by simp [hnil], ?_⟩
    have hone := one_le_attempts (c.retries i)
    rw [hnil, List.length_nil]
    omega
  | @opened left hp =>
    rw [hp] at hin
    obtain ⟨hclosed, hlen⟩ := hin
    refine ⟨?_, ?_, hclosed, List.cons_ne_nil _ _, ?_⟩
    · exact List.forall_mem_cons.mpr ⟨rfl, h.packet⟩
    · exact List.forall_mem_cons.mpr ⟨rfl, h.first⟩
    · rw [List.length_cons]
      omega
  | openFails exc hp =>
    rw [hp] at hin
    exact h.move ⟨hin.1, by have := hin.2; omega, Or.inl (by simp)⟩
  | reach reply closed hu hopen => exact h.reach e reply closed hu hopen
  | again hp =>
    rw [hp] at hin
    obtain ⟨hclosed, hlen⟩ := closed_of_listening hin
    exact h.close ⟨hclosed, by omega⟩
  | giveUp hp =>
    rw [hp] at hin
    obtain ⟨hclosed, hlen⟩ := closed_of_listening hin
    exact h.close ⟨hclosed, by omega, rfl, by omega⟩
  | answer hp hr =>
    rw [hp] at hin
    obtain ⟨hclosed, hlen⟩ := closed_of_listening hin
    exact h.close ⟨hclosed, by omega, arrived_of_response h hr⟩
  | fail hp hr hexc =>
    rw [hp] at hin
    obtain ⟨hclosed, hlen⟩ := closed_of_listening hin
    exact h.close ⟨hclosed, by omega, Or.inr ⟨hexc, arrived_of_response h hr⟩⟩
  | cancelQueued hp =>
    rw [hp] at hin
    have hnil : s.made i = [] := hin
    exact h.move ⟨by simp [hnil], by simp [hnil], by simp [Calls.Accounts]⟩
  | cancelOpening hp =>
    rw [hp] at hin
    exact h.move ⟨hin.1, by have := hin.2; omega, by simp [Calls.Accounts]⟩
  | cancelListening hp =>
    rw [hp] at hin
    obtain ⟨hclosed, hlen⟩ := closed_of_listening hin
    exact h.close ⟨hclosed, by omega, by simp [Calls.Accounts]⟩

lemma holds_put {p : Phase Data Err} {us : List (UDPRequest Data Err)} {free : ℕ} {queue : List ι}
    (j : ι) : ((s.put i p us free queue).phase j).Holds ↔
      (j = i ∧ p.Holds) ∨ (j ≠ i ∧ (s.phase j).Holds) := by
  by_cases hj : j = i
  · subst hj
    simp [Sender.put]
  · simp [Sender.put, hj]

lemma permits_step {n : ℕ} {e : Event ι Data Err} {p : Phase Data Err}
    {us : List (UDPRequest Data Err)} {free : ℕ} {queue : List ι}
    (h : Shared (fun j => (s.phase j).Holds) s.free n) (hd : c.Does s i e p us free queue) :
    Shared (fun j => ((s.put i p us free queue).phase j).Holds) free n := by
  have keep (hp : p.Holds ↔ (s.phase i).Holds) :
      Shared (fun j => ((s.put i p us free queue).phase j).Holds) s.free n := by
    refine h.congr fun j => (holds_put j).trans ?_
    by_cases hj : j = i
    · simp [hj, hp]
    · simp [hj]
  have give (hi : (s.phase i).Holds) (hp : ¬ p.Holds) :
      Shared (fun j => ((s.put i p us free queue).phase j).Holds) (s.free + 1) n :=
    h.give hi fun j => (holds_put j).trans (by simp [hp])
  cases hd with
  | acquire hp hfree _ =>
    refine h.take (i := i) (by simp [hp, Phase.Holds]) hfree fun j => (holds_put j).trans ?_
    by_cases hj : j = i
    · simp [hj, Phase.Holds]
    · simp [hj]
  | call hp | opened hp | again hp | cancelQueued hp =>
    exact keep (by simp [hp, Phase.Holds])
  | reach => exact keep Iff.rfl
  | openFails _ hp | giveUp hp | answer hp _ | fail hp _ _ | cancelOpening hp
  | cancelListening hp => exact give (by simp [hp, Phase.Holds]) (by simp [Phase.Holds])

lemma queue_step {e : Event ι Data Err} {p : Phase Data Err} {us : List (UDPRequest Data Err)}
    {free : ℕ} {queue : List ι} (hw : ∀ j, j ∈ s.queue ↔ s.phase j = .queued)
    (ho : s.queue.Nodup) (hd : c.Does s i e p us free queue) :
    (∀ j, j ∈ queue ↔ (s.put i p us free queue).phase j = .queued) ∧ queue.Nodup := by
  have hput : ∀ j, (s.put i p us free queue).phase j = if j = i then p else s.phase j :=
    fun j => Function.update_apply _ _ _ _
  have stays (hp : p = .queued ↔ s.phase i = .queued) (hqueue : queue = s.queue) :
      (∀ j, j ∈ queue ↔ (s.put i p us free queue).phase j = .queued) ∧ queue.Nodup := by
    subst hqueue
    refine ⟨fun j => ?_, ho⟩
    rw [hput, hw]
    split
    · next hj => rw [hj, hp]
    · rfl
  cases hd with
  | call hp =>
    have hout : i ∉ s.queue := fun hi => by simp [(hw i).mp hi] at hp
    refine ⟨fun j => ?_, ho.append (List.nodup_singleton i) (by simpa using hout)⟩
    rw [hput, List.mem_append, List.mem_singleton, hw]
    by_cases hj : j = i <;> simp [hj]
  | acquire hp _ hfirst =>
    obtain ⟨rest, hrest⟩ := List.head?_eq_some_iff.mp hfirst
    rw [hrest, List.nodup_cons] at ho
    refine ⟨fun j => ?_, by simpa [hrest] using ho.2⟩
    have hj := hw j
    rw [hput, hrest, List.tail_cons]
    rw [hrest, List.mem_cons] at hj
    by_cases hji : j = i
    · simp [hji, ho.1]
    · simpa [hji] using hj
  | cancelQueued hp =>
    refine ⟨fun j => ?_, ho.erase i⟩
    rw [hput, ho.mem_erase_iff, hw]
    by_cases hj : j = i <;> simp [hj]
  | reach => exact stays Iff.rfl rfl
  | opened hp | openFails _ hp | again hp | giveUp hp | answer hp _ | fail hp _ _
  | cancelOpening hp | cancelListening hp => exact stays (by simp [hp]) rfl

lemma Calls.Inv.step {e : Event ι Data Err} (h : c.Inv es s) (hs : c.step s e = some s') :
    c.Inv (es ++ [e]) s' := by
  obtain ⟨p, us, free, queue, hd, rfl⟩ := step_does hs
  obtain ⟨hwaiting, honce⟩ := queue_step h.waiting h.once hd
  refine ⟨permits_step h.permits hd, hwaiting, honce, fun j => ?_⟩
  by_cases hj : j = e.op
  · subst hj
    simpa [Sender.put] using (h.calls _).step hd
  · simpa [Sender.put, hj] using (h.calls j).mono e

theorem inv_run (h : Run c.step .init es s) : c.Inv es s :=
  h.invariant inv_init fun _ _ _ _ _ hi hs => hi.step hs

end Invariant

section Runs

variable {c : Calls ι Data Err} {es : List (Event ι Data Err)} {s : Sender ι Data Err}

/-- The endpoints of a call that are open. -/
def Sender.openCount (s : Sender ι Data Err) (i : ι) : ℕ :=
  (s.made i).countP fun u => !u.closed

lemma openCount_eq_zero {i : ι} (h : ∀ u ∈ s.made i, u.closed = true) : s.openCount i = 0 := by
  refine List.countP_eq_zero.mpr fun u hu => ?_
  simp [h u hu]

lemma openCount_le {i : ι} (h : c.InPhase es i (s.made i) (s.phase i)) :
    s.openCount i ≤ 1 ∧ (s.openCount i ≠ 0 → (s.phase i).Holds) := by
  cases hp : s.phase i with
  | idle | queued =>
    rw [hp] at h
    have hnil : s.made i = [] := h
    simp [Sender.openCount, hnil]
  | opening left =>
    rw [hp] at h
    simp [openCount_eq_zero h.1]
  | ended o =>
    rw [hp] at h
    simp [openCount_eq_zero h.1]
  | listening left =>
    rw [hp] at h
    obtain ⟨hclosed, hne, -⟩ := h
    obtain ⟨u, before, hmade⟩ := List.exists_cons_of_ne_nil hne
    refine ⟨?_, fun _ => trivial⟩
    have hbefore : before.countP (fun u => !u.closed) = 0 := by
      refine List.countP_eq_zero.mpr fun v hv => ?_
      simp [hclosed v (by simpa [hmade] using hv)]
    rw [Sender.openCount, hmade, List.countP_cons, hbefore]
    split <;> simp

variable [DecidableEq ι]

/-- Three requests: the first is answered at its second attempt, twice, the second is refused,
the third is cancelled while it listens. -/
def threeRequests : Calls ℕ ℕ Bool := ⟨fun i => i, fun _ => 2, fun exc => exc⟩

def threeRun : List (Event ℕ ℕ Bool) :=
  [.call 0, .call 1, .call 2, .acquire 0, .acquire 1, .opened 0, .opened 1, .timer 0, .opened 0,
    .datagram 0 0 42, .error 1 0 false, .resume 1, .acquire 2, .datagram 0 0 43, .opened 2,
    .resume 0, .cancel 2]

lemma threeRun_ends : ∃ s, replay threeRequests.step .init threeRun = some s ∧
    s.phase 0 = .ended (.returned 42) ∧ s.phase 1 = .ended (.raised false) ∧
    s.phase 2 = .ended .cancelled ∧ (s.made 0).length = attempts 2 :=
  ⟨_, rfl, rfl, rfl, rfl, rfl⟩

/-- **What a request ends with.** It makes at most `max(retries, 1)` attempts, each with its own
packet. What it returns is the first thing that reached its last socket; it raises an error only
if that came first on its last socket and is no timeout, or if a socket could not be opened; and
it gives up only after all of its attempts. -/
theorem ended_accounts (h : Run c.step .init es s) {i : ι} {o : Outcome Data Err}
    (ho : s.phase i = .ended o) :
    (s.made i).length ≤ attempts (c.retries i) ∧ (∀ u ∈ s.made i, u.packet = c.packet i) ∧
      c.Accounts es i (s.made i) o := by
  have hi := (inv_run h).calls i
  have hin := hi.inPhase
  rw [ho] at hin
  exact ⟨hin.2.1, hi.packet, hin.2.2⟩

theorem ended_accounts_three :
    ∃ s, replay threeRequests.step .init threeRun = some s ∧ (s.made 0).length = attempts 2 ∧
      ∃ u ∈ (s.made 0).head?, u.arrived.head? = some (.ok 42) := by
  obtain ⟨s, hs, h0, -, -, hlen⟩ := threeRun_ends
  exact ⟨s, hs, hlen, (ended_accounts (run_of_replay hs) h0).2.2⟩

lemma drain {j : ι} : ∀ (left : ℕ) (s : Sender ι Data Err), s.phase j = .listening left →
    ∃ es' s', (∀ e ∈ es', e = .timer j ∨ e = .opened j) ∧ replay c.step s es' = some s' ∧
      s'.free = s.free + 1 ∧ s'.queue = s.queue
  | 0, s, hp => by
    refine ⟨[.timer j], (s.closeNewest j).leave j (.timeout (c.retries j)), by simp, ?_, rfl, rfl⟩
    simp [replay, Calls.step, hp, Calls.retry]
  | left + 1, s, hp => by
    let t := (s.closeNewest j).setPhase j (.opening left)
    have ht : t.phase j = .opening left := Function.update_self _ _ _
    let u := (t.setMade j (.connectionMade (c.packet j) :: t.made j)).setPhase j (.listening left)
    obtain ⟨es', s', hes, hr, hfree, hqueue⟩ := drain left u (Function.update_self _ _ _)
    have htimer : c.step s (.timer j) = some t := by
      simp only [Calls.step, hp]
      rfl
    have hopened : c.step t (.opened j) = some u := by
      simp only [Calls.step, ht]
      rfl
    refine ⟨.timer j :: .opened j :: es', s', ?_, ?_, hfree, hqueue⟩
    · simpa using hes
    · simpa [replay, htimer, hopened] using hr

lemma drain_holder {j : ι} (hj : (s.phase j).Holds) :
    ∃ es' s', (∀ e ∈ es', e = .timer j ∨ e = .opened j) ∧ replay c.step s es' = some s' ∧
      s'.free = s.free + 1 ∧ s'.queue = s.queue := by
  cases hp : s.phase j with
  | idle | queued | ended o => simp [hp, Phase.Holds] at hj
  | listening left => exact drain left s hp
  | opening left =>
    let t := (s.setMade j (.connectionMade (c.packet j) :: s.made j)).setPhase j (.listening left)
    have hopened : c.step s (.opened j) = some t := by
      simp only [Calls.step, hp]
      rfl
    obtain ⟨es', s', hes, hr, hfree, hqueue⟩ := drain (c := c) left t (Function.update_self _ _ _)
    refine ⟨.opened j :: es', s', ?_, by simpa [replay, hopened] using hr, hfree, hqueue⟩
    simpa using hes

lemma exists_free (h : Run c.step .init es s) :
    ∃ es' s', ∃ ended : List ι, ended.length = 1 - s.free ∧
      (∀ e ∈ es', ∃ j ∈ ended, e = .timer j ∨ e = .opened j) ∧
      replay c.step s es' = some s' ∧ s'.free = max s.free 1 ∧ s'.queue = s.queue := by
  by_cases hfree : 0 < s.free
  · exact ⟨[], s, [], by simp; omega, by simp, rfl, by omega, rfl⟩
  · have hlt : s.free < SNMP_MAX_CONCURRENT := by
      unfold SNMP_MAX_CONCURRENT
      omega
    obtain ⟨j, hj⟩ := (inv_run h).permits.exists_holder hlt
    obtain ⟨es', s', hes, hr, hfree', hqueue⟩ := drain_holder (c := c) hj
    refine ⟨es', s', [j], by simp; omega, fun e he => ⟨j, by simp, hes e he⟩, hr, by omega, hqueue⟩

lemma exists_acquired (h : Run c.step .init es s) (hfree : 0 < s.free) {j : ι} {rest : List ι}
    (hq : s.queue = j :: rest) :
    ∃ s', c.step s (.acquire j) = some s' ∧ s'.free = s.free - 1 ∧ s'.queue = rest := by
  have hp : s.phase j = .queued := ((inv_run h).waiting j).mp (by simp [hq])
  refine ⟨{ s.setPhase j (.opening (attempts (c.retries j) - 1)) with
    free := s.free - 1
    queue := s.queue.tail }, ?_, rfl, by rw [hq, List.tail_cons]⟩
  simp [Calls.step, hp, hfree, hq]

/-- Those before it take their turns first, and each needs a permit. -/
lemma gets_permit {i : ι} {after : List ι} : ∀ {before : List ι} {es : List (Event ι Data Err)}
    {s : Sender ι Data Err}, Run c.step .init es s → s.queue = before ++ i :: after →
    ∃ es' s' s'', ∃ ended : List ι, ended.length = before.length + 1 - s.free ∧
      (∀ e ∈ es', (∃ j ∈ ended, e = .timer j ∨ e = .opened j) ∨ ∃ j ∈ before, e = .acquire j) ∧
      replay c.step s es' = some s' ∧ c.step s' (.acquire i) = some s''
  | [], es, s, h, hq => by
    obtain ⟨es', s', ended, hlen, hes, hr, hfree, hqueue⟩ := exists_free h
    obtain ⟨s'', hs'', -⟩ :=
      exists_acquired (h.trans_replay hr) (by omega) (hqueue.trans hq)
    exact ⟨es', s', s'', ended, by simpa using hlen, fun e he => .inl (hes e he), hr, hs''⟩
  | j :: before, es, s, h, hq => by
    obtain ⟨es₁, s₁, ended₁, hlen₁, hes₁, hr₁, hfree₁, hqueue₁⟩ := exists_free h
    have h₁ := h.trans_replay hr₁
    obtain ⟨s₂, hs₂, hfree₂, hqueue₂⟩ := exists_acquired h₁ (by omega) (hqueue₁.trans hq)
    obtain ⟨es₃, s₃, s₄, ended₃, hlen₃, hes₃, hr₃, hs₄⟩ := gets_permit (h₁.snoc hs₂) hqueue₂
    refine ⟨es₁ ++ .acquire j :: es₃, s₃, s₄, ended₁ ++ ended₃, ?_, ?_, ?_, hs₄⟩
    · rw [List.length_append, List.length_cons, hlen₁, hlen₃]
      omega
    · intro e he
      rcases List.mem_append.mp he with he | he
      · obtain ⟨k, hk, hek⟩ := hes₁ e he
        exact .inl ⟨k, List.mem_append_left _ hk, hek⟩
      rcases List.mem_cons.mp he with rfl | he
      · exact .inr ⟨j, List.mem_cons_self, rfl⟩
      rcases hes₃ e he with ⟨k, hk, hek⟩ | ⟨k, hk, hek⟩
      · exact .inl ⟨k, List.mem_append_right _ hk, hek⟩
      · exact .inr ⟨k, List.mem_cons_of_mem _ hk, hek⟩
    · rw [replay_append, hr₁, Option.bind_some, replay, hs₂, Option.bind_some, hr₃]

/-- **A request that waits gets its turn.** Whatever happened before, a request with `n` others
before it in the queue gets a permit once those have had theirs, at the latest after the timers of
`n + 1` requests, and nothing has to arrive. -/
theorem waiting_gets_permit (h : Run c.step .init es s) {i : ι} (hq : s.phase i = .queued) :
    ∃ es' s' s'', ∃ ended : List ι, ended.length = s.queue.idxOf i + 1 - s.free ∧
      (∀ e ∈ es', (∃ j ∈ ended, e = .timer j ∨ e = .opened j) ∨
        ∃ j ∈ s.queue.take (s.queue.idxOf i), e = .acquire j) ∧
      replay c.step s es' = some s' ∧ c.step s' (.acquire i) = some s'' := by
  have hmem : i ∈ s.queue := ((inv_run h).waiting i).mpr hq
  obtain ⟨before, after, hsplit, hnot⟩ := List.eq_append_cons_of_mem hmem
  have hidx : s.queue.idxOf i = before.length := by
    rw [hsplit, List.idxOf_append_of_notMem hnot, List.idxOf_cons_self, Nat.add_zero]
  rw [hidx, show s.queue.take before.length = before by rw [hsplit, List.take_left]]
  exact gets_permit h hsplit

/-- Two requests hold the permits, and two wait. -/
theorem waiting_gets_permit_fourth :
    let events : List (Event ℕ ℕ Bool) :=
      [.call 0, .call 1, .call 2, .call 3, .acquire 0, .opened 0, .acquire 1]
    ∃ s es' s' s'', ∃ ended : List ℕ, replay threeRequests.step .init events = some s ∧
      ended.length = 2 ∧
      (∀ e ∈ es', (∃ j ∈ ended, e = .timer j ∨ e = .opened j) ∨ ∃ j ∈ [2], e = .acquire j) ∧
      replay threeRequests.step s es' = some s' ∧
      threeRequests.step s' (.acquire 3) = some s'' := by
  intro events
  obtain ⟨s, hs, h3, hqueue, hfree⟩ : ∃ s, replay threeRequests.step .init events = some s ∧
      s.phase 3 = .queued ∧ s.queue = [2, 3] ∧ s.free = 0 := ⟨_, rfl, rfl, rfl, rfl⟩
  obtain ⟨es', s', s'', ended, hlen, hes, h⟩ := waiting_gets_permit (run_of_replay hs) h3
  rw [hqueue, hfree] at hlen
  rw [hqueue] at hes
  exact ⟨s, es', s', s'', ended, hs, hlen, hes, h⟩

end Runs

end Model

end SophosFw.SnmpTransport
