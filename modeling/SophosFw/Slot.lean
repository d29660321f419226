import SophosFw.Runs
import Mathlib.Logic.Function.Basic
import Mathlib.Data.Sigma.Basic

/-!
Programs that talk to one server over one request slot, and any number of them running at
the same time.

A program that keeps to the slot takes it once, sends while it holds it, and gives it back
before it ends. The runs of such programs are serial: what the server ends up with and what
every program returns are what running them one after another gives, in the order in which
they got the slot. Requests that are given up, by a timeout or by a cancellation, are part of
what happened to a program; the serial run repeats them.
-/

namespace SophosFw.Slot

open SophosFw.Runs

/-- A program: `acquire` continues with `false` when it is cancelled while it waits. -/
inductive Prog (Req Out α : Type)
  | ret (a : α)
  | acquire (k : Bool → Prog Req Out α)
  | release (k : Prog Req Out α)
  | send (r : Req) (k : Out → Prog Req Out α)

section Programs

variable {Req Out α β : Type}

namespace Prog

def bind : Prog Req Out α → (α → Prog Req Out β) → Prog Req Out β
  | ret a, f => f a
  | acquire k, f => acquire fun b => (k b).bind f
  | release k, f => release (k.bind f)
  | send r k, f => send r fun o => (k o).bind f

instance : Monad (Prog Req Out) where
  pure := ret
  bind := bind

@[simp] lemma pure_eq (a : α) : (pure a : Prog Req Out α) = ret a := rfl
@[simp] lemma ret_bind (a : α) (f : α → Prog Req Out β) : ret a >>= f = f a := rfl
@[simp] lemma release_bind (k : Prog Req Out α) (f : α → Prog Req Out β) :
    release k >>= f = release (k >>= f) := rfl
@[simp] lemma send_bind (r : Req) (k : Out → Prog Req Out α) (f : α → Prog Req Out β) :
    send r k >>= f = send r fun o => k o >>= f := rfl

lemma bind_assoc (p : Prog Req Out α) (f : α → Prog Req Out β) {γ : Type}
    (g : β → Prog Req Out γ) : p >>= f >>= g = p >>= fun a => f a >>= g := by
  induction p with
  | ret a => rfl
  | acquire k ih => exact congrArg acquire (funext ih)
  | release k ih => exact congrArg release ih
  | send r k ih => exact congrArg (send r) (funext ih)

lemma bind_ret (p : Prog Req Out α) : p >>= ret = p := by
  induction p with
  | ret a => rfl
  | acquire k ih => exact congrArg acquire (funext ih)
  | release k ih => exact congrArg release ih
  | send r k ih => exact congrArg (send r) (funext ih)

instance : LawfulMonad (Prog Req Out) :=
  LawfulMonad.mk' _ (fun p => bind_ret p) (fun _ _ => rfl) fun p f g => bind_assoc p f g

/-- It sends requests and does not touch the slot. -/
inductive Sends : Prog Req Out α → Prop
  | ret (a : α) : Sends (.ret a)
  | send {r : Req} {k : Out → Prog Req Out α} (h : ∀ o, Sends (k o)) : Sends (.send r k)

/-- It holds the slot, and gives it back as the last thing it does. -/
inductive Held : Prog Req Out α → Prop
  | release (a : α) : Held (.release (.ret a))
  | send {r : Req} {k : Out → Prog Req Out α} (h : ∀ o, Held (k o)) : Held (.send r k)

/-- It takes the slot at most once, and does nothing without it. -/
inductive Disciplined : Prog Req Out α → Prop
  | ret (a : α) : Disciplined (.ret a)
  | acquire {k : Bool → Prog Req Out α} {a : α} (held : Held (k true))
      (refused : k false = .ret a) : Disciplined (.acquire k)

/-- However it goes, it only sends requests of this kind. -/
inductive Asks (P : Req → Prop) : Prog Req Out α → Prop
  | ret (a : α) : Asks P (.ret a)
  | acquire {k : Bool → Prog Req Out α} (h : ∀ b, Asks P (k b)) : Asks P (.acquire k)
  | release {k : Prog Req Out α} (h : Asks P k) : Asks P (.release k)
  | send {r : Req} {k : Out → Prog Req Out α} (hr : P r) (h : ∀ o, Asks P (k o)) :
      Asks P (.send r k)

lemma Asks.bind {P : Req → Prop} {p : Prog Req Out α} {f : α → Prog Req Out β} (hp : Asks P p)
    (hf : ∀ a, Asks P (f a)) : Asks P (p >>= f) := by
  induction hp with
  | ret a => exact hf a
  | acquire _ ih => exact .acquire ih
  | release _ ih => exact .release ih
  | send hr _ ih => exact .send hr ih

lemma Sends.bind {p : Prog Req Out α} {f : α → Prog Req Out β} (hp : Sends p)
    (hf : ∀ a, Sends (f a)) : Sends (p >>= f) := by
  induction hp with
  | ret a => exact hf a
  | send _ ih => exact .send ih

lemma Sends.held {p : Prog Req Out α} (hp : Sends p) (g : α → β) :
    Held (p >>= fun a => .release (.ret (g a))) := by
  induction hp with
  | ret a => exact .release (g a)
  | send _ ih => exact .send ih

lemma Held.bind {p : Prog Req Out α} (hp : Held p) {f : α → Prog Req Out β}
    (hf : ∀ a, ∃ b, f a = .ret b) : Held (p >>= f) := by
  induction hp with
  | release a =>
    obtain ⟨b, hb⟩ := hf a
    simpa [hb] using Held.release b
  | send _ ih => exact .send ih

lemma Disciplined.bind {p : Prog Req Out α} (hp : Disciplined p) {f : α → Prog Req Out β}
    (hf : ∀ a, ∃ b, f a = .ret b) : Disciplined (p >>= f) := by
  cases hp with
  | ret a =>
    obtain ⟨b, hb⟩ := hf a
    simpa [hb] using Disciplined.ret b
  | @acquire k a held refused =>
    obtain ⟨b, hb⟩ := hf a
    exact .acquire (held.bind hf) (by rw [refused]; exact hb)

end Prog

end Programs

/-- What happens to a program at one of its steps. -/
inductive Fate (Out : Type)
  | granted
  | refused
  | released
  | answered
  /-- It stops waiting for the answer and goes on with this outcome instead; the request took
  effect or never will. -/
  | abandoned (served : Bool) (o : Out)

section Solo

variable {S Req Out α : Type} (serve : S → Req → S × Out)

def follow : S × Prog Req Out α → Fate Out → Option (S × Prog Req Out α)
  | (s, .acquire k), .granted => some (s, k true)
  | (s, .acquire k), .refused => some (s, k false)
  | (s, .release k), .released => some (s, k)
  | (s, .send r k), .answered => some ((serve s r).1, k (serve s r).2)
  | (s, .send r k), .abandoned true o => some ((serve s r).1, k o)
  | (s, .send _ k), .abandoned false o => some (s, k o)
  | _, _ => none

/-- Running a program on its own, against a server in the given state. -/
def solo (p : Prog Req Out α) (fates : List (Fate Out)) (s : S) : Option (S × α) :=
  match fates.foldlM (follow serve) (s, p) with
  | some (t, .ret a) => some (t, a)
  | _ => none

lemma foldlM_follow_snoc {fates : List (Fate Out)} {x y z : S × Prog Req Out α}
    {fate : Fate Out} (h : fates.foldlM (follow serve) x = some y)
    (hf : follow serve y fate = some z) :
    (fates ++ [fate]).foldlM (follow serve) x = some z := by
  simp [List.foldlM_append, h, hf]

/-- How a program ends that gets the slot and all its answers, with its exchanges. -/
structure Ran (S Req Out α : Type) where
  server : S
  result : α
  trace : List (Req × Out)

def exec : Prog Req Out α → S → Ran S Req Out α
  | .ret a, s => ⟨s, a, []⟩
  | .acquire k, s => exec (k true) s
  | .release k, s => exec k s
  | .send r k, s =>
    let x := serve s r
    let y := exec (k x.2) x.1
    ⟨y.server, y.result, (r, x.2) :: y.trace⟩

lemma mem_trace_of_asks {P : Req → Prop} {p : Prog Req Out α} (hp : p.Asks P) (s : S) :
    ∀ x ∈ (exec serve p s).trace, P x.1 := by
  induction hp generalizing s with
  | ret a => exact fun x hx => nomatch hx
  | acquire _ ih => exact ih true s
  | release _ ih => exact ih s
  | send hr _ ih =>
    intro x hx
    rcases List.mem_cons.mp hx with rfl | hx
    · exact hr
    · exact ih _ _ x hx

lemma exec_bind {β : Type} (p : Prog Req Out α) (f : α → Prog Req Out β) (s : S) :
    exec serve (p >>= f) s =
      let x := exec serve p s
      let y := exec serve (f x.result) x.server
      ⟨y.server, y.result, x.trace ++ y.trace⟩ := by
  induction p generalizing s with
  | ret a => rfl
  | acquire k ih => exact ih true s
  | release k ih => exact ih s
  | send r k ih => simp only [Prog.send_bind, exec, ih, List.cons_append]

variable {ι : Type} {α : ι → Type} (progs : ∀ i, Prog Req Out (α i))

/-- Running programs one after another, each to its end. -/
def serial (fates : ι → List (Fate Out)) : List ι → S → Option (S × List (Sigma α))
  | [], s => some (s, [])
  | i :: rest, s =>
    (solo serve (progs i) (fates i) s).bind fun x =>
      (serial fates rest x.1).map fun y => (y.1, ⟨i, x.2⟩ :: y.2)

lemma serial_congr {fates fates' : ι → List (Fate Out)} {order : List ι} (s : S)
    (h : ∀ i ∈ order, fates i = fates' i) :
    serial serve progs fates order s = serial serve progs fates' order s := by
  induction order generalizing s with
  | nil => rfl
  | cons i rest ih =>
    simp only [serial, h i List.mem_cons_self]
    congr 1; funext x
    rw [ih x.1 fun j hj => h j (List.mem_cons_of_mem _ hj)]

lemma serial_snoc {fates : ι → List (Fate Out)} {order : List ι} {s t u : S}
    {results : List (Sigma α)} {i : ι} {a : α i}
    (h : serial serve progs fates order s = some (t, results))
    (hi : solo serve (progs i) (fates i) t = some (u, a)) :
    serial serve progs fates (order ++ [i]) s = some (u, results ++ [⟨i, a⟩]) := by
  induction order generalizing s results with
  | nil =>
    obtain ⟨rfl, rfl⟩ : s = t ∧ [] = results := by simpa [serial] using h
    simp [serial, hi]
  | cons j rest ih =>
    simp only [serial, Option.bind_eq_some_iff, Option.map_eq_some_iff] at h
    obtain ⟨x, hx, y, hy, he⟩ := h
    obtain ⟨rfl, rfl⟩ := Prod.mk.inj he
    simp [serial, hx, ih hy]

lemma serial_keys {fates : ι → List (Fate Out)} {order : List ι} {s t : S}
    {results : List (Sigma α)} (h : serial serve progs fates order s = some (t, results)) :
    results.map Sigma.fst = order := by
  induction order generalizing s results with
  | nil =>
    obtain ⟨-, rfl⟩ : s = t ∧ [] = results := by simpa [serial] using h
    rfl
  | cons j rest ih =>
    simp only [serial, Option.bind_eq_some_iff, Option.map_eq_some_iff] at h
    obtain ⟨x, -, y, hy, he⟩ := h
    obtain ⟨rfl, rfl⟩ := Prod.mk.inj he
    simp [ih hy]

end Solo

/-- The request of a program on its way: not sent, not yet with the server, or served. -/
inductive Flight (Out : Type)
  | idle
  | sent
  | served (o : Out)

structure Sys (S Req Out : Type) {ι : Type} (α : ι → Type) where
  prog : ∀ i, Prog Req Out (α i)
  flight : ι → Flight Out
  free : ℕ
  server : S
  /-- The requests the server got, oldest first. -/
  log : List (ι × Req)

inductive Label (ι Out : Type)
  | acquire (i : ι)
  | giveUp (i : ι)
  | release (i : ι)
  | send (i : ι)
  | serve (i : ι)
  | answer (i : ι)
  | abandon (i : ι) (served : Bool) (o : Out)

section Concurrent

variable {S Req Out ι : Type} {α : ι → Type}

namespace Label

/-- Whose step it is. -/
def op : Label ι Out → ι
  | acquire i | giveUp i | release i | send i | serve i | answer i | abandon i _ _ => i

/-- What the step means to the program itself. -/
def fate : Label ι Out → Option (Fate Out)
  | acquire _ => some .granted
  | giveUp _ => some .refused
  | release _ => some .released
  | answer _ => some .answered
  | abandon _ served o => some (.abandoned served o)
  | send _ | serve _ => none

/-- A step that happens as long as every request is answered and nobody is cancelled. -/
def regular : Label ι Out → Bool
  | giveUp _ | abandon _ _ _ => false
  | _ => true

end Label

variable [DecidableEq ι]

def Sys.init (progs : ∀ i, Prog Req Out (α i)) (server : S) : Sys S Req Out α where
  prog := progs
  flight := fun _ => .idle
  free := 1
  server := server
  log := []

def Sys.setProg (s : Sys S Req Out α) (i : ι) (p : Prog Req Out (α i)) : Sys S Req Out α :=
  { s with prog := Function.update s.prog i p }

def Sys.setFlight (s : Sys S Req Out α) (i : ι) (x : Flight Out) : Sys S Req Out α :=
  { s with flight := Function.update s.flight i x }

variable (serve : S → Req → S × Out)

def step (s : Sys S Req Out α) : Label ι Out → Option (Sys S Req Out α)
  | .acquire i =>
    match s.prog i with
    | .acquire k =>
      if 0 < s.free then some { s.setProg i (k true) with free := s.free - 1 } else none
    | _ => none
  | .giveUp i =>
    match s.prog i with
    | .acquire k => some (s.setProg i (k false))
    | _ => none
  | .release i =>
    match s.prog i with
    | .release k => some { s.setProg i k with free := s.free + 1 }
    | _ => none
  | .send i =>
    match s.prog i, s.flight i with
    | .send _ _, .idle => some (s.setFlight i .sent)
    | _, _ => none
  | .serve i =>
    match s.prog i, s.flight i with
    | .send r _, .sent => some
      { s.setFlight i (.served (serve s.server r).2) with
        server := (serve s.server r).1
        log := s.log ++ [(i, r)] }
    | _, _ => none
  | .answer i =>
    match s.prog i, s.flight i with
    | .send _ k, .served o => some ((s.setFlight i .idle).setProg i (k o))
    | _, _ => none
  | .abandon i true o =>
    match s.prog i, s.flight i with
    | .send _ k, .served _ => some ((s.setFlight i .idle).setProg i (k o))
    | _, _ => none
  | .abandon i false o =>
    match s.prog i, s.flight i with
    | .send _ k, .sent => some ((s.setFlight i .idle).setProg i (k o))
    | _, _ => none

/-- What a step can do. -/
inductive Does (s : Sys S Req Out α) : Label ι Out → Sys S Req Out α → Prop
  | acquire {i : ι} {k : Bool → Prog Req Out (α i)} (hp : s.prog i = .acquire k)
      (hfree : 0 < s.free) :
      Does s (.acquire i) { s.setProg i (k true) with free := s.free - 1 }
  | giveUp {i : ι} {k : Bool → Prog Req Out (α i)} (hp : s.prog i = .acquire k) :
      Does s (.giveUp i) (s.setProg i (k false))
  | release {i : ι} {k : Prog Req Out (α i)} (hp : s.prog i = .release k) :
      Does s (.release i) { s.setProg i k with free := s.free + 1 }
  | send {i : ι} {r : Req} {k : Out → Prog Req Out (α i)} (hp : s.prog i = .send r k)
      (hx : s.flight i = .idle) : Does s (.send i) (s.setFlight i .sent)
  | serve {i : ι} {r : Req} {k : Out → Prog Req Out (α i)} (hp : s.prog i = .send r k)
      (hx : s.flight i = .sent) :
      Does s (.serve i)
        { s.setFlight i (.served (serve s.server r).2) with
          server := (serve s.server r).1
          log := s.log ++ [(i, r)] }
  | answer {i : ι} {r : Req} {k : Out → Prog Req Out (α i)} {o : Out}
      (hp : s.prog i = .send r k) (hx : s.flight i = .served o) :
      Does s (.answer i) ((s.setFlight i .idle).setProg i (k o))
  | abandon {i : ι} {r : Req} {k : Out → Prog Req Out (α i)} {served : Bool} (o : Out)
      (hp : s.prog i = .send r k)
      (hx : (served = true ∧ ∃ o', s.flight i = .served o') ∨
        (served = false ∧ s.flight i = .sent)) :
      Does s (.abandon i served o) ((s.setFlight i .idle).setProg i (k o))

variable {serve} in
lemma step_does {s s' : Sys S Req Out α} {l : Label ι Out} (h : step serve s l = some s') :
    Does serve s l s' := by
  cases l with
  | acquire i =>
    simp only [step] at h
    split at h
    · next k hp =>
      obtain ⟨hf, rfl⟩ := Option.ite_none_right_eq_some.mp h |>.imp id Option.some.inj
      exact .acquire hp hf
    · cases h
  | giveUp i =>
    simp only [step] at h
    split at h <;> cases h
    exact .giveUp ‹_›
  | release i =>
    simp only [step] at h
    split at h <;> cases h
    exact .release ‹_›
  | send i =>
    simp only [step] at h
    split at h <;> cases h
    exact .send ‹_› ‹_›
  | serve i =>
    simp only [step] at h
    split at h <;> cases h
    exact .serve ‹_› ‹_›
  | answer i =>
    simp only [step] at h
    split at h <;> cases h
    exact .answer ‹_› ‹_›
  | abandon i served o =>
    cases served <;> simp only [step] at h <;> split at h <;> cases h
    · exact .abandon o ‹_› (Or.inr ⟨rfl, ‹_›⟩)
    · exact .abandon o ‹_› (Or.inl ⟨rfl, _, ‹_›⟩)

/-! ### What a run keeps -/

/-- The programs that got the slot, in the order in which they got it. -/
def order (es : List (Label ι Out)) : List ι :=
  es.filterMap fun
    | .acquire i => some i
    | _ => none

/-- What has happened to a program. -/
def fates (es : List (Label ι Out)) (i : ι) : List (Fate Out) :=
  es.filterMap fun l => if l.op = i then l.fate else none

lemma fates_snoc_self (es : List (Label ι Out)) (l : Label ι Out) :
    fates (es ++ [l]) l.op = fates es l.op ++ l.fate.toList := by
  rcases hf : l.fate with _ | x <;> simp [fates, List.filterMap_append, hf]

lemma fates_snoc_of_ne (es : List (Label ι Out)) {l : Label ι Out} {i : ι} (h : i ≠ l.op) :
    fates (es ++ [l]) i = fates es i := by
  simp [fates, List.filterMap_append, h.symm]

omit [DecidableEq ι] in
lemma order_snoc (es : List (Label ι Out)) (l : Label ι Out) :
    order (es ++ [l]) = order es ++ (match l with | .acquire i => [i] | _ => []) := by
  cases l <;> simp [order, List.filterMap_append]

variable (progs : ∀ i, Prog Req Out (α i)) (s₀ : S)

/-- The programs in `done` have ended, with the results of running them one after another,
which takes the server to `t`. -/
def Settled (es : List (Label ι Out)) (s : Sys S Req Out α) (done : List ι) (t : S) : Prop :=
  ∃ results, serial serve progs (fates es) done s₀ = some (t, results) ∧
    ∀ x ∈ results, s.prog x.1 = .ret x.2

structure Free (es : List (Label ι Out)) (s : Sys S Req Out α) : Prop where
  free : s.free = 1
  idle : ∀ i, s.flight i = .idle
  settled : Settled serve progs s₀ es s (order es) s.server

/-- The server behind the request of the program that holds the slot: it has served the
request or not. -/
def Wire (s : Sys S Req Out α) (i : ι) (u : S) : Prop :=
  match s.flight i with
  | .idle => s.server = u
  | .sent => s.server = u ∧ ∃ r k, s.prog i = .send r k
  | .served o => ∃ r k, s.prog i = .send r k ∧ serve u r = (s.server, o)

/-- Program `i` holds the slot. It has got as far as it gets on its own with what happened
to it, starting where the programs before it left the server. -/
structure Busy (es : List (Label ι Out)) (s : Sys S Req Out α) (i : ι) : Prop where
  free : s.free = 0
  idle : ∀ j, j ≠ i → s.flight j = .idle
  held : (s.prog i).Held
  path : ∃ done t u, order es = done ++ [i] ∧ Settled serve progs s₀ es s done t ∧
    (fates es i).foldlM (follow serve) (t, progs i) = some (u, s.prog i) ∧ Wire serve s i u

/-- A program that never got the slot has not begun, or was cancelled while it waited. -/
def Outside (es : List (Label ι Out)) (s : Sys S Req Out α) (i : ι) : Prop :=
  s.flight i = .idle ∧ ((fates es i = [] ∧ s.prog i = progs i) ∨
    ∃ a, s.prog i = .ret a ∧ ∀ t, solo serve (progs i) (fates es i) t = some (t, a))

structure Inv (es : List (Label ι Out)) (s : Sys S Req Out α) : Prop where
  outside : ∀ i ∉ order es, Outside serve progs es s i
  nodup : (order es).Nodup
  log : s.log = (order es).flatMap fun i => s.log.filter fun x => x.1 = i
  slot : Free serve progs s₀ es s ∨ ∃ i, Busy serve progs s₀ es s i

section Lemmas

variable {serve progs s₀} {es : List (Label ι Out)} {s s' : Sys S Req Out α}

lemma Settled.ended {done : List ι} {t : S} (h : Settled serve progs s₀ es s done t) {i : ι}
    (hi : i ∈ done) : ∃ a, s.prog i = .ret a := by
  obtain ⟨results, hs, hr⟩ := h
  rw [← serial_keys serve progs hs] at hi
  obtain ⟨x, hx, rfl⟩ := List.mem_map.mp hi
  exact ⟨x.2, hr x hx⟩

lemma Settled.step {done : List ι} {t : S} (h : Settled serve progs s₀ es s done t)
    {l : Label ι Out} (hl : l.op ∉ done) (hp : ∀ j, j ≠ l.op → s'.prog j = s.prog j) :
    Settled serve progs s₀ (es ++ [l]) s' done t := by
  obtain ⟨results, hs, hr⟩ := h
  have hne : ∀ i ∈ done, i ≠ l.op := fun i hi e => hl (e ▸ hi)
  refine ⟨results, ?_, fun x hx => ?_⟩
  · rw [← hs]
    exact serial_congr serve progs s₀ fun i hi => fates_snoc_of_ne es (hne i hi)
  · have hx' : x.1 ∈ done := by
      rw [← serial_keys serve progs hs]
      exact List.mem_map_of_mem hx
    rw [hp _ (hne _ hx'), hr x hx]

lemma Settled.snoc {done : List ι} {t u : S} {i : ι} {a : α i}
    (h : Settled serve progs s₀ es s done t)
    (hi : solo serve (progs i) (fates es i) t = some (u, a)) (hp : s.prog i = .ret a) :
    Settled serve progs s₀ es s (done ++ [i]) u := by
  obtain ⟨results, hs, hr⟩ := h
  refine ⟨_, serial_snoc serve progs hs hi, fun x hx => ?_⟩
  rcases List.mem_append.mp hx with hx | hx
  · exact hr x hx
  · obtain rfl := List.mem_singleton.mp hx
    exact hp

variable (hd : ∀ i, (progs i).Disciplined)
include hd

lemma Inv.waiting (hi : Inv serve progs s₀ es s) {i : ι} {k : Bool → Prog Req Out (α i)}
    (hp : s.prog i = .acquire k) :
    i ∉ order es ∧ fates es i = [] ∧ progs i = .acquire k ∧ (k true).Held ∧
      ∃ a, k false = .ret a := by
  have hout : i ∉ order es := by
    intro hmem
    rcases hi.slot with hf | ⟨j, hb⟩
    · obtain ⟨a, ha⟩ := hf.settled.ended hmem
      rw [hp] at ha; cases ha
    · obtain ⟨done, t, u, ho, hs, -, -⟩ := hb.path
      rw [ho, List.mem_append, List.mem_singleton] at hmem
      rcases hmem with hmem | rfl
      · obtain ⟨a, ha⟩ := hs.ended hmem
        rw [hp] at ha; cases ha
      · have := hb.held
        rw [hp] at this; cases this
  obtain ⟨-, ⟨hf, hpr⟩ | ⟨a, ha, -⟩⟩ := hi.outside i hout
  · rw [hp] at hpr
    have hdi := hd i
    rw [← hpr] at hdi
    cases hdi with
    | acquire held refused => exact ⟨hout, hf, hpr.symm, held, _, refused⟩
  · rw [hp] at ha; cases ha

lemma Inv.holding (hi : Inv serve progs s₀ es s) {i : ι}
    (hp : (∃ k, s.prog i = .release k) ∨ ∃ r k, s.prog i = .send r k) :
    Busy serve progs s₀ es s i := by
  have hret : ¬ ∃ a, s.prog i = .ret a := by
    rintro ⟨a, ha⟩
    rcases hp with ⟨k, hp⟩ | ⟨r, k, hp⟩ <;> rw [hp] at ha <;> cases ha
  have hmem : i ∈ order es := by
    by_contra hout
    obtain ⟨-, ⟨-, hpr⟩ | ⟨a, ha, -⟩⟩ := hi.outside i hout
    · have hdi := hd i
      rw [← hpr] at hdi
      rcases hp with ⟨k, hp⟩ | ⟨r, k, hp⟩ <;> rw [hp] at hdi <;> cases hdi
    · exact hret ⟨a, ha⟩
  rcases hi.slot with hf | ⟨j, hb⟩
  · exact absurd (hf.settled.ended hmem) hret
  · obtain ⟨done, t, u, ho, hs, -, -⟩ := hb.path
    rw [ho, List.mem_append, List.mem_singleton] at hmem
    rcases hmem with hmem | rfl
    · exact absurd (hs.ended hmem) hret
    · exact hb

omit hd

lemma Outside.step {i : ι} (h : Outside serve progs es s i) {l : Label ι Out} (hl : i ≠ l.op)
    (hp : s'.prog i = s.prog i) (hx : s'.flight i = s.flight i) :
    Outside serve progs (es ++ [l]) s' i := by
  rw [Outside, hp, hx, fates_snoc_of_ne es hl]
  exact h

lemma Inv.log_mem (hi : Inv serve progs s₀ es s) {x : ι × Req} (hx : x ∈ s.log) :
    x.1 ∈ order es := by
  rw [hi.log, List.mem_flatMap] at hx
  obtain ⟨i, hmem, hx⟩ := hx
  have he : x.1 = i := of_decide_eq_true (List.mem_filter.mp hx).2
  exact he ▸ hmem

lemma log_append {done : List ι} {i : ι} {log rs : List (ι × Req)}
    (hn : (done ++ [i]).Nodup) (hrs : ∀ x ∈ rs, x.1 = i)
    (h : log = (done ++ [i]).flatMap fun j => log.filter fun x => x.1 = j) :
    log ++ rs = (done ++ [i]).flatMap fun j => (log ++ rs).filter fun x => x.1 = j := by
  have hdone : (done.flatMap fun j => (log ++ rs).filter fun x => x.1 = j) =
      done.flatMap fun j => log.filter fun x => x.1 = j := by
    refine List.flatMap_congr fun j hj => ?_
    have hji : j ≠ i := fun e => by
      rw [List.nodup_append] at hn
      exact hn.2.2 j hj i (by simp) e
    rw [List.filter_append]
    have : (rs.filter fun x => x.1 = j) = [] :=
      List.filter_eq_nil_iff.mpr fun x hx => by simpa [hrs x hx] using hji.symm
    simp [this]
  have hlast : (rs.filter fun x => x.1 = i) = rs :=
    List.filter_eq_self.mpr fun x hx => by simpa using hrs x hx
  rw [List.flatMap_append, List.flatMap_singleton, hdone, List.filter_append, hlast,
    ← List.append_assoc]
  rw [List.flatMap_append, List.flatMap_singleton] at h
  rw [← h]

lemma Inv.busy (hi : Inv serve progs s₀ es s) {l : Label ι Out}
    (hb : Busy serve progs s₀ es s l.op) (ho : order (es ++ [l]) = order es)
    (hfree : s'.free = s.free) (hprog : ∀ j, j ≠ l.op → s'.prog j = s.prog j)
    (hflight : ∀ j, j ≠ l.op → s'.flight j = s.flight j)
    (hlog : ∃ rs, s'.log = s.log ++ rs ∧ ∀ x ∈ rs, x.1 = l.op) (hheld : (s'.prog l.op).Held)
    (hpath : ∀ x u, (fates es l.op).foldlM (follow serve) x = some (u, s.prog l.op) →
      Wire serve s l.op u →
      ∃ u', (fates es l.op ++ l.fate.toList).foldlM (follow serve) x = some (u', s'.prog l.op) ∧
        Wire serve s' l.op u') : Inv serve progs s₀ (es ++ [l]) s' := by
  obtain ⟨done, t, u, hord, hs, hpa, hw⟩ := hb.path
  have hn := hi.nodup
  rw [hord, List.nodup_append] at hn
  have hnot : l.op ∉ done := fun hmem => hn.2.2 _ hmem _ (by simp) rfl
  refine ⟨fun j hj => ?_, ho ▸ hi.nodup, ?_, Or.inr ⟨l.op, hfree.trans hb.free, fun j hj => ?_,
    hheld, done, t, ?_⟩⟩
  · rw [ho] at hj
    have hjl : j ≠ l.op := by
      rintro rfl
      exact hj (by simp [hord])
    exact (hi.outside j hj).step hjl (hprog j hjl) (hflight j hjl)
  · obtain ⟨rs, hl, hrs⟩ := hlog
    rw [ho, hl, hord]
    exact log_append (hord ▸ hi.nodup) hrs (hord ▸ hi.log)
  · rw [hflight j hj, hb.idle j hj]
  · obtain ⟨u', h1, h2⟩ := hpath _ u hpa hw
    exact ⟨u', ho.trans hord, hs.step hnot hprog, by rw [fates_snoc_self]; exact h1, h2⟩

lemma inv_init : Inv serve progs s₀ [] (Sys.init progs s₀) where
  outside i _ := ⟨rfl, Or.inl ⟨rfl, rfl⟩⟩
  nodup := List.nodup_nil
  log := rfl
  slot := Or.inl ⟨rfl, fun _ => rfl, [], rfl, by simp⟩

include hd

lemma Inv.acquire (hi : Inv serve progs s₀ es s) {i : ι} {k : Bool → Prog Req Out (α i)}
    (hp : s.prog i = .acquire k) (hfree : 0 < s.free) :
    Inv serve progs s₀ (es ++ [.acquire i]) { s.setProg i (k true) with free := s.free - 1 } := by
  obtain ⟨hout, hfates, hpi, hheld, -⟩ := hi.waiting hd hp
  rcases hi.slot with hf | ⟨j, hb⟩
  swap
  · have := hb.free
    omega
  have hprog : ∀ j, j ≠ i → Function.update s.prog i (k true) j = s.prog j :=
    fun j hj => Function.update_of_ne hj _ _
  refine ⟨fun j hj => ?_, ?_, ?_, Or.inr ⟨i, ?_, fun j _ => hf.idle j, ?_, order es, s.server,
    s.server, order_snoc es _, hf.settled.step hout hprog, ?_, ?_⟩⟩
  · simp only [order_snoc, List.mem_append, List.mem_singleton, not_or] at hj
    exact (hi.outside j hj.1).step hj.2 (hprog j hj.2) rfl
  · rw [order_snoc]
    refine List.nodup_append.mpr ⟨hi.nodup, by simp, fun j hj j' hj' e => hout ?_⟩
    rwa [← List.mem_singleton.mp hj', ← e]
  · -- it has not sent anything yet
    have hnone : (s.log.filter fun x => x.1 = i) = [] :=
      List.filter_eq_nil_iff.mpr fun x hx => by
        simpa using fun e : x.1 = i => hout (e ▸ hi.log_mem hx)
    have hlog := hi.log
    simp only [Sys.setProg, order_snoc, List.flatMap_append, List.flatMap_singleton, hnone,
      List.append_nil]
    exact hlog
  · simp [hf.free]
  · simpa [Sys.setProg] using hheld
  · have := fates_snoc_self es (.acquire i)
    simp only [Label.op, Label.fate, hfates] at this
    simp [this, hpi, follow, Sys.setProg]
  · simp [Wire, Sys.setProg, hf.idle i]

/-- A program is cancelled while it waits for the slot. -/
lemma Inv.giveUp (hi : Inv serve progs s₀ es s) {i : ι} {k : Bool → Prog Req Out (α i)}
    (hp : s.prog i = .acquire k) :
    Inv serve progs s₀ (es ++ [.giveUp i]) (s.setProg i (k false)) := by
  obtain ⟨hout, hfates, hpi, -, a, ha⟩ := hi.waiting hd hp
  have hprog : ∀ j, j ≠ i → Function.update s.prog i (k false) j = s.prog j :=
    fun j hj => Function.update_of_ne hj _ _
  have hfates' : fates (es ++ [.giveUp i]) i = [.refused] := by
    have := fates_snoc_self es (.giveUp i)
    rwa [Label.op, hfates] at this
  have ho : order (es ++ [.giveUp i]) = order es := by simp [order_snoc]
  refine ⟨fun j hj => ?_, ho ▸ hi.nodup, by rw [ho]; exact hi.log, ?_⟩
  · rw [ho] at hj
    by_cases hji : j = i
    · subst hji
      refine ⟨(hi.outside j hj).1, Or.inr ⟨a, by simp [Sys.setProg, ha], fun t => ?_⟩⟩
      simp [hfates', solo, hpi, follow, ha]
    · exact (hi.outside j hj).step hji (hprog j hji) rfl
  · rcases hi.slot with hf | ⟨j, hb⟩
    · refine Or.inl ⟨hf.free, hf.idle, ?_⟩
      rw [ho]
      exact hf.settled.step hout hprog
    · obtain ⟨done, t, u, hord, hs, hpa, hw⟩ := hb.path
      have hji : j ≠ i := by
        rintro rfl
        exact hout (by simp [hord])
      have hp' := hprog j hji
      refine Or.inr ⟨j, hb.free, hb.idle, ?_, done, t, u, ho.trans hord, ?_, ?_, ?_⟩
      · simpa [Sys.setProg, hp'] using hb.held
      · exact hs.step (fun hmem => hout (by simp [hord, show i ∈ done from hmem])) hprog
      · rw [fates_snoc_of_ne es (show j ≠ (Label.giveUp i : Label ι Out).op from hji)]
        simpa [Sys.setProg, hp'] using hpa
      · simpa [Wire, Sys.setProg, hp'] using hw

lemma Inv.release (hi : Inv serve progs s₀ es s) {i : ι} {k : Prog Req Out (α i)}
    (hp : s.prog i = .release k) :
    Inv serve progs s₀ (es ++ [.release i]) { s.setProg i k with free := s.free + 1 } := by
  have hb := hi.holding hd (Or.inl ⟨k, hp⟩)
  obtain ⟨done, t, u, hord, hs, hpa, hw⟩ := hb.path
  obtain ⟨a, rfl⟩ : ∃ a, k = .ret a := by
    have := hb.held
    rw [hp] at this
    cases this
    exact ⟨_, rfl⟩
  -- its last request is answered, or it would still be waiting
  obtain ⟨hx, rfl⟩ : s.flight i = .idle ∧ s.server = u := by
    unfold Wire at hw
    split at hw
    · exact ⟨‹_›, hw⟩
    · obtain ⟨-, r, k, hsend⟩ := hw
      rw [hp] at hsend
      cases hsend
    · obtain ⟨r, k, hsend, -⟩ := hw
      rw [hp] at hsend
      cases hsend
  have ho : order (es ++ [.release i]) = order es := by simp [order_snoc]
  have hprog : ∀ j, j ≠ i → Function.update s.prog i (.ret a) j = s.prog j :=
    fun j hj => Function.update_of_ne hj _ _
  have hnot : i ∉ done := fun hmem => by
    have hn := hi.nodup
    rw [hord, List.nodup_append] at hn
    exact hn.2.2 _ hmem _ (by simp) rfl
  refine ⟨fun j hj => ?_, ho ▸ hi.nodup, by rw [ho]; exact hi.log, Or.inl ⟨?_, fun j => ?_, ?_⟩⟩
  · rw [ho] at hj
    have hji : j ≠ i := by
      rintro rfl
      exact hj (by simp [hord])
    exact (hi.outside j hj).step hji (hprog j hji) rfl
  · simp [hb.free]
  · by_cases hji : j = i
    · exact hji ▸ hx
    · exact hb.idle j hji
  · have hsolo : solo serve (progs i) (fates (es ++ [.release i]) i) t = some (s.server, a) := by
      have hf := fates_snoc_self es (.release i)
      rw [Label.op] at hf
      have hpath := foldlM_follow_snoc serve hpa
        (show follow serve (s.server, s.prog i) .released = some (s.server, .ret a) by
          simp [hp, follow])
      simp [solo, hf, Label.fate, hpath]
    rw [ho, hord]
    refine Settled.snoc (hs.step ?_ ?_) hsolo (by simp [Sys.setProg])
    · exact hnot
    · exact hprog

lemma Inv.resume (hi : Inv serve progs s₀ es s) {l : Label ι Out} {r : Req}
    {k : Out → Prog Req Out (α l.op)} (hp : s.prog l.op = .send r k) (o : Out)
    (ho : order (es ++ [l]) = order es)
    (hfollow : ∀ u, Wire serve s l.op u →
      ∃ f, l.fate = some f ∧ follow serve (u, s.prog l.op) f = some (s.server, k o)) :
    Inv serve progs s₀ (es ++ [l]) ((s.setFlight l.op .idle).setProg l.op (k o)) := by
  have hb := hi.holding hd (Or.inr ⟨r, k, hp⟩)
  have hheld : (k o).Held := by
    have := hb.held
    rw [hp] at this
    cases this with
    | send h => exact h o
  refine hi.busy hb ho rfl (fun j hj => Function.update_of_ne hj _ _)
    (fun j hj => Function.update_of_ne hj _ _) ⟨[], by simp [Sys.setFlight, Sys.setProg]⟩
    (by simpa [Sys.setProg] using hheld) fun x u hpa hw => ⟨s.server, ?_, ?_⟩
  · obtain ⟨f, hf, hfo⟩ := hfollow u hw
    rw [hf, Option.toList_some]
    refine foldlM_follow_snoc serve hpa ?_
    simpa [Sys.setFlight, Sys.setProg] using hfo
  · simp [Wire, Sys.setFlight, Sys.setProg]

lemma Inv.step (hi : Inv serve progs s₀ es s) {l : Label ι Out} (h : Does serve s l s') :
    Inv serve progs s₀ (es ++ [l]) s' := by
  cases h with
  | acquire hp hfree => exact hi.acquire hd hp hfree
  | giveUp hp => exact hi.giveUp hd hp
  | release hp => exact hi.release hd hp
  | @send i r k hp hx =>
    refine hi.busy (hi.holding hd (Or.inr ⟨r, k, hp⟩)) (by simp [order_snoc]) rfl
      (fun _ _ => rfl) (fun j hj => Function.update_of_ne hj _ _) ⟨[], by simp [Sys.setFlight]⟩
      (hi.holding hd (Or.inr ⟨r, k, hp⟩)).held fun x u hpa hw =>
        ⟨u, by simpa [Label.fate, Sys.setFlight] using hpa, ?_⟩
    have hserver : s.server = u := by simpa [Wire, hx, Label.op] using hw
    simpa [Wire, Sys.setFlight, Label.op, hp] using hserver
  | @serve i r k hp hx =>
    refine hi.busy (hi.holding hd (Or.inr ⟨r, k, hp⟩)) (by simp [order_snoc]) rfl
      (fun _ _ => rfl) (fun j hj => Function.update_of_ne hj _ _)
      ⟨[(i, r)], rfl, by simp [Label.op]⟩ (hi.holding hd (Or.inr ⟨r, k, hp⟩)).held
      fun x u hpa hw => ⟨u, by simpa [Label.fate, Sys.setFlight] using hpa, ?_⟩
    obtain rfl : s.server = u := by simpa [Wire, hx, hp, Label.op] using hw
    simp [Wire, Sys.setFlight, Label.op, hp]
  | @answer i r k o hp hx =>
    refine Inv.resume hd hi (l := .answer i) hp o (by simp [order_snoc]) fun u hw => ⟨_, rfl, ?_⟩
    obtain ⟨r', k', hp', hserve⟩ : ∃ r k, s.prog i = .send r k ∧ serve u r = (s.server, o) := by
      simpa [Wire, hx, Label.op] using hw
    obtain ⟨rfl, rfl⟩ : r = r' ∧ k = k' := by simpa [hp] using hp'
    simp [follow, hp, hserve, Label.op]
  | @abandon i r k served o hp hx =>
    refine Inv.resume hd hi (l := .abandon i served o) hp o (by simp [order_snoc]) fun u hw =>
      ⟨_, rfl, ?_⟩
    rcases hx with ⟨rfl, o', hx⟩ | ⟨rfl, hx⟩
    · obtain ⟨r', k', hp', hserve⟩ :
          ∃ r k, s.prog i = .send r k ∧ serve u r = (s.server, o') := by
        simpa [Wire, hx, Label.op] using hw
      obtain ⟨rfl, rfl⟩ : r = r' ∧ k = k' := by simpa [hp] using hp'
      simp [follow, hp, hserve, Label.op]
    · obtain rfl : s.server = u := by simpa [Wire, hx, hp, Label.op] using hw
      simp [follow, hp, Label.op]

end Lemmas

section Runs

variable {serve progs s₀} {es : List (Label ι Out)} {s : Sys S Req Out α}
  (hd : ∀ i, (progs i).Disciplined)
include hd

theorem inv_run (h : Run (step serve) (Sys.init progs s₀) es s) : Inv serve progs s₀ es s :=
  h.invariant inv_init fun _ _ _ _ _ hi hs => hi.step hd (step_does hs)

/-- **One request at a time.** -/
theorem one_in_flight (h : Run (step serve) (Sys.init progs s₀) es s) {i j : ι}
    (hi : s.flight i ≠ .idle) (hj : s.flight j ≠ .idle) : i = j := by
  rcases (inv_run hd h).slot with hf | ⟨m, hb⟩
  · exact absurd (hf.idle i) hi
  · have him : i = m := by_contra fun hne => hi (hb.idle i hne)
    have hjm : j = m := by_contra fun hne => hj (hb.idle j hne)
    rw [him, hjm]

/-- **Nobody waits for the slot while holding it.** -/
theorem not_granted_of_waiting (h : Run (step serve) (Sys.init progs s₀) es s) {i : ι}
    {k : Bool → Prog Req Out (α i)} (hp : s.prog i = .acquire k) : .granted ∉ fates es i := by
  rw [((inv_run hd h).waiting hd hp).2.1]
  exact List.not_mem_nil

/-- **No deadlock.** While some program has not ended, one of them can go on. -/
theorem progress (h : Run (step serve) (Sys.init progs s₀) es s)
    (hun : ∃ i, ∀ a, s.prog i ≠ .ret a) :
    ∃ l s', l.regular = true ∧ step serve s l = some s' := by
  obtain ⟨i, hun⟩ := hun
  have hi := inv_run hd h
  rcases hi.slot with hf | ⟨j, hb⟩
  · -- the slot is free, and who has not ended waits for it
    have hout : i ∉ order es := fun hmem => by
      obtain ⟨a, ha⟩ := hf.settled.ended hmem
      exact hun a ha
    obtain ⟨-, ⟨-, hp⟩ | ⟨a, ha, -⟩⟩ := hi.outside i hout
    · have hdi := hd i
      rw [← hp] at hdi
      rcases hq : s.prog i with a | k | k | ⟨r, k⟩ <;> rw [hq] at hdi <;> cases hdi
      · exact absurd hq (hun a)
      · exact ⟨.acquire i, _, rfl, by simp only [step, hq, hf.free]; rfl⟩
    · exact absurd ha (hun a)
  · have hheld := hb.held
    rcases hq : s.prog j with a | k | k | ⟨r, k⟩ <;> rw [hq] at hheld <;> cases hheld
    · exact ⟨.release j, _, rfl, by simp only [step, hq]; rfl⟩
    · rcases hx : s.flight j with _ | _ | o
      · exact ⟨.send j, _, rfl, by simp only [step, hq, hx]; rfl⟩
      · exact ⟨.serve j, _, rfl, by simp only [step, hq, hx]; rfl⟩
      · exact ⟨.answer j, _, rfl, by simp only [step, hq, hx]; rfl⟩

/-- **Serializability.** When all programs have ended, the server is in the state, and every
program that got the slot has the result, that running these programs one after another
gives, in the order in which they got the slot. A program that never got it returns what it
returns on its own in any state, and leaves the state alone. -/
theorem serializable (h : Run (step serve) (Sys.init progs s₀) es s) {res : ∀ i, α i}
    (hend : ∀ i, s.prog i = .ret (res i)) :
    serial serve progs (fates es) (order es) s₀ =
      some (s.server, (order es).map fun i => ⟨i, res i⟩) ∧
    ∀ i ∉ order es, ∀ t, solo serve (progs i) (fates es i) t = some (t, res i) := by
  have hi := inv_run hd h
  have hf : Free serve progs s₀ es s := by
    rcases hi.slot with hf | ⟨j, hb⟩
    · exact hf
    · have hheld := hb.held
      rw [hend j] at hheld
      cases hheld
  constructor
  · obtain ⟨results, hs, hr⟩ := hf.settled
    have hkeys := serial_keys serve progs hs
    rw [hs, ← hkeys, List.map_map]
    congr 2
    refine (List.map_id results).symm.trans (List.map_congr_left fun x hx => ?_)
    have he : res x.1 = x.2 := Prog.ret.inj ((hend x.1).symm.trans (hr x hx))
    simp [he]
  · intro i hout t
    obtain ⟨-, ⟨hf, hp⟩ | ⟨a, ha, hsolo⟩⟩ := hi.outside i hout
    · rw [hf]
      simp [solo, ← hp, hend i]
    · rw [hend i] at ha
      cases ha
      exact hsolo t

end Runs

/-- **Programs send what they may.** However programs interleave, every request the server got is
of the kind its program sends. -/
theorem asks_run {P : ι → Req → Prop} (hp : ∀ i, (progs i).Asks (P i)) {es : List (Label ι Out)}
    {s : Sys S Req Out α} (h : Run (step serve) (Sys.init progs s₀) es s) :
    (∀ i, (s.prog i).Asks (P i)) ∧ ∀ x ∈ s.log, P x.1 x.2 := by
  have update {s : Sys S Req Out α} (hs : ∀ i, (s.prog i).Asks (P i)) {i : ι}
      {p : Prog Req Out (α i)} (hi : p.Asks (P i)) :
      ∀ j, ((s.setProg i p).prog j).Asks (P j) := by
    intro j
    by_cases hj : j = i
    · subst hj
      simpa [Sys.setProg] using hi
    · simpa [Sys.setProg, hj] using hs j
  refine h.invariant (I := fun _ s => (∀ i, (s.prog i).Asks (P i)) ∧ ∀ x ∈ s.log, P x.1 x.2)
    ⟨hp, fun x hx => by simp [Sys.init] at hx⟩ fun es s l s' _ hi hs => ?_
  obtain ⟨hprog, hlog⟩ := hi
  cases step_does hs with
  | @acquire i k hp _ =>
    have hi := hprog i
    rw [hp] at hi
    cases hi with
    | acquire hk => exact ⟨update hprog (hk true), hlog⟩
  | @giveUp i k hp =>
    have hi := hprog i
    rw [hp] at hi
    cases hi with
    | acquire hk => exact ⟨update hprog (hk false), hlog⟩
  | @release i k hp =>
    have hi := hprog i
    rw [hp] at hi
    cases hi with
    | release hk => exact ⟨update hprog hk, hlog⟩
  | send hp hx => exact ⟨hprog, hlog⟩
  | @serve i r k hp hx =>
    have hi := hprog i
    rw [hp] at hi
    cases hi with
    | send hr hk =>
      refine ⟨hprog, fun x hmem => ?_⟩
      rcases List.mem_append.mp hmem with hmem | hmem
      · exact hlog x hmem
      · rw [List.mem_singleton.mp hmem]
        exact hr
  | @answer i r k o hp hx =>
    have hi := hprog i
    rw [hp] at hi
    cases hi with
    | send hr hk => exact ⟨update hprog (hk o), hlog⟩
  | @abandon i r k served o hp hx =>
    have hi := hprog i
    rw [hp] at hi
    cases hi with
    | send hr hk => exact ⟨update hprog (hk o), hlog⟩

end Concurrent

end SophosFw.Slot
