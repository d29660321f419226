import SophosFw.CycleRun
import SophosFw.Sources

/-!
Write switches over one endpoint of a coordinator.

A switch shows the value it wrote until the endpoint was read again after the write. Three
clocks decide when that is: the generation the confirmed write advances, the stamp a cycle
puts on its fetches when it ends, and the stamp the switch puts on its write.

The firewall keeps one value per object. A read of the endpoint sees each object at some
moment between its request and its answer; a write takes effect at some moment between its
request and its confirmation. XML reads share the request slot with the writes, so the two
never overlap; SNMP reads do not.
-/

namespace SophosFw.WriteSwitch

open SophosFw.PyDict SophosFw.Coordinator SophosFw.Runs

/-- The attributes of `_SophosWriteSwitch` its methods change. -/
structure SophosWriteSwitch where
  optimistic : Option Bool
  writtenAt : Option ℚ

namespace SophosWriteSwitch

def init : SophosWriteSwitch := ⟨none, none⟩

def isOn (sw : SophosWriteSwitch) (actual : Option Bool) : Option Bool := sw.optimistic.or actual

/-- Drop the optimistic state once the endpoint was re-read after the write. -/
def handleCoordinatorUpdate (sw : SophosWriteSwitch) (fetched : Option ℚ) : SophosWriteSwitch :=
  match sw.writtenAt, fetched with
  | some written, some fetched => if written < fetched then ⟨none, none⟩ else sw
  | _, _ => sw

/-- `_set` after `_write` came back. -/
def written (on : Bool) (now : ℚ) : SophosWriteSwitch := ⟨some on, some now⟩

lemma handleCoordinatorUpdate_cases (sw : SophosWriteSwitch) (fetched : Option ℚ) :
    sw.handleCoordinatorUpdate fetched = sw ∨
      ∃ w t, sw.writtenAt = some w ∧ fetched = some t ∧ w < t ∧
        sw.handleCoordinatorUpdate fetched = ⟨none, none⟩ := by
  unfold handleCoordinatorUpdate
  rcases sw.writtenAt with _ | w
  · exact Or.inl rfl
  rcases fetched with _ | t
  · exact Or.inl rfl
  by_cases h : w < t
  · exact Or.inr ⟨w, t, rfl, rfl, h, if_pos h⟩
  · exact Or.inl (if_neg h)

end SophosWriteSwitch

/-- What one read of the endpoint saw, with the step at which it was issued. -/
structure Sample (ι : Type) where
  issued : ℕ
  shows : ι → Option Bool

/-- A write that was sent and not answered yet. -/
structure Write (ι : Type) where
  switch : ι
  on : Bool
  applied : Bool

/-- A coordinator, the endpoint that feeds the switches `ι`, and how a switch finds its state
in the data of the endpoint. -/
structure Feed (ι V σ : Type) where
  coordinator : SophosCoordinator V σ
  endpoint : String
  prepare_endpoint : ∀ extra updates,
    (coordinator.prepare extra updates).1.get endpoint = updates.get endpoint
  store : Sample ι → V
  store_injective : Function.Injective store
  actual : V → ι → Option Bool
  actual_store : ∀ s i, actual (store s) i = s.shows i
  /-- Reads of the endpoint take the request slot of the XML client, as every write does. -/
  sharesSlot : Bool

variable {ι V σ : Type}

structure World (f : Feed ι V σ) where
  sys : Sys f.coordinator
  switches : ι → SophosWriteSwitch
  /-- The value each switch last got confirmed, and when. -/
  confirmed : ι → Option (Bool × ℕ)
  firewall : ι → Option Bool
  reading : Option (Sample ι)
  /-- What the reads of the running cycle came to, by the number of the attempt. -/
  answers : ℕ → Result (Sample ι)
  writing : Option (Write ι)
  time : ℕ

inductive Act (ι V : Type)
  | tick (now : ℚ)
  | start (restrictTo : Option (List String))
  | invalidate (keys : List String)
  | issueRead
  /-- The read in progress gets to an object. -/
  | see (i : ι)
  | answerRead (n : ℕ)
  | failRead (n : ℕ) (e : FetchError)
  /-- The cycle ends; the other endpoints came to anything. -/
  | finish (others : ℕ → String → Result V)
  | send (i : ι) (on : Bool)
  | apply
  | confirm
  /-- The write raises a `SophosError`. -/
  | fail
  /-- The write is cancelled. -/
  | abandon
  /-- Somebody else edits the object. -/
  | edit (i : ι) (value : Option Bool)
  | handleCoordinatorUpdate (i : ι)

namespace World

variable {f : Feed ι V σ}

def init (f : Feed ι V σ) (firewall : ι → Option Bool) (clock : ℚ) : World f where
  sys := .init f.coordinator clock
  switches := fun _ => .init
  confirmed := fun _ => none
  firewall := firewall
  reading := none
  answers := fun _ => .baseException
  writing := none
  time := 0

def fetchedAt (w : World f) : Option ℚ := w.sys.state.fetchedAt f.endpoint

def actual (w : World f) (i : ι) : Option Bool :=
  (w.sys.state.field f.endpoint).bind fun v => f.actual v i

def isOn (w : World f) (i : ι) : Option Bool := (w.switches i).isOn (w.actual i)

/-- The outcomes of the fetches of the running cycle. -/
def attempt (w : World f) (others : ℕ → String → Result V) (n : ℕ) (key : String) : Result V :=
  if key = f.endpoint then
    match w.answers n with
    | .value s => .value (f.store s)
    | .exception e => .exception e
    | .baseException => .baseException
  else others n key

variable [DecidableEq ι]

def act (w : World f) : Act ι V → Option (World f)
  | .tick now => (w.sys.step (.tick now)).map fun y => { w with sys := y }
  | .start restrictTo => (w.sys.step (.start restrictTo)).map fun y =>
      { w with sys := y, reading := none, answers := fun _ => .baseException }
  | .invalidate keys => (w.sys.step (.invalidate keys)).map fun y => { w with sys := y }
  | .issueRead =>
    if w.sys.running.isSome ∧ w.reading.isNone ∧ (f.sharesSlot → w.writing.isNone) then
      some { w with reading := some ⟨w.time, w.firewall⟩ }
    else none
  | .see i => w.reading.map fun s =>
      { w with reading := some { s with shows := Function.update s.shows i (w.firewall i) } }
  | .answerRead n => w.reading.map fun s =>
      { w with reading := none, answers := Function.update w.answers n (.value s) }
  | .failRead n e => w.reading.map fun _ =>
      { w with reading := none, answers := Function.update w.answers n (.exception e) }
  | .finish others =>
    if w.reading.isNone then
      (w.sys.step (.finish (w.attempt others))).map fun y => { w with sys := y }
    else none
  | .send i on =>
    if w.writing.isNone ∧ (f.sharesSlot → w.reading.isNone) then
      some { w with writing := some ⟨i, on, false⟩ }
    else none
  | .apply => w.writing.bind fun wr =>
      if wr.applied then none
      else some
        { w with
          writing := some { wr with applied := true }
          firewall := Function.update w.firewall wr.switch (some wr.on) }
  | .confirm => w.writing.map fun wr =>
      { w with
        writing := none
        switches := Function.update w.switches wr.switch (.written wr.on w.sys.clock)
        confirmed := Function.update w.confirmed wr.switch (some (wr.on, w.time))
        sys := { w.sys with state := w.sys.state.invalidate [f.endpoint] } }
  | .fail => w.writing.map fun _ =>
      { w with
        writing := none
        sys := { w.sys with state := w.sys.state.invalidate [f.endpoint] } }
  | .abandon => w.writing.map fun _ => { w with writing := none }
  | .edit i value => some { w with firewall := Function.update w.firewall i value }
  | .handleCoordinatorUpdate i => some
      { w with
        switches := Function.update w.switches i
          ((w.switches i).handleCoordinatorUpdate w.fetchedAt) }

def step (w : World f) (e : Act ι V) : Option (World f) := { w with time := w.time + 1 }.act e

/-- The firewall has applied the write when it confirms it and not when the write fails, and
nobody else edits the objects. -/
def faithful (w : World f) : Act ι V → Bool
  | .confirm => w.writing.any Write.applied
  | .fail | .abandon => w.writing.all fun wr => !wr.applied
  | .edit _ _ => false
  | _ => true

def faithfulStep (w : World f) (e : Act ι V) : Option (World f) :=
  if w.faithful e then w.step e else none

lemma faithfulStep_eq_some {w w' : World f} {e : Act ι V} :
    w.faithfulStep e = some w' ↔ w.faithful e ∧ w.step e = some w' := by
  simp only [faithfulStep, Option.ite_none_right_eq_some]

end World

section Freshness

variable {f : Feed ι V σ} {w : World f}

/-- Every read of the running cycle was issued after `t`. -/
def ReadsAfter (w : World f) (t : ℕ) : Prop :=
  (∀ s, w.reading = some s → t < s.issued) ∧ ∀ n s, w.answers n = .value s → t < s.issued

/-- The data of the endpoint comes from a read issued after `t`. -/
def DataAfter (w : World f) (t : ℕ) : Prop :=
  ∃ s, w.sys.state.field f.endpoint = some (f.store s) ∧ t < s.issued

/-- The stamp of the last counted fetch is not later than the switch's own. -/
def NotRefetched (w : World f) (i : ι) : Prop :=
  ∃ τ, (w.switches i).writtenAt = some τ ∧ ∀ φ, w.fetchedAt = some φ → φ ≤ τ

/-- A switch whose last write was confirmed at `t` shows the value of that write, until the
data and whatever the running cycle has read are from after `t`. -/
structure FreshInv (w : World f) : Prop where
  fetched : ∀ φ, w.fetchedAt = some φ → φ ≤ w.sys.clock
  stamps : ∀ i b t, w.confirmed i = some (b, t) → t ≤ w.time
  unwritten : ∀ i, w.confirmed i = none → w.switches i = .init
  plan : ∀ p, w.sys.running = some p →
    p.previous = (w.sys.state.data.getD fun _ => none) ∧
    (p.generation f.endpoint).getD 0 ≤ w.sys.state.invalidations f.endpoint ∧
    (w.sys.state.invalidations f.endpoint = (p.generation f.endpoint).getD 0 →
      ∀ i b t, w.confirmed i = some (b, t) → ReadsAfter w t)
  switch : ∀ i b t, w.confirmed i = some (b, t) →
    ((w.switches i).optimistic = none ∧ DataAfter w t ∧ ReadsAfter w t) ∨
    ((w.switches i).optimistic = some b ∧
      (NotRefetched w i ∨ (DataAfter w t ∧ ReadsAfter w t)))

lemma freshInv_init (firewall : ι → Option Bool) (clock : ℚ) :
    FreshInv (World.init f firewall clock) where
  fetched _ h := by simp [World.init, World.fetchedAt, Sys.init, SophosCoordinator.init] at h
  stamps _ _ _ h := by simp [World.init] at h
  unwritten _ _ := rfl
  plan _ h := by simp [World.init, Sys.init] at h
  switch _ _ _ h := by simp [World.init] at h

namespace FreshInv

lemma later (hi : FreshInv w) : FreshInv { w with time := w.time + 1 } where
  fetched := hi.fetched
  stamps i b t h := (hi.stamps i b t h).trans (Nat.le_succ _)
  unwritten := hi.unwritten
  plan := hi.plan
  switch := hi.switch

lemma invalidate (hi : FreshInv w) (keys : List String) :
    FreshInv { w with sys := { w.sys with state := w.sys.state.invalidate keys } } where
  fetched φ h := hi.fetched φ (by simpa [World.fetchedAt] using h)
  stamps := hi.stamps
  unwritten := hi.unwritten
  plan p hp := by
    obtain ⟨h1, h2, h3⟩ := hi.plan p hp
    refine ⟨by simpa using h1, ?_, fun hg => h3 ?_⟩ <;> dsimp only at *
    · rw [State.invalidations_invalidate]
      omega
    · rw [State.invalidations_invalidate] at hg
      omega
  switch i b t h := by
    simpa [NotRefetched, DataAfter, ReadsAfter, World.fetchedAt, State.field]
      using hi.switch i b t h

lemma confirm [DecidableEq ι] (hi : FreshInv w) (i : ι) (on : Bool) :
    FreshInv { w with
      writing := none
      switches := Function.update w.switches i (.written on w.sys.clock)
      confirmed := Function.update w.confirmed i (some (on, w.time))
      sys := { w.sys with state := w.sys.state.invalidate [f.endpoint] } } := by
  have hinv := hi.invalidate [f.endpoint]
  refine ⟨hinv.fetched, fun j b t h => ?_, fun j h => ?_, fun p hp => ?_, fun j b t h => ?_⟩
  · by_cases hj : j = i
    · subst hj
      obtain ⟨rfl, rfl⟩ : on = b ∧ w.time = t := by simpa using h
      exact le_rfl
    · exact hi.stamps j b t (by simpa [hj] using h)
  · have hj : j ≠ i := by rintro rfl; simp at h
    simpa [hj] using hi.unwritten j (by simpa [hj] using h)
  · obtain ⟨h1, h2, -⟩ := hinv.plan p hp
    refine ⟨h1, h2, fun hg => ?_⟩
    have hle := (hi.plan p hp).2.1
    dsimp only at hg
    rw [State.invalidations_invalidate] at hg
    simp at hg
    omega
  · by_cases hj : j = i
    · subst hj
      obtain ⟨rfl, rfl⟩ : on = b ∧ w.time = t := by simpa using h
      refine Or.inr ⟨by simp [SophosWriteSwitch.written], Or.inl ⟨w.sys.clock, ?_, hinv.fetched⟩⟩
      simp [SophosWriteSwitch.written]
    · have hs := hinv.switch j b t (by simpa [hj] using h)
      simpa [hj, NotRefetched, DataAfter, ReadsAfter, World.fetchedAt] using hs

lemma handleCoordinatorUpdate [DecidableEq ι] (hi : FreshInv w) (i : ι) :
    FreshInv { w with
      switches := Function.update w.switches i
        ((w.switches i).handleCoordinatorUpdate w.fetchedAt) } := by
  refine ⟨hi.fetched, hi.stamps, fun j h => ?_, hi.plan, fun j b t h => ?_⟩
  · by_cases hj : j = i
    · subst hj
      simp [hi.unwritten j h, SophosWriteSwitch.init, SophosWriteSwitch.handleCoordinatorUpdate]
    · simpa [hj] using hi.unwritten j h
  · by_cases hj : j = i
    · subst hj
      rcases (w.switches j).handleCoordinatorUpdate_cases w.fetchedAt with
        hsame | ⟨τ, φ, hτ, hφ, hlt, hdrop⟩
      · rw [World.fetchedAt] at hsame
        simpa [hsame, NotRefetched, DataAfter, ReadsAfter, World.fetchedAt] using hi.switch j b t h
      · left
        refine ⟨by simp [hdrop], ?_⟩
        rcases hi.switch j b t h with ⟨-, hf⟩ | ⟨-, ⟨τ', hτ', hle⟩ | hf⟩
        · exact hf
        · -- its stamp is earlier than the fetch
          obtain rfl : τ = τ' := by simpa [hτ] using hτ'
          exact absurd (hle φ hφ) (not_le.mpr hlt)
        · exact hf
    · simpa [hj, NotRefetched, DataAfter, ReadsAfter, World.fetchedAt] using hi.switch j b t h

end FreshInv

/-- What the end of a cycle does to the endpoint: nothing, or it stores what one of the reads
of the cycle saw, and counts it as a fetch at most if nothing invalidated it meanwhile. -/
lemma finish_endpoint {p : Plan f.coordinator}
    (hprev : p.previous = (w.sys.state.data.getD fun _ => none))
    (others : ℕ → String → Result V) {y : Sys f.coordinator}
    (hy : y = w.sys.finish p (w.attempt others)) :
    (y.state.fetchedAt f.endpoint = w.fetchedAt ∧
      y.state.field f.endpoint = w.sys.state.field f.endpoint) ∨
    ∃ n s, w.answers n = .value s ∧ y.state.field f.endpoint = some (f.store s) ∧
      (y.state.fetchedAt f.endpoint = w.fetchedAt ∨
        y.state.fetchedAt f.endpoint = some w.sys.clock ∧
          w.sys.state.generation f.endpoint = p.generation f.endpoint) := by
  have hs : y.state =
      f.coordinator.endCycle w.sys.state p (w.attempt others) w.sys.clock := by rw [hy]; rfl
  rw [hs]
  rcases endCycle_key hprev w.sys.clock (w.attempt others) f.endpoint with
    ⟨updates, failures, hc, hk, hfield, hfetched, -⟩ | ⟨-, hfield, hfetched, -⟩
  · right
    obtain ⟨v, hu⟩ := Option.isSome_iff_exists.mp (updates.get_isSome_iff.mpr hk)
    obtain ⟨n, hn⟩ := attempt_of_update p _ hc hu
    simp only [World.attempt, if_true] at hn
    rcases ha : w.answers n with s | e | _ <;> rw [ha] at hn <;> cases hn
    refine ⟨n, s, ha, by rw [hfield, f.prepare_endpoint, hu], ?_⟩
    rw [hfetched]
    split
    · next hg => exact Or.inr ⟨rfl, hg⟩
    · exact Or.inl rfl
  · exact Or.inl ⟨hfetched, hfield⟩

lemma FreshInv.finish (hi : FreshInv w) {p : Plan f.coordinator}
    (hp : w.sys.running = some p) (others : ℕ → String → Result V) :
    FreshInv { w with sys := w.sys.finish p (w.attempt others) } := by
  obtain ⟨hprev, -, hreads⟩ := hi.plan p hp
  have hend := finish_endpoint hprev others rfl
  refine ⟨fun φ h => ?_, hi.stamps, hi.unwritten, fun p' hp' => ?_, fun i b t h => ?_⟩
  · rcases hend with ⟨hf, -⟩ | ⟨n, s, -, -, hf | ⟨hf, -⟩⟩
    · exact hi.fetched φ (hf.symm.trans h)
    · exact hi.fetched φ (hf.symm.trans h)
    · exact (Option.some.inj (hf.symm.trans h)).ge
  · cases hp'
  · simp only [NotRefetched, DataAfter, ReadsAfter, World.fetchedAt] at hreads hend ⊢
    have hsw := hi.switch i b t h
    simp only [NotRefetched, DataAfter, ReadsAfter, World.fetchedAt] at hsw
    rcases hend with ⟨hf, hd⟩ | ⟨n, s, hn, hd, hf⟩
    · rwa [hf, hd]
    · rcases hsw with ⟨ho, -, hr⟩ | ⟨ho, hnot | ⟨-, hr⟩⟩
      · exact Or.inl ⟨ho, ⟨s, hd, hr.2 n s hn⟩, hr⟩
      · rcases hf with hf | ⟨-, hg⟩
        · exact Or.inr ⟨ho, Or.inl (by rwa [hf])⟩
        · -- counted: nothing was confirmed since the cycle began
          have hr := hreads (by rw [State.invalidations, hg]) i b t h
          exact Or.inr ⟨ho, Or.inr ⟨⟨s, hd, hr.2 n s hn⟩, hr⟩⟩
      · exact Or.inr ⟨ho, Or.inr ⟨⟨s, hd, hr.2 n s hn⟩, hr⟩⟩

lemma start_cases {y y' : Sys f.coordinator} {restrictTo : Option (List String)}
    (h : y.step (.start restrictTo) = some y') :
    y'.clock = y.clock ∧ y'.state.fetchedAt = y.state.fetchedAt ∧
    y'.state.field f.endpoint = y.state.field f.endpoint ∧
    ∀ p, y'.running = some p → p.previous = (y'.state.data.getD fun _ => none) ∧
      p.generation = y'.state.generation := by
  obtain ⟨hidle, -, hb⟩ := Sys.step_start h
  rcases hb with ⟨-, rfl⟩ | ⟨plan, hb, rfl⟩
  · refine ⟨rfl, rfl, by simp [State.field, State.idleCycle, State.conclude], fun p hp => ?_⟩
    rw [hidle] at hp
    cases hp
  · refine ⟨rfl, rfl, rfl, fun p hp => ?_⟩
    obtain rfl := Option.some.inj hp
    exact ⟨(beginUpdate_some hb).1, (beginUpdate_some hb).2.1⟩

lemma FreshInv.start (hi : FreshInv w) {restrictTo : Option (List String)}
    {y : Sys f.coordinator} (h : w.sys.step (.start restrictTo) = some y) :
    FreshInv { w with sys := y, reading := none, answers := fun _ => .baseException } := by
  obtain ⟨hclock, hfetched, hfield, hplan⟩ := start_cases h
  refine ⟨fun φ hφ => ?_, hi.stamps, hi.unwritten, fun p hp => ?_, fun i b t hc => ?_⟩
  · rw [World.fetchedAt, hfetched] at hφ
    exact hclock ▸ hi.fetched φ hφ
  · obtain ⟨h1, h2⟩ := hplan p hp
    refine ⟨h1, by rw [h2]; rfl, fun _ _ _ _ _ => ⟨?_, ?_⟩⟩ <;> simp
  · have hsw := hi.switch i b t hc
    simp only [NotRefetched, DataAfter, ReadsAfter, World.fetchedAt] at hsw ⊢
    rw [hfetched, hfield]
    rcases hsw with ⟨ho, hd, -⟩ | ⟨ho, hnot | ⟨hd, -⟩⟩
    · exact Or.inl ⟨ho, hd, by simp⟩
    · exact Or.inr ⟨ho, Or.inl hnot⟩
    · exact Or.inr ⟨ho, Or.inr ⟨hd, by simp⟩⟩

/-- The reads of the cycle change, all later than any confirmation there was. -/
lemma FreshInv.reads (hi : FreshInv w) {reading : Option (Sample ι)}
    {answers : ℕ → Result (Sample ι)}
    (h : ∀ i b t, w.confirmed i = some (b, t) → ReadsAfter w t →
      ReadsAfter { w with reading := reading, answers := answers } t) :
    FreshInv { w with reading := reading, answers := answers } where
  fetched := hi.fetched
  stamps := hi.stamps
  unwritten := hi.unwritten
  plan p hp :=
    let ⟨h1, h2, h3⟩ := hi.plan p hp
    ⟨h1, h2, fun hg i b t hc => h i b t hc (h3 hg i b t hc)⟩
  switch i b t hc :=
    (hi.switch i b t hc).imp (fun ⟨ho, hd, hr⟩ => ⟨ho, hd, h i b t hc hr⟩) fun ⟨ho, hf⟩ =>
      ⟨ho, hf.imp id fun ⟨hd, hr⟩ => ⟨hd, h i b t hc hr⟩⟩

lemma FreshInv.answered (hi : FreshInv w) {s : Sample ι} (hs : w.reading = some s) (n : ℕ)
    {r : Result (Sample ι)} (hr : ∀ s', r = .value s' → s' = s) :
    FreshInv { w with reading := none, answers := Function.update w.answers n r } := by
  refine hi.reads fun i b t _ hafter => ⟨by simp, fun m s' hm => ?_⟩
  by_cases hmn : m = n
  · obtain rfl := hr s' (by simpa [hmn] using hm)
    exact hafter.1 s' hs
  · exact hafter.2 m s' (by simpa [hmn] using hm)

variable [DecidableEq ι]

lemma FreshInv.act {w' : World f} {e : Act ι V} (hi : FreshInv w)
    (hlt : ∀ i b t, w.confirmed i = some (b, t) → t < w.time) (h : w.act e = some w') :
    FreshInv w' := by
  cases e <;> simp only [World.act, Option.map_eq_some_iff, Option.bind_eq_some_iff,
    Option.ite_none_left_eq_some, Option.ite_none_right_eq_some, Option.some.injEq] at h
  case tick now =>
    obtain ⟨y, hy, rfl⟩ := h
    simp only [Sys.step, Option.ite_none_right_eq_some, Option.some.injEq] at hy
    obtain ⟨hn, rfl⟩ := hy
    exact ⟨fun φ hφ => (hi.fetched φ hφ).trans hn, hi.stamps, hi.unwritten, hi.plan, hi.switch⟩
  case start restrictTo =>
    obtain ⟨y, hy, rfl⟩ := h
    exact hi.start hy
  case invalidate keys =>
    obtain ⟨y, hy, rfl⟩ := h
    obtain rfl := Option.some.inj hy
    exact hi.invalidate keys
  case issueRead =>
    obtain ⟨-, rfl⟩ := h
    refine hi.reads fun i b t hc hr => ⟨?_, hr.2⟩
    rintro s ⟨⟩
    exact hlt i b t hc
  case see i =>
    obtain ⟨s, hs, rfl⟩ := h
    refine hi.reads fun i b t hc hr => ⟨?_, hr.2⟩
    rintro s' ⟨⟩
    exact hr.1 s hs
  case answerRead n =>
    obtain ⟨s, hs, rfl⟩ := h
    exact hi.answered hs n fun s' h => by simpa using h.symm
  case failRead n e =>
    obtain ⟨s, hs, rfl⟩ := h
    exact hi.answered hs n fun s' h => by cases h
  case finish others =>
    obtain ⟨-, y, hy, rfl⟩ := h
    obtain ⟨p, hp, rfl⟩ := Sys.step_finish hy
    exact hi.finish hp others
  case send i on =>
    obtain ⟨-, rfl⟩ := h
    exact ⟨hi.fetched, hi.stamps, hi.unwritten, hi.plan, hi.switch⟩
  case apply =>
    obtain ⟨wr, -, -, rfl⟩ := h
    exact ⟨hi.fetched, hi.stamps, hi.unwritten, hi.plan, hi.switch⟩
  case confirm =>
    obtain ⟨wr, -, rfl⟩ := h
    exact hi.confirm wr.switch wr.on
  case fail =>
    obtain ⟨wr, -, rfl⟩ := h
    have hinv := hi.invalidate [f.endpoint]
    exact ⟨hinv.fetched, hinv.stamps, hinv.unwritten, hinv.plan, hinv.switch⟩
  case abandon =>
    obtain ⟨wr, -, rfl⟩ := h
    exact ⟨hi.fetched, hi.stamps, hi.unwritten, hi.plan, hi.switch⟩
  case edit i value =>
    subst h
    exact ⟨hi.fetched, hi.stamps, hi.unwritten, hi.plan, hi.switch⟩
  case handleCoordinatorUpdate i =>
    subst h
    exact hi.handleCoordinatorUpdate i

lemma FreshInv.step {w' : World f} {e : Act ι V} (hi : FreshInv w) (h : w.step e = some w') :
    FreshInv w' :=
  hi.later.act (fun i b t hc => Nat.lt_succ_of_le (hi.stamps i b t hc)) h

end Freshness

/-! ### What the switches show -/

section Values

variable {f : Feed ι V σ} {w : World f}

/-- A sample somewhere on its way from the firewall to the switches. -/
def Holds (w : World f) (s : Sample ι) : Prop :=
  w.reading = some s ∨ (∃ n, w.answers n = .value s) ∨
    w.sys.state.field f.endpoint = some (f.store s)

/-- The value confirmed last, or, where reads do not wait for writes, the value of a newer
write that took effect and is not confirmed yet. -/
def Current (w : World f) (i : ι) (b : Bool) (x : Option Bool) : Prop :=
  x = some b ∨ (f.sharesSlot = false ∧
    ∃ wr, w.writing = some wr ∧ wr.switch = i ∧ wr.applied = true ∧ x = some wr.on)

structure ValueInv (w : World f) : Prop where
  stamps : ∀ s, Holds w s → s.issued ≤ w.time
  exclusive : f.sharesSlot → w.reading.isSome → w.writing = none
  applied : ∀ wr, w.writing = some wr → wr.applied → w.firewall wr.switch = some wr.on
  quiet : ∀ i b t, w.confirmed i = some (b, t) →
    (∀ wr, w.writing = some wr → wr.switch = i → wr.applied = false) → w.firewall i = some b
  seen : ∀ s, Holds w s → ∀ i b t, w.confirmed i = some (b, t) → t < s.issued →
    Current w i b (s.shows i)

lemma valueInv_init (firewall : ι → Option Bool) (clock : ℚ) :
    ValueInv (World.init f firewall clock) where
  stamps s h := by
    simp [Holds, World.init, Sys.init, SophosCoordinator.init, State.field] at h
  exclusive _ h := by simp [World.init] at h
  applied _ h := by simp [World.init] at h
  quiet _ _ _ h := by simp [World.init] at h
  seen _ _ _ _ _ h := by simp [World.init] at h

namespace ValueInv

lemma later (hi : ValueInv w) : ValueInv { w with time := w.time + 1 } where
  stamps s h := (hi.stamps s h).trans (Nat.le_succ _)
  exclusive := hi.exclusive
  applied := hi.applied
  quiet := hi.quiet
  seen := hi.seen

lemma current_firewall (hi : ValueInv w) (hx : f.sharesSlot → w.writing = none) {i : ι} {b : Bool}
    {t : ℕ} (hc : w.confirmed i = some (b, t)) : Current w i b (w.firewall i) := by
  by_cases hq : ∀ wr, w.writing = some wr → wr.switch = i → wr.applied = false
  · exact Or.inl (hi.quiet i b t hc hq)
  · push Not at hq
    obtain ⟨wr, hw, rfl, ha⟩ := hq
    have ha : wr.applied = true := by simpa using ha
    refine Or.inr ⟨?_, wr, hw, rfl, ha, hi.applied wr hw ha⟩
    by_contra hs
    rw [hx (by simpa using hs)] at hw
    cases hw

lemma samples {w' : World f} (hi : ValueInv w) (hh : ∀ s, Holds w' s → Holds w s)
    (htime : w'.time = w.time) (hconfirmed : w'.confirmed = w.confirmed)
    (hfirewall : w'.firewall = w.firewall) (hwriting : w'.writing = w.writing)
    (hreading : w'.reading.isSome → w.reading.isSome) : ValueInv w' where
  stamps s h := htime ▸ hi.stamps s (hh s h)
  exclusive hs hr := hwriting ▸ hi.exclusive hs (hreading hr)
  applied wr hw ha := hfirewall ▸ hi.applied wr (hwriting ▸ hw) ha
  quiet i b t hc hq := by
    rw [hfirewall]
    exact hi.quiet i b t (hconfirmed ▸ hc) (hwriting ▸ hq)
  seen s h i b t hc ht := by
    rw [Current, hwriting]
    exact hi.seen s (hh s h) i b t (hconfirmed ▸ hc) ht

lemma drop (hi : ValueInv w) {y : Sys f.coordinator}
    (hy : y.state.field f.endpoint = w.sys.state.field f.endpoint)
    (hq : ∀ wr, w.writing = some wr → wr.applied = false) :
    ValueInv { w with writing := none, sys := y } := by
  refine ⟨fun s h => ?_, fun _ _ => rfl, fun _ h => (nomatch h), fun i b t hc _ => ?_,
    fun s h i b t hc ht => ?_⟩
  · exact hi.stamps s (by simpa [Holds, hy] using h)
  · exact hi.quiet i b t hc fun wr hw _ => hq wr hw
  · rcases hi.seen s (by simpa [Holds, hy] using h) i b t hc ht with hb | ⟨-, wr, hw, -, ha, -⟩
    · exact Or.inl hb
    · rw [hq wr hw] at ha
      cases ha

lemma sampled (hi : ValueInv w) (hx : f.sharesSlot → w.writing = none) {s : Sample ι}
    (hstamp : s.issued ≤ w.time)
    (hs : ∀ i b t, w.confirmed i = some (b, t) → t < s.issued → Current w i b (s.shows i)) :
    ValueInv { w with reading := some s } := by
  have hh : ∀ s', Holds { w with reading := some s } s' → s' = s ∨ Holds w s' := by
    rintro s' (⟨⟨⟩⟩ | h | h)
    · exact Or.inl rfl
    · exact Or.inr (Or.inr (Or.inl h))
    · exact Or.inr (Or.inr (Or.inr h))
  refine ⟨fun s' h => ?_, fun hsh _ => hx hsh, hi.applied, hi.quiet, fun s' h i b t hc ht => ?_⟩
  · rcases hh s' h with rfl | h
    · exact hstamp
    · exact hi.stamps s' h
  · rcases hh s' h with rfl | h
    · exact hs i b t hc ht
    · exact hi.seen s' h i b t hc ht

lemma answered (hi : ValueInv w) {s : Sample ι} (hs : w.reading = some s) (n : ℕ)
    {r : Result (Sample ι)} (hr : ∀ s', r = .value s' → s' = s) :
    ValueInv { w with reading := none, answers := Function.update w.answers n r } := by
  refine hi.samples (fun s' h => ?_) rfl rfl rfl rfl (by simp)
  rcases h with h | ⟨m, h⟩ | h
  · cases h
  · by_cases hm : m = n
    · obtain rfl := hr s' (by simpa [hm] using h)
      exact Or.inl hs
    · exact Or.inr (Or.inl ⟨m, by simpa [hm] using h⟩)
  · exact Or.inr (Or.inr h)

lemma sent (hi : ValueInv w) (hidle : w.writing = none) (hx : f.sharesSlot → w.reading = none)
    (i : ι) (on : Bool) : ValueInv { w with writing := some ⟨i, on, false⟩ } := by
  refine ⟨hi.stamps, fun hs hr => ?_, ?_, fun j b t hc _ => ?_, fun s h j b t hc ht => ?_⟩
  · simp [hx hs] at hr
  · rintro wr ⟨⟩ ha
    cases ha
  · exact hi.quiet j b t hc (by simp [hidle])
  · rcases hi.seen s h j b t hc ht with hb | ⟨-, wr, hw, -⟩
    · exact Or.inl hb
    · rw [hidle] at hw
      cases hw

variable [DecidableEq ι]

lemma confirm (hi : ValueInv w) {wr : Write ι} (hw : w.writing = some wr) (ha : wr.applied = true)
    (hlt : ∀ s, Holds w s → s.issued < w.time) {y : Sys f.coordinator}
    (hy : y.state.field f.endpoint = w.sys.state.field f.endpoint)
    (switches : ι → SophosWriteSwitch) :
    ValueInv { w with
      writing := none
      switches := switches
      confirmed := Function.update w.confirmed wr.switch (some (wr.on, w.time))
      sys := y } := by
  have hh : ∀ s, Holds { w with
      writing := none
      switches := switches
      confirmed := Function.update w.confirmed wr.switch (some (wr.on, w.time))
      sys := y } s → Holds w s := fun s h => by simpa [Holds, hy] using h
  refine ⟨fun s h => hi.stamps s (hh s h), fun _ _ => rfl, fun _ h => (nomatch h),
    fun i b t hc _ => ?_, fun s h i b t hc ht => ?_⟩
  all_goals by_cases hij : i = wr.switch
  · subst hij
    obtain ⟨rfl, -⟩ : wr.on = b ∧ w.time = t := by simpa using hc
    exact hi.applied wr hw ha
  · refine hi.quiet i b t (by simpa [hij] using hc) fun wr' hw' he => ?_
    obtain rfl : wr = wr' := Option.some.inj (hw.symm.trans hw')
    exact absurd he.symm hij
  · -- no sample is newer than this confirmation
    subst hij
    obtain ⟨-, rfl⟩ : wr.on = b ∧ w.time = t := by simpa using hc
    exact absurd (hlt s (hh s h)) (by omega)
  · rcases hi.seen s (hh s h) i b t (by simpa [hij] using hc) ht with
      hb | ⟨-, wr', hw', he, -⟩
    · exact Or.inl hb
    · obtain rfl : wr = wr' := Option.some.inj (hw.symm.trans hw')
      exact absurd he.symm hij

lemma takesEffect (hi : ValueInv w) {wr : Write ι} (hw : w.writing = some wr)
    (ha : wr.applied ≠ true) :
    ValueInv { w with
      writing := some { wr with applied := true }
      firewall := Function.update w.firewall wr.switch (some wr.on) } := by
  refine ⟨hi.stamps, fun hs hr => ?_, ?_, fun j b t hc hq => ?_, fun s h j b t hc ht => ?_⟩
  · rw [hi.exclusive hs hr] at hw
    cases hw
  · rintro wr' ⟨⟩ -
    simp
  · have hj : j ≠ wr.switch := fun hj => by simpa using hq _ rfl hj.symm
    simp only [Function.update_of_ne hj]
    refine hi.quiet j b t hc fun wr' hw' he => ?_
    obtain rfl : wr = wr' := Option.some.inj (hw.symm.trans hw')
    exact absurd he.symm hj
  · rcases hi.seen s h j b t hc ht with hb | ⟨-, wr', hw', -, ha', -⟩
    · exact Or.inl hb
    · obtain rfl : wr = wr' := Option.some.inj (hw.symm.trans hw')
      exact absurd ha' ha

lemma act {w' : World f} {e : Act ι V} (hf : FreshInv w) (hi : ValueInv w)
    (hlt : ∀ s, Holds w s → s.issued < w.time) (hfaithful : w.faithful e)
    (h : w.act e = some w') : ValueInv w' := by
  cases e <;> simp only [World.act, Option.map_eq_some_iff, Option.bind_eq_some_iff,
    Option.ite_none_left_eq_some, Option.ite_none_right_eq_some, Option.some.injEq] at h
  case tick now =>
    obtain ⟨y, hy, rfl⟩ := h
    simp only [Sys.step, Option.ite_none_right_eq_some, Option.some.injEq] at hy
    obtain ⟨-, rfl⟩ := hy
    exact ⟨hi.stamps, hi.exclusive, hi.applied, hi.quiet, hi.seen⟩
  case start restrictTo =>
    obtain ⟨y, hy, rfl⟩ := h
    refine hi.samples (fun s h => ?_) rfl rfl rfl rfl (by simp)
    rcases h with h | ⟨n, h⟩ | h
    · cases h
    · cases h
    · exact Or.inr (Or.inr ((start_cases hy).2.2.1.symm.trans h))
  case invalidate keys =>
    obtain ⟨y, hy, rfl⟩ := h
    obtain rfl := Option.some.inj hy
    refine hi.samples (fun s h => ?_) rfl rfl rfl rfl id
    simpa [Holds, State.field] using h
  case issueRead =>
    obtain ⟨⟨-, -, hx⟩, rfl⟩ := h
    have hx : f.sharesSlot → w.writing = none := fun hs => by simpa using hx hs
    exact hi.sampled hx le_rfl fun i b t hc _ => hi.current_firewall hx hc
  case see i =>
    obtain ⟨s, hs, rfl⟩ := h
    have hx : f.sharesSlot → w.writing = none := fun hsh => hi.exclusive hsh (by simp [hs])
    refine hi.sampled hx (hi.stamps s (Or.inl hs)) fun j b t hc ht => ?_
    by_cases hj : j = i
    · subst hj
      simpa using hi.current_firewall hx hc
    · simpa [hj] using hi.seen s (Or.inl hs) j b t hc ht
  case answerRead n =>
    obtain ⟨s, hs, rfl⟩ := h
    exact hi.answered hs n fun s' h => by simpa using h.symm
  case failRead n e =>
    obtain ⟨s, hs, rfl⟩ := h
    exact hi.answered hs n fun s' h => by cases h
  case finish others =>
    obtain ⟨-, y, hy, rfl⟩ := h
    obtain ⟨p, hp, rfl⟩ := Sys.step_finish hy
    refine hi.samples (fun s h => ?_) rfl rfl rfl rfl id
    rcases h with h | h | h
    · exact Or.inl h
    · exact Or.inr (Or.inl h)
    · rcases finish_endpoint (hf.plan p hp).1 others rfl with ⟨-, hd⟩ | ⟨n, s', hn, hd, -⟩
      · exact Or.inr (Or.inr (hd.symm.trans h))
      · obtain rfl := f.store_injective (Option.some.inj (hd.symm.trans h))
        exact Or.inr (Or.inl ⟨n, hn⟩)
  case send i on =>
    obtain ⟨⟨hidle, hx⟩, rfl⟩ := h
    exact hi.sent (by simpa using hidle) (by simpa using hx) i on
  case apply =>
    obtain ⟨wr, hw, ha, rfl⟩ := h
    exact hi.takesEffect hw ha
  case confirm =>
    obtain ⟨wr, hw, rfl⟩ := h
    have ha : wr.applied = true := by simpa [World.faithful, hw] using hfaithful
    exact hi.confirm hw ha hlt (by simp only [State.field, State.invalidate_data]) _
  case fail =>
    obtain ⟨wr, hw, rfl⟩ := h
    refine hi.drop (by simp only [State.field, State.invalidate_data]) ?_
    simpa [World.faithful, hw] using hfaithful
  case abandon =>
    obtain ⟨wr, hw, rfl⟩ := h
    exact hi.drop rfl (by simpa [World.faithful, hw] using hfaithful)
  case edit => cases hfaithful
  case handleCoordinatorUpdate i =>
    subst h
    exact ⟨hi.stamps, hi.exclusive, hi.applied, hi.quiet, hi.seen⟩

lemma step {w' : World f} {e : Act ι V} (hf : FreshInv w) (hi : ValueInv w)
    (h : w.faithfulStep e = some w') : ValueInv w' := by
  rw [World.faithfulStep_eq_some] at h
  exact act hf.later hi.later (fun s hs => Nat.lt_succ_of_le (hi.stamps s hs)) h.1 h.2

end ValueInv

variable [DecidableEq ι]

lemma run_of_faithful {firewall : ι → Option Bool} {clock : ℚ} {es : List (Act ι V)}
    (h : Run World.faithfulStep (World.init f firewall clock) es w) :
    Run World.step (World.init f firewall clock) es w :=
  h.mono fun _ _ _ hs => (World.faithfulStep_eq_some.mp hs).2

lemma freshInv_run {firewall : ι → Option Bool} {clock : ℚ} {es : List (Act ι V)}
    (h : Run World.step (World.init f firewall clock) es w) : FreshInv w :=
  h.invariant (I := fun _ w => FreshInv w) (freshInv_init firewall clock)
    fun _ _ _ _ _ hi hs => hi.step hs

/-- **No flip back to stale data.** Whenever a switch drops its optimistic value, the data of
the endpoint comes from a read that was issued after the last confirmed write of the switch.
So, with a firewall that applies the writes it confirms and no others, a switch never shows
anything but the value last confirmed or, where the reads of the endpoint do not wait for
writes, the value of a newer write that took effect and is still waiting for its
confirmation. -/
theorem switch_not_stale (f : Feed ι V σ) {firewall : ι → Option Bool} {clock : ℚ}
    {es : List (Act ι V)} {w : World f}
    (h : Run World.step (World.init f firewall clock) es w) :
    (∀ i w', w.step (.handleCoordinatorUpdate i) = some w' →
      (w.switches i).optimistic ≠ none → (w'.switches i).optimistic = none →
      ∃ b t, w.confirmed i = some (b, t) ∧ DataAfter w' t) ∧
    (Run World.faithfulStep (World.init f firewall clock) es w →
      ∀ i b t, w.confirmed i = some (b, t) → Current w i b (w.isOn i)) := by
  have hf : FreshInv w := freshInv_run h
  constructor
  · intro i w' hw' hsome hnone
    rcases hc : w.confirmed i with _ | ⟨b, t⟩
    · simp [hf.unwritten i hc, SophosWriteSwitch.init] at hsome
    · obtain rfl := Option.some.inj hw'
      refine ⟨b, t, rfl, ?_⟩
      rcases (hf.step hw').switch i b t hc with ⟨-, hd, -⟩ | ⟨ho, -⟩
      · exact hd
      · rw [hnone] at ho
        cases ho
  · intro hfaithful i b t hc
    have hv : FreshInv w ∧ ValueInv w :=
      hfaithful.invariant (I := fun _ w => FreshInv w ∧ ValueInv w)
        ⟨freshInv_init firewall clock, valueInv_init firewall clock⟩
        fun _ _ _ _ _ hi hs =>
          ⟨hi.1.step (World.faithfulStep_eq_some.mp hs).2, hi.2.step hi.1 hs⟩
    rcases hf.switch i b t hc with ⟨ho, ⟨s, hd, ht⟩, -⟩ | ⟨ho, -⟩
    · have hseen := hv.2.seen s (Or.inr (Or.inr hd)) i b t hc ht
      simpa [World.isOn, SophosWriteSwitch.isOn, ho, World.actual, hd, f.actual_store] using hseen
    · exact Or.inl (by simp [World.isOn, SophosWriteSwitch.isOn, ho])

end Values

open SophosFw.Sources

/-- The rule, web filter and wireless switches. -/
def xmlFeed (ι : Type) (entry : ConfigEntry) (endpoint : String) : Feed ι (Sample ι) Unit where
  coordinator := xmlCoordinator (Sample ι) entry
  endpoint := endpoint
  prepare_endpoint _ _ := rfl
  store := id
  store_injective := Function.injective_id
  actual := Sample.shows
  actual_store _ _ := rfl
  sharesSlot := true

/-- The IPsec switches: read over SNMP, written over XML. -/
def snmpFeed (ι : Type) (entry : ConfigEntry) : Feed ι (SnmpValue (Sample ι)) SnmpExtra where
  coordinator := snmpCoordinator (Sample ι) entry
  endpoint := "tunnels"
  prepare_endpoint extra updates := snmpPrepare_get extra updates (by decide)
  store := .other
  store_injective _ _ h := SnmpValue.other.inj h
  actual
    | .other s => s.shows
    | _ => fun _ => none
  actual_store _ _ := rfl
  sharesSlot := false

/-- A rule switch written while a cycle runs that has read the rules already. -/
theorem switch_not_stale_mid_cycle :
    ∃ w : World (xmlFeed Unit ⟨"fw", fun _ => none⟩ "firewall_rules"),
      replay World.faithfulStep (World.init _ (fun _ => some true) 0)
        [.start none, .issueRead, .answerRead 0, .send () false, .apply, .confirm, .tick 1,
          .finish fun _ _ => .exception (.connection "timeout"),
          .handleCoordinatorUpdate ()] = some w ∧
      w.confirmed () = some (false, 6) ∧ Current w () false (w.isOn ()) := by
  have hrun : (replay World.faithfulStep
      (World.init (xmlFeed Unit ⟨"fw", fun _ => none⟩ "firewall_rules") (fun _ => some true) 0)
      [.start none, .issueRead, .answerRead 0, .send () false, .apply, .confirm, .tick 1,
        .finish fun _ _ => .exception (.connection "timeout"),
        .handleCoordinatorUpdate ()]).map (fun w => w.confirmed ()) =
      some (some (false, 6)) := by decide +kernel
  obtain ⟨w, hw, hc⟩ := Option.map_eq_some_iff.mp hrun
  have h := switch_not_stale _ (run_of_faithful (run_of_replay hw))
  exact ⟨w, hw, hc, h.2 (run_of_replay hw) () false 6 hc⟩

/-- SNMP sees a write before it is confirmed: the tunnel was switched on and read again, then
it is switched off, and a cycle reads and merges that while the answer to the write is still
on its way. -/
theorem switch_shows_unconfirmed :
    ¬ ∀ (es : List (Act Unit (SnmpValue (Sample Unit))))
      (w : World (snmpFeed Unit ⟨"fw", fun _ => none⟩)),
      Run World.faithfulStep (World.init _ (fun _ => some false) 0) es w →
      ∀ i b t, w.confirmed i = some (b, t) → w.isOn i = some b := by
  intro h
  have hrun : (replay World.faithfulStep
      (World.init (snmpFeed Unit ⟨"fw", fun _ => none⟩) (fun _ => some false) 0)
      [.send () true, .apply, .confirm, .tick 1, .start none, .issueRead, .answerRead 0,
        .finish fun _ _ => .exception (.connection "timeout"), .handleCoordinatorUpdate (),
        .send () false, .apply, .invalidate ["tunnels"], .start none, .issueRead, .answerRead 0,
        .finish fun _ _ => .exception (.connection "timeout")]).map
        (fun w => (w.confirmed (), w.isOn ())) =
      some (some (true, 3), some false) := by decide +kernel
  obtain ⟨w, hw, hc⟩ := Option.map_eq_some_iff.mp hrun
  obtain ⟨hc, ho⟩ := Prod.mk.inj hc
  cases ho.symm.trans (h _ w (run_of_replay hw) () true 3 hc)

end SophosFw.WriteSwitch
