import SophosFw.Streak
import SophosFw.SyncOrder

/-!
A platform over time: the cycles of its coordinator, invalidations at any moment, and a sync
at least once after each cycle that applied something. Whatever is done to the registry in
between is done by others.
-/

namespace SophosFw.Coordinator

open SophosFw.PyDict

variable {V σ : Type} {c : SophosCoordinator V σ}

/-- The endpoints whose results a cycle applies. -/
def appliedKeys (plan : Plan c) (attempt : ℕ → String → Result V) : List String :=
  match (c.collect plan attempt).result with
  | .ok (updates, _) => updates.keys
  | .error _ => []

lemma endCycle_applied {s : State V σ} {plan : Plan c}
    (hprev : plan.previous = (s.data.getD fun _ => none)) (done : ℚ)
    (attempt : ℕ → String → Result V) (key : String) :
    (key ∈ appliedKeys plan attempt ∧
      (∃ v, (c.endCycle s plan attempt done).field key = some v) ∧
      (c.endCycle s plan attempt done).endpointAvailable key = true) ∨
    (key ∉ appliedKeys plan attempt ∧
      (c.endCycle s plan attempt done).field key = s.field key ∧
      (c.endCycle s plan attempt done).fetchedAt key = s.fetchedAt key ∧
      ((c.endCycle s plan attempt done).endpointAvailable key = true →
        s.endpointAvailable key = true)) := by
  unfold appliedKeys
  rcases endCycle_key hprev done attempt key with
    ⟨updates, failures, hc, hk, hfield, -, hav⟩ | ⟨hno, hfield, hfetched, hav⟩
  · rw [hc]
    refine .inl ⟨hk, ?_, hav⟩
    have hget := c.prepare_keys s.extra updates key
    rw [updates.get_isSome_iff.mpr hk] at hget
    obtain ⟨v, hv⟩ := Option.isSome_iff_exists.mp hget
    exact ⟨v, hfield.trans hv⟩
  · refine .inr ⟨?_, hfield, hfetched, hav⟩
    rcases hc : (c.collect plan attempt).result with e | ⟨updates, failures⟩
    · exact List.not_mem_nil
    · exact hno updates failures hc

end SophosFw.Coordinator

namespace SophosFw.SyncRuns

open SophosFw.PyDict SophosFw.Coordinator SophosFw.Registry SophosFw.DynamicSync

/-- A platform of a config entry, with the families it sets up on a coordinator. -/
structure Platform (V σ Item E : Type) where
  coordinator : SophosCoordinator V σ
  entryId : String
  domain : String
  families : Families (Data V) Item E

variable {V σ Item E : Type}

structure World (P : Platform V σ Item E) where
  sys : Sys P.coordinator
  registry : EntityRegistry
  book : Book
  ready : String → Bool
  /-- Whether `_sync` listens to the coordinator; `none` before the setup, whose own sync is
  the first. -/
  listening : Option Bool
  /-- The results of each endpoint that were applied, the latest first. -/
  applied : String → List V
  /-- The endpoints whose last result no sync has followed yet. -/
  pending : List String
  /-- What the syncs found, the latest first. -/
  synced : List (CoordinatorView (Data V))
  /-- A sync has raised. -/
  raised : Bool

inductive Act (V : Type)
  | tick (now : ℚ)
  | start (restrictTo : Option (List String))
  | invalidate (keys : List String)
  | finish (attempt : ℕ → String → Result V)
  /-- What the `items` of a family waits for is there. -/
  | ready (suffixPrefix : String)
  /-- Others add, remove and change entries. -/
  | registry (r : EntityRegistry)
  | sync

instance (e : Act V) : Decidable (e = .sync) :=
  match e with
  | .sync => .isTrue rfl
  | .tick _ | .start _ | .invalidate _ | .finish _ | .ready _ | .registry _ => .isFalse nofun

namespace World

variable {P : Platform V σ Item E}

def init (P : Platform V σ Item E) (clock : ℚ) (registry : EntityRegistry)
    (ready : String → Bool) : World P where
  sys := .init P.coordinator clock
  registry := registry
  book := .init
  ready := ready
  listening := none
  applied := fun _ => []
  pending := []
  synced := []
  raised := false

def view (w : World P) : CoordinatorView (Data V) := viewOf w.ready w.sys.state

/-- The families of a sync that starts now, at work. -/
def syncing (w : World P) : SyncState E × Bool :=
  syncFamilies P.entryId P.domain w.view P.families.list ⟨w.registry, w.book, []⟩

/-- What a sync comes to now. -/
def outcome (w : World P) : EntityRegistry × Book × List E × Bool :=
  DynamicSync.sync P.entryId P.domain w.view P.families.list w.registry w.book

/-- `_sync` ends with an exception now. -/
def raises (w : World P) : Bool := w.outcome.2.2.2

def sync (w : World P) : World P :=
  { w with
    registry := w.outcome.1
    book := w.outcome.2.1
    listening := w.listening.or (some !w.raises)
    pending := []
    synced := w.view :: w.synced
    raised := w.raised || w.raises }

/-- The running cycle ends. -/
def finish (w : World P) (plan : Plan P.coordinator) (attempt : ℕ → String → Result V) : World P :=
  let sys := w.sys.finish plan attempt
  { w with
    sys := sys
    applied := fun key =>
      if key ∈ appliedKeys plan attempt then (sys.state.field key).toList ++ w.applied key
      else w.applied key
    pending := appliedKeys plan attempt }

def step (w : World P) : Act V → Option (World P)
  | .tick now => (w.sys.step (.tick now)).map fun y => { w with sys := y }
  | .start restrictTo => (w.sys.step (.start restrictTo)).map fun y => { w with sys := y }
  | .invalidate keys => (w.sys.step (.invalidate keys)).map fun y => { w with sys := y }
  | .finish attempt =>
    -- once the platform is set up, every result that was applied is followed by a sync
    if w.listening.isSome ∧ w.pending ≠ [] then none
    else w.sys.running.map fun plan => w.finish plan attempt
  | .ready suffixPrefix => some { w with ready := Function.update w.ready suffixPrefix true }
  | .registry r => some { w with registry := r }
  | .sync => if w.listening = some false then none else some w.sync

lemma step_cases {w w' : World P} {e : Act V} (h : w.step e = some w') :
    (∃ e' y, (∀ attempt, e' ≠ .finish attempt) ∧ w.sys.step e' = some y ∧
      w' = { w with sys := y }) ∨
    (∃ attempt plan, e = .finish attempt ∧ w.sys.running = some plan ∧
      (w.listening.isSome = true → w.pending = []) ∧ w' = w.finish plan attempt) ∨
    (∃ p, e = .ready p ∧ w' = { w with ready := Function.update w.ready p true }) ∨
    (∃ r, e = .registry r ∧ w' = { w with registry := r }) ∨
    (e = .sync ∧ w' = w.sync) := by
  cases e with
  | tick now =>
    obtain ⟨y, hy, rfl⟩ := Option.map_eq_some_iff.mp h
    exact .inl ⟨.tick now, y, nofun, hy, rfl⟩
  | start restrictTo =>
    obtain ⟨y, hy, rfl⟩ := Option.map_eq_some_iff.mp h
    exact .inl ⟨.start restrictTo, y, nofun, hy, rfl⟩
  | invalidate keys =>
    exact .inl ⟨.invalidate keys, _, nofun, rfl, (Option.some.inj h).symm⟩
  | finish attempt =>
    simp only [step, Option.ite_none_left_eq_some, not_and, not_not] at h
    obtain ⟨hguard, h⟩ := h
    obtain ⟨plan, hp, rfl⟩ := Option.map_eq_some_iff.mp h
    exact .inr (.inl ⟨attempt, plan, rfl, hp, hguard, rfl⟩)
  | ready p => exact .inr (.inr (.inl ⟨p, rfl, (Option.some.inj h).symm⟩))
  | registry r => exact .inr (.inr (.inr (.inl ⟨r, rfl, (Option.some.inj h).symm⟩)))
  | sync =>
    simp only [step, Option.ite_none_left_eq_some, Option.some.injEq] at h
    exact .inr (.inr (.inr (.inr ⟨rfl, h.2.symm⟩)))

lemma outcome_eq (w : World P) :
    w.outcome.1 = w.syncing.1.registry ∧ w.outcome.2.1 = w.syncing.1.book ∧
      w.raises = w.syncing.2 := by
  unfold raises outcome syncing
  rw [sync_eq]
  exact ⟨rfl, rfl, rfl⟩

lemma raises_iff (w : World P) :
    w.raises = true ↔ ∃ f ∈ P.families.list, f.RaisesAt w.view w.book := by
  rw [w.outcome_eq.2.2]
  exact raised_syncFamilies P.families.apart

/-! ### What the coordinator guarantees the syncs -/

/-- The log of an endpoint ends with what its field holds; an endpoint that is available has a
field, and one that is pending is available. -/
structure FeedInv (w : World P) : Prop where
  running : ∀ plan, w.sys.running = some plan →
    plan.previous = (w.sys.state.data.getD fun _ => none)
  latest : ∀ key, (w.applied key).head? = w.sys.state.field key
  present : ∀ key, w.sys.state.endpointAvailable key = true → (w.sys.state.field key).isSome = true
  pending : ∀ key ∈ w.pending, w.sys.state.endpointAvailable key = true

lemma feedInv_init (clock : ℚ) (registry : EntityRegistry) (ready : String → Bool) :
    FeedInv (World.init P clock registry ready) where
  running _ h := by cases h
  latest _ := rfl
  present _ h := by cases h
  pending _ h := by cases h

namespace FeedInv

variable {w : World P}

lemma finish (hi : FeedInv w) {plan : Plan P.coordinator} (hp : w.sys.running = some plan)
    (attempt : ℕ → String → Result V) : FeedInv (w.finish plan attempt) := by
  have hprev := hi.running plan hp
  refine ⟨nofun, fun key => ?_, fun key h => ?_, fun key hk => ?_⟩ <;>
    rcases endCycle_applied hprev w.sys.clock attempt key with
      ⟨hk', ⟨v, hv⟩, hav⟩ | ⟨hk', hfield, hfetched, hav⟩ <;>
    unfold World.finish Sys.finish at * <;> dsimp only at *
  · rw [if_pos hk', hv]
    rfl
  · rw [if_neg hk', hfield]
    exact hi.latest key
  · rw [hv]
    rfl
  · rw [hfield]
    exact hi.present key (hav h)
  · exact hav
  · exact absurd hk hk'

lemma step {w' : World P} {e : Act V} (hi : FeedInv w) (h : w.step e = some w') : FeedInv w' := by
  rcases step_cases h with ⟨e', y, hno, hy, rfl⟩ | ⟨attempt, plan, -, hp, -, rfl⟩ |
    ⟨p, -, rfl⟩ | ⟨r, -, rfl⟩ | ⟨-, rfl⟩
  · obtain ⟨hfield, -, hav, -, hplan⟩ := Sys.step_keeps hno hy
    refine ⟨fun plan hp => ?_, fun key => ?_, fun key hk => ?_, fun key hk => ?_⟩ <;>
      dsimp only at *
    · rcases hplan plan hp with ⟨hp', hd⟩ | hd
      · rw [hd]
        exact hi.running plan hp'
      · exact hd
    · rw [hfield]
      exact hi.latest key
    · rw [hav] at hk
      rw [hfield]
      exact hi.present key hk
    · rw [hav]
      exact hi.pending key hk
  · exact hi.finish hp attempt
  · exact ⟨hi.running, hi.latest, hi.present, hi.pending⟩
  · exact ⟨hi.running, hi.latest, hi.present, hi.pending⟩
  · exact ⟨hi.running, hi.latest, hi.present, fun _ hk => by cases hk⟩

end FeedInv

end World

end SophosFw.SyncRuns
