import SophosFw.Settling
import SophosFw.Removal
import Mathlib.Algebra.Order.BigOperators.Group.List

/-!
The entities of a platform over time. An entity lives from the moment it is added until its
registry entry is removed, and every suffix that is known has one.
-/

namespace SophosFw.SyncRuns

open SophosFw.PyDict SophosFw.Coordinator SophosFw.Registry SophosFw.DynamicSync SophosFw.Runs

variable {V σ Item E : Type} {P : Platform V σ Item E}

/-- A platform whose entities are registered as they are added. -/
structure Population (P : Platform V σ Item E) where
  world : World P
  /-- The suffixes of the entities that were added and not removed since. -/
  live : List String

def Population.init (P : Platform V σ Item E) (clock : ℚ) (registry : EntityRegistry)
    (ready : String → Bool) : Population P :=
  ⟨.init P clock registry ready, []⟩

/-- What the registry keeps the entity with this suffix under. -/
def slotOf (P : Platform V σ Item E) (x : String) : String × String × String :=
  (P.domain, integration, buildUniqueId P.entryId x)

/-- The suffix has a registry entry of the config entry. -/
def HasEntry (P : Platform V σ Item E) (r : EntityRegistry) (x : String) : Prop :=
  ∃ e ∈ r.entries, e.slot = slotOf P x ∧ e.configEntryId = P.entryId

/-- What `items` promises: every object is under the suffix of its entity, which starts with the
prefix of the family. And Home Assistant generates entity ids that are new. -/
structure Roster (P : Platform V σ Item E) where
  uniqueSuffix : E → String
  prefixed : ∀ f ∈ P.families.list, f.Prefixed
  built : ∀ f ∈ P.families.list, ∀ d items, f.items d = some items →
    ∀ p ∈ items.entries, uniqueSuffix (f.factory p.2) = p.1
  newId : EntityRegistry → String → String
  fresh : ∀ r x, newId r x ∉ r.entries.map RegEntry.entityId

namespace Roster

variable (R : Roster P)

/-- The registry after entities with these suffixes were added. -/
def register (r : EntityRegistry) (suffixes : List String) : EntityRegistry :=
  suffixes.foldl (fun r x => r.getOrCreate P.entryId P.domain integration
    (buildUniqueId P.entryId x) (R.newId r x)) r

/-- The suffixes of the entities a sync adds now. -/
def added (w : World P) : List String := w.outcome.2.2.1.map R.uniqueSuffix

/-- A sync, and the registration of what it adds. -/
def sync (p : Population P) : Population P where
  world := { p.world.sync with registry := R.register p.world.outcome.1 (R.added p.world) }
  live := (p.live.filter fun x => (p.world.outcome.1.getEntityId P.domain integration
    (buildUniqueId P.entryId x)).isSome) ++ R.added p.world

def step (p : Population P) : Act V → Option (Population P)
  | .registry _ => none
  | .sync => (p.world.step .sync).map fun _ => R.sync p
  | e => (p.world.step e).map fun w => { p with world := w }

lemma step_of_ne {p : Population P} {e : Act V} (hsync : e ≠ .sync) (hreg : ∀ r, e ≠ .registry r) :
    R.step p e = (p.world.step e).map fun w => { p with world := w } := by
  cases e with
  | sync => exact absurd rfl hsync
  | registry r => exact absurd rfl (hreg r)
  | _ => rfl

lemma step_cases {p p' : Population P} {e : Act V} (h : R.step p e = some p') :
    (∃ w, e ≠ .sync ∧ (∀ r, e ≠ .registry r) ∧ p.world.step e = some w ∧
      p' = { p with world := w }) ∨
    (e = .sync ∧ p.world.step .sync = some p.world.sync ∧ p' = R.sync p) := by
  by_cases hsync : e = .sync
  · subst hsync
    obtain ⟨w, hw, rfl⟩ := Option.map_eq_some_iff.mp h
    refine .inr ⟨rfl, ?_, rfl⟩
    simp only [World.step, Option.ite_none_left_eq_some, and_true] at hw ⊢
    exact hw.1
  · by_cases hreg : ∃ r, e = .registry r
    · obtain ⟨r, rfl⟩ := hreg
      cases h
    · push Not at hreg
      rw [R.step_of_ne hsync hreg] at h
      obtain ⟨w, hw, rfl⟩ := Option.map_eq_some_iff.mp h
      exact .inl ⟨w, hsync, hreg, hw, rfl⟩

section Register

variable {R} {r : EntityRegistry} {suffixes : List String}

lemma slotOf_injective {x y : String} (h : slotOf P x = slotOf P y) : x = y := by
  unfold slotOf at h
  simp only [Prod.mk.injEq, true_and] at h
  exact buildUniqueId_injective h

lemma mem_of_mem_register {e : RegEntry} (he : e ∈ (R.register r suffixes).entries) :
    e ∈ r.entries ∨ ∃ x ∈ suffixes, e.slot = slotOf P x ∧ e.configEntryId = P.entryId := by
  induction suffixes generalizing r with
  | nil => exact .inl he
  | cons x suffixes ih =>
    rcases ih (r := r.getOrCreate P.entryId P.domain integration (buildUniqueId P.entryId x)
      (R.newId r x)) he with he | ⟨y, hy, hslot⟩
    · rcases (EntityRegistry.mem_getOrCreate (R.fresh r x)).mp he with
        ⟨he, -⟩ | ⟨e', he', hslot, rfl⟩ | ⟨-, rfl⟩
      · exact .inl he
      · exact .inr ⟨x, List.mem_cons_self, hslot, rfl⟩
      · exact .inr ⟨x, List.mem_cons_self, rfl, rfl⟩
    · exact .inr ⟨y, List.mem_cons_of_mem _ hy, hslot⟩

lemma mem_register_of_mem {e : RegEntry} (he : e ∈ r.entries)
    (hno : ∀ x ∈ suffixes, e.slot ≠ slotOf P x) : e ∈ (R.register r suffixes).entries := by
  induction suffixes generalizing r with
  | nil => exact he
  | cons x suffixes ih =>
    refine ih (r := r.getOrCreate P.entryId P.domain integration (buildUniqueId P.entryId x)
      (R.newId r x)) ?_ fun y hy => hno y (List.mem_cons_of_mem _ hy)
    exact (EntityRegistry.mem_getOrCreate (R.fresh r x)).mpr
      (.inl ⟨he, hno x List.mem_cons_self⟩)

lemma hasEntry_getOrCreate {x y : String} (h : x = y ∨ HasEntry P r x) :
    HasEntry P (r.getOrCreate P.entryId P.domain integration (buildUniqueId P.entryId y)
      (R.newId r y)) x := by
  by_cases hxy : x = y
  · subst hxy
    by_cases hslot : ∃ e ∈ r.entries, e.slot = slotOf P x
    · obtain ⟨e, he, hslot⟩ := hslot
      exact ⟨{ e with configEntryId := P.entryId },
        (EntityRegistry.mem_getOrCreate (R.fresh r x)).mpr (.inr (.inl ⟨e, he, hslot, rfl⟩)),
        hslot, rfl⟩
    · push Not at hslot
      exact ⟨_, (EntityRegistry.mem_getOrCreate (R.fresh r x)).mpr (.inr (.inr ⟨hslot, rfl⟩)),
        rfl, rfl⟩
  · obtain ⟨e, he, hslot, hconfig⟩ := h.resolve_left hxy
    refine ⟨e, (EntityRegistry.mem_getOrCreate (R.fresh r y)).mpr (.inl ⟨he, fun hy => ?_⟩),
      hslot, hconfig⟩
    exact hxy (slotOf_injective (hslot.symm.trans hy))

lemma hasEntry_register {x : String} (h : x ∈ suffixes ∨ HasEntry P r x) :
    HasEntry P (R.register r suffixes) x := by
  induction suffixes generalizing r with
  | nil => exact h.resolve_left List.not_mem_nil
  | cons y suffixes ih =>
    refine ih (r := r.getOrCreate P.entryId P.domain integration (buildUniqueId P.entryId y)
      (R.newId r y)) ?_
    rw [List.mem_cons] at h
    rcases h with (h | h) | h
    · exact .inr (hasEntry_getOrCreate (.inl h))
    · exact .inl h
    · exact .inr (hasEntry_getOrCreate (.inr h))

lemma slotsDistinct_register (h : r.SlotsDistinct) : (R.register r suffixes).SlotsDistinct := by
  induction suffixes generalizing r with
  | nil => exact h
  | cons x suffixes ih => exact ih (h.getOrCreate (R.fresh r x))

end Register

section Sync

variable {R} {w : World P}

lemma outcome_of_ok (hok : w.raises = false) :
    w.outcome = (w.syncing.1.registry, w.syncing.1.book, w.syncing.1.newEntities, false) := by
  have hraises := w.outcome_eq.2.2
  rw [hok] at hraises
  unfold World.outcome
  rw [sync_eq]
  unfold World.syncing at hraises ⊢
  dsimp only
  rw [← hraises]
  rfl

lemma tracks (R : Roster P) (hok : w.raises = false) : TrackedAll P.entryId w.view P.families.list
    ⟨w.registry, w.book, []⟩ w.syncing.1 :=
  tracks_syncFamilies P.families.apart R.prefixed (w.outcome_eq.2.2.symm.trans hok)

lemma added_eq (hok : w.raises = false) : R.added w =
    P.families.list.flatMap fun f => (f.calls w.view w.book.known).map Prod.fst := by
  unfold added
  rw [outcome_of_ok hok, (R.tracks hok).new, List.nil_append, List.map_flatMap]
  refine List.flatMap_congr fun f hf => ?_
  rw [List.map_map]
  refine List.map_congr_left fun p hp => ?_
  unfold DynamicFamily.calls at hp
  rcases hs : f.shown w.view with _ | items <;> rw [hs] at hp
  · cases hp
  · obtain ⟨d, hd⟩ := f.items_of_shown hs
    exact R.built f hf d items hd p (List.mem_filter.mp hp).1

lemma mem_added (hok : w.raises = false) {x : String} : x ∈ R.added w ↔
    x ∉ w.book.known ∧ ∃ f ∈ P.families.list, x ∈ f.present w.view := by
  rw [added_eq hok, List.mem_flatMap]
  simp only [DynamicFamily.mem_calls]
  exact ⟨fun ⟨f, hf, hx, hno⟩ => ⟨hno, f, hf, hx⟩, fun ⟨hno, f, hf, hx⟩ => ⟨f, hf, hx, hno⟩⟩

lemma nodup_added (hok : w.raises = false) : (R.added w).Nodup := by
  rw [added_eq hok, List.nodup_flatMap]
  constructor
  · intro f _
    unfold DynamicFamily.calls
    rcases f.shown w.view with _ | items
    · exact List.nodup_nil
    · exact items.nodup.sublist (List.filter_sublist.map Prod.fst)
  · refine P.families.apart.imp_of_mem fun hf hg hapart x hx hx' => ?_
    have hf' := DynamicFamily.startsWith_of_present (R.prefixed _ hf)
      (DynamicFamily.mem_calls.mp hx).1
    have hg' := DynamicFamily.startsWith_of_present (R.prefixed _ hg)
      (DynamicFamily.mem_calls.mp hx').1
    rw [hapart.not_startsWith hf'] at hg'
    cases hg'

lemma mem_known (R : Roster P) (hok : w.raises = false) {x : String} : x ∈ w.outcome.2.1.known ↔
    (x ∈ w.book.known ∨ ∃ f ∈ P.families.list, x ∈ f.present w.view) ∧
      ¬ Leaves P.entryId ⟨w.registry, w.book, ([] : List E)⟩ w.syncing.1 x := by
  rw [w.outcome_eq.2.1]
  exact (R.tracks hok).known x

lemma not_leaves (R : Roster P) (hok : w.raises = false) {f : DynamicFamily (Data V) Item E}
    (hf : f ∈ P.families.list) {x : String} (hx : x ∈ f.present w.view) :
    ¬ Leaves P.entryId ⟨w.registry, w.book, ([] : List E)⟩ w.syncing.1 x :=
  not_leaves_of_present P.families.apart R.prefixed (w.outcome_eq.2.2.symm.trans hok) hf hx

end Sync

/-! ### What holds in every state -/

/-- What is known lives, each suffix once, and has a registry entry. -/
structure Tidy (p : Population P) : Prop where
  feed : p.world.FeedInv
  books : p.world.BooksInv
  distinct : p.world.registry.SlotsDistinct
  nodup : p.live.Nodup
  live : ∀ x, x ∈ p.live ↔ x ∈ p.world.book.known
  entry : ∀ x ∈ p.world.book.known, HasEntry P p.world.registry x

namespace Tidy

variable {R} {p : Population P}

lemma init {clock : ℚ} {registry : EntityRegistry} {ready : String → Bool}
    (h : registry.SlotsDistinct) : Tidy (Population.init P clock registry ready) where
  feed := World.feedInv_init clock registry ready
  books := World.booksInv_init clock registry ready
  distinct := h
  nodup := List.nodup_nil
  live _ := Iff.rfl
  entry _ hx := by cases hx

lemma raises_iff (h : Tidy p) : p.world.raises = false ↔ p.world.Countable := by
  rw [← Bool.not_eq_true, h.books.raises_iff, not_not]

lemma gone_of_leaves (h : Tidy p) {x : String} (hx : x ∈ p.world.book.known)
    (hleaves : Leaves P.entryId ⟨p.world.registry, p.world.book, ([] : List E)⟩
      p.world.syncing.1 x) {e : RegEntry} (he : e ∈ p.world.registry.entries)
    (hslot : e.slot = slotOf P x) : e ∉ p.world.outcome.1.entries := by
  obtain ⟨e₁, he₁, hslot₁, hconfig₁⟩ := h.entry x hx
  obtain rfl := h.distinct e he e₁ he₁ (hslot.trans hslot₁.symm)
  obtain ⟨e₀, he₀, hout, rfl⟩ := hleaves
  obtain ⟨f, -, hfam⟩ := inFamily_of_gone he₀ hout
  obtain ⟨hconfig, hdomain, y, huid, -⟩ := inFamily_iff.mp hfam
  rw [suffixOf_eq huid] at hslot
  unfold RegEntry.slot slotOf at hslot
  simp only [Prod.mk.injEq] at hslot
  rw [p.world.outcome_eq.1]
  intro hmem
  exact hout (mem_syncFamilies_of_alike (hconfig₁.trans hconfig.symm)
    (hslot.1.trans hdomain.symm) (hslot.2.2.trans huid.symm) he₀ hmem)

lemma suffixOf_of_slot {e : RegEntry} {x : String} (h : e.slot = slotOf P x) :
    suffixOf P.entryId e = x := by
  unfold RegEntry.slot slotOf at h
  simp only [Prod.mk.injEq] at h
  exact suffixOf_eq h.2.2

lemma mem_outcome {e : RegEntry} (he : e ∈ p.world.registry.entries) {x : String}
    (hslot : e.slot = slotOf P x)
    (hno : ¬ Leaves P.entryId ⟨p.world.registry, p.world.book, ([] : List E)⟩
      p.world.syncing.1 x) : e ∈ p.world.outcome.1.entries := by
  by_contra hout
  rw [p.world.outcome_eq.1] at hout
  exact hno ⟨e, he, hout, suffixOf_of_slot hslot⟩

lemma mem_filter_live (h : Tidy p) {x : String} (hx : x ∈ p.world.book.known) :
    (p.world.outcome.1.getEntityId P.domain integration (buildUniqueId P.entryId x)).isSome = true ↔
      ¬ Leaves P.entryId ⟨p.world.registry, p.world.book, ([] : List E)⟩ p.world.syncing.1 x := by
  rw [EntityRegistry.getEntityId_isSome]
  constructor
  · rintro ⟨e, he, hslot⟩ hleaves
    have hreg : e ∈ p.world.registry.entries := by
      rw [p.world.outcome_eq.1] at he
      exact sub_syncFamilies he
    exact h.gone_of_leaves hx hleaves hreg hslot he
  · intro hno
    obtain ⟨e, he, hslot, -⟩ := h.entry x hx
    exact ⟨e, mem_outcome he hslot hno, hslot⟩

lemma sync (h : Tidy p) (hc : p.world.Countable) : Tidy (R.sync p) := by
  have hok := h.raises_iff.mpr hc
  have hsub : ∀ e ∈ p.world.outcome.1.entries, e ∈ p.world.registry.entries := fun e he => by
    rw [p.world.outcome_eq.1] at he
    exact sub_syncFamilies he
  have hbook : (R.sync p).world.book = p.world.outcome.2.1 := rfl
  have hreg : (R.sync p).world.registry = R.register p.world.outcome.1 (R.added p.world) := rfl
  refine ⟨?_, ?_, ?_, ?_, fun x => ?_, fun x hx => ?_⟩
  · exact ⟨h.feed.running, h.feed.latest, h.feed.present, fun _ hk => by cases hk⟩
  · exact ⟨(h.books.sync hc).raised, (h.books.sync hc).tracks⟩
  · rw [hreg]
    exact slotsDistinct_register fun e he e' he' => h.distinct e (hsub e he) e' (hsub e' he')
  · refine (h.nodup.filter _).append (nodup_added hok) fun x hx hadd => ?_
    exact ((mem_added hok).mp hadd).1 ((h.live x).mp (List.mem_filter.mp hx).1)
  · rw [hbook, mem_known R hok]
    refine (List.mem_append.trans (or_congr List.mem_filter (mem_added hok))).trans ?_
    rw [h.live x]
    by_cases hx : x ∈ p.world.book.known
    · simp only [hx, h.mem_filter_live hx, true_and, not_true_eq_false, false_and, or_false,
        true_or]
    · simp only [hx, false_and, not_false_eq_true, true_and, false_or]
      exact ⟨fun ⟨f, hf, hin⟩ => ⟨⟨f, hf, hin⟩, not_leaves R hok hf hin⟩, And.left⟩
  · rw [hbook, mem_known R hok] at hx
    obtain ⟨hin, hstays⟩ := hx
    refine hasEntry_register ?_
    by_cases hx : x ∈ p.world.book.known
    · obtain ⟨e, he, hslot, hconfig⟩ := h.entry x hx
      exact .inr ⟨e, mem_outcome he hslot hstays, hslot, hconfig⟩
    · exact .inl ((mem_added hok).mpr ⟨hx, hin.resolve_left hx⟩)

lemma step {p' : Population P} {e : Act V} (hc : e = .sync → p.world.Countable) (h : Tidy p)
    (hs : R.step p e = some p') : Tidy p' := by
  rcases R.step_cases hs with ⟨w, hsync, hreg, hw, rfl⟩ | ⟨rfl, -, rfl⟩
  · have hsame : w.registry = p.world.registry ∧ w.book = p.world.book := by
      rcases World.step_cases hw with ⟨_, _, _, _, rfl⟩ | ⟨_, _, _, _, _, rfl⟩ | ⟨_, _, rfl⟩ |
        ⟨r, he, -⟩ | ⟨he, -⟩
      · exact ⟨rfl, rfl⟩
      · exact ⟨rfl, rfl⟩
      · exact ⟨rfl, rfl⟩
      · exact absurd he (hreg r)
      · exact absurd he hsync
    refine ⟨h.feed.step hw, h.books.step (fun he => absurd he hsync) hw, ?_, h.nodup, ?_, ?_⟩
    · rw [hsame.1]
      exact h.distinct
    · rw [hsame.2]
      exact h.live
    · rw [hsame.1, hsame.2]
      exact h.entry
  · exact h.sync (hc rfl)

lemma run {clock : ℚ} {registry : EntityRegistry} {ready : String → Bool}
    (h : registry.SlotsDistinct) {es : List (Act V)}
    (hrun : Run R.step (Population.init P clock registry ready) es p)
    (hcount : AtEach R.step (Population.init P clock registry ready)
      (fun e p => e = .sync → p.world.Countable) es) : Tidy p :=
  hrun.invariant_atEach (init h) (fun _ _ _ hc hi hs => hi.step hc hs) hcount

end Tidy

/-- Nothing new comes in: no result is applied, and no family gets what it waits for. -/
def Quiet (e : Act V) (p : Population P) : Prop :=
  match e with
  | .ready _ => False
  | .finish attempt => ∀ plan, p.world.sys.running = some plan → appliedKeys plan attempt = []
  | _ => True

section Quiet

variable {w w' : World P}

lemma data_of_available (hi : w.FeedInv) {key : String}
    (h : w.sys.state.endpointAvailable key = true) :
    w.sys.state.data = some w.sys.state.field := by
  have hfield := hi.present key h
  unfold State.field at hfield ⊢
  rcases hd : w.sys.state.data with _ | d
  · rw [hd] at hfield
    cases hfield
  · rfl

lemma shown_view (hi : w.FeedInv) (f : DynamicFamily (Data V) Item E) : f.shown w.view =
    if w.sys.state.endpointAvailable f.endpoint = true ∧ w.ready f.suffixPrefix = true then
      f.items w.sys.state.field
    else none := by
  unfold DynamicFamily.shown DynamicFamily.itemsOf World.view viewOf
  dsimp only
  by_cases ha : w.sys.state.endpointAvailable f.endpoint = true
  · rw [if_pos ha, data_of_available hi ha, Option.bind_some]
    simp only [ha, true_and]
  · rw [if_neg ha, if_neg fun h => ha h.1]

/-- A quiet step changes no field and no stamp, and makes nothing available. -/
lemma quiet_step (hi : w.FeedInv) {live : List String} {e : Act V} (hq : Quiet e ⟨w, live⟩)
    (hreg : ∀ r, e ≠ .registry r) (hsync : e ≠ .sync) (hs : w.step e = some w') :
    w'.sys.state.field = w.sys.state.field ∧ w'.sys.state.fetchedAt = w.sys.state.fetchedAt ∧
    (∀ key, w'.sys.state.endpointAvailable key = true →
      w.sys.state.endpointAvailable key = true) ∧
    w'.ready = w.ready ∧ w'.registry = w.registry ∧ w'.book = w.book := by
  rcases World.step_cases hs with ⟨e', y, hno, hy, rfl⟩ | ⟨attempt, plan, rfl, hp, -, rfl⟩ |
    ⟨x, rfl, -⟩ | ⟨r, he, -⟩ | ⟨he, -⟩
  · obtain ⟨hfield, hfetched, hav, -, -⟩ := Sys.step_keeps hno hy
    exact ⟨hfield, hfetched, fun key h => hav ▸ h, rfl, rfl, rfl⟩
  · have hnone : appliedKeys plan attempt = [] := hq plan hp
    have hkey : ∀ key, (w.finish plan attempt).sys.state.field key = w.sys.state.field key ∧
        (w.finish plan attempt).sys.state.fetchedAt key = w.sys.state.fetchedAt key ∧
        ((w.finish plan attempt).sys.state.endpointAvailable key = true →
          w.sys.state.endpointAvailable key = true) := fun key => by
      rcases endCycle_applied (hi.running plan hp) w.sys.clock attempt key with
        ⟨hk, -⟩ | ⟨-, hkeeps⟩
      · rw [hnone] at hk
        cases hk
      · exact hkeeps
    exact ⟨funext fun key => (hkey key).1, funext fun key => (hkey key).2.1,
      fun key => (hkey key).2.2, rfl, rfl, rfl⟩
  · exact hq.elim
  · exact absurd he (hreg r)
  · exact absurd he hsync

lemma settled_step (hi : w.FeedInv) (hi' : w'.FeedInv)
    (hfield : w'.sys.state.field = w.sys.state.field)
    (hfetched : w'.sys.state.fetchedAt = w.sys.state.fetchedAt)
    (hav : ∀ key, w'.sys.state.endpointAvailable key = true →
      w.sys.state.endpointAvailable key = true)
    (hready : w'.ready = w.ready) {s : SyncState E}
    (h : SettledAll P.entryId P.domain w.view P.families.list s) :
    SettledAll P.entryId P.domain w'.view P.families.list s := by
  intro f hf items hshown
  have hstamp : w'.view.fetchedAt f.endpoint = w.view.fetchedAt f.endpoint := by
    unfold World.view viewOf
    dsimp only
    rw [hfetched]
  rw [hstamp]
  refine h f hf items ?_
  rw [shown_view hi', hfield, hready] at hshown
  rw [shown_view hi]
  split at hshown
  · next hc => rw [if_pos ⟨hav _ hc.1, hc.2⟩, hshown]
  · cases hshown

end Quiet

/-- As long as nothing new comes in. -/
structure StillInv (p p' : Population P) : Prop where
  feed : p'.world.FeedInv
  idle : Idle ⟨p.world.registry, p.world.book, ([] : List E)⟩
    ⟨p'.world.registry, p'.world.book, []⟩
  live : p'.live = p.live
  settled : SettledAll P.entryId P.domain p'.world.view P.families.list
    ⟨p'.world.registry, p'.world.book, ([] : List E)⟩

namespace StillInv

variable {R} {p p' : Population P}

lemma start (h : Tidy p) (hc : p.world.Countable) : StillInv (R.sync p) (R.sync p) := by
  have hok := h.raises_iff.mpr hc
  refine ⟨(h.sync hc).feed, .refl, rfl, fun f hf items hshown => ?_⟩
  have hsettled := settled_syncFamilies (s := ⟨p.world.registry, p.world.book, []⟩)
    P.families.apart R.prefixed (p.world.outcome_eq.2.2.symm.trans hok) f hf items hshown
  refine hsettled.registered p.world.outcome_eq.2.1 fun x hx => ?_
  obtain ⟨e, he, hfam, rfl⟩ := mem_registeredSuffixes.mp hx
  rcases mem_of_mem_register he with he | ⟨y, hy, hslot, -⟩
  · rw [p.world.outcome_eq.1] at he
    exact .inl (mem_registeredSuffixes.mpr ⟨e, he, hfam, rfl⟩)
  · have hpre := startsWith_suffixOf hfam
    rw [Tidy.suffixOf_of_slot hslot] at hpre ⊢
    obtain ⟨-, g, hg, hy⟩ := (mem_added hok).mp hy
    obtain rfl := eq_of_startsWith P.families.apart hg hf
      (g.startsWith_of_present (R.prefixed g hg) hy) hpre
    obtain ⟨items', hshown', hy⟩ := DynamicFamily.mem_present.mp hy
    exact .inr (Option.some.inj (hshown'.symm.trans hshown) ▸ hy)

lemma outcome (R : Roster P) (h : StillInv p p') : p'.world.raises = false ∧
    Idle ⟨p'.world.registry, p'.world.book, ([] : List E)⟩ p'.world.syncing.1 ∧
    R.added p'.world = [] := by
  obtain ⟨hidle, hdone⟩ := idle_syncFamilies R.prefixed h.settled
  have hok : p'.world.raises = false := p'.world.outcome_eq.2.2.trans hdone
  have hnew : p'.world.syncing.1.newEntities = [] := hidle.newEntities
  refine ⟨hok, hidle, ?_⟩
  unfold added
  rw [outcome_of_ok hok]
  dsimp only
  rw [hnew, List.map_nil]

lemma sync (hp : Tidy p) (h : StillInv p p') : StillInv p (R.sync p') := by
  obtain ⟨-, hidle, hadded⟩ := h.outcome R
  have hreg : p'.world.outcome.1 = p'.world.registry := p'.world.outcome_eq.1.trans hidle.registry
  have hregistry : (R.sync p').world.registry = p'.world.registry := by
    change R.register p'.world.outcome.1 (R.added p'.world) = _
    rw [hadded, hreg]
    rfl
  have hstep : Idle ⟨p'.world.registry, p'.world.book, ([] : List E)⟩
      ⟨(R.sync p').world.registry, (R.sync p').world.book, []⟩ := by
    have hbook : (R.sync p').world.book = p'.world.syncing.1.book := p'.world.outcome_eq.2.1
    rw [hbook]
    exact ⟨hregistry, rfl, hidle.known, hidle.streak, hidle.emptyFetch, hidle.missed,
      hidle.missedFetch⟩
  refine ⟨?_, h.idle.trans hstep, ?_, h.settled.idle R.prefixed hstep⟩
  · exact ⟨h.feed.running, h.feed.latest, h.feed.present, fun _ hk => by cases hk⟩
  · change p'.live.filter _ ++ R.added p'.world = p.live
    rw [hadded, List.append_nil, h.live, hreg, List.filter_eq_self]
    intro x hx
    obtain ⟨e, he, hslot, -⟩ := hp.entry x ((hp.live x).mp hx)
    have hsame : p'.world.registry = p.world.registry := h.idle.registry
    exact EntityRegistry.getEntityId_isSome.mpr ⟨e, by rwa [hsame], hslot⟩

lemma step {p'' : Population P} {e : Act V} (hp : Tidy p) (hq : Quiet e p') (h : StillInv p p')
    (hs : R.step p' e = some p'') : StillInv p p'' := by
  rcases R.step_cases hs with ⟨w, hsync, hreg, hw, rfl⟩ | ⟨rfl, -, rfl⟩
  · obtain ⟨hfield, hfetched, hav, hready, hregistry, hbook⟩ :=
      quiet_step h.feed hq hreg hsync hw
    have hfeed := h.feed.step hw
    refine ⟨hfeed, ?_, h.live, ?_⟩ <;> rw [hregistry, hbook]
    · exact h.idle
    · exact settled_step h.feed hfeed hfield hfetched hav hready h.settled
  · exact h.sync hp

end StillInv

/-- Nothing has happened to the entities, nothing was counted, and a sync would complete without
adding anything. -/
structure Still (R : Roster P) (p p' : Population P) : Prop where
  registry : p'.world.registry = p.world.registry
  live : p'.live = p.live
  known : p'.world.book.known = p.world.book.known
  streak : ∀ x, p'.world.book.streak x = p.world.book.streak x
  missed : ∀ x, p'.world.book.missed x = p.world.book.missed x
  completes : p'.world.raises = false
  added : R.added p'.world = []

/-- What a sync does to the entities. -/
structure OneEach (R : Roster P) (p p' : Population P) : Prop where
  /-- What is present is tracked. -/
  tracked : ∀ f ∈ P.families.list, ∀ x ∈ f.present p.world.view, x ∈ p'.world.book.known
  /-- The factory is called for what is present and not tracked yet. -/
  called : p.world.outcome.2.2.1 = P.families.list.flatMap fun f =>
    (f.calls p.world.view p.world.book.known).map fun q => f.factory q.2
  /-- What is added does not live yet. -/
  once : ∀ x ∈ R.added p.world, x ∉ p.live
  /-- A suffix is tracked until its registry entry is removed. -/
  untracked : ∀ x ∈ p.world.book.known, x ∉ p'.world.book.known ↔
    ∃ e ∈ p.world.registry.entries, e.slot = slotOf P x ∧ e ∉ p'.world.registry.entries
  /-- What is tracked has one live entity, and one registry entry. -/
  live : ∀ x ∈ p'.world.book.known, p'.live.count x = 1 ∧
    ∃! e, e ∈ p'.world.registry.entries ∧ e.slot = slotOf P x
  /-- Nothing else lives. -/
  known : ∀ x ∈ p'.live, x ∈ p'.world.book.known
  /-- Without a new result nothing happens, however often the sync is repeated. -/
  still : ∀ es p'', Run R.step p' es p'' → AtEach R.step p' Quiet es → Still R p' p''

/-- **Every object has one entity.** After any run whose syncs all found the families countable, the
next such sync tracks what is present, adds what was not tracked, forgets what it removes, and
leaves every tracked suffix one live entity; repeated, it does nothing. -/
theorem one_entity_each (R : Roster P) {clock : ℚ} {registry : EntityRegistry}
    {ready : String → Bool} (hdistinct : registry.SlotsDistinct) {es : List (Act V)}
    {p p' : Population P} (hrun : Run R.step (Population.init P clock registry ready) es p)
    (hcount : AtEach R.step (Population.init P clock registry ready)
      (fun e p => e = .sync → p.world.Countable) es)
    (hsync : R.step p .sync = some p') (hc : p.world.Countable) : OneEach R p p' := by
  have htidy := Tidy.run hdistinct hrun hcount
  have hok := htidy.raises_iff.mpr hc
  obtain rfl : p' = R.sync p := by
    rcases R.step_cases hsync with ⟨_, hno, -⟩ | ⟨-, -, h⟩
    · exact absurd rfl hno
    · exact h
  have htidy' := htidy.sync (R := R) hc
  have hknown : ∀ x, x ∈ (R.sync p).world.book.known ↔
      (x ∈ p.world.book.known ∨ ∃ f ∈ P.families.list, x ∈ f.present p.world.view) ∧
        ¬ Leaves P.entryId ⟨p.world.registry, p.world.book, ([] : List E)⟩ p.world.syncing.1 x :=
    fun x => mem_known R hok
  refine ⟨fun f hf x hx => ?_, ?_, fun x hx hlive => ?_, fun x hx => ?_, fun x hx => ⟨?_, ?_⟩,
    fun x hx => (htidy'.live x).mp hx, fun es p'' hrun' hq => ?_⟩
  · exact (hknown x).mpr ⟨.inr ⟨f, hf, hx⟩, not_leaves R hok hf hx⟩
  · rw [outcome_of_ok hok]
    exact (R.tracks hok).new
  · exact ((mem_added hok).mp hx).1 ((htidy.live x).mp hlive)
  · rw [hknown, and_iff_right (Or.inl hx), not_not]
    -- what is registered after the removals has other suffixes
    have hother : ∀ y ∈ R.added p.world, y ≠ x := fun y hy heq =>
      ((mem_added hok).mp hy).1 (heq ▸ hx)
    constructor
    · intro hleaves
      obtain ⟨e, he, hslot, -⟩ := htidy.entry x hx
      refine ⟨e, he, hslot, fun hmem => ?_⟩
      rcases mem_of_mem_register hmem with hmem | ⟨y, hy, hslot', -⟩
      · exact htidy.gone_of_leaves hx hleaves he hslot hmem
      · exact hother y hy (slotOf_injective (hslot'.symm.trans hslot))
    · rintro ⟨e, he, hslot, hout⟩
      by_contra hno
      refine hout (mem_register_of_mem (Tidy.mem_outcome he hslot hno) fun y hy hslot' => ?_)
      exact hother y hy (slotOf_injective (hslot'.symm.trans hslot))
  · exact List.count_eq_one_of_mem htidy'.nodup ((htidy'.live x).mpr hx)
  · obtain ⟨e, he, hslot, -⟩ := htidy'.entry x hx
    exact ⟨e, ⟨he, hslot⟩, fun e' ⟨he', hslot'⟩ =>
      htidy'.distinct e' he' e he (hslot'.trans hslot.symm)⟩
  · have hstill : StillInv (R.sync p) p'' := hrun'.invariant_atEach (StillInv.start htidy hc)
      (fun _ _ _ hq hi hs => hi.step htidy' hq hs) hq
    exact ⟨hstill.idle.registry, hstill.live, hstill.idle.known, hstill.idle.streak,
      hstill.idle.missed, (hstill.outcome R).1, (hstill.outcome R).2.2⟩

end Roster

section Tagged

/-- Every object with the suffix it is under. -/
def withSuffix (items : Dict String Item) : Dict String (String × Item) where
  entries := items.entries.map fun p => (p.1, p)
  nodup := by
    rw [List.map_map]
    exact items.nodup

/-- The family, with entities that know their suffix. -/
def tagged {D : Type} (f : DynamicFamily D Item E) :
    DynamicFamily D (String × Item) (String × E) where
  suffixPrefix := f.suffixPrefix
  endpoint := f.endpoint
  items d := (f.items d).map withSuffix
  factory p := (p.1, f.factory p.2)
  removeStale := f.removeStale
  trustEmpty := f.trustEmpty
  confirmMissing := f.confirmMissing

def Platform.tagged (P : Platform V σ Item E) : Platform V σ (String × Item) (String × E) where
  coordinator := P.coordinator
  entryId := P.entryId
  domain := P.domain
  families :=
    { list := P.families.list.map SyncRuns.tagged
      apart := List.pairwise_map.mpr P.families.apart }

/-- An entity id from the domain and the suffix; longer than all there are if that one is taken. -/
def generateEntityId (domain : String) (r : EntityRegistry) (x : String) : String :=
  let ids := r.entries.map RegEntry.entityId
  let entityId := domain ++ ".fw_" ++ x
  if entityId ∈ ids then
    entityId ++ String.ofList (List.replicate (ids.map String.length).sum '_')
  else entityId

lemma generateEntityId_fresh (domain : String) (r : EntityRegistry) (x : String) :
    generateEntityId domain r x ∉ r.entries.map RegEntry.entityId := by
  unfold generateEntityId
  dsimp only
  split
  · intro hmem
    have hle := List.single_le_sum (fun _ _ => Nat.zero_le _) _
      (List.mem_map_of_mem (f := String.length) hmem)
    simp [String.length_append] at hle
  · next h => exact h

/-- A platform keeps its promise if its prefixes are right. -/
def Roster.ofPrefixed (P : Platform V σ Item E) (h : ∀ f ∈ P.families.list, f.Prefixed) :
    Roster P.tagged where
  uniqueSuffix := Prod.fst
  prefixed f hf d items hitems x hx := by
    obtain ⟨g, hg, rfl⟩ := List.mem_map.mp hf
    obtain ⟨items', hitems', rfl⟩ := Option.map_eq_some_iff.mp hitems
    refine h g hg d items' hitems' x ?_
    unfold withSuffix Dict.keys at hx
    rwa [List.map_map] at hx
  built f hf d items hitems p hp := by
    obtain ⟨g, hg, rfl⟩ := List.mem_map.mp hf
    obtain ⟨items', hitems', rfl⟩ := Option.map_eq_some_iff.mp hitems
    obtain ⟨q, -, rfl⟩ := List.mem_map.mp hp
    rfl
  newId := generateEntityId P.domain
  fresh := generateEntityId_fresh P.domain

end Tagged

/-! ### Tunnels and access points -/

open SophosFw.Sources SophosFw.SnmpFamilies

lemma prefixed_of_keyed {α : Type} {f : SnmpFamily} {table : SnmpValue SnmpTable → Dict String α}
    {item : String → α → SnmpObject}
    (h : ∀ d, f.items d = (d f.endpoint).map fun v => keyed f.suffixPrefix item (table v)) :
    f.Prefixed := by
  intro d items hitems x hx
  rw [h d] at hitems
  obtain ⟨v, -, rfl⟩ := Option.map_eq_some_iff.mp hitems
  obtain ⟨name, -, rfl⟩ := mem_keys_keyed.mp hx
  exact startsWith_append _ _

/-- `binary_sensor.py` on SNMP. -/
def binarySensorRoster (entry : ConfigEntry) (entryId : String) :
    Roster (binarySensorPlatform entry entryId).tagged :=
  .ofPrefixed _ <| List.forall_mem_cons.mpr ⟨prefixed_of_keyed fun _ => rfl,
    List.forall_mem_cons.mpr ⟨prefixed_of_keyed fun _ => rfl,
      List.forall_mem_singleton.mpr (prefixed_of_keyed fun _ => rfl)⟩⟩

/-- There is a tunnel, then none until its entity is removed, and then there is one again. -/
def tunnelReturns : List (Act (SnmpValue SnmpTable)) :=
  [.start none, .finish (tableAnswers oneTunnel .empty), .sync,
    .tick 1, .invalidate ["tunnels"], .start none, .finish (tableAnswers .empty .empty), .sync,
    .tick 2, .invalidate ["tunnels"], .start none, .finish (tableAnswers .empty .empty), .sync,
    .tick 3, .invalidate ["tunnels"], .start none, .finish (tableAnswers .empty .empty), .sync,
    .tick 4, .invalidate ["tunnels"], .start none, .finish (tableAnswers oneTunnel .empty)]

theorem one_entity_each_returning :
    ∃ p p' : Population (binarySensorPlatform ⟨"fw", fun _ => none⟩ "E").tagged,
      replay (binarySensorRoster ⟨"fw", fun _ => none⟩ "E").step
        (Population.init _ 0 ⟨[], List.nodup_nil⟩ fun _ => true) tunnelReturns = some p ∧
      (binarySensorRoster ⟨"fw", fun _ => none⟩ "E").step p .sync = some p' ∧
      p.live = [] ∧ p'.live = ["vpn_1"] ∧
      Roster.OneEach (binarySensorRoster ⟨"fw", fun _ => none⟩ "E") p p' := by
  have hrun : (replay (binarySensorRoster ⟨"fw", fun _ => none⟩ "E").step
      (Population.init _ 0 ⟨[], List.nodup_nil⟩ fun _ => true) tunnelReturns).map (fun p =>
        (decide p.world.Countable, p.live,
          ((binarySensorRoster ⟨"fw", fun _ => none⟩ "E").step p .sync).map Population.live)) =
      some (true, [], some ["vpn_1"]) := by decide +kernel
  obtain ⟨p, hp, h⟩ := Option.map_eq_some_iff.mp hrun
  obtain ⟨hc, h⟩ := Prod.mk.inj h
  obtain ⟨hnone, hsync⟩ := Prod.mk.inj h
  obtain ⟨p', hp', hlive⟩ := Option.map_eq_some_iff.mp hsync
  have hdistinct : EntityRegistry.SlotsDistinct ⟨[], List.nodup_nil⟩ := fun _ he => by cases he
  have hcount : AtEach (binarySensorRoster ⟨"fw", fun _ => none⟩ "E").step
      (Population.init _ 0 ⟨[], List.nodup_nil⟩ fun _ => true)
      (fun e p => e = .sync → p.world.Countable) tunnelReturns := by decide +kernel
  exact ⟨p, p', hp, hp', hnone, hlive, Roster.one_entity_each _ hdistinct (run_of_replay hp) hcount
    hp' (of_decide_eq_true hc)⟩

/-- Tunnels behind access points. -/
def tunnelsLast : Platform (SnmpValue SnmpTable) SnmpExtra SnmpObject SnmpObject where
  coordinator := snmpCoordinator SnmpTable ⟨"fw", fun _ => none⟩
  entryId := "E"
  domain := "binary_sensor"
  families :=
    { list := [apFamily, vpnFamily]
      apart := by
        have h : [apFamily.suffixPrefix, vpnFamily.suffixPrefix].Pairwise Apart := by
          unfold Apart
          decide
        exact List.pairwise_map.mp h }

def tunnelsLastRoster : Roster tunnelsLast.tagged :=
  .ofPrefixed _ <| List.forall_mem_cons.mpr ⟨prefixed_of_keyed fun _ => rfl,
    List.forall_mem_singleton.mpr (prefixed_of_keyed fun _ => rfl)⟩

/-- An access point that is seen in a sync which raises is tracked from then on, and never gets an
entity: the tunnel came back and went again while writes kept its fetches from being counted. -/
theorem access_point_without_entity :
    ¬ ∀ (es : List (Act (SnmpValue SnmpTable))) (p p' : Population tunnelsLast.tagged),
      Run tunnelsLastRoster.step (Population.init _ 0 ⟨[], List.nodup_nil⟩ fun _ => true) es p →
      tunnelsLastRoster.step p .sync = some p' → p.world.raises = false →
      ∀ x ∈ (tagged apFamily).present p.world.view, p'.live.count x = 1 := by
  intro h
  have hrun : (replay tunnelsLastRoster.step
      (Population.init _ 0 ⟨[], List.nodup_nil⟩ fun _ => true)
      [.start none, .finish (tableAnswers oneTunnel .empty), .sync,
        .tick 120, .start none, .finish (tableAnswers .empty .empty), .sync,
        .tick 130, .invalidate ["tunnels"], .start none, .invalidate ["tunnels"],
        .finish (tableAnswers oneTunnel .empty), .sync,
        .tick 240, .start none, .invalidate ["tunnels"],
        .finish (tableAnswers .empty oneAccessPoint), .sync,
        .tick 270, .start none, .finish (tableAnswers .empty oneAccessPoint)]).map (fun p =>
          (p.world.raises, (tagged apFamily).present p.world.view,
          (tunnelsLastRoster.step p .sync).map Population.live)) =
      some (false, ["ap_AP1"], some ["vpn_1"]) := by decide +kernel
  obtain ⟨p, hp, hall⟩ := Option.map_eq_some_iff.mp hrun
  obtain ⟨hok, hall⟩ := Prod.mk.inj hall
  obtain ⟨hpresent, hsync⟩ := Prod.mk.inj hall
  obtain ⟨p', hp', hlive⟩ := Option.map_eq_some_iff.mp hsync
  have hcount := h _ p p' (run_of_replay hp) hp' hok "ap_AP1"
    (by rw [hpresent]; exact List.mem_cons_self)
  rw [hlive] at hcount
  exact absurd hcount (by decide)

end SophosFw.SyncRuns
