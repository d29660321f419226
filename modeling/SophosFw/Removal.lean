import SophosFw.SyncTotal

/-!
What a sync may take out of the registry: only what was confirmed to be gone. The counters of
a family never get ahead of what the log of its endpoint shows, whatever is counted when, as
long as each sync gets as far as the family.
-/

namespace SophosFw.DynamicSync.DynamicFamily

open SophosFw.PyDict SophosFw.Registry SophosFw.Streak

variable {V Item E : Type} {f : DynamicFamily (Coordinator.Data V) Item E}

/-- The objects of a family are read from the field of its endpoint, whenever there is one. -/
def Reads (f : DynamicFamily (Coordinator.Data V) Item E) (objects : V → Dict String Item) : Prop :=
  ∀ (d : Coordinator.Data V) (x : V), d f.endpoint = some x → f.items d = some (objects x)

lemma reads_of_field {objects : V → Dict String Item}
    (h : ∀ d, f.items d = (d f.endpoint).map objects) : f.Reads objects := fun d x hx => by
  rw [h d, hx, Option.map_some]

/-- An object is missing in a result. -/
def lacks (objects : V → Dict String Item) (suffix : String) (x : V) : Bool :=
  decide (suffix ∉ (objects x).keys)

/-- A result shows no objects at all. -/
def empties (objects : V → Dict String Item) (x : V) : Bool := (objects x).isEmpty

lemma lacks_of_empties {objects : V → Dict String Item} (suffix : String) {x : V}
    (h : empties objects x = true) : lacks objects suffix x = true := by
  unfold empties at h
  unfold lacks
  rw [decide_eq_true_eq, ← Dict.get_eq_none_iff]
  exact (Dict.isEmpty_iff _).mp h suffix

/-- What must have been seen before an object's entity may go: with `confirmMissing` the object
was missing in the latest results, and otherwise in the last one, or there was nothing at all
in the latest ones and the family trusts that. -/
def ConfirmedGone (f : DynamicFamily (Coordinator.Data V) Item E) (objects : V → Dict String Item)
    (log : List V) (suffix : String) : Prop :=
  if f.confirmMissing = true then
    ∀ n < Sources.emptyConfirmations, ∃ a, log[n]? = some a ∧ lacks objects suffix a = true
  else
    ∃ a rest, log = a :: rest ∧
      (empties objects a = false → lacks objects suffix a = true) ∧
      (empties objects a = true → f.trustEmpty = true ∧
        ∀ n < Sources.emptyConfirmations, ∃ a, log[n]? = some a ∧ empties objects a = true)

/-- The counters of a family against the log of its endpoint. -/
structure Tally (f : DynamicFamily (Coordinator.Data V) Item E) (objects : V → Dict String Item)
    (log : List V) (new : Prop) (fetched : Option ℚ) (b : Book) : Prop where
  missed : ∀ x, startsWith x f.suffixPrefix = true →
    Counted (lacks objects x) log new (b.missedFetch f.suffixPrefix = fetched) (b.missed x)
  empty : Counted (empties objects) log new (b.emptyFetch f.suffixPrefix = fetched)
    ((b.streak f.suffixPrefix).getD 0)
  unconfirmed : f.confirmMissing = false →
    ∀ x, startsWith x f.suffixPrefix = true → b.missed x = 0

/-- Nothing is counted. -/
structure Blank (f : DynamicFamily (Coordinator.Data V) Item E) (b : Book) : Prop where
  missed : ∀ x, startsWith x f.suffixPrefix = true → b.missed x = 0
  streak : b.streak f.suffixPrefix = none

lemma blank_init : f.Blank Book.init := ⟨fun _ _ => rfl, rfl⟩

lemma Blank.tally {objects : V → Dict String Item} {log : List V} {new : Prop}
    {fetched : Option ℚ} {b : Book} (h : f.Blank b) : f.Tally objects log new fetched b where
  missed x hx := by
    rw [h.missed x hx]
    exact Counted.zero
  empty := by
    rw [h.streak]
    exact Counted.zero
  unconfirmed _ x hx := h.missed x hx

section Kept

variable {entryId domain : String} {s s' : SyncState E}

lemma Blank.kept (h : f.Blank s.book) (hk : Kept entryId domain f.suffixPrefix s s') :
    f.Blank s'.book where
  missed x hx := Nat.le_zero.mp ((hk.missed x hx).trans_eq (h.missed x hx))
  streak := hk.streak.trans h.streak

variable {objects : V → Dict String Item} {log : List V} {new : Prop} {fetched : Option ℚ}

lemma Tally.kept (h : f.Tally objects log new fetched s.book)
    (hk : Kept entryId domain f.suffixPrefix s s') :
    f.Tally objects log new fetched s'.book where
  missed x hx := by
    rw [hk.missedFetch]
    exact (h.missed x hx).mono (hk.missed x hx)
  empty := by
    rw [hk.emptyFetch, hk.streak]
    exact h.empty
  unconfirmed hf x hx := Nat.le_zero.mp ((hk.missed x hx).trans_eq (h.unconfirmed hf x hx))

lemma Tally.idle {new' : Prop} {b : Book} (h : f.Tally objects log new fetched b)
    (hnew : ¬ new) (hnew' : ¬ new') : f.Tally objects log new' fetched b where
  missed x hx := (h.missed x hx).idle hnew hnew' id
  empty := h.empty.idle hnew hnew' id
  unconfirmed := h.unconfirmed

lemma Tally.logged {new' : Prop} {fetched' : Option ℚ} {b : Book}
    (h : f.Tally objects log new fetched b) (hnew : ¬ new) (hnew' : new') (a : V) :
    f.Tally objects (a :: log) new' fetched' b where
  missed x hx := (h.missed x hx).log hnew hnew' a
  empty := h.empty.log hnew hnew' a
  unconfirmed := h.unconfirmed

/-- The sync raises at the family: the latest result is empty, but is not counted. -/
lemma Tally.skip {new' : Prop} {a : V} {b : Book} (h : f.Tally objects (a :: log) new fetched b)
    (ha : empties objects a = true) (hnew' : ¬ new') :
    f.Tally objects (a :: log) new' fetched b where
  missed x hx := (h.missed x hx).skip (lacks_of_empties x ha) hnew' id
  empty := h.empty.skip ha hnew' id
  unconfirmed := h.unconfirmed

lemma Tally.seen {v : CoordinatorView (Coordinator.Data V)} {new' : Prop} {a : V}
    (h : f.Tally objects (a :: log) new (v.fetchedAt f.endpoint) s.book)
    (hs : Seen entryId domain v f (objects a) s s') (hnew' : ¬ new') :
    f.Tally objects (a :: log) new' (v.fetchedAt f.endpoint) s'.book where
  missed x hx := by
    rw [hs.missed x]
    by_cases hf : f.confirmMissing = true
    · rw [if_pos hf, hs.missedFetch, if_pos hf]
      by_cases hmem : x ∈ (objects a).keys
      · rw [if_pos hmem]
        exact Counted.zero
      · have hlacks : lacks objects x a = true := decide_eq_true hmem
        rw [if_neg hmem]
        refine (h.missed x hx).count hlacks ?_ hnew' rfl
        split
        · next hc => exact .inr ⟨fun heq => hc.2 heq.symm, le_rfl⟩
        · exact .inl le_rfl
    · rw [if_neg hf, h.unconfirmed (by simpa using hf) x hx]
      exact Counted.zero
  empty := by
    rw [hs.streak, hs.emptyFetch]
    by_cases hc : f.trustEmpty = true ∧ (objects a).isEmpty = true
    · rw [if_pos hc, if_pos hc]
      refine h.empty.count hc.2 ?_ hnew' rfl
      split
      · next hne => exact .inr ⟨fun heq => hne heq.symm, le_rfl⟩
      · exact .inl le_rfl
    · rw [if_neg hc, if_neg hc]
      exact Counted.zero
  unconfirmed hf x hx := by
    rw [hs.missed x, if_neg (by rw [hf]; exact Bool.false_ne_true)]
    exact h.unconfirmed hf x hx

/-- With the counters right, what a sync takes out was confirmed to be gone. -/
lemma Tally.confirmedGone {v : CoordinatorView (Coordinator.Data V)} {a : V} {e : RegEntry}
    (h : f.Tally objects (a :: log) False fetched s'.book)
    (hs : Seen entryId domain v f (objects a) s s') (he : e ∈ s.registry.entries)
    (hgone : e ∉ s'.registry.entries) :
    f.ConfirmedGone objects (a :: log) (suffixOf entryId e) := by
  obtain ⟨hfam, hwhy⟩ := hs.gone e he hgone
  have hall : ∀ n, s'.book.streak f.suffixPrefix = some n → Sources.emptyConfirmations ≤ n →
      Sources.emptyConfirmations ≤ streak (empties objects) (a :: log) := fun n hn hle => by
    have hcount := h.empty.le id
    rw [hn] at hcount
    exact hle.trans hcount
  unfold ConfirmedGone
  by_cases hf : f.confirmMissing = true
  · rw [if_pos hf]
    intro n hn
    apply of_lt_streak
    rcases hwhy with ⟨-, -, m, hm, hle⟩ | ⟨-, hle, -⟩
    · have hmono : streak (empties objects) (a :: log) ≤
          streak (lacks objects (suffixOf entryId e)) (a :: log) :=
        streak_mono fun b hb => lacks_of_empties (suffixOf entryId e) hb
      exact (hn.trans_le (hall m hm hle)).trans_le hmono
    · exact (hn.trans_le (hle hf)).trans_le
        ((h.missed _ (startsWith_suffixOf hfam)).le id)
  · rw [if_neg hf]
    refine ⟨a, log, rfl, fun hne => ?_, fun hempty => ?_⟩ <;>
      rcases hwhy with ⟨ht, hem, m, hm, hle⟩ | ⟨habsent, -, hne'⟩
    · unfold empties at hne
      rw [hem] at hne
      cases hne
    · exact decide_eq_true habsent
    · exact ⟨ht, fun n hn => of_lt_streak (hn.trans_le (hall m hm hle))⟩
    · unfold empties at hempty
      rw [hne' (by simpa using hf)] at hempty
      cases hempty

end Kept

end SophosFw.DynamicSync.DynamicFamily

namespace SophosFw.SyncRuns

open SophosFw.PyDict SophosFw.Coordinator SophosFw.Registry SophosFw.DynamicSync SophosFw.Runs
  SophosFw.Streak SophosFw.DynamicSync.DynamicFamily

variable {V σ Item E : Type} {P : Platform V σ Item E}

namespace World

variable {w : World P} {f : DynamicFamily (Data V) Item E} {objects : V → Dict String Item}
  {pre post : List (DynamicFamily (Data V) Item E)}

lemma latest_of_shows (hi : FeedInv w) (hreads : f.Reads objects) {items : Dict String Item}
    (h : f.Shows w.view items) :
    ∃ a log, w.applied f.endpoint = a :: log ∧ items = objects a := by
  obtain ⟨hav, hitems, -⟩ := h
  obtain ⟨a, ha⟩ := Option.isSome_iff_exists.mp (hi.present f.endpoint hav)
  have hhead := hi.latest f.endpoint
  rw [ha] at hhead
  obtain ⟨log, hlog⟩ := List.head?_eq_some_iff.mp hhead
  refine ⟨a, log, hlog, ?_⟩
  unfold State.field at ha
  unfold itemsOf at hitems
  split at hitems
  · obtain ⟨d, hd, hitems⟩ := Option.bind_eq_some_iff.mp hitems
    have hdata : w.sys.state.data = some d := hd
    rw [hdata] at ha
    exact (Option.some.inj ((hreads d a ha).symm.trans hitems)).symm
  · cases hitems

lemma shows_of_pending (hi : FeedInv w) (hreads : f.Reads objects) (hr : f.removeStale = true)
    (hready : w.ready f.suffixPrefix = true) (hp : f.endpoint ∈ w.pending) :
    ∃ items, f.Shows w.view items := by
  have hav := hi.pending f.endpoint hp
  obtain ⟨a, ha⟩ := Option.isSome_iff_exists.mp (hi.present f.endpoint hav)
  unfold State.field at ha
  rcases hd : w.sys.state.data with _ | d <;> rw [hd] at ha
  · cases ha
  · refine ⟨objects a, hav, ?_, hr⟩
    have hitems : w.sys.state.data.bind f.items = some (objects a) := by
      rw [hd]
      exact hreads d a ha
    unfold itemsOf
    exact (if_pos hready).trans hitems

/-- The counters are right, and nothing is counted of a family that still waits. -/
structure TallyInv (f : DynamicFamily (Data V) Item E) (objects : V → Dict String Item)
    (w : World P) : Prop where
  feed : FeedInv w
  tally : f.Tally objects (w.applied f.endpoint) (f.endpoint ∈ w.pending)
    (w.sys.state.fetchedAt f.endpoint) w.book
  blank : w.ready f.suffixPrefix = false ∨ w.listening = none → f.Blank w.book

lemma tallyInv_init (clock : ℚ) (registry : EntityRegistry) (ready : String → Bool) :
    TallyInv f objects (World.init P clock registry ready) :=
  ⟨feedInv_init clock registry ready, blank_init.tally, fun _ => blank_init⟩

namespace TallyInv

lemma sync_family (hi : TallyInv f objects w) (hreads : f.Reads objects)
    (hr : f.removeStale = true) {s₁ : SyncState E}
    (hbefore : Kept P.entryId P.domain f.suffixPrefix ⟨w.registry, w.book, []⟩ s₁) :
    f.Tally objects (w.applied f.endpoint) False (w.sys.state.fetchedAt f.endpoint)
        (f.sync P.entryId P.domain w.view s₁).1.book ∧
      (w.ready f.suffixPrefix = false → f.Blank (f.sync P.entryId P.domain w.view s₁).1.book) := by
  have htally := hi.tally.kept hbefore
  have hblank : w.ready f.suffixPrefix = false → f.Blank s₁.book := fun hw =>
    (hi.blank (.inl hw)).kept hbefore
  rcases f.sync_spec P.entryId P.domain w.view s₁ with
    ⟨hnot, -, hu⟩ | ⟨items, hshow, hraise, -, hu⟩ | ⟨items, hshow, -, -, hseen⟩
  · have hk : Kept P.entryId P.domain f.suffixPrefix s₁
        (f.sync P.entryId P.domain w.view s₁).1 := hu.kept
    refine ⟨?_, fun hw => (hblank hw).kept hk⟩
    by_cases hready : w.ready f.suffixPrefix = true
    · have hnew : f.endpoint ∉ w.pending := fun hp => by
        obtain ⟨items, hshow⟩ := shows_of_pending hi.feed hreads hr hready hp
        exact hnot items hshow
      exact (htally.kept hk).idle hnew id
    · exact ((hblank (by simpa using hready)).kept hk).tally
  · have hk : Kept P.entryId P.domain f.suffixPrefix s₁
        (f.sync P.entryId P.domain w.view s₁).1 := hu.kept
    obtain ⟨a, log, hlog, rfl⟩ := latest_of_shows hi.feed hreads hshow
    refine ⟨?_, fun hw => (hblank hw).kept hk⟩
    rw [hlog] at htally ⊢
    exact (htally.kept hk).skip hraise.2.1 id
  · obtain ⟨a, log, hlog, rfl⟩ := latest_of_shows hi.feed hreads hshow
    refine ⟨?_, fun hw => ?_⟩
    · rw [hlog] at htally ⊢
      exact htally.seen hseen id
    · have hitems := hshow.2.1
      unfold itemsOf at hitems
      have hview : w.view.ready f.suffixPrefix = false := hw
      rw [hview] at hitems
      cases hitems

lemma sync (hi : TallyInv f objects w) (hf : P.families.list = pre ++ f :: post)
    (hreads : f.Reads objects) (hr : f.removeStale = true)
    (hpre : ∀ g ∈ pre, ¬ g.RaisesAt w.view w.book) : TallyInv f objects w.sync := by
  obtain ⟨s₁, hbefore, hafter⟩ := around_family hf hpre
  obtain ⟨htally, hblank⟩ := hi.sync_family hreads hr hbefore
  have hbook : w.sync.book = w.syncing.1.book := w.outcome_eq.2.1
  refine ⟨?_, ?_, fun hw => ?_⟩
  · exact ⟨hi.feed.running, hi.feed.latest, hi.feed.present, fun _ hk => by cases hk⟩
  · rw [hbook]
    exact (htally.kept hafter).idle id List.not_mem_nil
  · rw [hbook]
    refine (hblank ?_).kept hafter
    rcases hw with hw | hw
    · exact hw
    · unfold World.sync at hw
      rcases hl : w.listening <;> rw [hl] at hw <;> cases hw

lemma finish (hi : TallyInv f objects w) {plan : Plan P.coordinator}
    (hp : w.sys.running = some plan) (hguard : w.listening.isSome = true → w.pending = [])
    (attempt : ℕ → String → Result V) : TallyInv f objects (w.finish plan attempt) := by
  refine ⟨hi.feed.finish hp attempt, ?_, hi.blank⟩
  by_cases hl : w.listening = none
  · exact (hi.blank (.inr hl)).tally
  have hnew : f.endpoint ∉ w.pending := by
    rw [hguard (Option.isSome_iff_ne_none.mpr hl)]
    exact List.not_mem_nil
  rcases endCycle_applied (hi.feed.running plan hp) w.sys.clock attempt f.endpoint with
    ⟨hk, ⟨a, ha⟩, -⟩ | ⟨hk, hfield, hfetched, -⟩ <;>
    unfold World.finish Sys.finish <;> dsimp only
  · rw [if_pos hk, ha]
    exact hi.tally.logged hnew hk a
  · rw [if_neg hk, hfetched]
    exact hi.tally.idle hnew hk

lemma step {w' : World P} {e : Act V} (hf : P.families.list = pre ++ f :: post)
    (hreads : f.Reads objects) (hr : f.removeStale = true)
    (hpre : e = .sync → ∀ g ∈ pre, ¬ g.RaisesAt w.view w.book)
    (hi : TallyInv f objects w) (h : w.step e = some w') : TallyInv f objects w' := by
  have hfeed := hi.feed.step h
  rcases step_cases h with ⟨e', y, hno, hy, rfl⟩ | ⟨attempt, plan, -, hp, hguard, rfl⟩ |
    ⟨p, -, rfl⟩ | ⟨r, -, rfl⟩ | ⟨he, rfl⟩
  · refine ⟨hfeed, ?_, hi.blank⟩
    dsimp only
    rw [(Sys.step_keeps hno hy).2.1]
    exact hi.tally
  · exact hi.finish hp hguard attempt
  · refine ⟨hfeed, hi.tally, fun hw => hi.blank (hw.imp_left fun hw => ?_)⟩
    by_cases hpf : f.suffixPrefix = p
    · subst hpf
      simp at hw
    · simpa [hpf] using hw
  · exact ⟨hfeed, hi.tally, hi.blank⟩
  · exact hi.sync hf hreads hr (hpre he)

end TallyInv

end World

/-- **Entities are only removed after a confirmed absence**, in every run whose syncs all get as
far as their family. Whatever a sync removes is in one of its families; and if it is in this
one, stale entities may be removed, the endpoint is available, and the log of its results shows
that the object is gone. -/
theorem removal_confirmed (P : Platform V σ Item E) {f : DynamicFamily (Data V) Item E}
    {pre post : List (DynamicFamily (Data V) Item E)} {objects : V → Dict String Item}
    (hf : P.families.list = pre ++ f :: post) (hreads : f.Reads objects)
    {clock : ℚ} {registry : EntityRegistry} {ready : String → Bool} {es : List (Act V)}
    {w w' : World P} (hrun : Run World.step (World.init P clock registry ready) es w)
    (hs : w.step .sync = some w')
    (hreach : AtEach World.step (World.init P clock registry ready)
      (fun e w => e = .sync → w.Reaches pre) (es ++ [.sync])) :
    ∀ e ∈ w.registry.entries, e ∉ w'.registry.entries →
      (∃ g ∈ P.families.list, inFamily P.entryId P.domain g.suffixPrefix e = true) ∧
      (inFamily P.entryId P.domain f.suffixPrefix e = true →
        f.removeStale = true ∧ w.sys.state.endpointAvailable f.endpoint = true ∧
        f.ConfirmedGone objects (w.applied f.endpoint) (suffixOf P.entryId e)) := by
  intro e he hgone
  obtain ⟨hbefore, hlast⟩ := hreach.of_snoc
  have htracked : w.Tracked pre := hrun.invariant_atEach
    (World.tracked_init pre clock registry ready) (fun _ _ _ hc hi hs => hi.step hf hc hs) hbefore
  have hpre := htracked.not_raisesAt (hlast w hrun rfl)
  obtain rfl : w' = w.sync := by
    rcases World.step_cases hs with ⟨e', y, -, -, rfl⟩ | ⟨_, _, he, _⟩ | ⟨_, he, _⟩ | ⟨_, he, _⟩ |
      ⟨-, rfl⟩
    · exact absurd he hgone
    · cases he
    · cases he
    · cases he
    · rfl
  have hregistry : w.sync.registry = w.syncing.1.registry := w.outcome_eq.1
  rw [hregistry] at hgone
  refine ⟨inFamily_of_gone (s := ⟨w.registry, w.book, []⟩) he hgone, fun hfam => ?_⟩
  obtain ⟨s₁, hk, hk'⟩ := World.around_family hf hpre
  have he₁ : e ∈ s₁.registry.entries := hk.stays e he hfam
  have hgone₁ : e ∉ (f.sync P.entryId P.domain w.view s₁).1.registry.entries := fun hmem =>
    hgone (hk'.stays e hmem hfam)
  rcases f.sync_spec P.entryId P.domain w.view s₁ with
    ⟨-, -, hreg, -⟩ | ⟨items, -, -, -, hreg, -⟩ | ⟨items, hshow, -, -, hseen⟩
  · exact absurd (hreg ▸ he₁) hgone₁
  · exact absurd (hreg ▸ he₁) hgone₁
  have hr := hshow.2.2
  have hi : w.Tracked pre ∧ World.TallyInv f objects w := hrun.invariant_atEach
    (I := fun w => w.Tracked pre ∧ World.TallyInv f objects w)
    ⟨World.tracked_init pre clock registry ready, World.tallyInv_init clock registry ready⟩
    (fun _ _ _ hc hi hs => ⟨hi.1.step hf hc hs,
      hi.2.step hf hreads hr (fun he => hi.1.not_raisesAt (hc he)) hs⟩) hbefore
  have htally := (hi.2.sync_family hreads hr hk).1
  obtain ⟨a, log, hlog, rfl⟩ := World.latest_of_shows hi.2.feed hreads hshow
  rw [hlog] at htally ⊢
  exact ⟨hr, hshow.1, htally.confirmedGone hseen he₁ hgone₁⟩

/-! ### Tunnels and access points -/

open SophosFw.Sources SophosFw.SnmpFamilies

/-- The tunnel table and the access points answer. -/
def tableAnswers (tunnels : Dict String VpnTunnel) (accessPoints : Dict String AccessPoint)
    (n : ℕ) (key : String) : Result (SnmpValue SnmpTable) :=
  if key = "access_points" then .value (.other (.accessPoints accessPoints))
  else tunnelAnswers tunnels n key

def oneAccessPoint : Dict String AccessPoint := .single "AP1" ⟨"AP1"⟩

def leftover (domain uniqueId : String) : EntityRegistry :=
  .singleton ⟨"entity", "E", domain, integration, uniqueId⟩

/-- A switch of an earlier session, on a firewall that has no tunnels any more. -/
theorem removal_confirmed_ipsec :
    ∃ w w' : World (switchPlatform ⟨"fw", fun _ => none⟩ "E"),
      replay World.step (World.init _ 0 (leftover "switch" "E_switch_ipsec_1") fun _ => true)
        [.start none, .finish (tunnelAnswers .empty), .sync,
          .invalidate ["tunnels"], .tick 1, .start none, .finish (tunnelAnswers .empty), .sync,
          .invalidate ["tunnels"], .tick 2, .start none,
          .finish (tunnelAnswers .empty)] = some w ∧
      w.step .sync = some w' ∧ w'.registry.entries = [] ∧
      ipsecFamily.ConfirmedGone (fun v => ipsecItems (tunnelsOf v)) (w.applied "tunnels")
        "switch_ipsec_1" := by
  have hrun : (replay World.step (World.init (switchPlatform ⟨"fw", fun _ => none⟩ "E") 0
      (leftover "switch" "E_switch_ipsec_1") fun _ => true)
      [.start none, .finish (tunnelAnswers .empty), .sync,
        .invalidate ["tunnels"], .tick 1, .start none, .finish (tunnelAnswers .empty), .sync,
        .invalidate ["tunnels"], .tick 2, .start none, .finish (tunnelAnswers .empty)]).map
      (fun w => (w.registry.entries, (w.step .sync).map fun w' => w'.registry.entries)) =
      some ((leftover "switch" "E_switch_ipsec_1").entries, some []) := by decide +kernel
  obtain ⟨w, hw, h⟩ := Option.map_eq_some_iff.mp hrun
  obtain ⟨hentries, hsync⟩ := Prod.mk.inj h
  obtain ⟨w', hw', hentries'⟩ := Option.map_eq_some_iff.mp hsync
  have hlist : (switchPlatform ⟨"fw", fun _ => none⟩ "E").families.list =
      [] ++ ipsecFamily :: [] := rfl
  have hreads : ipsecFamily.Reads fun v => ipsecItems (tunnelsOf v) :=
    DynamicFamily.reads_of_field fun _ => rfl
  have hgone := removal_confirmed _ hlist hreads (run_of_replay hw) hw'
    (fun _ _ _ _ _ _ _ _ hg => absurd hg List.not_mem_nil)
    ⟨"entity", "E", "switch", "sophos_firewall", "E_switch_ipsec_1"⟩
    (by rw [hentries]; exact List.mem_cons_self) (by rw [hentries']; exact List.not_mem_nil)
  exact ⟨w, w', hw, hw', hentries', (hgone.2 (by decide)).2.2⟩

/-- The exception of the tunnels keeps a sync from the access points, and the one that is there
is not noticed: its entity goes with the first result that lacks it. -/
theorem removed_after_exception :
    ¬ ∀ (es : List (Act (SnmpValue SnmpTable)))
      (w w' : World (binarySensorPlatform ⟨"fw", fun _ => none⟩ "E")),
      Run World.step (World.init _ 0 (leftover "binary_sensor" "E_ap_AP1") fun _ => true) es w →
      w.step .sync = some w' → w.raises = false →
      ∀ e ∈ w.registry.entries, e ∉ w'.registry.entries →
        inFamily "E" "binary_sensor" "ap_" e = true →
        apFamily.ConfirmedGone (fun v => apItems (accessPointsOf v)) (w.applied "access_points")
          (suffixOf "E" e) := by
  intro h
  have hrun : (replay World.step (World.init (binarySensorPlatform ⟨"fw", fun _ => none⟩ "E") 0
      (leftover "binary_sensor" "E_ap_AP1") fun _ => true)
      [.start none, .finish (tableAnswers oneTunnel .empty), .sync,
        .tick 120, .start none, .finish (tableAnswers .empty .empty), .sync,
        .tick 130, .invalidate ["tunnels"], .start none, .invalidate ["tunnels"],
        .finish (tableAnswers oneTunnel .empty), .sync,
        .tick 240, .start none, .invalidate ["tunnels"],
        .finish (tableAnswers .empty oneAccessPoint), .sync,
        .tick 360, .start none, .finish (tableAnswers oneTunnel .empty)]).map
      (fun w => (w.raises, w.registry.entries, (w.step .sync).map fun w' => w'.registry.entries,
        ((w.applied "access_points")[1]?).map
          (DynamicFamily.lacks (fun v => apItems (accessPointsOf v)) "ap_AP1"))) =
      some (false, (leftover "binary_sensor" "E_ap_AP1").entries, some [], some false) := by
    decide +kernel
  obtain ⟨w, hw, hall⟩ := Option.map_eq_some_iff.mp hrun
  obtain ⟨hraises, hall⟩ := Prod.mk.inj hall
  obtain ⟨hentries, hall⟩ := Prod.mk.inj hall
  obtain ⟨hsync, hthere⟩ := Prod.mk.inj hall
  obtain ⟨w', hw', hentries'⟩ := Option.map_eq_some_iff.mp hsync
  have hgone := h _ w w' (run_of_replay hw) hw' hraises
    ⟨"entity", "E", "binary_sensor", "sophos_firewall", "E_ap_AP1"⟩
    (by rw [hentries]; exact List.mem_cons_self) (by rw [hentries']; exact List.not_mem_nil)
    (by decide)
  unfold DynamicFamily.ConfirmedGone at hgone
  obtain ⟨a, ha, hlacks⟩ := hgone 1 (by decide)
  rw [ha, Option.map_some, Option.some.injEq] at hthere
  have hsuffix : suffixOf "E" ⟨"entity", "E", "binary_sensor", "sophos_firewall", "E_ap_AP1"⟩ =
      "ap_AP1" := by decide
  rw [hsuffix, hthere] at hlacks
  cases hlacks

end SophosFw.SyncRuns
