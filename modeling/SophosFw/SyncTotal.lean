import SophosFw.SnmpFamilies

/-!
When a sync completes.

The streak of an empty family is dropped as soon as the family is seen with objects, the fetch
at which it was counted is not. So a family that is empty again, without a counted fetch in
between, has no streak, and looking it up raises.
-/

namespace SophosFw.DynamicSync.DynamicFamily

open SophosFw.PyDict

variable {D Item E : Type} {f : DynamicFamily D Item E} {v : CoordinatorView D}
  {synced : List (CoordinatorView D)}

/-- The objects a sync sees. -/
def shown (f : DynamicFamily D Item E) (v : CoordinatorView D) : Option (Dict String Item) :=
  if v.endpointAvailable f.endpoint then f.itemsOf v else none

def showsEmpty (f : DynamicFamily D Item E) (v : CoordinatorView D) : Bool :=
  (f.shown v).any Dict.isEmpty

/-- The last sync that saw the family saw it empty. -/
def lastShownEmpty (f : DynamicFamily D Item E) (synced : List (CoordinatorView D)) : Bool :=
  (synced.findSome? f.shown).any Dict.isEmpty

/-- The stamp of the endpoint at the last sync that saw the family empty. -/
def lastEmptyFetch (f : DynamicFamily D Item E) (synced : List (CoordinatorView D)) : Option ℚ :=
  (synced.find? f.showsEmpty).bind fun v => v.fetchedAt f.endpoint

/-- If the family is seen empty, it was empty when last seen, or the endpoint has another stamp
than when it was last seen empty. -/
def Countable (f : DynamicFamily D Item E) (synced : List (CoordinatorView D))
    (v : CoordinatorView D) : Prop :=
  f.trustEmpty = true → f.removeStale = true → f.showsEmpty v = true →
    f.lastShownEmpty synced = true ∨ v.fetchedAt f.endpoint ≠ f.lastEmptyFetch synced

instance (f : DynamicFamily D Item E) (synced : List (CoordinatorView D))
    (v : CoordinatorView D) : Decidable (f.Countable synced v) :=
  inferInstanceAs (Decidable (f.trustEmpty = true → f.removeStale = true →
    f.showsEmpty v = true →
      f.lastShownEmpty synced = true ∨ v.fetchedAt f.endpoint ≠ f.lastEmptyFetch synced))

lemma shows_iff {items : Dict String Item} :
    f.Shows v items ↔ f.removeStale = true ∧ f.shown v = some items := by
  unfold Shows shown
  split
  · next h => simp [h, and_comm]
  · next h => simp [h]

section Log

lemma lastShownEmpty_of_none (h : f.shown v = none) :
    f.lastShownEmpty (v :: synced) = f.lastShownEmpty synced := by
  unfold lastShownEmpty
  rw [List.findSome?_cons, h]

lemma lastEmptyFetch_of_none (h : f.shown v = none) :
    f.lastEmptyFetch (v :: synced) = f.lastEmptyFetch synced := by
  unfold lastEmptyFetch
  rw [List.find?_cons_of_neg]
  unfold showsEmpty
  rw [h]
  exact Bool.false_ne_true

lemma lastShownEmpty_of_some {items : Dict String Item} (h : f.shown v = some items) :
    f.lastShownEmpty (v :: synced) = items.isEmpty := by
  unfold lastShownEmpty
  rw [List.findSome?_cons, h]
  rfl

lemma lastEmptyFetch_of_some {items : Dict String Item} (h : f.shown v = some items) :
    f.lastEmptyFetch (v :: synced) =
      if items.isEmpty = true then v.fetchedAt f.endpoint else f.lastEmptyFetch synced := by
  have hempty : f.showsEmpty v = items.isEmpty := by
    unfold showsEmpty
    rw [h]
    rfl
  unfold lastEmptyFetch
  by_cases he : items.isEmpty = true
  · rw [List.find?_cons_of_pos (by rw [hempty, he]), if_pos he]
    rfl
  · rw [List.find?_cons_of_neg (by rw [hempty]; exact he), if_neg he]

end Log

/-- The books of the family say what the syncs so far saw of it. -/
structure Tracks (f : DynamicFamily D Item E) (synced : List (CoordinatorView D)) (b : Book) :
    Prop where
  streak : (b.streak f.suffixPrefix).isSome = f.lastShownEmpty synced
  emptyFetch : b.emptyFetch f.suffixPrefix = f.lastEmptyFetch synced

lemma tracks_init : f.Tracks [] Book.init := ⟨rfl, rfl⟩

lemma raisesAt_iff {b : Book} (h : f.Tracks synced b) :
    f.RaisesAt v b ↔ ¬ f.Countable synced v := by
  have hstreak : b.streak f.suffixPrefix = none ↔ ¬ f.lastShownEmpty synced = true := by
    rw [← h.streak, Option.not_isSome_iff_eq_none]
  unfold RaisesAt Raises Countable showsEmpty
  rw [hstreak, h.emptyFetch]
  push Not
  constructor
  · rintro ⟨items, hshow, ht, he, heq, hno⟩
    obtain ⟨hr, hs⟩ := shows_iff.mp hshow
    exact ⟨ht, hr, by rw [hs]; exact he, hno, heq⟩
  · rintro ⟨ht, hr, he, hno, heq⟩
    rcases hs : f.shown v with _ | items <;> rw [hs] at he
    · cases he
    · exact ⟨items, shows_iff.mpr ⟨hr, hs⟩, ht, he, heq, hno⟩

lemma Tracks.sync {entryId domain : String} {s s₁ s' : SyncState E}
    (h : f.Tracks synced s.book) (ht : f.trustEmpty = true) (hr : f.removeStale = true)
    (hbefore : Kept entryId domain f.suffixPrefix s s₁)
    (hafter : Kept entryId domain f.suffixPrefix (f.sync entryId domain v s₁).1 s')
    (hno : ¬ f.RaisesAt v s.book) : f.Tracks (v :: synced) s'.book := by
  have hs₁ : ¬ f.RaisesAt v s₁.book := by
    rwa [raisesAt_congr hbefore.streak hbefore.emptyFetch]
  rcases f.sync_spec entryId domain v s₁ with
    ⟨hnot, -, hu⟩ | ⟨items, hshow, hraise, -⟩ | ⟨items, hshow, hnot, -, hseen⟩
  · -- not seen: the books stay, and so does what was seen last
    have hk := hbefore.trans (Untouched.kept hu |>.trans hafter)
    have hnone : f.shown v = none := by
      rw [Option.eq_none_iff_forall_not_mem]
      intro items hmem
      exact hnot items (shows_iff.mpr ⟨hr, hmem⟩)
    refine ⟨?_, ?_⟩
    · rw [hk.streak, h.streak, lastShownEmpty_of_none hnone]
    · rw [hk.emptyFetch, h.emptyFetch, lastEmptyFetch_of_none hnone]
  · exact absurd ⟨items, hshow, hraise⟩ hs₁
  · have hs := (shows_iff.mp hshow).2
    refine ⟨?_, ?_⟩
    · rw [hafter.streak, hseen.streak, lastShownEmpty_of_some hs]
      by_cases he : items.isEmpty = true
      · rw [if_pos ⟨ht, he⟩, he]
        split
        · rfl
        · next heq =>
          -- counted before: the streak is there, or the lookup had raised
          by_contra hnone
          refine hnot ⟨ht, he, not_not.mp heq, ?_⟩
          rwa [Option.not_isSome_iff_eq_none] at hnone
      · rw [if_neg fun hc => he hc.2]
        simpa using he
    · rw [hafter.emptyFetch, hseen.emptyFetch, hbefore.emptyFetch, h.emptyFetch,
        lastEmptyFetch_of_some hs]
      by_cases he : items.isEmpty = true
      · rw [if_pos ⟨ht, he⟩, if_pos he]
      · rw [if_neg fun hc => he hc.2, if_neg he]

end SophosFw.DynamicSync.DynamicFamily

namespace SophosFw.SyncRuns

open SophosFw.Coordinator SophosFw.Registry SophosFw.DynamicSync SophosFw.Runs

variable {V σ Item E : Type} {P : Platform V σ Item E}

namespace World

/-- Every family can be counted in a sync that starts now. -/
def Countable (w : World P) : Prop := ∀ f ∈ P.families.list, f.Countable w.synced w.view

instance (w : World P) : Decidable w.Countable :=
  inferInstanceAs (Decidable (∀ f ∈ P.families.list, f.Countable w.synced w.view))

/-- These families can be counted in a sync that starts now, so that it gets past them. -/
def Reaches (pre : List (DynamicFamily (Data V) Item E)) (w : World P) : Prop :=
  ∀ g ∈ pre, g.Countable w.synced w.view

/-- The books say of these families what was seen. -/
def Tracked (pre : List (DynamicFamily (Data V) Item E)) (w : World P) : Prop :=
  ∀ g ∈ pre, g.trustEmpty = true → g.removeStale = true → g.Tracks w.synced w.book

lemma around_family {w : World P} {f : DynamicFamily (Data V) Item E}
    {pre post : List (DynamicFamily (Data V) Item E)} (hf : P.families.list = pre ++ f :: post)
    (hpre : ∀ g ∈ pre, ¬ g.RaisesAt w.view w.book) :
    ∃ s₁, Kept P.entryId P.domain f.suffixPrefix ⟨w.registry, w.book, ([] : List E)⟩ s₁ ∧
      Kept P.entryId P.domain f.suffixPrefix (f.sync P.entryId P.domain w.view s₁).1
        w.syncing.1 := by
  have hl := P.families.apart
  unfold syncing
  rw [hf] at hl ⊢
  exact kept_around hl hpre

namespace Tracked

variable {w : World P} {pre post : List (DynamicFamily (Data V) Item E)}

lemma raisesAt_iff (h : w.Tracked pre) {g : DynamicFamily (Data V) Item E} (hg : g ∈ pre) :
    g.RaisesAt w.view w.book ↔ ¬ g.Countable w.synced w.view := by
  constructor
  · rintro ⟨items, hshow, hraise⟩
    have htracks := h g hg hraise.1 hshow.2.2
    exact (DynamicFamily.raisesAt_iff htracks).mp ⟨items, hshow, hraise⟩
  · intro hc
    have hflags : g.trustEmpty = true ∧ g.removeStale = true := by
      unfold DynamicFamily.Countable at hc
      push Not at hc
      exact ⟨hc.1, hc.2.1⟩
    exact (DynamicFamily.raisesAt_iff (h g hg hflags.1 hflags.2)).mpr hc

lemma not_raisesAt (h : w.Tracked pre) (hc : w.Reaches pre) :
    ∀ g ∈ pre, ¬ g.RaisesAt w.view w.book :=
  fun g hg hr => (h.raisesAt_iff hg).mp hr (hc g hg)

lemma sync (hf : P.families.list = pre ++ post) (h : w.Tracked pre) (hc : w.Reaches pre) :
    w.sync.Tracked pre := by
  intro g hg ht hr
  obtain ⟨before, after, rfl⟩ := List.append_of_mem hg
  have hnone := h.not_raisesAt hc
  have hsplit : P.families.list = before ++ g :: (after ++ post) := by
    rw [hf, List.append_assoc, List.cons_append]
  obtain ⟨s₁, hbefore, hafter⟩ := around_family hsplit fun g' hg' =>
    hnone g' (List.mem_append_left _ hg')
  unfold World.sync
  dsimp only
  rw [w.outcome_eq.2.1]
  exact (h g hg ht hr).sync ht hr hbefore hafter (hnone g hg)

lemma step {w' : World P} {e : Act V} (hf : P.families.list = pre ++ post)
    (hc : e = .sync → w.Reaches pre) (h : w.Tracked pre) (hs : w.step e = some w') :
    w'.Tracked pre := by
  rcases step_cases hs with ⟨e', y, -, -, rfl⟩ | ⟨attempt, plan, -, -, -, rfl⟩ |
    ⟨p, -, rfl⟩ | ⟨r, -, rfl⟩ | ⟨he, rfl⟩
  · exact h
  · exact h
  · exact h
  · exact h
  · exact h.sync hf (hc he)

end Tracked

lemma tracked_init (pre : List (DynamicFamily (Data V) Item E)) (clock : ℚ)
    (registry : EntityRegistry) (ready : String → Bool) :
    (World.init P clock registry ready).Tracked pre :=
  fun _ _ _ _ => DynamicFamily.tracks_init

/-- No sync has raised, and the books say what was seen. -/
structure BooksInv (w : World P) : Prop where
  raised : w.raised = false
  tracks : w.Tracked P.families.list

lemma booksInv_init (clock : ℚ) (registry : EntityRegistry) (ready : String → Bool) :
    BooksInv (World.init P clock registry ready) :=
  ⟨rfl, tracked_init _ clock registry ready⟩

namespace BooksInv

variable {w : World P}

lemma raises_iff (hi : BooksInv w) : w.raises = true ↔ ¬ w.Countable := by
  rw [World.raises_iff]
  unfold World.Countable
  push Not
  exact exists_congr fun f => and_congr_right fun hf => hi.tracks.raisesAt_iff hf

lemma sync (hi : BooksInv w) (hc : w.Countable) : BooksInv w.sync := by
  have hno : w.raises = false := by
    rw [← Bool.not_eq_true, hi.raises_iff]
    exact not_not.mpr hc
  refine ⟨?_, hi.tracks.sync (List.append_nil _).symm hc⟩
  unfold World.sync
  dsimp only
  rw [hi.raised, hno]
  rfl

lemma step {w' : World P} {e : Act V} (hc : e = .sync → w.Countable) (hi : BooksInv w)
    (h : w.step e = some w') : BooksInv w' := by
  rcases step_cases h with ⟨e', y, -, -, rfl⟩ | ⟨attempt, plan, -, -, -, rfl⟩ |
    ⟨p, -, rfl⟩ | ⟨r, -, rfl⟩ | ⟨he, rfl⟩
  · exact ⟨hi.raised, hi.tracks⟩
  · exact ⟨hi.raised, hi.tracks⟩
  · exact ⟨hi.raised, hi.tracks⟩
  · exact ⟨hi.raised, hi.tracks⟩
  · exact hi.sync (hc he)

end BooksInv

end World

/-- **When a sync completes.** In a run whose syncs all found the families countable none has
raised, and the next one completes if and only if they are countable again. -/
theorem sync_completes_iff (P : Platform V σ Item E) {clock : ℚ} {registry : EntityRegistry}
    {ready : String → Bool} {es : List (Act V)} {w : World P}
    (hrun : Run World.step (World.init P clock registry ready) es w)
    (hcount : AtEach World.step (World.init P clock registry ready)
      (fun e w => e = .sync → w.Countable) es) :
    w.raised = false ∧ (w.raises = false ↔ w.Countable) := by
  have hi : World.BooksInv w := hrun.invariant_atEach
    (World.booksInv_init clock registry ready) (fun _ _ _ hc hi hs => hi.step hc hs) hcount
  refine ⟨hi.raised, ?_⟩
  rw [← Bool.not_eq_true, hi.raises_iff, not_not]

/-! ### The IPsec switches -/

open SophosFw.PyDict SophosFw.Sources SophosFw.SnmpFamilies

/-- Only the tunnel table answers. -/
def tunnelAnswers (tunnels : Dict String VpnTunnel) (_ : ℕ) (key : String) :
    Result (SnmpValue SnmpTable) :=
  if key = "tunnels" then .value (.other (.tunnels tunnels)) else .exception (.expected "timeout")

def oneTunnel : Dict String VpnTunnel := .single "1" ⟨"1", "site"⟩

/-- There is a tunnel, then there is none, it comes back, and goes again. -/
def comesAndGoes : List (Act (SnmpValue SnmpTable)) :=
  [.start none, .finish (tunnelAnswers oneTunnel), .sync,
    .tick 1, .invalidate ["tunnels"], .start none, .finish (tunnelAnswers .empty), .sync,
    .tick 2, .invalidate ["tunnels"], .start none, .finish (tunnelAnswers oneTunnel), .sync,
    .tick 3, .invalidate ["tunnels"], .start none, .finish (tunnelAnswers .empty)]

/-- Every fetch is counted, and every sync completes. -/
theorem sync_completes_iff_vanishing :
    ∃ w : World (switchPlatform ⟨"fw", fun _ => none⟩ "E"),
      replay World.step (World.init _ 0 ⟨[], List.nodup_nil⟩ fun _ => true) comesAndGoes =
        some w ∧
      w.synced.map ipsecFamily.showsEmpty = [false, true, false] ∧
      ipsecFamily.showsEmpty w.view = true ∧ w.raised = false ∧ w.raises = false := by
  have hrun : (replay World.step (World.init (switchPlatform ⟨"fw", fun _ => none⟩ "E") 0
      ⟨[], List.nodup_nil⟩ fun _ => true) comesAndGoes).map (fun w =>
        (w.synced.map ipsecFamily.showsEmpty, ipsecFamily.showsEmpty w.view,
          decide w.Countable)) = some ([false, true, false], true, true) := by
    decide +kernel
  have hcount : AtEach World.step (World.init (switchPlatform ⟨"fw", fun _ => none⟩ "E") 0
      ⟨[], List.nodup_nil⟩ fun _ => true) (fun e w => e = .sync → w.Countable) comesAndGoes := by
    decide +kernel
  obtain ⟨w, hw, hfacts⟩ := Option.map_eq_some_iff.mp hrun
  obtain ⟨hsynced, hfacts⟩ := Prod.mk.inj hfacts
  obtain ⟨hempty, hcountable⟩ := Prod.mk.inj hfacts
  obtain ⟨hraised, hraises⟩ := sync_completes_iff _ (run_of_replay hw) hcount
  exact ⟨w, hw, hsynced, hempty, hraised, hraises.mpr (of_decide_eq_true hcountable)⟩

/-- Every fetch of the tunnels succeeds, and still a sync raises: there is a tunnel, then there
is none, which is counted. A write of a switch is confirmed while the next fetch is on its way,
which finds a tunnel, and so it goes with the one after, which finds none. -/
theorem emptied_tunnels_raise :
    ¬ ∀ (es : List (Act (SnmpValue SnmpTable)))
      (w : World (switchPlatform ⟨"fw", fun _ => none⟩ "E")),
      Run World.step (World.init _ 0 ⟨[], List.nodup_nil⟩ fun _ => true) es w →
      w.raised = false := by
  intro h
  have hrun : (replay World.step (World.init (switchPlatform ⟨"fw", fun _ => none⟩ "E") 0
      ⟨[], List.nodup_nil⟩ fun _ => true)
      [.start none, .finish (tunnelAnswers oneTunnel), .sync,
        .invalidate ["tunnels"], .tick 1, .start none, .finish (tunnelAnswers .empty), .sync,
        .tick 2, .invalidate ["tunnels"], .start none, .invalidate ["tunnels"],
        .finish (tunnelAnswers oneTunnel), .sync,
        .start none, .invalidate ["tunnels"], .finish (tunnelAnswers .empty), .sync]).map
        World.raised = some true := by decide +kernel
  obtain ⟨w, hw, hraised⟩ := Option.map_eq_some_iff.mp hrun
  rw [h _ w (run_of_replay hw)] at hraised
  cases hraised

end SophosFw.SyncRuns
