import SophosFw.Tracking

/-!
A sync that is repeated. What a sync leaves is settled: as long as the coordinator shows the
family with the same objects at the same fetch, or does not show it at all, the next sync finds
nothing to add, to remove or to count.
-/

namespace SophosFw.DynamicSync

open SophosFw.PyDict SophosFw.Registry

variable {D Item E : Type} {entryId domain : String} {v : CoordinatorView D}

namespace DynamicFamily

variable {f : DynamicFamily D Item E} {items : Dict String Item} {s : SyncState E}

/-- Missing, but not for long enough. -/
def Waits (f : DynamicFamily D Item E) (items : Dict String Item) (b : Book)
    (registered : List String) (x : String) : Prop :=
  f.confirmMissing = true ∧ x ∈ registered ∧ x ∉ items.keys ∧
    b.missed x < Sources.emptyConfirmations

/-- What a sync takes out, by the books as they are after it: everything, if the family was empty
often enough, and otherwise what is missing and does not wait, if there is anything that stays. -/
def Goes (f : DynamicFamily D Item E) (items : Dict String Item) (b : Book)
    (registered : List String) (x : String) : Prop :=
  (f.trustEmpty = true ∧ items.isEmpty = true ∧
    ∃ n, b.streak f.suffixPrefix = some n ∧ Sources.emptyConfirmations ≤ n) ∨
  (x ∉ items.keys ∧ ¬ f.Waits items b registered x ∧
    (items.keys ≠ [] ∨ ∃ y, f.Waits items b registered y))

/-- Fewer registered suffixes, and the same counters: what goes would have gone before. -/
lemma Goes.of_fewer {b b' : Book} {registered registered' : List String} {x : String}
    (hstreak : b'.streak f.suffixPrefix = b.streak f.suffixPrefix)
    (hmissed : ∀ y ∈ registered', b'.missed y = b.missed y)
    (hsub : ∀ y ∈ registered', y ∉ items.keys → y ∈ registered) (hx : x ∈ registered')
    (h : f.Goes items b' registered' x) : f.Goes items b registered x := by
  rcases h with ⟨ht, he, n, hn, hle⟩ | ⟨habsent, hno, hany⟩
  · exact .inl ⟨ht, he, n, hstreak ▸ hn, hle⟩
  · refine .inr ⟨habsent, fun hw => hno ?_, hany.imp_right ?_⟩
    · obtain ⟨hc, -, -, hlt⟩ := hw
      exact ⟨hc, hx, habsent, by rwa [hmissed x hx]⟩
    · rintro ⟨y, hc, hy, hya, hlt⟩
      exact ⟨y, hc, hsub y hy hya, hya, by rwa [← hmissed y hy]⟩

lemma removeAll_iff {b : Book} {removeAll : Bool}
    (h : (f.countEmpty v items b).2 = some removeAll) :
    removeAll = true ↔ f.trustEmpty = true ∧ items.isEmpty = true ∧
      ∃ n, (f.countEmpty v items b).1.streak f.suffixPrefix = some n ∧
        Sources.emptyConfirmations ≤ n := by
  constructor
  · rintro rfl
    exact streak_of_removeAll h
  · rintro ⟨ht, he, n, hn, hle⟩
    obtain ⟨-, -, hr⟩ := countEmpty_of_empty (v := v) (b := b) ht he
    rw [h, hn, Option.map_some, Option.some.injEq] at hr
    rw [hr]
    exact decide_eq_true hle

variable (entryId domain v items s) in
lemma mem_removeGone_iff {removeAll : Bool}
    (hall : removeAll = true ↔ f.trustEmpty = true ∧ items.isEmpty = true ∧
      ∃ n, s.book.streak f.suffixPrefix = some n ∧ Sources.emptyConfirmations ≤ n) {e : RegEntry} :
    e ∈ (f.removeGone entryId domain v items removeAll s).registry.entries ↔
      e ∈ s.registry.entries ∧ ¬ (inFamily entryId domain f.suffixPrefix e = true ∧
        f.Goes items (f.removeGone entryId domain v items removeAll s).book
          (registeredSuffixes entryId domain f.suffixPrefix s.registry) (suffixOf entryId e)) := by
  obtain ⟨hcount, -⟩ := removeGone_counts entryId domain v items s removeAll (f := f)
  rw [mem_removeGone]
  dsimp only
  set registered := registeredSuffixes entryId domain f.suffixPrefix s.registry
  set keep := if f.confirmMissing = true then (f.stillConfirming v registered items.keys s.book).1
    else [] with hkeep
  have hwaits : ∀ x, x ∈ keep ↔
      f.Waits items (f.removeGone entryId domain v items removeAll s).book registered x := by
    intro x
    unfold Waits
    by_cases hc : f.confirmMissing = true
    · obtain ⟨hm, -⟩ := removeGone_confirming entryId domain v items s removeAll hc
      rw [hkeep, if_pos hc, mem_stillConfirming, and_iff_right hc]
      unfold Book.missed
      rw [hm]
    · rw [hkeep, if_neg hc]
      simp [hc]
  have hany : keep ≠ [] ↔
      ∃ y, f.Waits items (f.removeGone entryId domain v items removeAll s).book registered y := by
    rw [ne_eq, List.eq_nil_iff_forall_not_mem, not_forall_not]
    exact exists_congr hwaits
  unfold isStale Goes Book.streak
  unfold Book.streak at hall
  rw [hcount, ← hall, ← hwaits, ← hany, Bool.and_eq_true, Bool.or_eq_true, decide_eq_true_eq,
    List.mem_append, not_or]
  refine and_congr_right fun _ => not_congr ?_
  have hne : items.keys ++ keep ≠ [] ↔ items.keys ≠ [] ∨ keep ≠ [] := by
    rw [ne_eq, List.append_eq_nil_iff, not_and_or]
  rw [hne]
  constructor
  · rintro ⟨hguard, hfam, hall | ⟨habsent, hno⟩⟩
    · exact ⟨hfam, .inl hall⟩
    · exact ⟨hfam, hguard.elim (fun hg => .inr ⟨habsent, hno, hg⟩) .inl⟩
  · rintro ⟨hfam, hall | ⟨habsent, hno, hg⟩⟩
    · exact ⟨.inr hall, hfam, .inl hall⟩
    · exact ⟨.inl hg, hfam, .inr ⟨habsent, hno⟩⟩

lemma mem_sync_iff (hshown : f.shown v = some items) (hr : f.removeStale = true)
    (hok : (f.sync entryId domain v s).2 = false) {e : RegEntry} :
    e ∈ (f.sync entryId domain v s).1.registry.entries ↔
      e ∈ s.registry.entries ∧ ¬ (inFamily entryId domain f.suffixPrefix e = true ∧
        f.Goes items (f.sync entryId domain v s).1.book
          (registeredSuffixes entryId domain f.suffixPrefix s.registry) (suffixOf entryId e)) := by
  obtain ⟨known, new, hadd⟩ := f.addNew_eq items s
  rw [sync_of_shown hshown] at hok ⊢
  dsimp only at hok ⊢
  rw [if_neg (by simp [hr])] at hok ⊢
  rcases hc : (f.countEmpty v items (f.addNew items s).book).2 with _ | removeAll <;> rw [hc] at hok
  · cases hok
  · dsimp only
    rw [mem_removeGone_iff entryId domain v items _ (removeAll_iff hc)]
    dsimp only
    rw [hadd]

lemma seen_sync (hshown : f.shown v = some items) (hr : f.removeStale = true)
    (hok : (f.sync entryId domain v s).2 = false) :
    ¬ f.Raises v items s.book ∧ Seen entryId domain v f items s (f.sync entryId domain v s).1 := by
  have hunique : ∀ items', f.Shows v items' → items' = items := fun items' h =>
    Option.some.inj ((shows_iff.mp h).2.symm.trans hshown)
  rcases f.sync_spec entryId domain v s with
    ⟨hno, -⟩ | ⟨_, -, -, hr', -⟩ | ⟨items', hshow, hno, -, h⟩
  · exact absurd (shows_iff.mpr ⟨hr, hshown⟩) (hno items)
  · rw [hok] at hr'
    cases hr'
  · rw [hunique items' hshow] at hno h
    exact ⟨hno, h⟩

/-- The next sync at the same fetch has nothing to do for the family. -/
structure Settled (entryId domain : String) (f : DynamicFamily D Item E) (items : Dict String Item)
    (fetched : Option ℚ) (s : SyncState E) : Prop where
  known : ∀ x ∈ items.keys, x ∈ s.book.known
  streak : f.removeStale = true →
    if f.trustEmpty = true ∧ items.isEmpty = true then
      s.book.streak f.suffixPrefix ≠ none ∧ s.book.emptyFetch f.suffixPrefix = fetched
    else s.book.streak f.suffixPrefix = none
  missed : f.removeStale = true → f.confirmMissing = true →
    s.book.missedFetch f.suffixPrefix = fetched ∧ ∀ x ∈ items.keys, s.book.missed x = 0
  stays : f.removeStale = true →
    ∀ x ∈ registeredSuffixes entryId domain f.suffixPrefix s.registry,
      ¬ f.Goes items s.book (registeredSuffixes entryId domain f.suffixPrefix s.registry) x

lemma settled_sync (hf : f.Prefixed) (hshown : f.shown v = some items)
    (hok : (f.sync entryId domain v s).2 = false) :
    Settled entryId domain f items (v.fetchedAt f.endpoint) (f.sync entryId domain v s).1 := by
  have hpresent : ∀ x ∈ items.keys, x ∈ f.present v := fun x hx =>
    mem_present.mpr ⟨items, hshown, hx⟩
  refine ⟨fun x hx => ?_, fun hr => ?_, fun hr hc => ?_, fun hr x hx => ?_⟩
  · have hl : [f].Pairwise fun f g => Apart f.suffixPrefix g.suffixPrefix :=
      List.pairwise_singleton _ _
    have hsync : syncFamilies entryId domain v [f] s = f.sync entryId domain v s := by
      rw [syncFamilies_cons_of_not_raised hok, syncFamilies, ← hok]
    have hstays := not_leaves_of_present (s := s) hl (List.forall_mem_singleton.mpr hf)
      (hsync ▸ hok) List.mem_cons_self (hpresent x hx)
    rw [hsync] at hstays
    exact ((f.tracks_sync hok).known x).mpr ⟨.inr (hpresent x hx), hstays⟩
  · obtain ⟨hno, hs⟩ := seen_sync hshown hr hok
    rw [hs.streak, hs.emptyFetch]
    split
    · next hc =>
      refine ⟨?_, rfl⟩
      split
      · exact Option.some_ne_none _
      · next heq => exact fun hnone => hno ⟨hc.1, hc.2, not_not.mp heq, hnone⟩
    · rfl
  · obtain ⟨-, hs⟩ := seen_sync hshown hr hok
    rw [hs.missedFetch, if_pos hc]
    refine ⟨rfl, fun x hx => ?_⟩
    rw [hs.missed, if_pos hc, if_pos hx]
  · obtain ⟨e, he, hfam, rfl⟩ := mem_registeredSuffixes.mp hx
    obtain ⟨-, hno⟩ := (mem_sync_iff hshown hr hok).mp he
    refine fun hgoes => hno ⟨hfam, hgoes.of_fewer rfl (fun _ _ => rfl) (fun y hy _ => ?_) hx⟩
    obtain ⟨e', he', hfam', rfl⟩ := mem_registeredSuffixes.mp hy
    exact mem_registeredSuffixes.mpr ⟨e', sub_sync he', hfam', rfl⟩

namespace Settled

variable {fetched : Option ℚ} {s' : SyncState E}

lemma framed (h : Settled entryId domain f items fetched s)
    (hkeys : ∀ x ∈ items.keys, startsWith x f.suffixPrefix = true)
    (hs : Framed entryId domain f.suffixPrefix s s') :
    Settled entryId domain f items fetched s' where
  known x hx := (hs.known x (hkeys x hx)).mpr (h.known x hx)
  streak hr := by
    rw [hs.kept.streak, hs.kept.emptyFetch]
    exact h.streak hr
  missed hr hc := by
    obtain ⟨hfetch, hzero⟩ := h.missed hr hc
    rw [hs.kept.missedFetch]
    exact ⟨hfetch, fun x hx => (hs.missed x (hkeys x hx)).trans (hzero x hx)⟩
  stays hr x hx hgoes := by
    have hsub : ∀ y ∈ registeredSuffixes entryId domain f.suffixPrefix s'.registry,
        y ∈ registeredSuffixes entryId domain f.suffixPrefix s.registry := fun y hy => by
      obtain ⟨e, he, hfam, rfl⟩ := mem_registeredSuffixes.mp hy
      exact mem_registeredSuffixes.mpr ⟨e, hs.kept.sub e he, hfam, rfl⟩
    refine h.stays hr x (hsub x hx) (hgoes.of_fewer hs.kept.streak (fun y hy => ?_)
      (fun y hy _ => hsub y hy) hx)
    exact hs.missed y (startsWith_of_mem_registeredSuffixes hy)

lemma registered (h : Settled entryId domain f items fetched s) (hbook : s'.book = s.book)
    (hreg : ∀ x ∈ registeredSuffixes entryId domain f.suffixPrefix s'.registry,
      x ∈ registeredSuffixes entryId domain f.suffixPrefix s.registry ∨ x ∈ items.keys) :
    Settled entryId domain f items fetched s' := by
  refine ⟨?_, ?_, ?_, fun hr x hx hgoes => ?_⟩
  · rw [hbook]
    exact h.known
  · rw [hbook]
    exact h.streak
  · rw [hbook]
    exact h.missed
  · by_cases hmem : x ∈ items.keys
    · rcases hgoes with ⟨-, hempty, -⟩ | ⟨habsent, -⟩
      · exact items.get_eq_none_iff.mp (items.isEmpty_iff.mp hempty x) hmem
      · exact habsent hmem
    · rw [hbook] at hgoes
      refine h.stays hr x ((hreg x hx).resolve_right hmem) (hgoes.of_fewer rfl (fun _ _ => rfl)
        (fun y hy habsent => (hreg y hy).resolve_right habsent) hx)

end Settled

end DynamicFamily

/-- Nothing was added, removed or counted. -/
structure Idle (s s' : SyncState E) : Prop where
  registry : s'.registry = s.registry
  newEntities : s'.newEntities = s.newEntities
  known : s'.book.known = s.book.known
  streak : ∀ p, s'.book.streak p = s.book.streak p
  emptyFetch : ∀ p, s'.book.emptyFetch p = s.book.emptyFetch p
  missed : ∀ x, s'.book.missed x = s.book.missed x
  missedFetch : ∀ p, s'.book.missedFetch p = s.book.missedFetch p

namespace Idle

variable {s s' s'' : SyncState E}

lemma refl : Idle s s := ⟨rfl, rfl, rfl, fun _ => rfl, fun _ => rfl, fun _ => rfl, fun _ => rfl⟩

lemma trans (h : Idle s s') (h' : Idle s' s'') : Idle s s'' where
  registry := h'.registry.trans h.registry
  newEntities := h'.newEntities.trans h.newEntities
  known := h'.known.trans h.known
  streak p := (h'.streak p).trans (h.streak p)
  emptyFetch p := (h'.emptyFetch p).trans (h.emptyFetch p)
  missed x := (h'.missed x).trans (h.missed x)
  missedFetch p := (h'.missedFetch p).trans (h.missedFetch p)

lemma framed (h : Idle s s') (p : String) : Framed entryId domain p s s' where
  kept := ⟨h.streak p, h.emptyFetch p, h.missedFetch p, fun x _ => (h.missed x).le,
    fun e he => h.registry ▸ he, fun e he _ => h.registry ▸ he⟩
  missed x _ := h.missed x
  known x _ := by rw [h.known]

end Idle

namespace DynamicFamily

variable {f : DynamicFamily D Item E} {items : Dict String Item} {s : SyncState E}

variable (entryId domain v items s) in
lemma removeGone_of_kept {removeAll : Bool} (h : ∀ e ∈ s.registry.entries,
    e ∈ (f.removeGone entryId domain v items removeAll s).registry.entries) :
    (f.removeGone entryId domain v items removeAll s).registry = s.registry ∧
      (f.removeGone entryId domain v items removeAll s).book.known = s.book.known := by
  have hkept := asyncRemoveStaleEntities_of_kept (r := s.registry) h
  unfold removeGone
  dsimp only
  rw [hkept]
  refine ⟨rfl, ?_⟩
  split <;> simp [stillConfirming]

lemma counters_of_settled (h : Settled entryId domain f items (v.fetchedAt f.endpoint) s)
    (hshown : f.shown v = some items) (hr : f.removeStale = true)
    (hok : (f.sync entryId domain v s).2 = false) :
    (∀ p, (f.sync entryId domain v s).1.book.streak p = s.book.streak p) ∧
    (∀ p, (f.sync entryId domain v s).1.book.emptyFetch p = s.book.emptyFetch p) ∧
    (∀ x, (f.sync entryId domain v s).1.book.missed x = s.book.missed x) ∧
    ∀ p, (f.sync entryId domain v s).1.book.missedFetch p = s.book.missedFetch p := by
  obtain ⟨-, hs⟩ := seen_sync hshown hr hok
  have hstreak := h.streak hr
  refine ⟨fun p => ?_, fun p => ?_, fun x => ?_, fun p => ?_⟩
  · by_cases hp : p = f.suffixPrefix
    · rw [hp, hs.streak]
      split
      · next hc =>
        rw [if_pos hc] at hstreak
        rw [if_neg (not_not.mpr hstreak.2.symm)]
      · next hc =>
        rw [if_neg hc] at hstreak
        exact hstreak.symm
    · exact (hs.others p hp).1
  · by_cases hp : p = f.suffixPrefix
    · rw [hp, hs.emptyFetch]
      split
      · next hc =>
        rw [if_pos hc] at hstreak
        exact hstreak.2.symm
      · rfl
    · exact (hs.others p hp).2.1
  · rw [hs.missed]
    split
    · next hc =>
      obtain ⟨hlast, hzero⟩ := h.missed hr hc
      split
      · next hx => exact (hzero x hx).symm
      · rw [if_neg fun hcount => hcount.2 hlast.symm]
    · rfl
  · by_cases hp : p = f.suffixPrefix
    · rw [hp, hs.missedFetch]
      split
      · next hc => exact (h.missed hr hc).1.symm
      · rfl
    · exact (hs.others p hp).2.2

lemma not_raised_of_settled (h : Settled entryId domain f items (v.fetchedAt f.endpoint) s)
    (hshown : f.shown v = some items) (hr : f.removeStale = true) :
    (f.sync entryId domain v s).2 = false := by
  rw [← Bool.not_eq_true, raised_sync]
  rintro ⟨items', hshow, ht, he, -, hnone⟩
  rw [Option.some.inj ((shows_iff.mp hshow).2.symm.trans hshown)] at he
  have hstreak := h.streak hr
  rw [if_pos ⟨ht, he⟩] at hstreak
  exact hstreak.1 hnone

/-- **A settled family**: its sync does nothing. -/
lemma idle_of_settled (h : Settled entryId domain f items (v.fetchedAt f.endpoint) s)
    (hshown : f.shown v = some items) :
    Idle s (f.sync entryId domain v s).1 ∧ (f.sync entryId domain v s).2 = false := by
  have hadd : f.addNew items s = s := addNew_of_known h.known
  by_cases hr : f.removeStale = false
  · rw [sync_of_shown hshown, hadd]
    dsimp only
    rw [if_pos hr]
    exact ⟨.refl, rfl⟩
  have hr' : f.removeStale = true := by simpa using hr
  have hok := not_raised_of_settled h hshown hr'
  obtain ⟨hstreak, hfetch, hmissed, hmissedFetch⟩ := counters_of_settled h hshown hr' hok
  have hkept : ∀ e ∈ s.registry.entries, e ∈ (f.sync entryId domain v s).1.registry.entries := by
    refine fun e he => (mem_sync_iff hshown hr' hok).mpr ⟨he, fun ⟨hfam, hgoes⟩ => ?_⟩
    have hmem := mem_registeredSuffixes.mpr ⟨e, he, hfam, rfl⟩
    exact h.stays hr' _ hmem
      (hgoes.of_fewer (hstreak _) (fun y _ => hmissed y) (fun y hy _ => hy) hmem)
  obtain ⟨removeAll, hform⟩ : ∃ removeAll, f.sync entryId domain v s =
      (f.removeGone entryId domain v items removeAll
        { s with book := (f.countEmpty v items s.book).1 }, false) := by
    rw [sync_of_shown hshown, hadd] at hok ⊢
    dsimp only at hok ⊢
    rw [if_neg hr] at hok ⊢
    rcases hc : (f.countEmpty v items s.book).2 with _ | removeAll <;> rw [hc] at hok
    · cases hok
    · exact ⟨removeAll, rfl⟩
  rw [hform] at hkept
  obtain ⟨hreg, hknown⟩ := removeGone_of_kept entryId domain v items
    { s with book := (f.countEmpty v items s.book).1 } hkept
  refine ⟨⟨?_, ?_, ?_, hstreak, hfetch, hmissed, hmissedFetch⟩, hok⟩
  · rw [hform]
    exact hreg
  · rw [hform]
    rfl
  · rw [hform]
    exact hknown.trans (known_countEmpty s.book)

end DynamicFamily

/-! ### All families -/

section List

variable {l : List (DynamicFamily D Item E)} {s : SyncState E}

/-- The families a sync sees now are settled. -/
def SettledAll (entryId domain : String) (v : CoordinatorView D)
    (l : List (DynamicFamily D Item E)) (s : SyncState E) : Prop :=
  ∀ f ∈ l, ∀ items, f.shown v = some items →
    DynamicFamily.Settled entryId domain f items (v.fetchedAt f.endpoint) s

lemma startsWith_of_shown {f : DynamicFamily D Item E} (hf : f.Prefixed) {items : Dict String Item}
    (hshown : f.shown v = some items) {x : String} (hx : x ∈ items.keys) :
    startsWith x f.suffixPrefix = true :=
  f.startsWith_of_present hf (DynamicFamily.mem_present.mpr ⟨items, hshown, hx⟩)

lemma SettledAll.idle {s' : SyncState E} (hprefixed : ∀ f ∈ l, f.Prefixed)
    (h : SettledAll entryId domain v l s) (hi : Idle s s') : SettledAll entryId domain v l s' :=
  fun f hf items hshown => (h f hf items hshown).framed
    (fun _ hx => startsWith_of_shown (hprefixed f hf) hshown hx) (hi.framed f.suffixPrefix)

lemma settled_syncFamilies (hl : l.Pairwise fun f g => Apart f.suffixPrefix g.suffixPrefix)
    (hprefixed : ∀ f ∈ l, f.Prefixed) (hok : (syncFamilies entryId domain v l s).2 = false) :
    SettledAll entryId domain v l (syncFamilies entryId domain v l s).1 := by
  intro f hf items hshown
  obtain ⟨s₁, -, hone, hafter⟩ := framed_around hl hprefixed hok hf
  exact (f.settled_sync (hprefixed f hf) hshown hone).framed
    (fun x hx => startsWith_of_shown (hprefixed f hf) hshown hx) hafter

lemma idle_syncFamilies (hprefixed : ∀ f ∈ l, f.Prefixed) (h : SettledAll entryId domain v l s) :
    Idle s (syncFamilies entryId domain v l s).1 ∧
      (syncFamilies entryId domain v l s).2 = false := by
  induction l generalizing s with
  | nil => exact ⟨.refl, rfl⟩
  | cons f l ih =>
    obtain ⟨hpf, hpl⟩ := List.forall_mem_cons.mp hprefixed
    obtain ⟨hidle, hok⟩ : Idle s (f.sync entryId domain v s).1 ∧
        (f.sync entryId domain v s).2 = false := by
      rcases hshown : f.shown v with _ | items
      · rw [f.sync_of_not_shown hshown]
        exact ⟨.refl, rfl⟩
      · exact f.idle_of_settled (h f List.mem_cons_self items hshown) hshown
    rw [syncFamilies_cons_of_not_raised hok]
    have htail : SettledAll entryId domain v l s := fun g hg => h g (List.mem_cons_of_mem _ hg)
    obtain ⟨hrest, hdone⟩ := ih hpl (htail.idle hpl hidle)
    exact ⟨hidle.trans hrest, hdone⟩

end List

end SophosFw.DynamicSync
