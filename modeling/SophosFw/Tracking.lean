import SophosFw.SyncTotal
import Mathlib.Data.List.Pairwise

/-!
What a sync tracks. A suffix is known from the moment its object is seen until its entity is
taken out of the registry, and the factory is called for what was not known before.
-/

namespace SophosFw.DynamicSync

open SophosFw.PyDict SophosFw.Registry

variable {D Item E : Type} {entryId domain : String} {v : CoordinatorView D}

/-- The entry with this suffix is taken out. -/
def Leaves (entryId : String) (s s' : SyncState E) (x : String) : Prop :=
  ∃ e ∈ s.registry.entries, e ∉ s'.registry.entries ∧ suffixOf entryId e = x

namespace DynamicFamily

variable {f : DynamicFamily D Item E} {items : Dict String Item} {s : SyncState E}

/-- The objects are under suffixes with the prefix of the family. -/
def Prefixed (f : DynamicFamily D Item E) : Prop :=
  ∀ d items, f.items d = some items → ∀ x ∈ items.keys, startsWith x f.suffixPrefix = true

/-- The suffixes of the objects a sync sees. -/
def present (f : DynamicFamily D Item E) (v : CoordinatorView D) : List String :=
  ((f.shown v).map Dict.keys).getD []

/-- The objects a sync calls the factory for. -/
def calls (f : DynamicFamily D Item E) (v : CoordinatorView D) (known : List String) :
    List (String × Item) :=
  ((f.shown v).map fun items => items.entries.filter fun p => p.1 ∉ known).getD []

lemma mem_present {x : String} :
    x ∈ f.present v ↔ ∃ items, f.shown v = some items ∧ x ∈ items.keys := by
  unfold present
  rcases f.shown v with _ | items <;> simp

lemma mem_calls {known : List String} {x : String} :
    x ∈ (f.calls v known).map Prod.fst ↔ x ∈ f.present v ∧ x ∉ known := by
  unfold calls present Dict.keys
  rcases f.shown v with _ | items
  · simp
  · simp [and_comm]

lemma items_of_shown (h : f.shown v = some items) : ∃ d, f.items d = some items := by
  unfold shown itemsOf at h
  split at h
  · split at h
    · obtain ⟨d, -, hd⟩ := Option.bind_eq_some_iff.mp h
      exact ⟨d, hd⟩
    · cases h
  · cases h

lemma startsWith_of_present (hf : f.Prefixed) {x : String} (hx : x ∈ f.present v) :
    startsWith x f.suffixPrefix = true := by
  obtain ⟨items, hshown, hx⟩ := mem_present.mp hx
  obtain ⟨d, hd⟩ := items_of_shown hshown
  exact hf d items hd x hx

lemma addNew_spec (items : Dict String Item) (s : SyncState E) :
    (∀ x, x ∈ (f.addNew items s).book.known ↔ x ∈ s.book.known ∨ x ∈ items.keys) ∧
    (f.addNew items s).newEntities = s.newEntities ++
      (items.entries.filter fun p => p.1 ∉ s.book.known).map fun p => f.factory p.2 := by
  obtain ⟨l, hl⟩ := items
  unfold addNew Dict.keys
  dsimp only
  induction l generalizing s with
  | nil => simp
  | cons p l ih =>
    rw [List.map_cons, List.nodup_cons] at hl
    obtain ⟨hp, hl⟩ := hl
    rw [List.foldl_cons, List.filter_cons, List.map_cons]
    by_cases hk : p.1 ∈ s.book.known
    · obtain ⟨hknown, hnew⟩ := ih s hl
      rw [if_pos hk, hnew, if_neg (by simpa using hk)]
      refine ⟨fun x => ?_, rfl⟩
      rw [hknown, List.mem_cons, ← or_assoc]
      exact or_congr_left ⟨.inl, fun h => h.elim id fun h => h ▸ hk⟩
    · obtain ⟨hknown, hnew⟩ := ih { s with
        book := { s.book with known := p.1 :: s.book.known }
        newEntities := s.newEntities ++ [f.factory p.2] } hl
      rw [if_neg hk, hnew, if_pos (by simpa using hk)]
      refine ⟨fun x => ?_, ?_⟩
      · rw [hknown, List.mem_cons, List.mem_cons]
        exact (or_congr_left or_comm).trans or_assoc
      · -- the other objects have other suffixes
        have hfilter : (l.filter fun q => decide (q.1 ∉ p.1 :: s.book.known)) =
            l.filter fun q => decide (q.1 ∉ s.book.known) := by
          refine List.filter_congr fun q hq => ?_
          have hne : q.1 ≠ p.1 := fun h => hp (List.mem_map.mpr ⟨q, hq, h⟩)
          simp [hne]
        dsimp only
        rw [hfilter, List.map_cons, List.append_assoc, List.singleton_append]

lemma addNew_of_known (h : ∀ x ∈ items.keys, x ∈ s.book.known) : f.addNew items s = s := by
  unfold addNew
  have hall : ∀ p ∈ items.entries, p.1 ∈ s.book.known := fun p hp => h _ (List.mem_map_of_mem hp)
  generalize items.entries = l at hall
  induction l with
  | nil => rfl
  | cons p l ih =>
    rw [List.foldl_cons, if_pos (hall p List.mem_cons_self)]
    exact ih fun q hq => hall q (List.mem_cons_of_mem _ hq)

lemma sync_of_not_shown (h : f.shown v = none) : f.sync entryId domain v s = (s, false) := by
  unfold shown at h
  unfold sync
  by_cases ha : v.endpointAvailable f.endpoint = true
  · rw [if_pos ha] at h
    rw [if_neg (by simp [ha]), h]
  · rw [if_pos (by simpa using ha)]

lemma sync_of_shown (h : f.shown v = some items) : f.sync entryId domain v s =
    let s := f.addNew items s
    if f.removeStale = false then (s, false)
    else
      let counted := f.countEmpty v items s.book
      match counted.2 with
      | none => ({ s with book := counted.1 }, true)
      | some removeAll =>
        (f.removeGone entryId domain v items removeAll { s with book := counted.1 }, false) := by
  unfold shown at h
  unfold sync
  by_cases ha : v.endpointAvailable f.endpoint = true
  · rw [if_pos ha] at h
    rw [if_neg (by simp [ha])]
    generalize f.itemsOf v = shown at h
    subst h
    rfl
  · rw [if_neg ha] at h
    cases h

lemma known_countEmpty (b : Book) : (f.countEmpty v items b).1.known = b.known :=
  congrArg (fun r => r.1.known) (f.countEmpty_known (v := v) items b b.known)

variable (entryId domain v items s) in
lemma mem_known_removeGone (removeAll : Bool) (x : String) :
    x ∈ (f.removeGone entryId domain v items removeAll s).book.known ↔
      x ∈ s.book.known ∧
        ¬ Leaves entryId s (f.removeGone entryId domain v items removeAll s) x := by
  unfold Leaves removeGone
  dsimp only
  rw [← mem_removed, List.mem_filter, decide_eq_true_eq]
  split <;> rfl

/-- What the sync of a family tracks, if it does not raise. -/
structure Tracked (entryId : String) (v : CoordinatorView D) (f : DynamicFamily D Item E)
    (s s' : SyncState E) : Prop where
  known : ∀ x, x ∈ s'.book.known ↔
    (x ∈ s.book.known ∨ x ∈ f.present v) ∧ ¬ Leaves entryId s s' x
  new : s'.newEntities = s.newEntities ++ (f.calls v s.book.known).map fun p => f.factory p.2

lemma tracks_sync (hok : (f.sync entryId domain v s).2 = false) :
    Tracked entryId v f s (f.sync entryId domain v s).1 := by
  rcases h : f.shown v with _ | items
  · rw [sync_of_not_shown h]
    have hno : ∀ x, ¬ Leaves entryId s s x := fun x ⟨e, he, hout, _⟩ => hout he
    refine ⟨fun x => ?_, ?_⟩
    · unfold present
      rw [h]
      simp [hno]
    · unfold calls
      rw [h]
      simp
  · obtain ⟨hknown, hnew⟩ := f.addNew_spec items s
    obtain ⟨known, new, hadd⟩ := f.addNew_eq items s
    have hreg : (f.addNew items s).registry = s.registry := by rw [hadd]
    have hpresent : f.present v = items.keys := by
      unfold present
      rw [h]
      rfl
    have hcalls : f.calls v s.book.known =
        items.entries.filter fun p => p.1 ∉ s.book.known := by
      unfold calls
      rw [h]
      rfl
    rw [sync_of_shown h] at hok ⊢
    dsimp only at hok ⊢
    rw [← hcalls] at hnew
    by_cases hs : f.removeStale = false
    · rw [if_pos hs]
      refine ⟨fun x => ?_, hnew⟩
      have hno : ¬ Leaves entryId s (f.addNew items s) x := fun ⟨e, he, hout, _⟩ =>
        hout (by rw [hreg]; exact he)
      rw [hpresent, hknown, and_iff_left hno]
    · rw [if_neg hs] at hok ⊢
      rcases hc : (f.countEmpty v items (f.addNew items s).book).2 with _ | removeAll <;>
        rw [hc] at hok
      · cases hok
      · refine ⟨fun x => ?_, hnew⟩
        dsimp only
        rw [mem_known_removeGone, known_countEmpty, hknown, hpresent]
        unfold Leaves
        dsimp only
        rw [hreg]

lemma calls_congr {known known' : List String}
    (h : ∀ x ∈ f.present v, (x ∈ known' ↔ x ∈ known)) : f.calls v known' = f.calls v known := by
  unfold calls
  rcases hs : f.shown v with _ | items
  · rfl
  · refine List.filter_congr fun p hp => ?_
    exact decide_eq_decide.mpr
      (not_congr (h p.1 (mem_present.mpr ⟨items, hs, List.mem_map_of_mem hp⟩)))

lemma mem_sync_of_alike {e e' : RegEntry} (hconfig : e.configEntryId = e'.configEntryId)
    (hdomain : e.domain = e'.domain) (huid : e.uniqueId = e'.uniqueId)
    (he' : e' ∈ s.registry.entries)
    (h : e ∈ (f.sync entryId domain v s).1.registry.entries) :
    e' ∈ (f.sync entryId domain v s).1.registry.entries := by
  have hstale : ∀ current removeAll, isStale entryId domain f.suffixPrefix current removeAll e =
      isStale entryId domain f.suffixPrefix current removeAll e' := fun current removeAll => by
    unfold isStale inFamily suffixOf
    rw [hconfig, hdomain, huid]
  rcases hs : f.shown v with _ | items
  · rwa [sync_of_not_shown hs]
  · obtain ⟨known, new, hadd⟩ := f.addNew_eq items s
    rw [sync_of_shown hs] at h ⊢
    dsimp only at h ⊢
    rw [hadd] at h ⊢
    split at h
    · next hr =>
      rw [if_pos hr]
      exact he'
    · next hr =>
      rw [if_neg hr]
      dsimp only at h ⊢
      rcases hc : (f.countEmpty v items { s.book with known := known }).2 with _ | removeAll <;>
        rw [hc] at h
      · exact he'
      · rw [mem_removeGone] at h ⊢
        refine ⟨he', fun hgone => h.2 ?_⟩
        dsimp only at hgone ⊢
        rwa [hstale]

end DynamicFamily

/-! ### The other families -/

/-- What concerns the family with the prefix is as it was, also what is known of it. -/
structure Framed (entryId domain p : String) (s s' : SyncState E) : Prop where
  kept : Kept entryId domain p s s'
  missed : ∀ x, startsWith x p = true → s'.book.missed x = s.book.missed x
  known : ∀ x, startsWith x p = true → (x ∈ s'.book.known ↔ x ∈ s.book.known)

namespace Framed

variable {p : String} {s s' s'' : SyncState E}

lemma refl : Framed entryId domain p s s := ⟨.refl, fun _ _ => rfl, fun _ _ => .rfl⟩

lemma trans (h : Framed entryId domain p s s') (h' : Framed entryId domain p s' s'') :
    Framed entryId domain p s s'' where
  kept := h.kept.trans h'.kept
  missed x hx := (h'.missed x hx).trans (h.missed x hx)
  known x hx := (h'.known x hx).trans (h.known x hx)

end Framed

section List

variable {f : DynamicFamily D Item E} {l : List (DynamicFamily D Item E)} {s : SyncState E}
  {p : String}

/-- A suffix is in one family only. -/
lemma eq_of_startsWith {g : DynamicFamily D Item E}
    (hl : l.Pairwise fun f g => Apart f.suffixPrefix g.suffixPrefix) (hf : f ∈ l) (hg : g ∈ l)
    {x : String} (hx : startsWith x f.suffixPrefix = true)
    (hx' : startsWith x g.suffixPrefix = true) : f = g := by
  by_contra hne
  have hsymm : Std.Symm fun f g : DynamicFamily D Item E => Apart f.suffixPrefix g.suffixPrefix :=
    ⟨fun _ _ h => h.symm⟩
  rw [(hl.forall hf hg hne).not_startsWith hx] at hx'
  cases hx'

lemma not_present_of_apart (hf : f.Prefixed) (hp : Apart p f.suffixPrefix) {x : String}
    (hx : startsWith x p = true) : x ∉ f.present v := fun hmem => by
  have hx' := f.startsWith_of_present hf hmem
  rw [hp.not_startsWith hx] at hx'
  cases hx'

lemma startsWith_of_leaves {x : String}
    (h : Leaves entryId s (f.sync entryId domain v s).1 x) :
    startsWith x f.suffixPrefix = true := by
  obtain ⟨e, he, hout, rfl⟩ := h
  exact startsWith_suffixOf (DynamicFamily.inFamily_of_gone_sync he hout)

variable (entryId domain v s) in
lemma framed_sync (hf : f.Prefixed) (hp : Apart p f.suffixPrefix)
    (hok : (f.sync entryId domain v s).2 = false) :
    Framed entryId domain p s (f.sync entryId domain v s).1 := by
  refine ⟨f.kept_sync entryId domain v s hp, fun x hx => ?_, fun x hx => ?_⟩
  · rcases f.sync_spec entryId domain v s with
      ⟨-, -, -, hbook⟩ | ⟨items, -, -, -, -, hbook⟩ | ⟨items, hshow, -, -, hseen⟩
    · rw [hbook]
      rfl
    · rw [hbook]
      rfl
    · have habsent : x ∉ items.keys := fun hmem =>
        not_present_of_apart (v := v) hf hp hx
          (DynamicFamily.mem_present.mpr ⟨items, (DynamicFamily.shows_iff.mp hshow).2, hmem⟩)
      have hother : ¬ (x ∈ registeredSuffixes entryId domain f.suffixPrefix s.registry ∧
          v.fetchedAt f.endpoint ≠ s.book.missedFetch f.suffixPrefix) := fun h => by
        have hx' := startsWith_of_mem_registeredSuffixes h.1
        rw [hp.not_startsWith hx] at hx'
        cases hx'
      rw [hseen.missed x, if_neg habsent, if_neg hother, ite_self]
  · have hstays : ¬ Leaves entryId s (f.sync entryId domain v s).1 x := fun hleaves => by
      have hx' := startsWith_of_leaves hleaves
      rw [hp.not_startsWith hx] at hx'
      cases hx'
    rw [(f.tracks_sync hok).known x, and_iff_left hstays,
      or_iff_left (not_present_of_apart hf hp hx)]

lemma framed_syncFamilies (hl : ∀ f ∈ l, f.Prefixed) (hp : ∀ f ∈ l, Apart p f.suffixPrefix)
    (hok : (syncFamilies entryId domain v l s).2 = false) :
    Framed entryId domain p s (syncFamilies entryId domain v l s).1 := by
  induction l generalizing s with
  | nil => exact .refl
  | cons f l ih =>
    by_cases hr : (f.sync entryId domain v s).2 = true
    · rw [syncFamilies_cons_of_raised hr] at hok
      cases hok
    · have hr' : (f.sync entryId domain v s).2 = false := by simpa using hr
      rw [syncFamilies_cons_of_not_raised hr'] at hok ⊢
      refine (framed_sync entryId domain v s (hl f List.mem_cons_self) (hp f List.mem_cons_self)
        hr').trans (ih (fun g hg => ?_) (fun g hg => ?_) hok)
      · exact hl g (List.mem_cons_of_mem _ hg)
      · exact hp g (List.mem_cons_of_mem _ hg)

lemma leaves_trans {s s' s'' : SyncState E} (x : String)
    (hsub : ∀ e ∈ s'.registry.entries, e ∈ s.registry.entries)
    (hsub' : ∀ e ∈ s''.registry.entries, e ∈ s'.registry.entries) :
    Leaves entryId s s'' x ↔ Leaves entryId s s' x ∨ Leaves entryId s' s'' x := by
  constructor
  · rintro ⟨e, he, hout, hx⟩
    by_cases hkept : e ∈ s'.registry.entries
    · exact .inr ⟨e, hkept, hout, hx⟩
    · exact .inl ⟨e, he, hkept, hx⟩
  · rintro (⟨e, he, hout, hx⟩ | ⟨e, he, hout, hx⟩)
    · exact ⟨e, he, fun h => hout (hsub' e h), hx⟩
    · exact ⟨e, hsub e he, hout, hx⟩

/-- What a sync tracks, if it completes. -/
structure TrackedAll (entryId : String) (v : CoordinatorView D) (l : List (DynamicFamily D Item E))
    (s s' : SyncState E) : Prop where
  known : ∀ x, x ∈ s'.book.known ↔
    (x ∈ s.book.known ∨ ∃ f ∈ l, x ∈ f.present v) ∧ ¬ Leaves entryId s s' x
  new : s'.newEntities = s.newEntities ++
    l.flatMap fun f => (f.calls v s.book.known).map fun p => f.factory p.2

lemma tracks_syncFamilies (hl : l.Pairwise fun f g => Apart f.suffixPrefix g.suffixPrefix)
    (hprefixed : ∀ f ∈ l, f.Prefixed) (hok : (syncFamilies entryId domain v l s).2 = false) :
    TrackedAll entryId v l s (syncFamilies entryId domain v l s).1 := by
  induction l generalizing s with
  | nil =>
    have hno : ∀ x, ¬ Leaves entryId s s x := fun x ⟨e, he, hout, _⟩ => hout he
    exact ⟨fun x => by simp [syncFamilies, hno], by simp [syncFamilies]⟩
  | cons f l ih =>
    obtain ⟨hf, hl⟩ := List.pairwise_cons.mp hl
    obtain ⟨hpf, hprefixed⟩ := List.forall_mem_cons.mp hprefixed
    by_cases hr : (f.sync entryId domain v s).2 = true
    · rw [syncFamilies_cons_of_raised hr] at hok
      cases hok
    have hr' : (f.sync entryId domain v s).2 = false := by simpa using hr
    rw [syncFamilies_cons_of_not_raised hr'] at hok ⊢
    have hone := f.tracks_sync hr'
    have hrest := ih hl hprefixed hok
    have hframed : ∀ g ∈ l, Framed entryId domain g.suffixPrefix s (f.sync entryId domain v s).1 :=
      fun g hg => framed_sync entryId domain v s hpf (hf g hg).symm hr'
    refine ⟨fun x => ?_, ?_⟩
    · have hstays : (∃ g ∈ l, x ∈ g.present v) →
          ¬ Leaves entryId s (f.sync entryId domain v s).1 x := by
        rintro ⟨g, hg, hx⟩ hleaves
        have hx' := startsWith_of_leaves hleaves
        rw [(hf g hg).symm.not_startsWith (g.startsWith_of_present (hprefixed g hg) hx)] at hx'
        cases hx'
      have hsub : ∀ e ∈ (f.sync entryId domain v s).1.registry.entries, e ∈ s.registry.entries :=
        fun e he => DynamicFamily.sub_sync he
      have hsub' :
          ∀ e ∈ (syncFamilies entryId domain v l (f.sync entryId domain v s).1).1.registry.entries,
            e ∈ (f.sync entryId domain v s).1.registry.entries := fun e he => sub_syncFamilies he
      rw [hrest.known, hone.known, leaves_trans x hsub hsub', List.exists_mem_cons_iff]
      constructor
      · rintro ⟨⟨hin, hno⟩ | hin, hno'⟩
        · exact ⟨hin.imp_right .inl, not_or.mpr ⟨hno, hno'⟩⟩
        · exact ⟨.inr (.inr hin), not_or.mpr ⟨hstays hin, hno'⟩⟩
      · rintro ⟨hin, hno⟩
        obtain ⟨hno, hno'⟩ := not_or.mp hno
        refine ⟨?_, hno'⟩
        rcases hin with hin | hin | hin
        · exact .inl ⟨.inl hin, hno⟩
        · exact .inl ⟨.inr hin, hno⟩
        · exact .inr hin
    · have hcalls : (l.flatMap fun g => (g.calls v (f.sync entryId domain v s).1.book.known).map
            fun p => g.factory p.2) =
          l.flatMap fun g => (g.calls v s.book.known).map fun p => g.factory p.2 := by
        refine List.flatMap_congr fun g hg => ?_
        rw [DynamicFamily.calls_congr fun x hx =>
          (hframed g hg).known x (g.startsWith_of_present (hprefixed g hg) hx)]
      rw [hrest.new, hone.new, hcalls, List.flatMap_cons, List.append_assoc]

lemma framed_around (hl : l.Pairwise fun f g => Apart f.suffixPrefix g.suffixPrefix)
    (hprefixed : ∀ f ∈ l, f.Prefixed) (hok : (syncFamilies entryId domain v l s).2 = false)
    (hf : f ∈ l) :
    ∃ s₁, Framed entryId domain f.suffixPrefix s s₁ ∧
      (f.sync entryId domain v s₁).2 = false ∧
      Framed entryId domain f.suffixPrefix (f.sync entryId domain v s₁).1
        (syncFamilies entryId domain v l s).1 := by
  induction l generalizing s with
  | nil => cases hf
  | cons g l ih =>
    obtain ⟨hg, hl⟩ := List.pairwise_cons.mp hl
    obtain ⟨hpg, hpl⟩ := List.forall_mem_cons.mp hprefixed
    by_cases hr : (g.sync entryId domain v s).2 = true
    · rw [syncFamilies_cons_of_raised hr] at hok
      cases hok
    have hr' : (g.sync entryId domain v s).2 = false := by simpa using hr
    rw [syncFamilies_cons_of_not_raised hr'] at hok ⊢
    rcases List.mem_cons.mp hf with rfl | hf
    · exact ⟨s, .refl, hr', framed_syncFamilies hpl hg hok⟩
    · obtain ⟨s₁, hbefore, hone, hafter⟩ := ih hl hpl hok hf
      exact ⟨s₁, (framed_sync entryId domain v s hpg (hg f hf).symm hr').trans hbefore, hone,
        hafter⟩

lemma mem_syncFamilies_of_alike {e e' : RegEntry} (hconfig : e.configEntryId = e'.configEntryId)
    (hdomain : e.domain = e'.domain) (huid : e.uniqueId = e'.uniqueId)
    (he' : e' ∈ s.registry.entries)
    (h : e ∈ (syncFamilies entryId domain v l s).1.registry.entries) :
    e' ∈ (syncFamilies entryId domain v l s).1.registry.entries := by
  induction l generalizing s with
  | nil => exact he'
  | cons f l ih =>
    by_cases hr : (f.sync entryId domain v s).2 = true
    · rw [syncFamilies_cons_of_raised hr] at h ⊢
      exact f.mem_sync_of_alike hconfig hdomain huid he' h
    · rw [syncFamilies_cons_of_not_raised (by simpa using hr)] at h ⊢
      exact ih (f.mem_sync_of_alike hconfig hdomain huid he' (sub_syncFamilies h)) h

lemma not_leaves_of_present (hl : l.Pairwise fun f g => Apart f.suffixPrefix g.suffixPrefix)
    (hprefixed : ∀ f ∈ l, f.Prefixed) (hok : (syncFamilies entryId domain v l s).2 = false)
    (hf : f ∈ l) {x : String} (hx : x ∈ f.present v) :
    ¬ Leaves entryId s (syncFamilies entryId domain v l s).1 x := by
  rintro ⟨e, he, hout, rfl⟩
  have hpre := f.startsWith_of_present (hprefixed f hf) hx
  have hfam : inFamily entryId domain f.suffixPrefix e = true := by
    obtain ⟨g, -, hg⟩ := inFamily_of_gone he hout
    obtain ⟨hconfig, hdomain, y, hy, -⟩ := inFamily_iff.mp hg
    exact inFamily_iff.mpr ⟨hconfig, hdomain, y, hy, by rwa [← suffixOf_eq hy]⟩
  obtain ⟨s₁, hbefore, hone, hafter⟩ := framed_around hl hprefixed hok hf
  have he₁ := hbefore.kept.stays e he hfam
  have hout₁ : e ∉ (f.sync entryId domain v s₁).1.registry.entries := fun h =>
    hout (hafter.kept.stays e h hfam)
  obtain ⟨items, hshown, hx⟩ := DynamicFamily.mem_present.mp hx
  rcases f.sync_spec entryId domain v s₁ with
    ⟨-, -, hreg, -⟩ | ⟨_, -, -, -, hreg, -⟩ | ⟨items', hshow, -, -, hseen⟩
  · exact hout₁ (hreg ▸ he₁)
  · exact hout₁ (hreg ▸ he₁)
  · obtain rfl : items' = items :=
      Option.some.inj ((DynamicFamily.shows_iff.mp hshow).2.symm.trans hshown)
    obtain ⟨-, ⟨-, hempty, -⟩ | ⟨habsent, -⟩⟩ := hseen.gone e he₁ hout₁
    · exact (Dict.get_eq_none_iff _).mp ((Dict.isEmpty_iff _).mp hempty _) hx
    · exact habsent hx

end List

end SophosFw.DynamicSync
