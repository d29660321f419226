import SophosFw.SyncSpec

/-!
The families of one sync. They come one after another, each has a prefix of its own, and none
of them changes what the books and the registry hold of another.
-/

namespace SophosFw.DynamicSync

open SophosFw.PyDict SophosFw.Registry

variable {D Item E : Type} {entryId domain : String} {v : CoordinatorView D}

/-- No suffix starts with both prefixes. -/
def Apart (p p' : String) : Prop := startsWith p p' = false ∧ startsWith p' p = false

/-- Families that are set up together: no entity is in two of them. -/
structure Families (D Item E : Type) where
  list : List (DynamicFamily D Item E)
  apart : list.Pairwise fun f g => Apart f.suffixPrefix g.suffixPrefix

namespace Apart

variable {p p' : String}

lemma symm (h : Apart p p') : Apart p' p := ⟨h.2, h.1⟩

lemma ne (h : Apart p p') : p ≠ p' := by
  rintro rfl
  have hself : startsWith p p = true := by
    unfold startsWith
    exact decide_eq_true List.prefix_rfl
  rw [h.1] at hself
  cases hself

lemma not_startsWith {x : String} (h : Apart p p') (hx : startsWith x p = true) :
    startsWith x p' = false := by
  by_contra hx'
  rw [Bool.not_eq_false] at hx'
  obtain ⟨h1, h2⟩ := h
  unfold startsWith at h1 h2 hx hx'
  rw [decide_eq_true_eq] at hx hx'
  rcases List.prefix_or_prefix_of_prefix hx hx' with hpp | hpp
  · rw [decide_eq_false_iff_not] at h2
    exact h2 hpp
  · rw [decide_eq_false_iff_not] at h1
    exact h1 hpp

end Apart

/-- What concerns the family with the prefix is as it was: what is counted of its objects may
have been dropped, not advanced. -/
structure Kept (entryId domain p : String) (s s' : SyncState E) : Prop where
  streak : s'.book.streak p = s.book.streak p
  emptyFetch : s'.book.emptyFetch p = s.book.emptyFetch p
  missedFetch : s'.book.missedFetch p = s.book.missedFetch p
  missed : ∀ x, startsWith x p = true → s'.book.missed x ≤ s.book.missed x
  sub : ∀ e ∈ s'.registry.entries, e ∈ s.registry.entries
  stays : ∀ e ∈ s.registry.entries, inFamily entryId domain p e = true → e ∈ s'.registry.entries

namespace Kept

variable {p : String} {s s' s'' : SyncState E}

lemma refl : Kept entryId domain p s s :=
  ⟨rfl, rfl, rfl, fun _ _ => le_rfl, fun _ h => h, fun _ h _ => h⟩

lemma trans (h : Kept entryId domain p s s') (h' : Kept entryId domain p s' s'') :
    Kept entryId domain p s s'' where
  streak := h'.streak.trans h.streak
  emptyFetch := h'.emptyFetch.trans h.emptyFetch
  missedFetch := h'.missedFetch.trans h.missedFetch
  missed x hx := (h'.missed x hx).trans (h.missed x hx)
  sub e he := h.sub e (h'.sub e he)
  stays e he hp := h'.stays e (h.stays e he hp) hp

end Kept

namespace DynamicFamily

variable {f : DynamicFamily D Item E} {s : SyncState E} {p : String}

lemma Untouched.kept {s s' : SyncState E} (h : Untouched s s') :
    Kept entryId domain p s s' := by
  obtain ⟨hreg, hbook⟩ := h
  refine ⟨?_, ?_, ?_, fun x _ => le_of_eq ?_, fun e he => hreg ▸ he, fun e he _ => hreg ▸ he⟩ <;>
    rw [hbook] <;> rfl

/-- Its sync ends with the exception. -/
def RaisesAt (f : DynamicFamily D Item E) (v : CoordinatorView D) (b : Book) : Prop :=
  ∃ items, f.Shows v items ∧ f.Raises v items b

lemma shows_unique {items items' : Dict String Item} (h : f.Shows v items)
    (h' : f.Shows v items') : items = items' :=
  Option.some.inj (h.2.1.symm.trans h'.2.1)

lemma raisesAt_congr {b b' : Book} (hs : b'.streak f.suffixPrefix = b.streak f.suffixPrefix)
    (he : b'.emptyFetch f.suffixPrefix = b.emptyFetch f.suffixPrefix) :
    f.RaisesAt v b' ↔ f.RaisesAt v b := by
  unfold RaisesAt Raises
  rw [hs, he]

variable (entryId domain v s) in
lemma raised_sync : (f.sync entryId domain v s).2 = true ↔ f.RaisesAt v s.book := by
  rcases f.sync_spec entryId domain v s with
    ⟨hno, hr, -⟩ | ⟨items, hshow, hraise, hr, -⟩ | ⟨items, hshow, hnot, hr, -⟩ <;> rw [hr]
  · refine ⟨nofun, ?_⟩
    rintro ⟨items, hshow, -⟩
    exact absurd hshow (hno items)
  · exact ⟨fun _ => ⟨items, hshow, hraise⟩, fun _ => rfl⟩
  · refine ⟨nofun, ?_⟩
    rintro ⟨items', hshow', hraise⟩
    rw [shows_unique hshow' hshow] at hraise
    exact absurd hraise hnot

lemma Seen.keeps {items : Dict String Item} {s s' : SyncState E}
    (h : Seen entryId domain v f items s s') (hp : Apart p f.suffixPrefix) :
    Kept entryId domain p s s' := by
  obtain ⟨hs, he, hm⟩ := h.others p hp.ne
  refine ⟨hs, he, hm, fun x hx => ?_, h.kept, fun e hin hfam => ?_⟩
  · rw [h.missed x]
    have hreg : x ∉ registeredSuffixes entryId domain f.suffixPrefix s.registry := fun hmem => by
      have hx' := startsWith_of_mem_registeredSuffixes hmem
      rw [hp.not_startsWith hx] at hx'
      cases hx'
    split
    · split
      · exact Nat.zero_le _
      · rw [if_neg fun hc => hreg hc.1]
    · exact le_rfl
  · by_contra hgone
    have hfam' := startsWith_suffixOf (h.gone e hin hgone).1
    rw [hp.not_startsWith (startsWith_suffixOf hfam)] at hfam'
    cases hfam'

variable (entryId domain v s) in
/-- **Frame**: the sync of a family leaves the others alone. -/
lemma kept_sync (hp : Apart p f.suffixPrefix) :
    Kept entryId domain p s (f.sync entryId domain v s).1 := by
  rcases f.sync_spec entryId domain v s with
    ⟨-, -, hu⟩ | ⟨items, -, -, -, hu⟩ | ⟨items, -, -, -, hseen⟩
  · exact hu.kept
  · exact hu.kept
  · exact hseen.keeps hp

lemma sub_sync {e : RegEntry} (he : e ∈ (f.sync entryId domain v s).1.registry.entries) :
    e ∈ s.registry.entries := by
  rcases f.sync_spec entryId domain v s with
    ⟨-, -, hreg, -⟩ | ⟨items, -, -, -, hreg, -⟩ | ⟨items, -, -, -, hseen⟩
  · exact hreg ▸ he
  · exact hreg ▸ he
  · exact hseen.kept e he

lemma inFamily_of_gone_sync {e : RegEntry} (he : e ∈ s.registry.entries)
    (hgone : e ∉ (f.sync entryId domain v s).1.registry.entries) :
    inFamily entryId domain f.suffixPrefix e = true := by
  rcases f.sync_spec entryId domain v s with
    ⟨-, -, hreg, -⟩ | ⟨items, -, -, -, hreg, -⟩ | ⟨items, -, -, -, hseen⟩
  · exact absurd (hreg ▸ he) hgone
  · exact absurd (hreg ▸ he) hgone
  · exact (hseen.gone e he hgone).1

end DynamicFamily

/-! ### All families -/

section List

variable {l pre post : List (DynamicFamily D Item E)} {f : DynamicFamily D Item E}
  {s : SyncState E} {p : String}

lemma syncFamilies_cons_of_raised (h : (f.sync entryId domain v s).2 = true) :
    syncFamilies entryId domain v (f :: l) s = ((f.sync entryId domain v s).1, true) := by
  rw [syncFamilies]
  split
  · next s' hs => rw [hs]
  · next s' hs =>
    rw [hs] at h
    cases h

lemma syncFamilies_cons_of_not_raised (h : (f.sync entryId domain v s).2 = false) :
    syncFamilies entryId domain v (f :: l) s =
      syncFamilies entryId domain v l (f.sync entryId domain v s).1 := by
  rw [syncFamilies]
  split
  · next s' hs =>
    rw [hs] at h
    cases h
  · next s' hs => rw [hs]

lemma syncFamilies_of_data_none (h : v.data = none) :
    syncFamilies entryId domain v l s = (s, false) := by
  induction l with
  | nil => rfl
  | cons f l ih =>
    have hf : f.sync entryId domain v s = (s, false) := by
      unfold DynamicFamily.sync DynamicFamily.itemsOf
      rw [h, Option.bind_none, ite_self]
      exact ite_self _
    rw [syncFamilies, hf]
    exact ih

lemma kept_syncFamilies (hp : ∀ f ∈ l, Apart p f.suffixPrefix) :
    Kept entryId domain p s (syncFamilies entryId domain v l s).1 := by
  induction l generalizing s with
  | nil => exact Kept.refl
  | cons f l ih =>
    have hf := DynamicFamily.kept_sync entryId domain v s (hp f List.mem_cons_self)
    by_cases hr : (f.sync entryId domain v s).2 = true
    · rw [syncFamilies_cons_of_raised hr]
      exact hf
    · rw [syncFamilies_cons_of_not_raised (by simpa using hr)]
      exact hf.trans (ih fun g hg => hp g (List.mem_cons_of_mem _ hg))

/-- The families raise if one of them does, by the books before the sync. -/
lemma raised_syncFamilies (hl : l.Pairwise fun f g => Apart f.suffixPrefix g.suffixPrefix) :
    (syncFamilies entryId domain v l s).2 = true ↔ ∃ f ∈ l, f.RaisesAt v s.book := by
  induction l generalizing s with
  | nil => simp [syncFamilies]
  | cons f l ih =>
    obtain ⟨hf, hl⟩ := List.pairwise_cons.mp hl
    rw [List.exists_mem_cons_iff, ← DynamicFamily.raised_sync entryId domain]
    by_cases hr : (f.sync entryId domain v s).2 = true
    · rw [syncFamilies_cons_of_raised hr]
      simp [hr]
    · rw [syncFamilies_cons_of_not_raised (by simpa using hr), ih hl]
      rw [or_iff_right hr]
      refine exists_congr fun g => and_congr_right fun hg => ?_
      have hk := DynamicFamily.kept_sync entryId domain v s (hf g hg).symm
      exact DynamicFamily.raisesAt_congr hk.streak hk.emptyFetch

lemma syncFamilies_append (h : (syncFamilies entryId domain v pre s).2 = false) :
    syncFamilies entryId domain v (pre ++ l) s =
      syncFamilies entryId domain v l (syncFamilies entryId domain v pre s).1 := by
  induction pre generalizing s with
  | nil => rfl
  | cons f pre ih =>
    rw [List.cons_append]
    by_cases hr : (f.sync entryId domain v s).2 = true
    · rw [syncFamilies_cons_of_raised hr] at h
      cases h
    · have hr' : (f.sync entryId domain v s).2 = false := by simpa using hr
      rw [syncFamilies_cons_of_not_raised hr'] at h ⊢
      rw [syncFamilies_cons_of_not_raised hr', ih h]

/-- **Locality**: what a sync that gets as far as a family does to it, is what the sync of this
one family does. -/
lemma kept_around (hl : (pre ++ f :: post).Pairwise fun f g => Apart f.suffixPrefix g.suffixPrefix)
    (hpre : ∀ g ∈ pre, ¬ g.RaisesAt v s.book) :
    ∃ s₁, Kept entryId domain f.suffixPrefix s s₁ ∧
      Kept entryId domain f.suffixPrefix (f.sync entryId domain v s₁).1
        (syncFamilies entryId domain v (pre ++ f :: post) s).1 := by
  obtain ⟨hl₁, hl₂, hbetween⟩ := List.pairwise_append.mp hl
  have hdone : (syncFamilies entryId domain v pre s).2 = false := by
    rw [← Bool.not_eq_true, raised_syncFamilies hl₁]
    push Not
    exact hpre
  refine ⟨(syncFamilies entryId domain v pre s).1,
    kept_syncFamilies fun g hg => (hbetween g hg f List.mem_cons_self).symm, ?_⟩
  rw [syncFamilies_append hdone]
  by_cases hr : (f.sync entryId domain v (syncFamilies entryId domain v pre s).1).2 = true
  · rw [syncFamilies_cons_of_raised hr]
    exact Kept.refl
  · rw [syncFamilies_cons_of_not_raised (by simpa using hr)]
    exact kept_syncFamilies fun g hg => (List.pairwise_cons.mp hl₂).1 g hg

lemma mem_syncFamilies_of_plain
    (hl : l.Pairwise fun f g => Apart f.suffixPrefix g.suffixPrefix)
    (hplain : ∀ g ∈ l, g.trustEmpty = false) (hf : f ∈ l) (hc : f.confirmMissing = false)
    {items : Dict String Item} (hshow : f.Shows v items) {e : RegEntry}
    (hfam : inFamily entryId domain f.suffixPrefix e = true) :
    e ∈ (syncFamilies entryId domain v l s).1.registry.entries ↔
      e ∈ s.registry.entries ∧ (items.keys = [] ∨ suffixOf entryId e ∈ items.keys) := by
  obtain ⟨pre, post, rfl⟩ := List.append_of_mem hf
  have hpre : ∀ g ∈ pre, ¬ g.RaisesAt v s.book := by
    rintro g hg ⟨_, -, ht, -⟩
    rw [hplain g (List.mem_append_left _ hg)] at ht
    cases ht
  obtain ⟨s₁, hbefore, hafter⟩ := kept_around hl hpre
  have hone : e ∈ (f.sync entryId domain v s₁).1.registry.entries ↔ e ∈ s₁.registry.entries ∧
      (inFamily entryId domain f.suffixPrefix e = true →
        items.keys = [] ∨ suffixOf entryId e ∈ items.keys) :=
    DynamicFamily.mem_sync_of_plain hshow (hplain f hf) hc
  constructor
  · intro he
    obtain ⟨he₁, hthere⟩ := hone.mp (hafter.sub e he)
    exact ⟨hbefore.sub e he₁, hthere hfam⟩
  · rintro ⟨he, hthere⟩
    exact hafter.stays e (hone.mpr ⟨hbefore.stays e he hfam, fun _ => hthere⟩) hfam

lemma sub_syncFamilies {e : RegEntry}
    (he : e ∈ (syncFamilies entryId domain v l s).1.registry.entries) : e ∈ s.registry.entries := by
  induction l generalizing s with
  | nil => exact he
  | cons f l ih =>
    by_cases hr : (f.sync entryId domain v s).2 = true
    · rw [syncFamilies_cons_of_raised hr] at he
      exact DynamicFamily.sub_sync he
    · rw [syncFamilies_cons_of_not_raised (by simpa using hr)] at he
      exact DynamicFamily.sub_sync (ih he)

lemma not_raised_syncFamilies (hl : ∀ f ∈ l, f.trustEmpty = false) :
    (syncFamilies entryId domain v l s).2 = false := by
  induction l generalizing s with
  | nil => rfl
  | cons f l ih =>
    have hr : (f.sync entryId domain v s).2 = false := by
      rw [← Bool.not_eq_true, DynamicFamily.raised_sync]
      rintro ⟨items, -, ht, -⟩
      rw [hl f List.mem_cons_self] at ht
      cases ht
    rw [syncFamilies_cons_of_not_raised hr]
    exact ih fun g hg => hl g (List.mem_cons_of_mem _ hg)

lemma sync_eq (registry : EntityRegistry) (book : Book) :
    sync entryId domain v l registry book =
      let r := syncFamilies entryId domain v l ⟨registry, book, []⟩
      (r.1.registry, r.1.book, if r.2 then [] else r.1.newEntities, r.2) := by
  unfold sync
  by_cases hd : v.data.isNone = true
  · rw [if_pos hd, syncFamilies_of_data_none (Option.isNone_iff_eq_none.mp hd)]
    rfl
  · rw [if_neg hd]

lemma inFamily_of_gone {e : RegEntry} (he : e ∈ s.registry.entries)
    (hgone : e ∉ (syncFamilies entryId domain v l s).1.registry.entries) :
    ∃ f ∈ l, inFamily entryId domain f.suffixPrefix e = true := by
  induction l generalizing s with
  | nil => exact absurd he hgone
  | cons f l ih =>
    by_cases hkept : e ∈ (f.sync entryId domain v s).1.registry.entries
    · by_cases hr : (f.sync entryId domain v s).2 = true
      · rw [syncFamilies_cons_of_raised hr] at hgone
        exact absurd hkept hgone
      · rw [syncFamilies_cons_of_not_raised (by simpa using hr)] at hgone
        obtain ⟨g, hg, hfam⟩ := ih hkept hgone
        exact ⟨g, List.mem_cons_of_mem _ hg, hfam⟩
    · exact ⟨f, List.mem_cons_self, DynamicFamily.inFamily_of_gone_sync he hkept⟩

end List

end SophosFw.DynamicSync
