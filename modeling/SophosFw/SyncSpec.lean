import SophosFw.DynamicSync

/-!
What one sync does to the books and to the registry: to those of the family it looks at, and
that it leaves the others alone.
-/

namespace SophosFw.DynamicSync

open SophosFw.PyDict SophosFw.Registry

variable {D Item E : Type} {entryId domain : String} {v : CoordinatorView D}

namespace Book

/-- The streak of a family that is empty. -/
def streak (b : Book) (p : String) : Option ℕ := b.emptyStreak.get p

/-- The fetch at which it was last counted as empty. -/
def emptyFetch (b : Book) (p : String) : Option ℚ := (b.lastFetch.get p).join

/-- How often an object was missing. -/
def missed (b : Book) (suffix : String) : ℕ := (b.missingStreak.get suffix).getD 0

/-- The fetch at which missing objects were last counted. -/
def missedFetch (b : Book) (p : String) : Option ℚ := (b.lastMissingFetch.get p).join

end Book

namespace DynamicFamily

variable {f : DynamicFamily D Item E}

lemma addNew_eq (items : Dict String Item) (s : SyncState E) :
    ∃ known new, f.addNew items s =
      { s with book := { s.book with known := known }, newEntities := new } := by
  unfold addNew
  generalize items.entries = l
  induction l generalizing s with
  | nil => exact ⟨s.book.known, s.newEntities, rfl⟩
  | cons p l ih =>
    rw [List.foldl_cons]
    by_cases hp : p.1 ∈ s.book.known
    · rw [if_pos hp]
      exact ih s
    · rw [if_neg hp]
      obtain ⟨known, new, h⟩ := ih { s with
        book := { s.book with known := p.1 :: s.book.known }
        newEntities := s.newEntities ++ [f.factory p.2] }
      exact ⟨known, new, h⟩

/-- The family is looked at, and has these objects. -/
def Shows (f : DynamicFamily D Item E) (v : CoordinatorView D) (items : Dict String Item) : Prop :=
  v.endpointAvailable f.endpoint = true ∧ f.itemsOf v = some items ∧ f.removeStale = true

/-- The lookup of the streak raises. -/
def Raises (f : DynamicFamily D Item E) (v : CoordinatorView D) (items : Dict String Item)
    (b : Book) : Prop :=
  f.trustEmpty = true ∧ items.isEmpty = true ∧
    v.fetchedAt f.endpoint = b.emptyFetch f.suffixPrefix ∧ b.streak f.suffixPrefix = none

lemma countEmpty_of_empty {items : Dict String Item} {b : Book} (ht : f.trustEmpty = true)
    (he : items.isEmpty = true) :
    (f.countEmpty v items b).1.emptyFetch f.suffixPrefix = v.fetchedAt f.endpoint ∧
    (f.countEmpty v items b).1.streak f.suffixPrefix =
      (if v.fetchedAt f.endpoint ≠ b.emptyFetch f.suffixPrefix then
        some ((b.streak f.suffixPrefix).getD 0 + 1)
      else b.streak f.suffixPrefix) ∧
    (f.countEmpty v items b).2 = ((f.countEmpty v items b).1.streak f.suffixPrefix).map fun n =>
      decide (Sources.emptyConfirmations ≤ n) := by
  unfold countEmpty Book.emptyFetch Book.streak
  rw [ht, he, if_pos (by simp)]
  dsimp only
  split
  · simp
  · next h =>
    have heq : v.fetchedAt f.endpoint = (b.lastFetch.get f.suffixPrefix).join := not_not.mp h
    exact ⟨heq.symm, rfl, rfl⟩

lemma countEmpty_of_not_empty {items : Dict String Item} {b : Book}
    (h : ¬ (f.trustEmpty = true ∧ items.isEmpty = true)) :
    f.countEmpty v items b =
      ({ b with emptyStreak := b.emptyStreak.pop f.suffixPrefix }, some false) := by
  unfold countEmpty
  rw [if_neg (by simpa using h)]

lemma countEmpty_missing (items : Dict String Item) (b : Book) :
    (f.countEmpty v items b).1.missingStreak = b.missingStreak ∧
      (f.countEmpty v items b).1.lastMissingFetch = b.lastMissingFetch := by
  unfold countEmpty
  dsimp only
  split
  · split <;> exact ⟨rfl, rfl⟩
  · exact ⟨rfl, rfl⟩

lemma countEmpty_none_iff {items : Dict String Item} {b : Book} :
    (f.countEmpty v items b).2 = none ↔ f.Raises v items b := by
  by_cases h : f.trustEmpty = true ∧ items.isEmpty = true
  · obtain ⟨ht, he⟩ := h
    obtain ⟨-, hstreak, hr⟩ := countEmpty_of_empty (v := v) (b := b) ht he
    rw [hr, hstreak, Option.map_eq_none_iff]
    unfold Raises
    split
    · next hne => simp [hne]
    · next heq => simp [ht, he, not_not.mp heq]
  · rw [countEmpty_of_not_empty h]
    unfold Raises
    constructor
    · intro hn
      cases hn
    · rintro ⟨ht, he, -⟩
      exact absurd ⟨ht, he⟩ h

lemma get_foldl_count {missing : List String} (hn : missing.Nodup) (m : Dict String ℕ)
    (x : String) :
    (missing.foldl (fun streak suffix => streak.set suffix ((streak.get suffix).getD 0 + 1))
      m).get x = if x ∈ missing then some ((m.get x).getD 0 + 1) else m.get x := by
  induction missing generalizing m with
  | nil => simp
  | cons a missing ih =>
    obtain ⟨ha, hn⟩ := List.nodup_cons.mp hn
    rw [List.foldl_cons, ih hn, Dict.get_set]
    by_cases hx : x = a
    · subst hx
      simp [ha]
    · simp [hx]

section StillConfirming

variable {registered present : List String} {b : Book}

lemma stillConfirming_book :
    (f.stillConfirming v registered present b).2 =
      { b with
        lastMissingFetch := b.lastMissingFetch.set f.suffixPrefix (v.fetchedAt f.endpoint)
        missingStreak := (f.stillConfirming v registered present b).2.missingStreak } := rfl

/-- Present objects have no streak; a registered one that is missing is counted once a fetch. -/
lemma missed_stillConfirming (hn : registered.Nodup) (x : String) :
    (f.stillConfirming v registered present b).2.missed x =
      if x ∈ present then 0
      else if x ∈ registered ∧ v.fetchedAt f.endpoint ≠ b.missedFetch f.suffixPrefix then
        b.missed x + 1
      else b.missed x := by
  unfold stillConfirming Book.missed Book.missedFetch
  dsimp only
  rw [Dict.get_foldl_pop]
  by_cases hp : x ∈ present
  · simp [hp]
  · rw [if_neg hp, if_neg hp]
    by_cases hf : v.fetchedAt f.endpoint ≠ (b.lastMissingFetch.get f.suffixPrefix).join
    · rw [if_pos (by simpa using hf), get_foldl_count (hn.filter _)]
      by_cases hr : x ∈ registered
      · simp [hr, hp, hf]
      · simp [hr]
    · rw [if_neg (by simpa using hf), if_neg fun h => hf h.2]

/-- What is still confirming: what is missing, but not for long enough. -/
lemma mem_stillConfirming {x : String} :
    x ∈ (f.stillConfirming v registered present b).1 ↔ x ∈ registered ∧ x ∉ present ∧
      (f.stillConfirming v registered present b).2.missed x < Sources.emptyConfirmations := by
  unfold Book.missed stillConfirming
  dsimp only
  rw [List.mem_filter, List.mem_filter, decide_eq_true_eq, decide_eq_true_eq, and_assoc]
  refine and_congr_right fun _ => and_congr_right fun hp => ?_
  rw [Dict.get_foldl_pop, if_neg hp]

end StillConfirming

/-! ### One family -/

/-- A sync that did not get as far as the books. -/
def Untouched (s s' : SyncState E) : Prop :=
  s'.registry = s.registry ∧ s'.book = { s.book with known := s'.book.known }

/-- A sync that saw the family with these objects, and did not raise. -/
structure Seen (entryId domain : String) (v : CoordinatorView D) (f : DynamicFamily D Item E)
    (items : Dict String Item) (s s' : SyncState E) : Prop where
  streak : s'.book.streak f.suffixPrefix =
    if f.trustEmpty = true ∧ items.isEmpty = true then
      if v.fetchedAt f.endpoint ≠ s.book.emptyFetch f.suffixPrefix then
        some ((s.book.streak f.suffixPrefix).getD 0 + 1)
      else s.book.streak f.suffixPrefix
    else none
  emptyFetch : s'.book.emptyFetch f.suffixPrefix =
    if f.trustEmpty = true ∧ items.isEmpty = true then v.fetchedAt f.endpoint
    else s.book.emptyFetch f.suffixPrefix
  missed : ∀ x, s'.book.missed x =
    if f.confirmMissing = true then
      if x ∈ items.keys then 0
      else if x ∈ registeredSuffixes entryId domain f.suffixPrefix s.registry ∧
          v.fetchedAt f.endpoint ≠ s.book.missedFetch f.suffixPrefix then
        s.book.missed x + 1
      else s.book.missed x
    else s.book.missed x
  missedFetch : s'.book.missedFetch f.suffixPrefix =
    if f.confirmMissing = true then v.fetchedAt f.endpoint
    else s.book.missedFetch f.suffixPrefix
  others : ∀ p ≠ f.suffixPrefix, s'.book.streak p = s.book.streak p ∧
    s'.book.emptyFetch p = s.book.emptyFetch p ∧ s'.book.missedFetch p = s.book.missedFetch p
  kept : ∀ e ∈ s'.registry.entries, e ∈ s.registry.entries
  gone : ∀ e ∈ s.registry.entries, e ∉ s'.registry.entries →
    inFamily entryId domain f.suffixPrefix e = true ∧
    ((f.trustEmpty = true ∧ items.isEmpty = true ∧
      ∃ n, s'.book.streak f.suffixPrefix = some n ∧ Sources.emptyConfirmations ≤ n) ∨
    (suffixOf entryId e ∉ items.keys ∧
      (f.confirmMissing = true →
        Sources.emptyConfirmations ≤ s'.book.missed (suffixOf entryId e)) ∧
      (f.confirmMissing = false → items.isEmpty = false)))

lemma countEmpty_known (items : Dict String Item) (b : Book) (known : List String) :
    f.countEmpty v items { b with known := known } =
      ({ (f.countEmpty v items b).1 with known := known }, (f.countEmpty v items b).2) := by
  unfold countEmpty
  dsimp only
  split
  · split <;> rfl
  · rfl

lemma countEmpty_of_raises {items : Dict String Item} {b : Book} (h : f.Raises v items b) :
    (f.countEmpty v items b).1 = b := by
  obtain ⟨ht, he, heq, -⟩ := h
  unfold countEmpty
  rw [ht, he, if_pos (by simp)]
  exact if_neg (not_not.mpr heq)

lemma countEmpty_spec (items : Dict String Item) (b : Book) :
    (f.countEmpty v items b).1.streak f.suffixPrefix =
      (if f.trustEmpty = true ∧ items.isEmpty = true then
        if v.fetchedAt f.endpoint ≠ b.emptyFetch f.suffixPrefix then
          some ((b.streak f.suffixPrefix).getD 0 + 1)
        else b.streak f.suffixPrefix
      else none) ∧
    (f.countEmpty v items b).1.emptyFetch f.suffixPrefix =
      (if f.trustEmpty = true ∧ items.isEmpty = true then v.fetchedAt f.endpoint
      else b.emptyFetch f.suffixPrefix) ∧
    ∀ p ≠ f.suffixPrefix, (f.countEmpty v items b).1.streak p = b.streak p ∧
      (f.countEmpty v items b).1.emptyFetch p = b.emptyFetch p := by
  by_cases h : f.trustEmpty = true ∧ items.isEmpty = true
  · obtain ⟨hfetch, hstreak, -⟩ := countEmpty_of_empty (v := v) (b := b) h.1 h.2
    rw [if_pos h, if_pos h]
    refine ⟨hstreak, hfetch, fun p hp => ?_⟩
    unfold countEmpty Book.streak Book.emptyFetch
    rw [h.1, h.2, if_pos (by simp)]
    dsimp only
    split
    · rw [Dict.get_set, if_neg hp, Dict.get_set, if_neg hp]
      exact ⟨rfl, rfl⟩
    · exact ⟨rfl, rfl⟩
  · rw [countEmpty_of_not_empty h, if_neg h, if_neg h]
    refine ⟨?_, rfl, fun p hp => ⟨?_, rfl⟩⟩
    · unfold Book.streak
      rw [Dict.get_pop, if_pos rfl]
    · unfold Book.streak
      rw [Dict.get_pop, if_neg hp]

lemma streak_of_removeAll {items : Dict String Item} {b : Book}
    (h : (f.countEmpty v items b).2 = some true) :
    f.trustEmpty = true ∧ items.isEmpty = true ∧
      ∃ n, (f.countEmpty v items b).1.streak f.suffixPrefix = some n ∧
        Sources.emptyConfirmations ≤ n := by
  by_cases he : f.trustEmpty = true ∧ items.isEmpty = true
  · obtain ⟨-, -, hr⟩ := countEmpty_of_empty (v := v) (b := b) he.1 he.2
    rw [h] at hr
    obtain ⟨n, hn, hle⟩ := Option.map_eq_some_iff.mp hr.symm
    exact ⟨he.1, he.2, n, hn, by simpa using hle⟩
  · rw [countEmpty_of_not_empty he] at h
    cases h

section RemoveGone

variable {items : Dict String Item} {s : SyncState E} {removeAll : Bool}

variable (entryId domain v items s removeAll) in
lemma removeGone_counts :
    (f.removeGone entryId domain v items removeAll s).book.emptyStreak = s.book.emptyStreak ∧
      (f.removeGone entryId domain v items removeAll s).book.lastFetch = s.book.lastFetch := by
  unfold removeGone
  dsimp only
  split <;> exact ⟨rfl, rfl⟩

variable (entryId domain v items s removeAll) in
lemma removeGone_confirming (hf : f.confirmMissing = true) :
    let b := (f.stillConfirming v (registeredSuffixes entryId domain f.suffixPrefix s.registry)
      items.keys s.book).2
    (f.removeGone entryId domain v items removeAll s).book.missingStreak = b.missingStreak ∧
      (f.removeGone entryId domain v items removeAll s).book.lastMissingFetch =
        b.lastMissingFetch := by
  unfold removeGone
  dsimp only
  rw [if_pos hf]
  exact ⟨rfl, rfl⟩

variable (entryId domain v items s removeAll) in
lemma removeGone_not_confirming (hf : ¬ f.confirmMissing = true) :
    (f.removeGone entryId domain v items removeAll s).book.missingStreak = s.book.missingStreak ∧
      (f.removeGone entryId domain v items removeAll s).book.lastMissingFetch =
        s.book.lastMissingFetch := by
  unfold removeGone
  dsimp only
  rw [if_neg hf]
  exact ⟨rfl, rfl⟩

lemma mem_removeGone {e : RegEntry} :
    e ∈ (f.removeGone entryId domain v items removeAll s).registry.entries ↔
      e ∈ s.registry.entries ∧ ¬ (
        let keep := if f.confirmMissing = true then (f.stillConfirming v
          (registeredSuffixes entryId domain f.suffixPrefix s.registry) items.keys s.book).1 else []
        (items.keys ++ keep ≠ [] ∨ removeAll = true) ∧
          isStale entryId domain f.suffixPrefix (items.keys ++ keep) removeAll e = true) := by
  unfold removeGone
  dsimp only
  rw [mem_asyncRemoveStaleEntities]
  split <;> rfl

lemma missed_removeGone (x : String) :
    (f.removeGone entryId domain v items removeAll s).book.missed x =
      if f.confirmMissing = true then
        if x ∈ items.keys then 0
        else if x ∈ registeredSuffixes entryId domain f.suffixPrefix s.registry ∧
            v.fetchedAt f.endpoint ≠ s.book.missedFetch f.suffixPrefix then
          s.book.missed x + 1
        else s.book.missed x
      else s.book.missed x := by
  by_cases hf : f.confirmMissing = true
  · obtain ⟨hm, -⟩ := removeGone_confirming entryId domain v items s removeAll hf
    rw [if_pos hf, ← missed_stillConfirming (f := f) nodup_registeredSuffixes x]
    unfold Book.missed
    rw [hm]
  · obtain ⟨hm, -⟩ := removeGone_not_confirming entryId domain v items s removeAll hf
    rw [if_neg hf]
    unfold Book.missed
    rw [hm]

lemma missedFetch_removeGone (p : String) :
    (f.removeGone entryId domain v items removeAll s).book.missedFetch p =
      if f.confirmMissing = true ∧ p = f.suffixPrefix then v.fetchedAt f.endpoint
      else s.book.missedFetch p := by
  by_cases hf : f.confirmMissing = true
  · obtain ⟨-, hm⟩ := removeGone_confirming entryId domain v items s removeAll hf
    unfold Book.missedFetch
    rw [hm, stillConfirming_book]
    dsimp only
    rw [Dict.get_set]
    by_cases hp : p = f.suffixPrefix
    · rw [if_pos hp, if_pos ⟨hf, hp⟩]
      rfl
    · rw [if_neg hp, if_neg fun h => hp h.2]
  · obtain ⟨-, hm⟩ := removeGone_not_confirming entryId domain v items s removeAll hf
    rw [if_neg fun h => hf h.1]
    unfold Book.missedFetch
    rw [hm]

lemma gone_removeGone {e : RegEntry} (he : e ∈ s.registry.entries)
    (hgone : e ∉ (f.removeGone entryId domain v items removeAll s).registry.entries) :
    inFamily entryId domain f.suffixPrefix e = true ∧
    (removeAll = true ∨ (suffixOf entryId e ∉ items.keys ∧
      (f.confirmMissing = true → Sources.emptyConfirmations ≤
        (f.removeGone entryId domain v items removeAll s).book.missed (suffixOf entryId e)) ∧
      (f.confirmMissing = false → items.isEmpty = false))) := by
  rw [mem_removeGone] at hgone
  obtain ⟨hguard, hstale⟩ := not_not.mp fun h => hgone ⟨he, h⟩
  unfold isStale at hstale
  rw [Bool.and_eq_true, Bool.or_eq_true] at hstale
  obtain ⟨hfam, hall | hout⟩ := hstale
  · exact ⟨hfam, .inl hall⟩
  · by_cases hr : removeAll = true
    · exact ⟨hfam, .inl hr⟩
    rw [decide_eq_true_eq, List.mem_append, not_or] at hout
    obtain ⟨habsent, hkeep⟩ := hout
    refine ⟨hfam, .inr ⟨habsent, fun hf => ?_, fun hf => ?_⟩⟩
    · rw [if_pos hf] at hkeep
      have hreg := mem_registeredSuffixes.mpr ⟨e, he, hfam, rfl⟩
      have hle : Sources.emptyConfirmations ≤ (f.stillConfirming v _ items.keys s.book).2.missed
          (suffixOf entryId e) :=
        not_lt.mp fun hlt => hkeep (mem_stillConfirming.mpr ⟨hreg, habsent, hlt⟩)
      obtain ⟨hm, -⟩ := removeGone_confirming entryId domain v items s removeAll hf
      unfold Book.missed at hle ⊢
      rwa [hm]
    · have hne : items.keys ≠ [] := by simpa [hf, hr] using hguard
      rw [← Bool.not_eq_true, Dict.isEmpty_iff]
      intro hall
      obtain ⟨k, hk⟩ := List.exists_mem_of_ne_nil _ hne
      exact items.get_eq_none_iff.mp (hall k) hk

end RemoveGone

lemma seen_removeGone {items : Dict String Item} {s : SyncState E} {removeAll : Bool}
    (hc : (f.countEmpty v items s.book).2 = some removeAll) (known : List String) (new : List E) :
    Seen entryId domain v f items s (f.removeGone entryId domain v items removeAll
      { s with book := { (f.countEmpty v items s.book).1 with known := known }
               newEntities := new }) := by
  obtain ⟨hstreak, hfetch, hothers⟩ := f.countEmpty_spec (v := v) items s.book
  obtain ⟨hmiss, hmissFetch⟩ := f.countEmpty_missing (v := v) items s.book
  set s₁ : SyncState E := { s with
    book := { (f.countEmpty v items s.book).1 with known := known }
    newEntities := new } with hs₁
  obtain ⟨hcount, hlast⟩ := removeGone_counts entryId domain v (f := f) items s₁ removeAll
  have hmissed : ∀ x, s₁.book.missed x = s.book.missed x := fun x => by
    rw [hs₁]
    unfold Book.missed
    dsimp only
    rw [hmiss]
  have hmissedFetch : ∀ p, s₁.book.missedFetch p = s.book.missedFetch p := fun p => by
    rw [hs₁]
    unfold Book.missedFetch
    dsimp only
    rw [hmissFetch]
  have hstreaks : ∀ p, (f.removeGone entryId domain v items removeAll s₁).book.streak p =
      (f.countEmpty v items s.book).1.streak p := fun p => by
    unfold Book.streak
    rw [hcount]
  have hfetches : ∀ p, (f.removeGone entryId domain v items removeAll s₁).book.emptyFetch p =
      (f.countEmpty v items s.book).1.emptyFetch p := fun p => by
    unfold Book.emptyFetch
    rw [hlast]
  refine ⟨?_, ?_, fun x => ?_, ?_, fun p hp => ⟨?_, ?_, ?_⟩, fun e he => ?_, fun e he hgone => ?_⟩
  · rw [hstreaks, hstreak]
  · rw [hfetches, hfetch]
  · rw [missed_removeGone, hmissed, hmissedFetch]
  · rw [missedFetch_removeGone, hmissedFetch]
    simp
  · rw [hstreaks, (hothers p hp).1]
  · rw [hfetches, (hothers p hp).2]
  · rw [missedFetch_removeGone, hmissedFetch, if_neg fun h => hp h.2]
  · exact (mem_removeGone.mp he).1
  · obtain ⟨hfam, hall | hone⟩ := gone_removeGone (s := s₁) he hgone
    · rw [hall] at hc
      obtain ⟨ht, hempty, n, hn, hle⟩ := streak_of_removeAll hc
      exact ⟨hfam, .inl ⟨ht, hempty, n, by rw [hstreaks, hn], hle⟩⟩
    · exact ⟨hfam, .inr hone⟩

lemma mem_sync_of_plain {items : Dict String Item} {s : SyncState E} (hshow : f.Shows v items)
    (ht : f.trustEmpty = false) (hc : f.confirmMissing = false) {e : RegEntry} :
    e ∈ (f.sync entryId domain v s).1.registry.entries ↔ e ∈ s.registry.entries ∧
      (inFamily entryId domain f.suffixPrefix e = true → items.keys = [] ∨
        suffixOf entryId e ∈ items.keys) := by
  obtain ⟨ha, hi, hr⟩ := hshow
  obtain ⟨known, new, hnew⟩ := f.addNew_eq items s
  unfold sync
  rw [if_neg (by simp [ha]), hi]
  dsimp only
  rw [hnew, if_neg (by simp [hr]),
    countEmpty_of_not_empty fun h => by rw [ht] at h; cases h.1]
  dsimp only
  rw [mem_removeGone, and_congr_right_iff]
  intro _
  dsimp only
  rw [if_neg (by rw [hc]; exact Bool.false_ne_true), List.append_nil]
  unfold isStale
  rw [Bool.false_or, Bool.and_eq_true, decide_eq_true_eq]
  constructor
  · intro h hfam
    by_contra hno
    push Not at hno
    exact h ⟨.inl hno.1, hfam, hno.2⟩
  · rintro h ⟨hne, hfam, hout⟩
    rcases h hfam with hnil | hin
    · exact (hne.resolve_right Bool.false_ne_true) hnil
    · exact hout hin

/-- What a sync makes of one family: nothing, if it does not look at it; nothing but the
exception, if the lookup raises; and otherwise the books and the registry move on. -/
lemma sync_spec (entryId domain : String) (v : CoordinatorView D) (s : SyncState E) :
    let r := f.sync entryId domain v s
    ((∀ items, ¬ f.Shows v items) ∧ r.2 = false ∧ Untouched s r.1) ∨
    (∃ items, f.Shows v items ∧ f.Raises v items s.book ∧ r.2 = true ∧ Untouched s r.1) ∨
    (∃ items, f.Shows v items ∧ ¬ f.Raises v items s.book ∧ r.2 = false ∧
      Seen entryId domain v f items s r.1) := by
  intro r
  have hr : r = f.sync entryId domain v s := rfl
  unfold sync at hr
  by_cases ha : v.endpointAvailable f.endpoint = false
  · rw [if_pos ha] at hr
    refine .inl ⟨fun items h => ?_, by rw [hr], by rw [hr]; exact ⟨rfl, rfl⟩⟩
    rw [h.1] at ha
    cases ha
  rw [if_neg ha] at hr
  rcases hi : f.itemsOf v with _ | items
  · rw [hi] at hr
    refine .inl ⟨fun items h => ?_, by rw [hr], by rw [hr]; exact ⟨rfl, rfl⟩⟩
    rw [h.2.1] at hi
    cases hi
  rw [hi] at hr
  obtain ⟨known, new, hnew⟩ := f.addNew_eq items s
  dsimp only at hr
  rw [hnew] at hr
  by_cases hs : f.removeStale = false
  · rw [if_pos hs] at hr
    refine .inl ⟨fun items h => ?_, by rw [hr], by rw [hr]; exact ⟨rfl, rfl⟩⟩
    rw [h.2.2] at hs
    cases hs
  rw [if_neg hs, countEmpty_known] at hr
  have hshow : f.Shows v items := ⟨by simpa using ha, hi, by simpa using hs⟩
  rcases hc : (f.countEmpty v items s.book).2 with _ | removeAll
  · have hraise := countEmpty_none_iff.mp hc
    rw [hc, countEmpty_of_raises hraise] at hr
    exact .inr (.inl ⟨items, hshow, hraise, by rw [hr], by rw [hr]; exact ⟨rfl, rfl⟩⟩)
  · rw [hc] at hr
    refine .inr (.inr ⟨items, hshow, fun hraise => ?_, by rw [hr], ?_⟩)
    · rw [countEmpty_none_iff.mpr hraise] at hc
      cases hc
    · rw [hr]
      exact seen_removeGone hc known new

end DynamicFamily

end SophosFw.DynamicSync
