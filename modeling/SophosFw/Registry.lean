import Mathlib.Data.List.Basic
import Mathlib.Data.List.Nodup
import Mathlib.Data.List.Dedup
import Mathlib.Tactic.Common

/-!
The entity registry of Home Assistant, as far as an integration reads it and takes entries out
of it. An entry that is gone has lost what the user made of it, so what a removal can touch is
said exactly.
-/

namespace SophosFw.Registry

/-- `s.startswith(p)`. -/
def startsWith (s p : String) : Bool := decide (p.toList <+: s.toList)

lemma startsWith_append (p s : String) : startsWith (p ++ s) p = true := by
  unfold startsWith
  simp

/-- `s[n:]`. -/
def sliceFrom (s : String) (n : ℕ) : String := String.ofList (s.toList.drop n)

structure RegEntry where
  entityId : String
  configEntryId : String
  domain : String
  platform : String
  uniqueId : String
  deriving DecidableEq, Repr

/-- What the registry keeps entries apart by. -/
def RegEntry.slot (e : RegEntry) : String × String × String := (e.domain, e.platform, e.uniqueId)

/-- Entity ids are unique. -/
@[ext] structure EntityRegistry where
  entries : List RegEntry
  nodup : (entries.map RegEntry.entityId).Nodup

/-- The domain of the integration. -/
def integration : String := "sophos_firewall"

/-- `build_unique_id`. -/
def buildUniqueId (entryId uniqueSuffix : String) : String := entryId ++ "_" ++ uniqueSuffix

namespace EntityRegistry

/-- A registry with one entry. -/
def singleton (e : RegEntry) : EntityRegistry := ⟨[e], List.nodup_singleton _⟩

/-- `async_remove` for each of the ids. -/
def remove (r : EntityRegistry) (ids : List String) : EntityRegistry where
  entries := r.entries.filter fun e => e.entityId ∉ ids
  nodup := r.nodup.sublist (List.filter_sublist.map RegEntry.entityId)

/-- `async_update_entity(entity_id, new_unique_id=...)`. -/
def rename (r : EntityRegistry) (entityId newUid : String) : EntityRegistry where
  entries := r.entries.map fun e =>
    if e.entityId = entityId then { e with uniqueId := newUid } else e
  nodup := by
    have hids : (r.entries.map fun e =>
        if e.entityId = entityId then { e with uniqueId := newUid } else e).map RegEntry.entityId =
        r.entries.map RegEntry.entityId := by
      rw [List.map_map]
      refine List.map_congr_left fun e _ => ?_
      dsimp only [Function.comp]
      split <;> rfl
    rw [hids]
    exact r.nodup

/-- `async_get_entity_id`. -/
def getEntityId (r : EntityRegistry) (domain platform uniqueId : String) : Option String :=
  (r.entries.find? fun e =>
    decide (e.domain = domain ∧ e.platform = platform ∧ e.uniqueId = uniqueId)).map
    RegEntry.entityId

/-- The entry of a slot belongs to another config entry from now on. -/
def adopt (r : EntityRegistry) (configEntryId : String) (slot : String × String × String) :
    EntityRegistry where
  entries := r.entries.map fun e =>
    if e.slot = slot then { e with configEntryId := configEntryId } else e
  nodup := by
    have hids : (r.entries.map fun e =>
        if e.slot = slot then { e with configEntryId := configEntryId } else e).map
        RegEntry.entityId = r.entries.map RegEntry.entityId := by
      rw [List.map_map]
      refine List.map_congr_left fun e _ => ?_
      dsimp only [Function.comp]
      split <;> rfl
    rw [hids]
    exact r.nodup

/-- `async_get_or_create`, with the entity id that is generated if there is no entry. -/
def getOrCreate (r : EntityRegistry) (configEntryId domain platform uniqueId newId : String) :
    EntityRegistry :=
  if (r.getEntityId domain platform uniqueId).isSome then
    r.adopt configEntryId (domain, platform, uniqueId)
  else if h : newId ∈ r.entries.map RegEntry.entityId then r
  else
    { entries := r.entries ++ [⟨newId, configEntryId, domain, platform, uniqueId⟩]
      nodup := by
        rw [List.map_append]
        exact r.nodup.append (List.nodup_singleton _)
          (List.disjoint_singleton.mpr h) }

variable {r : EntityRegistry}

lemma eq_of_entityId {e e' : RegEntry} (he : e ∈ r.entries) (he' : e' ∈ r.entries)
    (h : e.entityId = e'.entityId) : e = e' :=
  List.inj_on_of_nodup_map r.nodup he he' h

lemma mem_remove_filter {p : RegEntry → Bool} {e : RegEntry} :
    e ∈ (r.remove ((r.entries.filter p).map RegEntry.entityId)).entries ↔
      e ∈ r.entries ∧ p e = false := by
  unfold remove
  rw [List.mem_filter]
  refine and_congr_right fun he => ?_
  simp only [List.mem_map, List.mem_filter, decide_not, Bool.not_eq_true',
    decide_eq_false_iff_not, not_exists, not_and]
  constructor
  · intro h
    by_contra hp
    exact h e ⟨he, by simpa using hp⟩ rfl
  · rintro hp e' ⟨he', hp'⟩ hid
    rw [eq_of_entityId he' he hid, hp] at hp'
    cases hp'

lemma mem_remove {ids : List String} {e : RegEntry} :
    e ∈ (r.remove ids).entries ↔ e ∈ r.entries ∧ e.entityId ∉ ids := by
  unfold remove
  simp

lemma mem_rename {entityId newUid : String} {x : RegEntry} :
    x ∈ (r.rename entityId newUid).entries ↔
      (x ∈ r.entries ∧ x.entityId ≠ entityId) ∨
      ∃ e ∈ r.entries, e.entityId = entityId ∧ x = { e with uniqueId := newUid } := by
  unfold rename
  rw [List.mem_map]
  constructor
  · rintro ⟨e, he, rfl⟩
    by_cases hid : e.entityId = entityId
    · rw [if_pos hid]
      exact .inr ⟨e, he, hid, rfl⟩
    · rw [if_neg hid]
      exact .inl ⟨he, hid⟩
  · rintro (⟨he, hid⟩ | ⟨e, he, hid, rfl⟩)
    · exact ⟨x, he, if_neg hid⟩
    · exact ⟨e, he, if_pos hid⟩

/-! ### Who has which unique id -/

/-- No two entries have the same domain, platform and unique id. -/
def SlotsDistinct (r : EntityRegistry) : Prop :=
  ∀ e ∈ r.entries, ∀ e' ∈ r.entries, e.slot = e'.slot → e = e'

lemma getEntityId_isSome {domain platform uniqueId : String} :
    (r.getEntityId domain platform uniqueId).isSome = true ↔
      ∃ e ∈ r.entries, e.slot = (domain, platform, uniqueId) := by
  unfold getEntityId RegEntry.slot
  simp

lemma SlotsDistinct.remove (h : r.SlotsDistinct) (ids : List String) :
    (r.remove ids).SlotsDistinct := fun e he e' he' hs =>
  h e (mem_remove.mp he).1 e' (mem_remove.mp he').1 hs

/-- An entry may take a unique id that nobody has. -/
lemma SlotsDistinct.rename (h : r.SlotsDistinct) {e : RegEntry} (he : e ∈ r.entries)
    {newUid : String} (hfree : ∀ x ∈ r.entries, x.slot ≠ { e with uniqueId := newUid }.slot) :
    (r.rename e.entityId newUid).SlotsDistinct := by
  have hone : ∀ x ∈ (r.rename e.entityId newUid).entries,
      (x ∈ r.entries ∧ x.entityId ≠ e.entityId) ∨ x = { e with uniqueId := newUid } := by
    intro x hx
    rcases mem_rename.mp hx with hx | ⟨e', he', hid, rfl⟩
    · exact .inl hx
    · obtain rfl := eq_of_entityId he' he hid
      exact .inr rfl
  intro x hx y hy hs
  rcases hone x hx with ⟨hx, -⟩ | rfl <;> rcases hone y hy with ⟨hy, -⟩ | rfl
  · exact h x hx y hy hs
  · exact absurd hs (hfree x hx)
  · exact absurd hs.symm (hfree y hy)
  · rfl

lemma mem_getOrCreate {configEntryId domain platform uniqueId newId : String}
    (hnew : newId ∉ r.entries.map RegEntry.entityId) {x : RegEntry} :
    x ∈ (r.getOrCreate configEntryId domain platform uniqueId newId).entries ↔
      (x ∈ r.entries ∧ x.slot ≠ (domain, platform, uniqueId)) ∨
      (∃ e ∈ r.entries, e.slot = (domain, platform, uniqueId) ∧
        x = { e with configEntryId := configEntryId }) ∨
      ((∀ e ∈ r.entries, e.slot ≠ (domain, platform, uniqueId)) ∧
        x = ⟨newId, configEntryId, domain, platform, uniqueId⟩) := by
  unfold getOrCreate
  by_cases hs : (r.getEntityId domain platform uniqueId).isSome = true
  · obtain ⟨e₀, he₀, hslot₀⟩ := getEntityId_isSome.mp hs
    rw [if_pos hs]
    unfold adopt
    rw [List.mem_map]
    constructor
    · rintro ⟨e, he, rfl⟩
      by_cases hslot : e.slot = (domain, platform, uniqueId)
      · rw [if_pos hslot]
        exact .inr (.inl ⟨e, he, hslot, rfl⟩)
      · rw [if_neg hslot]
        exact .inl ⟨he, hslot⟩
    · rintro (⟨he, hslot⟩ | ⟨e, he, hslot, rfl⟩ | ⟨hno, -⟩)
      · exact ⟨x, he, if_neg hslot⟩
      · exact ⟨e, he, if_pos hslot⟩
      · exact absurd hslot₀ (hno e₀ he₀)
  · have hno : ∀ e ∈ r.entries, e.slot ≠ (domain, platform, uniqueId) := fun e he hslot =>
      hs (getEntityId_isSome.mpr ⟨e, he, hslot⟩)
    rw [if_neg hs, dif_neg hnew, List.mem_append, List.mem_singleton]
    constructor
    · rintro (he | rfl)
      · exact .inl ⟨he, hno x he⟩
      · exact .inr (.inr ⟨hno, rfl⟩)
    · rintro (⟨he, -⟩ | ⟨e, he, hslot, -⟩ | ⟨-, rfl⟩)
      · exact .inl he
      · exact absurd hslot (hno e he)
      · exact .inr rfl

lemma SlotsDistinct.getOrCreate (h : r.SlotsDistinct)
    {configEntryId domain platform uniqueId newId : String}
    (hnew : newId ∉ r.entries.map RegEntry.entityId) :
    (r.getOrCreate configEntryId domain platform uniqueId newId).SlotsDistinct := by
  intro x hx y hy hs
  rcases (mem_getOrCreate hnew).mp hx with ⟨hx, hxs⟩ | ⟨e, he, hes, rfl⟩ | ⟨hno, rfl⟩ <;>
    rcases (mem_getOrCreate hnew).mp hy with ⟨hy, hys⟩ | ⟨e', he', hes', rfl⟩ | ⟨hno', rfl⟩
  · exact h x hx y hy hs
  · exact absurd (hs.trans hes') hxs
  · exact absurd hs hxs
  · exact absurd (hs.symm.trans hes) hys
  · rw [h e he e' he' (hes.trans hes'.symm)]
  · exact absurd hes (hno' e he)
  · exact absurd hs.symm hys
  · exact absurd hes' (hno e' he')
  · rfl

end EntityRegistry

section Families

variable (entryId domain suffixPrefix : String)

/-- An entry of this config entry and domain in the family with the prefix. -/
def inFamily (e : RegEntry) : Bool :=
  decide (e.configEntryId = entryId ∧ e.domain = domain) &&
    startsWith e.uniqueId (buildUniqueId entryId "" ++ suffixPrefix)

/-- `unique_id[len(base):]`. -/
def suffixOf (e : RegEntry) : String :=
  sliceFrom e.uniqueId (buildUniqueId entryId "").toList.length

/-- The entries `async_remove_stale_entities` takes out. -/
def isStale (current : List String) (removeAll : Bool) (e : RegEntry) : Bool :=
  inFamily entryId domain suffixPrefix e && (removeAll || decide (suffixOf entryId e ∉ current))

/-- `async_remove_stale_entities`, with the suffixes it removed. -/
def asyncRemoveStaleEntities (r : EntityRegistry) (current : List String) (removeAll : Bool) :
    EntityRegistry × List String :=
  if current = [] ∧ removeAll = false then (r, [])
  else
    let stale := r.entries.filter (isStale entryId domain suffixPrefix current removeAll)
    (r.remove (stale.map RegEntry.entityId), stale.map (suffixOf entryId))

/-- `async_remove_entities`. -/
def asyncRemoveEntities (r : EntityRegistry) (suffixes : List String) : EntityRegistry :=
  suffixes.foldl (fun r suffix =>
    match r.getEntityId domain integration (buildUniqueId entryId suffix) with
    | none => r
    | some entityId => r.remove [entityId]) r

/-- `_registered_suffixes`. -/
def registeredSuffixes (r : EntityRegistry) : List String :=
  ((r.entries.filter (inFamily entryId domain suffixPrefix)).map (suffixOf entryId)).dedup

variable {entryId domain suffixPrefix} {r : EntityRegistry} {e : RegEntry}

lemma mem_asyncRemoveStaleEntities {current : List String} {removeAll : Bool} :
    e ∈ (asyncRemoveStaleEntities entryId domain suffixPrefix r current removeAll).1.entries ↔
      e ∈ r.entries ∧ ¬ ((current ≠ [] ∨ removeAll = true) ∧
        isStale entryId domain suffixPrefix current removeAll e = true) := by
  unfold asyncRemoveStaleEntities
  split
  · next h => simp [h]
  · next h =>
    have hguard : current ≠ [] ∨ removeAll = true := by
      by_contra hno
      push Not at hno
      exact h ⟨hno.1, by simpa using hno.2⟩
    rw [EntityRegistry.mem_remove_filter, and_congr_right_iff]
    intro _
    simp [hguard]

lemma mem_removed {current : List String} {removeAll : Bool} {x : String} :
    x ∈ (asyncRemoveStaleEntities entryId domain suffixPrefix r current removeAll).2 ↔
      ∃ e ∈ r.entries,
        e ∉ (asyncRemoveStaleEntities entryId domain suffixPrefix r current removeAll).1.entries ∧
          suffixOf entryId e = x := by
  have hgone : ∀ e ∈ r.entries,
      e ∉ (asyncRemoveStaleEntities entryId domain suffixPrefix r current removeAll).1.entries ↔
        (current ≠ [] ∨ removeAll = true) ∧
          isStale entryId domain suffixPrefix current removeAll e = true := fun e he => by
    rw [mem_asyncRemoveStaleEntities, and_iff_right he, not_not]
  constructor
  · intro hx
    by_cases h : current = [] ∧ removeAll = false
    · unfold asyncRemoveStaleEntities at hx
      rw [if_pos h] at hx
      cases hx
    · have hguard : current ≠ [] ∨ removeAll = true := by
        by_contra hno
        push Not at hno
        exact h ⟨hno.1, by simpa using hno.2⟩
      unfold asyncRemoveStaleEntities at hx
      rw [if_neg h] at hx
      obtain ⟨e, he, rfl⟩ := List.mem_map.mp hx
      obtain ⟨he, hstale⟩ := List.mem_filter.mp he
      exact ⟨e, he, (hgone e he).mpr ⟨hguard, hstale⟩, rfl⟩
  · rintro ⟨e, he, hout, rfl⟩
    obtain ⟨hguard, hstale⟩ := (hgone e he).mp hout
    unfold asyncRemoveStaleEntities
    rw [if_neg fun h => hguard.elim (fun hc => hc h.1) fun hr => by rw [h.2] at hr; cases hr]
    exact List.mem_map_of_mem (List.mem_filter.mpr ⟨he, hstale⟩)

lemma asyncRemoveStaleEntities_of_kept {current : List String} {removeAll : Bool}
    (h : ∀ e ∈ r.entries,
      e ∈ (asyncRemoveStaleEntities entryId domain suffixPrefix r current removeAll).1.entries) :
    asyncRemoveStaleEntities entryId domain suffixPrefix r current removeAll = (r, []) := by
  have hgone :
      (asyncRemoveStaleEntities entryId domain suffixPrefix r current removeAll).2 = [] := by
    refine List.eq_nil_iff_forall_not_mem.mpr fun x hx => ?_
    obtain ⟨e, he, hout, -⟩ := mem_removed.mp hx
    exact hout (h e he)
  refine Prod.ext (EntityRegistry.ext ?_) hgone
  unfold asyncRemoveStaleEntities at h ⊢
  split
  · rfl
  · next hc =>
    rw [if_neg hc] at h
    exact List.filter_eq_self.mpr fun e he => (List.mem_filter.mp (h e he)).2

lemma buildUniqueId_injective {x y : String}
    (h : buildUniqueId entryId x = buildUniqueId entryId y) : x = y := by
  unfold buildUniqueId at h
  exact (String.append_right_inj _).mp h

lemma suffixOf_eq {x : String} (h : e.uniqueId = buildUniqueId entryId x) :
    suffixOf entryId e = x := by
  unfold suffixOf sliceFrom
  rw [h]
  apply String.toList_inj.mp
  simp [buildUniqueId]

lemma inFamily_iff : inFamily entryId domain suffixPrefix e = true ↔
    e.configEntryId = entryId ∧ e.domain = domain ∧
      ∃ x, e.uniqueId = buildUniqueId entryId x ∧ startsWith x suffixPrefix = true := by
  unfold inFamily startsWith
  rw [Bool.and_eq_true, decide_eq_true_eq, decide_eq_true_eq, and_assoc]
  refine and_congr_right fun _ => and_congr_right fun _ => ⟨?_, ?_⟩
  · rintro ⟨t, ht⟩
    refine ⟨suffixPrefix ++ String.ofList t, ?_, by simp⟩
    apply String.toList_inj.mp
    rw [← ht]
    simp [buildUniqueId]
  · rintro ⟨x, hx, hp⟩
    obtain ⟨t, ht⟩ := of_decide_eq_true hp
    refine ⟨t, ?_⟩
    rw [hx, ← String.toList_inj.mp (String.toList_ofList.trans ht)]
    simp [buildUniqueId]

lemma startsWith_suffixOf (h : inFamily entryId domain suffixPrefix e = true) :
    startsWith (suffixOf entryId e) suffixPrefix = true := by
  obtain ⟨-, -, x, hx, hp⟩ := inFamily_iff.mp h
  rwa [suffixOf_eq hx]

lemma mem_registeredSuffixes {x : String} :
    x ∈ registeredSuffixes entryId domain suffixPrefix r ↔
      ∃ e ∈ r.entries, inFamily entryId domain suffixPrefix e = true ∧ suffixOf entryId e = x := by
  unfold registeredSuffixes
  simp [and_assoc]

lemma nodup_registeredSuffixes : (registeredSuffixes entryId domain suffixPrefix r).Nodup :=
  List.nodup_dedup _

lemma startsWith_of_mem_registeredSuffixes {x : String}
    (h : x ∈ registeredSuffixes entryId domain suffixPrefix r) :
    startsWith x suffixPrefix = true := by
  obtain ⟨e, -, he, rfl⟩ := mem_registeredSuffixes.mp h
  exact startsWith_suffixOf he

lemma mem_of_mem_asyncRemoveEntities {suffixes : List String}
    (h : e ∈ (asyncRemoveEntities entryId domain r suffixes).entries) : e ∈ r.entries := by
  induction suffixes generalizing r with
  | nil => exact h
  | cons suffix suffixes ih =>
    unfold asyncRemoveEntities at h
    rw [List.foldl_cons, ← asyncRemoveEntities] at h
    have hmem := ih h
    split at hmem
    · exact hmem
    · exact (List.mem_filter.mp hmem).1

lemma of_not_mem_asyncRemoveEntities {suffixes : List String} (he : e ∈ r.entries)
    (h : e ∉ (asyncRemoveEntities entryId domain r suffixes).entries) :
    e.domain = domain ∧ e.platform = integration ∧
      ∃ suffix ∈ suffixes, e.uniqueId = buildUniqueId entryId suffix := by
  induction suffixes generalizing r with
  | nil => exact absurd he h
  | cons suffix suffixes ih =>
    unfold asyncRemoveEntities at h
    rw [List.foldl_cons, ← asyncRemoveEntities] at h
    rcases hid : r.getEntityId domain integration (buildUniqueId entryId suffix) with _ | entityId
    · rw [hid] at h
      obtain ⟨hd, hp, s, hs, hu⟩ := ih he h
      exact ⟨hd, hp, s, List.mem_cons_of_mem _ hs, hu⟩
    · rw [hid] at h
      by_cases heq : e.entityId = entityId
      · obtain ⟨e', hfind, hid'⟩ := Option.map_eq_some_iff.mp hid
        have hmem := List.mem_of_find?_eq_some hfind
        obtain rfl := EntityRegistry.eq_of_entityId he hmem (heq.trans hid'.symm)
        have hfits := List.find?_some hfind
        simp only [decide_eq_true_eq] at hfits
        obtain ⟨hd, hp, hu⟩ := hfits
        exact ⟨hd, hp, suffix, List.mem_cons_self, hu⟩
      · have he' : e ∈ (r.remove [entityId]).entries := by
          unfold EntityRegistry.remove
          simpa [heq] using he
        obtain ⟨hd, hp, s, hs, hu⟩ := ih he' h
        exact ⟨hd, hp, s, List.mem_cons_of_mem _ hs, hu⟩

end Families

end SophosFw.Registry
