import SophosFw.Coordinator
import SophosFw.PyText
import SophosFw.Registry

/-!
The unique ids of entities, from the address of the firewall to the config entry.

The migration sorts the entities of a config entry first and renames them after that, those of
the current address before those of an earlier one. A name that is taken by then costs the
entity its place in the registry, so it is said exactly who can lose it.
-/

namespace SophosFw.Migration

open SophosFw.PyDict SophosFw.PyText SophosFw.Registry
open SophosFw.Coordinator (OptionValue)

/-- A config entry of the integration, as Home Assistant stores it. -/
structure ConfigEntry where
  entryId : String
  version : ℕ
  minorVersion : ℕ
  uniqueId : Option String
  data : Dict String OptionValue
  options : Dict String OptionValue
  /-- The config flow stores no entry without a host. -/
  host_isSome : (data.get "host").isSome = true

/-- `f"{value}"`. -/
def formatValue : OptionValue → String
  | .bool true => "True"
  | .bool false => "False"
  | .int n => toString n
  | .text s => s

def defaultPort : ℤ := 4444

namespace ConfigEntry

variable (entry : ConfigEntry)

def host : String := formatValue ((entry.data.get "host").get entry.host_isSome)

def port : String := formatValue ((entry.data.get "port").getD (.int defaultPort))

/-- What the unique ids of the current address begin with. -/
def current : String := entry.host ++ "_" ++ entry.port ++ "_"

def newPrefix : String := entry.entryId ++ "_"

end ConfigEntry

/-- The suffix `_V1_UNIQUE_ID` finds: a host without `_`, a port, and the rest of the line. -/
def v1Suffix (uniqueId : String) : Option String :=
  let host := uniqueId.toList.takeWhile (· ≠ '_')
  match uniqueId.toList.dropWhile (· ≠ '_') with
  | [] => none
  | _ :: rest =>
    let port := rest.takeWhile isDecimal
    match rest.dropWhile isDecimal with
    | '_' :: rest =>
      let suffix := rest.takeWhile (· ≠ '\n')
      let tail := rest.dropWhile (· ≠ '\n')
      if host ≠ [] ∧ port ≠ [] ∧ suffix ≠ [] ∧ (tail = [] ∨ tail = ['\n']) then
        some (String.ofList suffix)
      else none
    | _ => none

inductive Kind
  | migrated
  | current (suffix : String)
  | orphaned (suffix : String)
  | unrecognised
  deriving DecidableEq, Repr

/-- How `_migrate_unique_ids` tells the unique ids of a config entry apart. -/
def classify (entry : ConfigEntry) (uniqueId : String) : Kind :=
  if startsWith uniqueId entry.newPrefix then .migrated
  else if startsWith uniqueId entry.current then
    .current (sliceFrom uniqueId entry.current.toList.length)
  else
    match v1Suffix uniqueId with
    | some suffix => .orphaned suffix
    | none => .unrecognised

/-- A registry entry that is to get another unique id. -/
structure Planned where
  isCurrent : Bool
  regEntry : RegEntry
  newUid : String

/-- The first loop, over one entry: remove what has no known form, plan the rest. -/
def sortOut (entry : ConfigEntry) (s : EntityRegistry × List Planned) (e : RegEntry) :
    EntityRegistry × List Planned :=
  match classify entry e.uniqueId with
  | .migrated => s
  | .current suffix => (s.1, s.2 ++ [⟨true, e, entry.newPrefix ++ suffix⟩])
  | .orphaned suffix => (s.1, s.2 ++ [⟨false, e, entry.newPrefix ++ suffix⟩])
  | .unrecognised => (s.1.remove [e.entityId], s.2)

/-- The second loop, over one entry: it gets its new id, or goes if somebody has that already. -/
def carryOut (r : EntityRegistry) (p : Planned) : EntityRegistry :=
  if (r.getEntityId p.regEntry.domain integration p.newUid).isSome then
    r.remove [p.regEntry.entityId]
  else r.rename p.regEntry.entityId p.newUid

/-- `sorted(plan, key=lambda item: not item[0])`. -/
def currentFirst (plan : List Planned) : List Planned :=
  (plan.filter fun p => p.isCurrent) ++ plan.filter fun p => !p.isCurrent

/-- `_migrate_unique_ids`. -/
def migrateUniqueIds (entry : ConfigEntry) (r : EntityRegistry) : EntityRegistry :=
  let s := (r.entries.filter fun e => e.configEntryId = entry.entryId).foldl (sortOut entry) (r, [])
  (currentFirst s.2).foldl carryOut s.1

section Plan

variable {entry : ConfigEntry} {e : RegEntry} {u : String}

/-- The unique id the migration has in mind for an entity. -/
def target (entry : ConfigEntry) (e : RegEntry) : Option String :=
  match classify entry e.uniqueId with
  | .current suffix | .orphaned suffix => some (entry.newPrefix ++ suffix)
  | .migrated | .unrecognised => none

def isCurrent (entry : ConfigEntry) (e : RegEntry) : Bool :=
  match classify entry e.uniqueId with
  | .current _ => true
  | _ => false

def planned (entry : ConfigEntry) (e : RegEntry) : Option Planned :=
  (target entry e).map fun u => ⟨isCurrent entry e, e, u⟩

lemma migrated_iff :
    classify entry e.uniqueId = .migrated ↔ startsWith e.uniqueId entry.newPrefix = true := by
  unfold classify
  constructor
  · intro h
    by_contra hno
    rw [if_neg hno] at h
    split at h
    · cases h
    · split at h <;> cases h
  · exact fun h => if_pos h

lemma target_spec (h : target entry e = some u) :
    startsWith u entry.newPrefix = true ∧ startsWith e.uniqueId entry.newPrefix = false := by
  have hno : startsWith e.uniqueId entry.newPrefix = false := by
    by_contra hyes
    rw [Bool.not_eq_false, ← migrated_iff] at hyes
    unfold target at h
    rw [hyes] at h
    cases h
  refine ⟨?_, hno⟩
  unfold target at h
  split at h <;> cases h <;> exact startsWith_append _ _

lemma target_none_iff : target entry e = none ↔
    startsWith e.uniqueId entry.newPrefix = true ∨ classify entry e.uniqueId = .unrecognised := by
  rw [← migrated_iff]
  unfold target
  rcases classify entry e.uniqueId with _ | suffix | suffix | _ <;> simp

lemma uniqueId_of_current (h : isCurrent entry e = true) :
    ∃ suffix, e.uniqueId = entry.current ++ suffix ∧
      target entry e = some (entry.newPrefix ++ suffix) := by
  unfold isCurrent at h
  rcases hc : classify entry e.uniqueId with _ | suffix | suffix | _ <;> rw [hc] at h <;> cases h
  refine ⟨suffix, ?_, by unfold target; rw [hc]⟩
  unfold classify at hc
  split at hc
  · cases hc
  · split at hc
    · next hs =>
      obtain rfl := Kind.current.inj hc
      unfold startsWith at hs
      obtain ⟨t, ht⟩ := of_decide_eq_true hs
      apply String.toList_inj.mp
      unfold sliceFrom
      rw [← ht]
      simp
    · split at hc <;> cases hc

lemma isCurrent_of_uniqueId {suffix : String}
    (hold : startsWith e.uniqueId entry.newPrefix = false)
    (h : e.uniqueId = entry.current ++ suffix) : isCurrent entry e = true := by
  unfold isCurrent classify
  have hs : startsWith e.uniqueId entry.current = true := by rw [h]; exact startsWith_append _ _
  rw [if_neg (by rw [hold]; exact Bool.false_ne_true), if_pos hs]

lemma planned_eq_some {p : Planned} (h : planned entry e = some p) :
    p.regEntry = e ∧ target entry e = some p.newUid ∧ p.isCurrent = isCurrent entry e := by
  obtain ⟨u, hu, rfl⟩ := Option.map_eq_some_iff.mp h
  exact ⟨rfl, hu, rfl⟩

lemma foldl_sortOut (l : List RegEntry) (s : EntityRegistry × List Planned) :
    (∀ e, e ∈ (l.foldl (sortOut entry) s).1.entries ↔ e ∈ s.1.entries ∧
      ∀ e' ∈ l, classify entry e'.uniqueId = .unrecognised → e'.entityId ≠ e.entityId) ∧
    (l.foldl (sortOut entry) s).2 = s.2 ++ l.filterMap (planned entry) := by
  induction l generalizing s with
  | nil => simp
  | cons e' l ih =>
    obtain ⟨hmem, hplan⟩ := ih (sortOut entry s e')
    rw [List.foldl_cons]
    refine ⟨fun e => ?_, ?_⟩
    · rw [hmem, List.forall_mem_cons, ← and_assoc]
      refine and_congr_left fun _ => ?_
      unfold sortOut
      rcases classify entry e'.uniqueId with _ | suffix | suffix | _
      · simp
      · simp
      · simp
      · simpa [EntityRegistry.mem_remove] using fun _ => ne_comm
    · rw [hplan, List.filterMap_cons]
      unfold sortOut planned target isCurrent
      rcases classify entry e'.uniqueId with _ | suffix | suffix | _ <;> simp

end Plan

/-- What a planned entity is to have. -/
def Planned.slot (p : Planned) : String × String × String :=
  (p.regEntry.domain, integration, p.newUid)

/-- A planned entity once it has its new id. -/
def Planned.renamed (p : Planned) : RegEntry := { p.regEntry with uniqueId := p.newUid }

/-- It is an entity of the integration, on the way from an old id to one of the new form. -/
structure Planned.Proper (newPrefix : String) (r : EntityRegistry) (p : Planned) : Prop where
  mem : p.regEntry ∈ r.entries
  platform : p.regEntry.platform = integration
  target : startsWith p.newUid newPrefix = true
  source : startsWith p.regEntry.uniqueId newPrefix = false

namespace Planned.Proper

variable {newPrefix : String} {r : EntityRegistry} {p q : Planned}

lemma slot_renamed (h : p.Proper newPrefix r) : p.renamed.slot = p.slot := by
  unfold renamed RegEntry.slot Planned.slot
  rw [h.platform]

lemma slot_ne (hp : p.Proper newPrefix r) (hq : q.Proper newPrefix r) :
    p.regEntry.slot ≠ q.slot := by
  intro hs
  have huid : p.regEntry.uniqueId = q.newUid := congrArg (fun t => t.2.2) hs
  have hsource := hp.source
  rw [huid, hq.target] at hsource
  cases hsource

end Planned.Proper

/-- The second loop under way: who is where, and that what was dealt with is taken. -/
structure Carried (r₁ : EntityRegistry) (done : List Planned) (r : EntityRegistry) : Prop where
  distinct : r.SlotsDistinct
  origin : ∀ x ∈ r.entries, (x ∈ r₁.entries ∧ ∀ p ∈ done, p.regEntry ≠ x) ∨
    ∃ p ∈ done, x = p.renamed
  stays : ∀ e ∈ r₁.entries, (∀ p ∈ done, p.regEntry ≠ e) → e ∈ r.entries
  taken : ∀ p ∈ done, ∃ x ∈ r.entries, x.slot = p.slot

namespace Carried

variable {newPrefix : String} {r₁ r : EntityRegistry} {done rest : List Planned} {p : Planned}

lemma start (h : r₁.SlotsDistinct) : Carried r₁ [] r₁ :=
  ⟨h, fun _ hx => .inl ⟨hx, nofun⟩, fun _ he _ => he, nofun⟩

lemma mem_of_new (h : Carried r₁ done r) (hp : p.Proper newPrefix r₁)
    (hnew : ∀ q ∈ done, q.regEntry ≠ p.regEntry) : p.regEntry ∈ r.entries :=
  h.stays _ hp.mem hnew

lemma eq_of_entityId (h : Carried r₁ done r) (hp : p.Proper newPrefix r₁)
    (hnew : ∀ q ∈ done, q.regEntry ≠ p.regEntry) {x : RegEntry} (hx : x ∈ r.entries)
    (hid : x.entityId = p.regEntry.entityId) : x = p.regEntry :=
  EntityRegistry.eq_of_entityId hx (h.mem_of_new hp hnew) hid

lemma dropped (h : Carried r₁ done r) (hdone : ∀ q ∈ done, q.Proper newPrefix r₁)
    (hp : p.Proper newPrefix r₁) (hnew : ∀ q ∈ done, q.regEntry ≠ p.regEntry)
    (htaken : ∃ x ∈ r.entries, x.slot = p.slot) :
    Carried r₁ (done ++ [p]) (r.remove [p.regEntry.entityId]) := by
  have hkept : ∀ q : Planned, q.Proper newPrefix r₁ → (∃ x ∈ r.entries, x.slot = q.slot) →
      ∃ x ∈ (r.remove [p.regEntry.entityId]).entries, x.slot = q.slot := by
    rintro q hq ⟨x, hx, hs⟩
    refine ⟨x, EntityRegistry.mem_remove.mpr ⟨hx, fun hid => ?_⟩, hs⟩
    rw [h.eq_of_entityId hp hnew hx (List.mem_singleton.mp hid)] at hs
    exact hp.slot_ne hq hs
  refine ⟨h.distinct.remove _, fun x hx => ?_, fun e he hno => ?_, fun q hq => ?_⟩
  · obtain ⟨hx, hid⟩ := EntityRegistry.mem_remove.mp hx
    rw [List.mem_singleton] at hid
    rcases h.origin x hx with ⟨hx₁, hno⟩ | ⟨q, hq, rfl⟩
    · refine .inl ⟨hx₁, fun q hq => ?_⟩
      rcases List.mem_append.mp hq with hq | hq
      · exact hno q hq
      · rw [List.mem_singleton.mp hq]
        rintro rfl
        exact hid rfl
    · exact .inr ⟨q, List.mem_append_left _ hq, rfl⟩
  · refine EntityRegistry.mem_remove.mpr
      ⟨h.stays e he fun q hq => hno q (List.mem_append_left _ hq), fun hid => ?_⟩
    exact hno p (List.mem_append_right _ (List.mem_singleton_self p))
      (EntityRegistry.eq_of_entityId hp.mem he (List.mem_singleton.mp hid).symm)
  · rcases List.mem_append.mp hq with hq | hq
    · exact hkept q (hdone q hq) (h.taken q hq)
    · rw [List.mem_singleton.mp hq]
      exact hkept p hp htaken

lemma renamed (h : Carried r₁ done r) (hdone : ∀ q ∈ done, q.Proper newPrefix r₁)
    (hp : p.Proper newPrefix r₁) (hnew : ∀ q ∈ done, q.regEntry ≠ p.regEntry)
    (hfree : ∀ x ∈ r.entries, x.slot ≠ p.slot) :
    Carried r₁ (done ++ [p]) (r.rename p.regEntry.entityId p.newUid) ∧
      p.renamed ∈ (r.rename p.regEntry.entityId p.newUid).entries := by
  have hmem := h.mem_of_new hp hnew
  have hin : p.renamed ∈ (r.rename p.regEntry.entityId p.newUid).entries :=
    EntityRegistry.mem_rename.mpr (.inr ⟨_, hmem, rfl, rfl⟩)
  refine ⟨⟨h.distinct.rename hmem ?_, fun x hx => ?_, fun e he hno => ?_, fun q hq => ?_⟩, hin⟩
  · exact fun x hx hs => hfree x hx (hs.trans hp.slot_renamed)
  · rcases EntityRegistry.mem_rename.mp hx with ⟨hx, hid⟩ | ⟨e, he, hid, rfl⟩
    · rcases h.origin x hx with ⟨hx₁, hno⟩ | ⟨q, hq, rfl⟩
      · refine .inl ⟨hx₁, fun q hq => ?_⟩
        rcases List.mem_append.mp hq with hq | hq
        · exact hno q hq
        · rw [List.mem_singleton.mp hq]
          rintro rfl
          exact hid rfl
      · exact .inr ⟨q, List.mem_append_left _ hq, rfl⟩
    · rw [h.eq_of_entityId hp hnew he hid]
      exact .inr ⟨p, List.mem_append_right _ (List.mem_singleton_self p), rfl⟩
  · refine EntityRegistry.mem_rename.mpr (.inl
      ⟨h.stays e he fun q hq => hno q (List.mem_append_left _ hq), fun hid => ?_⟩)
    exact hno p (List.mem_append_right _ (List.mem_singleton_self p))
      (EntityRegistry.eq_of_entityId hp.mem he hid.symm)
  · rcases List.mem_append.mp hq with hq | hq
    · obtain ⟨x, hx, hs⟩ := h.taken q hq
      refine ⟨x, EntityRegistry.mem_rename.mpr (.inl ⟨hx, fun hid => ?_⟩), hs⟩
      rw [h.eq_of_entityId hp hnew hx hid] at hs
      exact hp.slot_ne (hdone q hq) hs
    · rw [List.mem_singleton.mp hq]
      exact ⟨_, hin, hp.slot_renamed⟩

lemma step (h : Carried r₁ done r) (hdone : ∀ q ∈ done, q.Proper newPrefix r₁)
    (hp : p.Proper newPrefix r₁) (hnew : ∀ q ∈ done, q.regEntry ≠ p.regEntry) :
    Carried r₁ (done ++ [p]) (carryOut r p) := by
  unfold carryOut
  split
  · next hs => exact h.dropped hdone hp hnew (EntityRegistry.getEntityId_isSome.mp hs)
  · next hs =>
    refine (h.renamed hdone hp hnew fun x hx hslot => hs ?_).1
    exact EntityRegistry.getEntityId_isSome.mpr ⟨x, hx, hslot⟩

lemma foldl (h : Carried r₁ done r) (hproper : ∀ q ∈ done ++ rest, q.Proper newPrefix r₁)
    (hn : ((done ++ rest).map Planned.regEntry).Nodup) :
    Carried r₁ (done ++ rest) (rest.foldl carryOut r) := by
  induction rest generalizing done r with
  | nil => simpa using h
  | cons p rest ih =>
    rw [List.append_cons] at hproper hn ⊢
    have hp := hproper p (by simp)
    have hnew : ∀ q ∈ done, q.regEntry ≠ p.regEntry := by
      rw [List.map_append, List.map_append, List.nodup_append, List.nodup_append] at hn
      exact fun q hq => hn.1.2.2 _ (List.mem_map_of_mem hq) _ (by simp)
    exact ih (h.step (fun q hq => hproper q (by simp [hq])) hp hnew) hproper hn

lemma mem_foldl {x : RegEntry} (hx : x ∈ r.entries)
    (hno : ∀ q ∈ rest, q.regEntry.entityId ≠ x.entityId) :
    x ∈ (rest.foldl carryOut r).entries := by
  induction rest generalizing r with
  | nil => exact hx
  | cons q rest ih =>
    refine ih ?_ fun q' hq' => hno q' (List.mem_cons_of_mem _ hq')
    have hid := hno q List.mem_cons_self
    unfold carryOut
    split
    · exact EntityRegistry.mem_remove.mpr ⟨hx, fun h => hid (List.mem_singleton.mp h).symm⟩
    · exact EntityRegistry.mem_rename.mpr (.inl ⟨hx, hid.symm⟩)

lemma entityId_of_mem_foldl {x : RegEntry} (hx : x ∈ (rest.foldl carryOut r).entries) :
    ∃ y ∈ r.entries, y.entityId = x.entityId := by
  induction rest generalizing r with
  | nil => exact ⟨x, hx, rfl⟩
  | cons q rest ih =>
    obtain ⟨y, hy, hid⟩ := ih hx
    unfold carryOut at hy
    split at hy
    · exact ⟨y, (EntityRegistry.mem_remove.mp hy).1, hid⟩
    · rcases EntityRegistry.mem_rename.mp hy with ⟨hy, -⟩ | ⟨e, he, -, rfl⟩
      · exact ⟨y, hy, hid⟩
      · exact ⟨e, he, hid⟩

end Carried

/-! ### The whole migration -/

section Whole

variable {entry : ConfigEntry} {r : EntityRegistry}

/-- The entities of the config entry, in the order of the registry. -/
def entriesOf (entry : ConfigEntry) (r : EntityRegistry) : List RegEntry :=
  r.entries.filter fun e => e.configEntryId = entry.entryId

/-- What the first loop leaves of the registry. -/
def recognised (entry : ConfigEntry) (r : EntityRegistry) : EntityRegistry :=
  ((entriesOf entry r).foldl (sortOut entry) (r, [])).1

/-- What the second loop goes through. -/
def plan (entry : ConfigEntry) (r : EntityRegistry) : List Planned :=
  currentFirst ((entriesOf entry r).filterMap (planned entry))

lemma migrateUniqueIds_eq :
    migrateUniqueIds entry r = (plan entry r).foldl carryOut (recognised entry r) := by
  have hplan := (@foldl_sortOut entry (entriesOf entry r) (r, [])).2
  rw [List.nil_append] at hplan
  unfold plan recognised
  rw [← hplan]
  rfl

lemma mem_entriesOf {e : RegEntry} :
    e ∈ entriesOf entry r ↔ e ∈ r.entries ∧ e.configEntryId = entry.entryId := by
  unfold entriesOf
  simp

lemma mem_recognised {e : RegEntry} : e ∈ (recognised entry r).entries ↔ e ∈ r.entries ∧
    ¬ (e.configEntryId = entry.entryId ∧ classify entry e.uniqueId = .unrecognised) := by
  unfold recognised
  rw [(foldl_sortOut _ _).1]
  refine and_congr_right fun he => ?_
  constructor
  · rintro h ⟨hmine, hc⟩
    exact h e (mem_entriesOf.mpr ⟨he, hmine⟩) hc rfl
  · rintro h e' he' hc hid
    rw [mem_entriesOf] at he'
    obtain rfl := EntityRegistry.eq_of_entityId he'.1 he hid
    exact h ⟨he'.2, hc⟩

lemma currentFirst_perm (l : List Planned) : (currentFirst l).Perm l := by
  unfold currentFirst
  exact List.filter_append_perm _ l

lemma mem_plan {p : Planned} : p ∈ plan entry r ↔ p.regEntry ∈ r.entries ∧
    p.regEntry.configEntryId = entry.entryId ∧ planned entry p.regEntry = some p := by
  unfold plan
  rw [(currentFirst_perm _).mem_iff, List.mem_filterMap]
  constructor
  · rintro ⟨e, he, hp⟩
    obtain ⟨rfl, -, -⟩ := planned_eq_some hp
    exact ⟨(mem_entriesOf.mp he).1, (mem_entriesOf.mp he).2, hp⟩
  · exact fun ⟨he, hmine, hp⟩ => ⟨_, mem_entriesOf.mpr ⟨he, hmine⟩, hp⟩

lemma split_currentFirst {l : List Planned} {p : Planned} (hc : p.isCurrent = true)
    (hp : p ∈ currentFirst l) :
    ∃ A B, currentFirst l = A ++ p :: B ∧ ∀ q ∈ A, q.isCurrent = true := by
  unfold currentFirst at hp ⊢
  have hfirst : p ∈ l.filter fun p => p.isCurrent := by
    rcases List.mem_append.mp hp with hp | hp
    · exact hp
    · have hno := (List.mem_filter.mp hp).2
      rw [hc] at hno
      cases hno
  obtain ⟨A, B, hAB⟩ := List.append_of_mem hfirst
  refine ⟨A, B ++ l.filter fun p => !p.isCurrent, by rw [hAB]; simp, fun q hq => ?_⟩
  have hq' : q ∈ l.filter fun p => p.isCurrent := by
    rw [hAB]
    exact List.mem_append_left _ hq
  exact (List.mem_filter.mp hq').2

lemma nodup_plan : ((plan entry r).map Planned.regEntry).Nodup := by
  have hsub : ∀ l : List RegEntry,
      ((l.filterMap (planned entry)).map Planned.regEntry).Sublist l := by
    intro l
    induction l with
    | nil => exact List.Sublist.slnil
    | cons e l ih =>
      rw [List.filterMap_cons]
      rcases hp : planned entry e with _ | p
      · exact ih.cons e
      · rw [List.map_cons, (planned_eq_some hp).1]
        exact ih.cons_cons e
  unfold plan
  rw [((currentFirst_perm _).map _).nodup_iff]
  exact ((r.nodup.of_map _).sublist List.filter_sublist).sublist (hsub _)

/-- What the code relies on: the registry keeps its entries apart, and those of the config entry
are of the integration. -/
structure WellKept (entry : ConfigEntry) (r : EntityRegistry) : Prop where
  distinct : r.SlotsDistinct
  platform : ∀ e ∈ r.entries, e.configEntryId = entry.entryId → e.platform = integration

/-- An entity is at a slot, or on its way there. -/
def Competes (entry : ConfigEntry) (slot : String × String × String) (e : RegEntry) : Prop :=
  e.slot = slot ∨ e.configEntryId = entry.entryId ∧
    ∃ u, target entry e = some u ∧ (e.domain, integration, u) = slot

/-- The entity is in the registry, whatever its unique id. -/
def Survives (r : EntityRegistry) (e : RegEntry) : Prop :=
  ∃ x ∈ r.entries, x.entityId = e.entityId

/-- What the migration makes of a registry. -/
structure Migrates (entry : ConfigEntry) (r r' : EntityRegistry) : Prop where
  newForm : ∀ e ∈ r'.entries, e.configEntryId = entry.entryId →
    startsWith e.uniqueId entry.newPrefix = true
  distinct : r'.SlotsDistinct
  untouched : ∀ e ∈ r.entries, (e.configEntryId = entry.entryId →
    startsWith e.uniqueId entry.newPrefix = true) → e ∈ r'.entries
  current_kept : ∀ e ∈ r.entries, e.configEntryId = entry.entryId → ∀ suffix,
    startsWith e.uniqueId entry.newPrefix = false → e.uniqueId = entry.current ++ suffix →
    (∀ x ∈ r.entries, x.slot ≠ (e.domain, integration, entry.newPrefix ++ suffix)) →
    { e with uniqueId := entry.newPrefix ++ suffix } ∈ r'.entries
  one_survives : ∀ e ∈ r.entries, e.configEntryId = entry.entryId → ∀ u,
    target entry e = some u →
    ∃! x, x ∈ r.entries ∧ Competes entry (e.domain, integration, u) x ∧ Survives r' x
  removed : ∀ e ∈ r.entries, ¬ Survives r' e → e.configEntryId = entry.entryId ∧
    (classify entry e.uniqueId = .unrecognised ∨
      ∃ u, target entry e = some u ∧ ∃ x ∈ r'.entries, x.slot = (e.domain, integration, u))
  origin : ∀ x ∈ r'.entries, x ∈ r.entries ∨
    ∃ e ∈ r.entries, e.configEntryId = entry.entryId ∧
      ∃ u, target entry e = some u ∧ x = { e with uniqueId := u }

namespace WellKept

lemma recognised (h : WellKept entry r) : (recognised entry r).SlotsDistinct :=
  fun e he e' he' hs => h.distinct e (mem_recognised.mp he).1 e' (mem_recognised.mp he').1 hs

lemma proper (h : WellKept entry r) {p : Planned} (hp : p ∈ plan entry r) :
    p.Proper entry.newPrefix (Migration.recognised entry r) := by
  obtain ⟨hmem, hmine, hplanned⟩ := mem_plan.mp hp
  have htarget := (planned_eq_some hplanned).2.1
  have hspec := target_spec htarget
  refine ⟨mem_recognised.mpr ⟨hmem, fun hno => ?_⟩, h.platform _ hmem hmine, hspec.1, hspec.2⟩
  rw [target_none_iff.mpr (.inr hno.2)] at htarget
  cases htarget

lemma carried (h : WellKept entry r) :
    Carried (Migration.recognised entry r) (plan entry r) (migrateUniqueIds entry r) := by
  rw [migrateUniqueIds_eq]
  have hrun := @Carried.foldl entry.newPrefix _ _ [] (plan entry r) (.start h.recognised)
  rw [List.nil_append] at hrun
  exact hrun (fun p hp => h.proper hp) nodup_plan

lemma origin (h : WellKept entry r) : ∀ x ∈ (migrateUniqueIds entry r).entries,
    (x ∈ r.entries ∧ (x.configEntryId = entry.entryId →
      startsWith x.uniqueId entry.newPrefix = true)) ∨
    ∃ e ∈ r.entries, e.configEntryId = entry.entryId ∧
      ∃ u, target entry e = some u ∧ x = { e with uniqueId := u } := by
  intro x hx
  rcases h.carried.origin x hx with ⟨hmem, hno⟩ | ⟨p, hp, rfl⟩
  · obtain ⟨hr, hknown⟩ := mem_recognised.mp hmem
    refine .inl ⟨hr, fun hmine => ?_⟩
    -- With a target it would have been planned.
    rcases ht : target entry x with _ | u
    · exact (target_none_iff.mp ht).resolve_right fun hc => hknown ⟨hmine, hc⟩
    · refine absurd rfl (hno ⟨isCurrent entry x, x, u⟩ (mem_plan.mpr ⟨hr, hmine, ?_⟩))
      unfold planned
      rw [ht, Option.map_some]
  · obtain ⟨hr, hmine, hplanned⟩ := mem_plan.mp hp
    exact .inr ⟨_, hr, hmine, p.newUid, (planned_eq_some hplanned).2.1, rfl⟩

lemma newForm (h : WellKept entry r) : ∀ x ∈ (migrateUniqueIds entry r).entries,
    x.configEntryId = entry.entryId → startsWith x.uniqueId entry.newPrefix = true := by
  intro x hx hmine
  rcases h.origin x hx with ⟨-, hform⟩ | ⟨e, -, -, u, hu, rfl⟩
  · exact hform hmine
  · exact (target_spec hu).1

lemma untouched (h : WellKept entry r) {e : RegEntry} (he : e ∈ r.entries)
    (hform : e.configEntryId = entry.entryId → startsWith e.uniqueId entry.newPrefix = true) :
    e ∈ (migrateUniqueIds entry r).entries := by
  refine h.carried.stays e (mem_recognised.mpr ⟨he, fun hc => ?_⟩) fun p hp => ?_
  · rw [migrated_iff.mpr (hform hc.1)] at hc
    cases hc.2
  · rintro rfl
    have hsource := (h.proper hp).source
    rw [hform (mem_plan.mp hp).2.1] at hsource
    cases hsource

lemma taken (h : WellKept entry r) {e : RegEntry} (he : e ∈ r.entries)
    (hmine : e.configEntryId = entry.entryId) {u : String} (hu : target entry e = some u) :
    ∃ x ∈ (migrateUniqueIds entry r).entries, x.slot = (e.domain, integration, u) := by
  refine h.carried.taken ⟨isCurrent entry e, e, u⟩ (mem_plan.mpr ⟨he, hmine, ?_⟩)
  unfold planned
  rw [hu, Option.map_some]

lemma slot_of_survives (h : WellKept entry r) {e x : RegEntry} {domain u : String}
    (hu : startsWith u entry.newPrefix = true) (he : e ∈ r.entries)
    (hc : Competes entry (domain, integration, u) e)
    (hx : x ∈ (migrateUniqueIds entry r).entries) (hid : x.entityId = e.entityId) :
    x.slot = (domain, integration, u) := by
  rcases hc with hslot | ⟨hmine, u', hu', hslot⟩
  · have huid : e.uniqueId = u := congrArg (fun t => t.2.2) hslot
    have hstay := h.untouched he fun _ => by rw [huid]; exact hu
    rw [EntityRegistry.eq_of_entityId hx hstay hid, hslot]
  · rcases h.origin x hx with ⟨hr, hform⟩ | ⟨e', he', -, u'', hu'', rfl⟩
    · obtain rfl := EntityRegistry.eq_of_entityId hr he hid
      rw [(target_spec hu').2] at hform
      cases hform hmine
    · obtain rfl := EntityRegistry.eq_of_entityId he' he hid
      obtain rfl := Option.some.inj (hu''.symm.trans hu')
      unfold RegEntry.slot
      rw [h.platform e' he hmine]
      exact hslot

lemma one_survives (h : WellKept entry r) {e : RegEntry} (he : e ∈ r.entries)
    (hmine : e.configEntryId = entry.entryId) {u : String} (hu : target entry e = some u) :
    ∃! x, x ∈ r.entries ∧ Competes entry (e.domain, integration, u) x ∧
      Survives (migrateUniqueIds entry r) x := by
  obtain ⟨x, hx, hslot⟩ := h.taken he hmine hu
  have huniq : ∀ y, y ∈ r.entries ∧ Competes entry (e.domain, integration, u) y ∧
      Survives (migrateUniqueIds entry r) y → y.entityId = x.entityId := by
    rintro y ⟨hy, hc, y', hy', hid⟩
    have hslot' := h.slot_of_survives (target_spec hu).1 hy hc hy' hid
    rw [← hid, h.carried.distinct y' hy' x hx (hslot'.trans hslot.symm)]
  obtain ⟨w, hw, hc, hid⟩ : ∃ w ∈ r.entries, Competes entry (e.domain, integration, u) w ∧
      x.entityId = w.entityId := by
    rcases h.origin x hx with ⟨hr, -⟩ | ⟨e', he', hmine', u', hu', rfl⟩
    · exact ⟨x, hr, .inl hslot, rfl⟩
    · refine ⟨e', he', .inr ⟨hmine', u', hu', ?_⟩, rfl⟩
      rw [← hslot]
      unfold RegEntry.slot
      rw [h.platform e' he' hmine']
  refine ⟨w, ⟨hw, hc, x, hx, hid⟩, fun y hy => ?_⟩
  exact EntityRegistry.eq_of_entityId hy.1 hw ((huniq y hy).trans hid)

lemma ne_of_before {p q : Planned} {A B : List Planned} (hplan : plan entry r = A ++ p :: B)
    (hq : q ∈ A) : q.regEntry ≠ p.regEntry := by
  have hnodup := @nodup_plan entry r
  rw [hplan, List.map_append, List.nodup_append] at hnodup
  exact hnodup.2.2 _ (List.mem_map_of_mem hq) _ (by simp)

/-- Nobody of the current address is before another one at the same slot. -/
lemma free_of_current (h : WellKept entry r) {p : Planned} {A B : List Planned}
    (hplan : plan entry r = A ++ p :: B) (hA : ∀ q ∈ A, q.isCurrent = true)
    (hp : p.isCurrent = true) {r' : EntityRegistry}
    (hr' : Carried (Migration.recognised entry r) A r')
    (hfree : ∀ x ∈ r.entries, x.slot ≠ p.slot) : ∀ x ∈ r'.entries, x.slot ≠ p.slot := by
  have hpmem := mem_plan.mp (by rw [hplan]; simp : p ∈ plan entry r)
  intro x hx hslot
  rcases hr'.origin x hx with ⟨hmem, -⟩ | ⟨q, hq, rfl⟩
  · exact hfree x (mem_recognised.mp hmem).1 hslot
  · have hqplan : q ∈ plan entry r := by rw [hplan]; exact List.mem_append_left _ hq
    have hqmem := mem_plan.mp hqplan
    rw [(h.proper hqplan).slot_renamed] at hslot
    have hdomain : q.regEntry.domain = p.regEntry.domain := congrArg Prod.fst hslot
    have hnew : q.newUid = p.newUid := congrArg (fun t => t.2.2) hslot
    obtain ⟨-, hqt, hqc⟩ := planned_eq_some hqmem.2.2
    obtain ⟨-, hpt, hpc⟩ := planned_eq_some hpmem.2.2
    obtain ⟨sq, hsq, hqt'⟩ := uniqueId_of_current (hqc.symm.trans (hA q hq))
    obtain ⟨sp, hsp, hpt'⟩ := uniqueId_of_current (hpc.symm.trans hp)
    -- The same new id after the same prefix: they had the same id already.
    have hsuffix : entry.newPrefix ++ sq = entry.newPrefix ++ sp := by
      rw [← Option.some.inj (hqt.symm.trans hqt'), ← Option.some.inj (hpt.symm.trans hpt'), hnew]
    have hs : sq = sp := (String.append_right_inj _).mp hsuffix
    refine ne_of_before hplan hq (h.distinct _ hqmem.1 _ hpmem.1 ?_)
    unfold RegEntry.slot
    rw [hdomain, hsq, hsp, hs, h.platform _ hqmem.1 hqmem.2.1, h.platform _ hpmem.1 hpmem.2.1]

lemma carried_before (h : WellKept entry r) {p : Planned} {A B : List Planned}
    (hplan : plan entry r = A ++ p :: B) :
    Carried (Migration.recognised entry r) A (A.foldl carryOut (Migration.recognised entry r)) := by
  have hrun := @Carried.foldl entry.newPrefix _ _ [] A (.start h.recognised)
  rw [List.nil_append] at hrun
  have hnodup := @nodup_plan entry r
  rw [hplan, List.map_append, List.nodup_append] at hnodup
  exact hrun (fun q hq => h.proper (by rw [hplan]; simp [hq])) hnodup.1

lemma renamed_of_free (h : WellKept entry r) {p : Planned} {A B : List Planned}
    (hplan : plan entry r = A ++ p :: B)
    (hfree : ∀ x ∈ (A.foldl carryOut (Migration.recognised entry r)).entries, x.slot ≠ p.slot) :
    p.renamed ∈ (migrateUniqueIds entry r).entries := by
  have hmem : ∀ q ∈ A ++ p :: B, q ∈ plan entry r := fun q hq => by rw [hplan]; exact hq
  have hin := ((h.carried_before hplan).renamed (fun q hq => h.proper (hmem q (by simp [hq])))
    (h.proper (hmem p (by simp))) (fun q hq => ne_of_before hplan hq) hfree).2
  rw [migrateUniqueIds_eq, hplan, List.foldl_append, List.foldl_cons]
  refine Carried.mem_foldl ?_ fun q hq hid => ?_
  · unfold carryOut
    rw [if_neg]
    · exact hin
    · rw [EntityRegistry.getEntityId_isSome]
      rintro ⟨x, hx, hslot⟩
      exact hfree x hx hslot
  · have hsame : q.regEntry = p.regEntry := EntityRegistry.eq_of_entityId
      (mem_plan.mp (hmem q (by simp [hq]))).1 (mem_plan.mp (hmem p (by simp))).1 hid
    have hnodup := @nodup_plan entry r
    rw [hplan, List.map_append, List.nodup_append, List.map_cons, List.nodup_cons] at hnodup
    refine hnodup.2.1.1 ?_
    rw [← hsame]
    exact List.mem_map_of_mem hq

lemma gone_of_taken {p : Planned} {A B : List Planned} (hplan : plan entry r = A ++ p :: B)
    (htaken : ∃ x ∈ (A.foldl carryOut (Migration.recognised entry r)).entries, x.slot = p.slot) :
    ¬ Survives (migrateUniqueIds entry r) p.regEntry := by
  rintro ⟨x, hx, hid⟩
  rw [migrateUniqueIds_eq, hplan, List.foldl_append, List.foldl_cons] at hx
  obtain ⟨y, hy, hyx⟩ := Carried.entityId_of_mem_foldl hx
  rw [carryOut, if_pos (EntityRegistry.getEntityId_isSome.mpr htaken), EntityRegistry.mem_remove,
    List.mem_singleton] at hy
  exact hy.2 (hyx.trans hid)

/-- Who can have taken it: one that has it from before, or one whose turn was earlier. -/
lemma taken_before_iff (h : WellKept entry r) {p : Planned} {A B : List Planned}
    (hplan : plan entry r = A ++ p :: B) :
    (∃ x ∈ (A.foldl carryOut (Migration.recognised entry r)).entries, x.slot = p.slot) ↔
      (∃ x ∈ r.entries, x.slot = p.slot) ∨ ∃ q ∈ A, q.slot = p.slot := by
  have hcarried := h.carried_before hplan
  have hproper : ∀ q ∈ A ++ p :: B, q.Proper entry.newPrefix (Migration.recognised entry r) :=
    fun q hq => h.proper (by rw [hplan]; exact hq)
  have hp := hproper p (by simp)
  constructor
  · rintro ⟨x, hx, hslot⟩
    rcases hcarried.origin x hx with ⟨hmem, -⟩ | ⟨q, hq, rfl⟩
    · exact .inl ⟨x, (mem_recognised.mp hmem).1, hslot⟩
    · rw [(hproper q (by simp [hq])).slot_renamed] at hslot
      exact .inr ⟨q, hq, hslot⟩
  · rintro (⟨x, hx, hslot⟩ | ⟨q, hq, hslot⟩)
    · have huid : x.uniqueId = p.newUid := congrArg (fun t => t.2.2) hslot
      have hform : startsWith x.uniqueId entry.newPrefix = true := by rw [huid]; exact hp.target
      refine ⟨x, hcarried.stays x (mem_recognised.mpr ⟨hx, fun hc => ?_⟩) fun q hq => ?_, hslot⟩
      · rw [migrated_iff.mpr hform] at hc
        cases hc.2
      · rintro rfl
        exact (hproper q (by simp [hq])).slot_ne hp hslot
    · obtain ⟨x, hx, hs⟩ := hcarried.taken q hq
      exact ⟨x, hx, hs.trans hslot⟩

lemma current_kept (h : WellKept entry r) {e : RegEntry} (he : e ∈ r.entries)
    (hmine : e.configEntryId = entry.entryId) {suffix : String}
    (hold : startsWith e.uniqueId entry.newPrefix = false)
    (hcurrent : e.uniqueId = entry.current ++ suffix)
    (hfree : ∀ x ∈ r.entries, x.slot ≠ (e.domain, integration, entry.newPrefix ++ suffix)) :
    { e with uniqueId := entry.newPrefix ++ suffix } ∈ (migrateUniqueIds entry r).entries := by
  have hc : isCurrent entry e = true := isCurrent_of_uniqueId hold hcurrent
  obtain ⟨suffix', hcurrent', htarget⟩ := uniqueId_of_current hc
  obtain rfl : suffix = suffix' :=
    (String.append_right_inj _).mp (hcurrent.symm.trans hcurrent')
  let p : Planned := ⟨true, e, entry.newPrefix ++ suffix⟩
  have hpplan : planned entry e = some p := by
    unfold planned
    rw [htarget, hc]
    rfl
  have hp : p ∈ plan entry r := mem_plan.mpr ⟨he, hmine, hpplan⟩
  -- The plan up to its turn holds entities of the current address only.
  obtain ⟨A, B, hAB, hA⟩ : ∃ A B, plan entry r = A ++ p :: B ∧ ∀ q ∈ A, q.isCurrent = true :=
    split_currentFirst rfl hp
  exact h.renamed_of_free hAB (h.free_of_current hAB hA rfl (h.carried_before hAB) hfree)

lemma removed (h : WellKept entry r) {e : RegEntry} (he : e ∈ r.entries)
    (hgone : ¬ Survives (migrateUniqueIds entry r) e) : e.configEntryId = entry.entryId ∧
    (classify entry e.uniqueId = .unrecognised ∨ ∃ u, target entry e = some u ∧
      ∃ x ∈ (migrateUniqueIds entry r).entries, x.slot = (e.domain, integration, u)) := by
  have hno : ¬ (e.configEntryId = entry.entryId →
      startsWith e.uniqueId entry.newPrefix = true) :=
    fun hform => hgone ⟨e, h.untouched he hform, rfl⟩
  push Not at hno
  refine ⟨hno.1, ?_⟩
  rcases ht : target entry e with _ | u
  · exact .inl ((target_none_iff.mp ht).resolve_left hno.2)
  · exact .inr ⟨u, rfl, h.taken he hno.1 ht⟩

end WellKept

lemma migrateUniqueIds_of_migrated (h : ∀ e ∈ r.entries, e.configEntryId = entry.entryId →
    startsWith e.uniqueId entry.newPrefix = true) : migrateUniqueIds entry r = r := by
  have hsort : ∀ l : List RegEntry,
      (∀ e ∈ l, startsWith e.uniqueId entry.newPrefix = true) →
      l.foldl (sortOut entry) (r, []) = (r, []) := by
    intro l
    induction l with
    | nil => exact fun _ => rfl
    | cons e l ih =>
      intro hall
      rw [List.forall_mem_cons] at hall
      have hone : sortOut entry (r, []) e = (r, []) := by
        unfold sortOut
        rw [migrated_iff.mpr hall.1]
      rw [List.foldl_cons, hone]
      exact ih hall.2
  unfold migrateUniqueIds
  rw [← entriesOf, hsort _ fun e he => h e (mem_entriesOf.mp he).1 (mem_entriesOf.mp he).2]
  rfl

/-- The migration of the registry, and that it is done once. -/
theorem migrateUniqueIds_spec (h : WellKept entry r) :
    Migrates entry r (migrateUniqueIds entry r) ∧
    migrateUniqueIds entry (migrateUniqueIds entry r) = migrateUniqueIds entry r where
  left := {
    newForm := h.newForm
    distinct := h.carried.distinct
    untouched := fun _ => h.untouched
    current_kept := fun _ he hmine _ => h.current_kept he hmine
    one_survives := fun _ he hmine _ => h.one_survives he hmine
    removed := fun _ => h.removed
    origin := fun x hx => (h.origin x hx).imp And.left id
  }
  right := migrateUniqueIds_of_migrated h.newForm

end Whole

/-- Two old addresses and the current one compete for a sensor, and for a switch they do not. -/
theorem migrateUniqueIds_spec_collisions :
    let entry : ConfigEntry :=
      ⟨"e1", 2, 1, none, .single "host" (.text "fw"), .empty, rfl⟩
    let entity := fun id domain uid => RegEntry.mk id "e1" domain integration uid
    let r : EntityRegistry := ⟨[entity "a" "sensor" "old_4444_cpu",
      entity "b" "sensor" "fw_4444_cpu", entity "c" "sensor" "older_4444_cpu",
      entity "d" "switch" "old_4444_cpu", entity "e" "sensor" "e1_mem",
      entity "f" "sensor" "uptime"], by decide⟩
    (migrateUniqueIds entry r).entries = [entity "b" "sensor" "e1_cpu",
      entity "d" "switch" "e1_cpu", entity "e" "sensor" "e1_mem"] ∧
    Migrates entry r (migrateUniqueIds entry r) ∧
    migrateUniqueIds entry (migrateUniqueIds entry r) = migrateUniqueIds entry r := by
  refine ⟨by decide, migrateUniqueIds_spec ⟨?_, by decide⟩⟩
  unfold EntityRegistry.SlotsDistinct
  decide

end SophosFw.Migration
