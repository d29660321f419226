import SophosFw.Runs
import SophosFw.UniqueIds

/-!
Migrating the config entries to version 2, one after the other.

An entry of version 1 gets the unique id of its address, unless another entry has that. An entry
that has no id to keep gets it anyway, so this is the one kind of entry that must not come to a
taken address.
-/

namespace SophosFw.Migration

open SophosFw.PyDict SophosFw.Registry SophosFw.Runs
open SophosFw.Coordinator (OptionValue)

/-- The config entries of the integration. -/
structure ConfigEntries where
  entries : List ConfigEntry
  nodup : (entries.map ConfigEntry.entryId).Nodup

structure Hass where
  configEntries : ConfigEntries
  registry : EntityRegistry

def configEntryVersion : ℕ := 2

def connectionKeys : List String := ["host", "port", "username", "password", "verify_ssl"]

def obsoleteKeys : List String := ["snmp_version", "xml_interval", "snmp_interval",
  "interval_once", "poll_xml_zones", "poll_xml_admin", "poll_snmp_device"]

namespace ConfigEntries

/-- `async_get_entry`. -/
def asyncGetEntry (c : ConfigEntries) (entryId : String) : Option ConfigEntry :=
  c.entries.find? fun e => e.entryId = entryId

/-- `async_entry_for_domain_unique_id`. -/
def asyncEntryForDomainUniqueId (c : ConfigEntries) (uniqueId : String) : Option ConfigEntry :=
  c.entries.find? fun e => e.uniqueId = some uniqueId

/-- `async_update_entry`, which does not refuse a unique id that is in use. -/
def asyncUpdateEntry (c : ConfigEntries) (entry : ConfigEntry) : ConfigEntries where
  entries := c.entries.map fun e => if e.entryId = entry.entryId then entry else e
  nodup := by
    have hids : (c.entries.map fun e => if e.entryId = entry.entryId then entry else e).map
        ConfigEntry.entryId = c.entries.map ConfigEntry.entryId := by
      rw [List.map_map]
      refine List.map_congr_left fun e _ => ?_
      dsimp only [Function.comp]
      split
      · next h => exact h.symm
      · rfl
    rw [hids]
    exact c.nodup

end ConfigEntries

namespace ConfigEntry

variable (entry : ConfigEntry)

/-- The unique id of the address of an entry. -/
def address : String := entry.host ++ ":" ++ entry.port

/-- An entry in the form of version 2, its unique id still to be settled. -/
def toVersion2 : ConfigEntry :=
  { entry with
    data := entry.data.filterKeys fun key => key ∈ connectionKeys
    options := (entry.data.update entry.options).filterKeys fun key =>
      key ∉ connectionKeys ∧ key ∉ obsoleteKeys
    version := 2
    minorVersion := 1
    host_isSome := by
      rw [Dict.get_filterKeys, if_pos (by decide)]
      exact entry.host_isSome }

end ConfigEntry

/-- `a or b`, where `None` and the empty text are false. -/
def textOr (a : Option String) (b : String) : String :=
  match a with
  | none => b
  | some a => if a = "" then b else a

/-- The unique id a migrated entry gets. -/
def migratedUniqueId (c : ConfigEntries) (entry : ConfigEntry) : String :=
  let uniqueId := entry.toVersion2.address
  match c.asyncEntryForDomainUniqueId uniqueId with
  | some taken =>
    if taken.entryId ≠ entry.entryId then textOr entry.uniqueId uniqueId else uniqueId
  | none => uniqueId

/-- `async_migrate_entry`. -/
def asyncMigrateEntry (s : Hass) (entry : ConfigEntry) : Bool × Hass :=
  if configEntryVersion < entry.version then (false, s)
  else if entry.version = 1 then
    (true, {
      registry := migrateUniqueIds entry s.registry
      configEntries := s.configEntries.asyncUpdateEntry
        { entry.toVersion2 with uniqueId := some (migratedUniqueId s.configEntries entry) } })
  else (true, s)

/-- Home Assistant has a config entry migrated. -/
def step (s : Hass) (entryId : String) : Option Hass :=
  (s.configEntries.asyncGetEntry entryId).map fun entry => (asyncMigrateEntry s entry).2

section Settings

variable {entry : ConfigEntry}

lemma toVersion2_settings (key : String) :
    entry.toVersion2.data.get key = (if key ∈ connectionKeys then entry.data.get key else none) ∧
    entry.toVersion2.options.get key = (if key ∈ connectionKeys ∨ key ∈ obsoleteKeys then none
      else (entry.options.get key).or (entry.data.get key)) := by
  unfold ConfigEntry.toVersion2
  refine ⟨by simp, ?_⟩
  rw [Dict.get_filterKeys, Dict.get_update]
  by_cases h : key ∈ connectionKeys ∨ key ∈ obsoleteKeys
  · rw [if_pos h, if_neg]
    simpa [← not_or] using h
  · rw [if_neg h, if_pos]
    simpa [← not_or] using h

/-- The migration does not move an entry to another address. -/
lemma address_toVersion2 : entry.toVersion2.address = entry.address := by
  unfold ConfigEntry.address ConfigEntry.host ConfigEntry.port
  congr 2
  · simp only [toVersion2_settings "host"]
    rfl
  · rw [(toVersion2_settings "port").1, if_pos (by decide)]

lemma address_ne_empty : entry.address ≠ "" := by
  intro h
  have hlist := congrArg String.toList h
  unfold ConfigEntry.address at hlist
  simp at hlist

end Settings

namespace ConfigEntries

variable {c : ConfigEntries} {e x : ConfigEntry}

lemma eq_of_entryId {e' : ConfigEntry} (he : e ∈ c.entries) (he' : e' ∈ c.entries)
    (h : e.entryId = e'.entryId) : e = e' :=
  List.inj_on_of_nodup_map c.nodup he he' h

lemma asyncGetEntry_eq_some {entryId : String} :
    c.asyncGetEntry entryId = some e ↔ e ∈ c.entries ∧ e.entryId = entryId := by
  unfold asyncGetEntry
  constructor
  · intro h
    exact ⟨List.mem_of_find?_eq_some h, by simpa using List.find?_some h⟩
  · rintro ⟨he, rfl⟩
    rcases hfind : c.entries.find? (fun x => x.entryId = e.entryId) with _ | x
    · rw [List.find?_eq_none] at hfind
      exact absurd (hfind e he) (by simp)
    · have hid : x.entryId = e.entryId := by simpa using List.find?_some hfind
      exact hfind.trans (congrArg some (eq_of_entryId (List.mem_of_find?_eq_some hfind) he hid))

lemma mem_asyncUpdateEntry (he : e ∈ c.entries) {new : ConfigEntry}
    (hid : new.entryId = e.entryId) :
    x ∈ (c.asyncUpdateEntry new).entries ↔
      x = new ∨ x ∈ c.entries ∧ x.entryId ≠ e.entryId := by
  unfold asyncUpdateEntry
  rw [List.mem_map]
  constructor
  · rintro ⟨y, hy, rfl⟩
    by_cases h : y.entryId = new.entryId
    · exact .inl (if_pos h)
    · rw [if_neg h]
      exact .inr ⟨hy, hid ▸ h⟩
  · rintro (rfl | ⟨hx, hne⟩)
    · exact ⟨e, he, if_pos hid.symm⟩
    · exact ⟨x, hx, if_neg (by rw [hid]; exact hne)⟩

/-- If entries are alike only to themselves, an entry may change to one that no other entry is
like, and to no other. -/
lemma alike_asyncUpdateEntry_iff {alike : ConfigEntry → ConfigEntry → Prop}
    (hsymm : ∀ x y, alike x y → alike y x)
    (hs : ∀ x ∈ c.entries, ∀ y ∈ c.entries, alike x y → x = y) (he : e ∈ c.entries)
    {new : ConfigEntry} (hid : new.entryId = e.entryId) :
    (∀ x ∈ (c.asyncUpdateEntry new).entries, ∀ y ∈ (c.asyncUpdateEntry new).entries,
      alike x y → x = y) ↔ ∀ x ∈ c.entries, x.entryId ≠ e.entryId → ¬ alike x new := by
  have hmem : ∀ x, x ∈ (c.asyncUpdateEntry new).entries ↔
      x = new ∨ x ∈ c.entries ∧ x.entryId ≠ e.entryId := fun x => mem_asyncUpdateEntry he hid
  constructor
  · intro h x hx hne halike
    have hx' := (hmem x).mpr (.inr ⟨hx, hne⟩)
    have hnew := (hmem new).mpr (.inl rfl)
    exact hne ((congrArg _ (h x hx' new hnew halike)).trans hid)
  · intro h x hx y hy halike
    rcases (hmem x).mp hx with rfl | ⟨hx', hxne⟩ <;> rcases (hmem y).mp hy with rfl | ⟨hy', hyne⟩
    · rfl
    · exact absurd (hsymm _ _ halike) (h y hy' hyne)
    · exact absurd halike (h x hx' hxne)
    · exact hs x hx' y hy' halike

/-- No two entries have the same unique id. -/
def Distinct (c : ConfigEntries) : Prop :=
  ∀ e ∈ c.entries, ∀ e' ∈ c.entries, ∀ u, e.uniqueId = some u → e'.uniqueId = some u → e = e'

/-- Another entry has the unique id of the address of this one. -/
def HeldByOther (c : ConfigEntries) (e : ConfigEntry) : Prop :=
  ∃ x ∈ c.entries, x.entryId ≠ e.entryId ∧ x.uniqueId = some e.address

lemma of_asyncEntryForDomainUniqueId {u : String}
    (h : c.asyncEntryForDomainUniqueId u = some x) : x ∈ c.entries ∧ x.uniqueId = some u := by
  unfold asyncEntryForDomainUniqueId at h
  exact ⟨List.mem_of_find?_eq_some h, by simpa using List.find?_some h⟩

lemma asyncEntryForDomainUniqueId_isSome {u : String} (hx : x ∈ c.entries)
    (hu : x.uniqueId = some u) : (c.asyncEntryForDomainUniqueId u).isSome = true := by
  unfold asyncEntryForDomainUniqueId
  rw [List.find?_isSome]
  exact ⟨x, hx, decide_eq_true hu⟩

lemma migratedUniqueId_eq (hd : c.Distinct) :
    (c.HeldByOther e → migratedUniqueId c e = textOr e.uniqueId e.address) ∧
    (¬ c.HeldByOther e → migratedUniqueId c e = e.address) := by
  unfold migratedUniqueId
  rw [address_toVersion2]
  constructor
  · rintro ⟨x, hx, hne, hu⟩
    obtain ⟨taken, hfind⟩ :=
      Option.isSome_iff_exists.mp (asyncEntryForDomainUniqueId_isSome hx hu)
    obtain ⟨hmem, htaken⟩ := of_asyncEntryForDomainUniqueId hfind
    obtain rfl := hd taken hmem x hx _ htaken hu
    simp only [hfind]
    exact if_pos hne
  · intro hno
    rcases hfind : c.asyncEntryForDomainUniqueId e.address with _ | taken
    · simp only [hfind]
    · obtain ⟨hmem, htaken⟩ := of_asyncEntryForDomainUniqueId hfind
      simp only [hfind]
      exact if_neg fun hne => hno ⟨taken, hmem, hne, htaken⟩

end ConfigEntries

/-! ### Runs of the migration -/

section Runs

variable {s s' : Hass} {entryId : String} {e : ConfigEntry}

/-- What a migration is to do about unique ids: no two are the same after it, and an entry of
version 1 has the one of its address, or its old one where another entry has that. -/
structure Settles (s : Hass) (entryId : String) (s' : Hass) : Prop where
  distinct : s'.configEntries.Distinct
  uniqueId : ∀ e, s.configEntries.asyncGetEntry entryId = some e → e.version = 1 →
    ∃ e', s'.configEntries.asyncGetEntry entryId = some e' ∧
      (s.configEntries.HeldByOther e → e'.uniqueId = e.uniqueId) ∧
      (¬ s.configEntries.HeldByOther e → e'.uniqueId = some e.address)

/-- An entry of version 1 at a taken address has a unique id, and not an empty one. -/
def KeepsOwn (entryId : String) (s : Hass) : Prop :=
  ∀ e, s.configEntries.asyncGetEntry entryId = some e → e.version = 1 →
    s.configEntries.HeldByOther e → ∃ u, e.uniqueId = some u ∧ u ≠ ""

lemma step_of_not_version1 (he : s.configEntries.asyncGetEntry entryId = some e)
    (hv : e.version ≠ 1) (hstep : step s entryId = some s') : s' = s := by
  unfold step asyncMigrateEntry at hstep
  rw [he, Option.map_some, if_neg hv] at hstep
  split at hstep <;> exact (Option.some.inj hstep).symm

lemma step_of_version1 (he : s.configEntries.asyncGetEntry entryId = some e)
    (hv : e.version = 1) (hstep : step s entryId = some s') :
    s'.configEntries = s.configEntries.asyncUpdateEntry
      { e.toVersion2 with uniqueId := some (migratedUniqueId s.configEntries e) } := by
  unfold step asyncMigrateEntry at hstep
  rw [he, Option.map_some, if_neg (by rw [hv]; decide), if_pos hv] at hstep
  rw [← Option.some.inj hstep]

lemma keepsOwn_iff (hd : s.configEntries.Distinct)
    (he : s.configEntries.asyncGetEntry entryId = some e) (hv : e.version = 1) :
    KeepsOwn entryId s ↔ (s.configEntries.HeldByOther e →
      some (migratedUniqueId s.configEntries e) = e.uniqueId) := by
  obtain ⟨hheld, -⟩ := @ConfigEntries.migratedUniqueId_eq s.configEntries e hd
  constructor
  · intro h hother
    obtain ⟨u, hu, hne⟩ := h e he hv hother
    rw [hheld hother, hu]
    exact congrArg some (if_neg hne)
  · intro h e₁ he₁ _ hother
    obtain rfl := Option.some.inj (he.symm.trans he₁)
    have hown : e.uniqueId = some (textOr e.uniqueId e.address) := by
      rw [← hheld hother]
      exact (h hother).symm
    refine ⟨_, hown, fun hempty => ?_⟩
    rw [hempty] at hown
    rw [hown] at hempty
    exact address_ne_empty hempty

lemma distinct_migrated (hd : s.configEntries.Distinct) (he : e ∈ s.configEntries.entries)
    (hkeep : s.configEntries.HeldByOther e →
      some (migratedUniqueId s.configEntries e) = e.uniqueId) :
    (s.configEntries.asyncUpdateEntry
      { e.toVersion2 with uniqueId := some (migratedUniqueId s.configEntries e) }).Distinct := by
  obtain ⟨-, hfree⟩ := @ConfigEntries.migratedUniqueId_eq s.configEntries e hd
  have hupdate := @ConfigEntries.alike_asyncUpdateEntry_iff s.configEntries e
    (fun x y => ∃ u, x.uniqueId = some u ∧ y.uniqueId = some u)
    (fun _ _ ⟨u, hx, hy⟩ => ⟨u, hy, hx⟩) (fun x hx y hy ⟨u, hxu, hyu⟩ => hd x hx y hy u hxu hyu) he
    { e.toVersion2 with uniqueId := some (migratedUniqueId s.configEntries e) } rfl
  refine fun x hx y hy u hxu hyu => hupdate.mpr ?_ x hx y hy ⟨u, hxu, hyu⟩
  rintro x hx hne ⟨u, hxu, hu⟩
  by_cases hother : s.configEntries.HeldByOther e
  · exact hne (congrArg _ (hd x hx e he u hxu ((hkeep hother).symm.trans hu)))
  · refine hother ⟨x, hx, hne, ?_⟩
    rw [hxu, ← hu, hfree hother]

lemma settles_iff_of_version1 (hd : s.configEntries.Distinct)
    (he : s.configEntries.asyncGetEntry entryId = some e) (hv : e.version = 1)
    (hstep : step s entryId = some s') : Settles s entryId s' ↔ KeepsOwn entryId s := by
  obtain ⟨hmem, hid⟩ := ConfigEntries.asyncGetEntry_eq_some.mp he
  obtain ⟨-, hfree⟩ := @ConfigEntries.migratedUniqueId_eq s.configEntries e hd
  have hentries := step_of_version1 he hv hstep
  set new : ConfigEntry :=
    { e.toVersion2 with uniqueId := some (migratedUniqueId s.configEntries e) } with hnew
  have hnewId : new.entryId = e.entryId := rfl
  have hnewEntry : new ∈ s'.configEntries.entries := by
    rw [hentries]
    exact (ConfigEntries.mem_asyncUpdateEntry hmem hnewId).mpr (.inl rfl)
  have hget : s'.configEntries.asyncGetEntry entryId = some new :=
    ConfigEntries.asyncGetEntry_eq_some.mpr ⟨hnewEntry, hnewId.trans hid⟩
  rw [keepsOwn_iff hd he hv]
  constructor
  · intro h
    obtain ⟨e', he', hkeep, -⟩ := h.uniqueId e he hv
    obtain rfl := Option.some.inj (hget.symm.trans he')
    exact hkeep
  · intro hkeep
    refine ⟨hentries ▸ distinct_migrated hd hmem hkeep, fun e₁ he₁ _ => ?_⟩
    obtain rfl := Option.some.inj (he.symm.trans he₁)
    exact ⟨_, hget, hkeep, fun hno => congrArg some (hfree hno)⟩

lemma settles_iff (hd : s.configEntries.Distinct) (hstep : step s entryId = some s') :
    Settles s entryId s' ↔ KeepsOwn entryId s := by
  obtain ⟨e, he, -⟩ := Option.map_eq_some_iff.mp hstep
  by_cases hv : e.version = 1
  · exact settles_iff_of_version1 hd he hv hstep
  · obtain rfl := step_of_not_version1 he hv hstep
    have hnone : ∀ e₁, s'.configEntries.asyncGetEntry entryId = some e₁ → e₁.version ≠ 1 := by
      intro e₁ he₁
      rw [← Option.some.inj (he.symm.trans he₁)]
      exact hv
    exact iff_of_true ⟨hd, fun e₁ he₁ hv₁ => absurd hv₁ (hnone e₁ he₁)⟩
      fun e₁ he₁ hv₁ => absurd hv₁ (hnone e₁ he₁)

/-- In any order of migrations, each does what it is to do exactly if each entry that comes to a
taken address has an id to keep. -/
theorem migrations_settle_iff {s₀ : Hass} (hd : s₀.configEntries.Distinct) (order : List String) :
    AtEach step s₀ (fun entryId s => ∀ s', step s entryId = some s' → Settles s entryId s') order ↔
      AtEach step s₀ KeepsOwn order := by
  constructor
  · intro h before entryId after s horder hrun e he
    have hs : s.configEntries.Distinct := by
      refine @Run.invariant_atEach _ _ step s₀ s
        (fun entryId s => ∀ s', step s entryId = some s' → Settles s entryId s')
        (fun s => s.configEntries.Distinct) hd
        (fun _ _ _ hP _ hs => (hP _ hs).distinct) _ hrun ?_
      exact AtEach.of_append (horder ▸ h)
    have hstep : step s entryId = some (asyncMigrateEntry s e).2 := by
      unfold step
      rw [he, Option.map_some]
    exact (settles_iff hs hstep).mp (h before entryId after s horder hrun _ hstep) e he
  · intro h before entryId after s horder hrun s' hs'
    have hs : s.configEntries.Distinct := by
      refine @Run.invariant_atEach _ _ step s₀ s KeepsOwn (fun s => s.configEntries.Distinct) hd
        (fun _ _ _ hP hI hs => ((settles_iff hI hs).mpr hP).distinct) _ hrun ?_
      exact AtEach.of_append (horder ▸ h)
    exact (settles_iff hs hs').mpr (h before entryId after s horder hrun)

/-- An entry that names an address it no longer has, at an address another entry has. -/
theorem migrations_settle_iff_stale :
    let a : ConfigEntry := ⟨"a", 1, 1, some "old:4444", .single "host" (.text "fw"), .empty, rfl⟩
    let b : ConfigEntry := ⟨"b", 2, 1, some "fw:4444", .single "host" (.text "fw"), .empty, rfl⟩
    let s : Hass := ⟨⟨[a, b], by decide⟩, ⟨[], by decide⟩⟩
    AtEach step s (fun entryId s => ∀ s', step s entryId = some s' → Settles s entryId s')
      ["a"] := by
  intro a b s
  have hd : s.configEntries.Distinct := by
    rw [ConfigEntries.Distinct]
    simp [s, a, b]
  refine (migrations_settle_iff hd ["a"]).mpr (.singleton ?_)
  rintro e he - -
  obtain rfl : a = e := Option.some.inj (he.symm.trans rfl).symm
  exact ⟨_, rfl, by decide⟩

/-- An entry without a unique id gets one that another entry has. -/
theorem migration_shares_unique_id :
    let a : ConfigEntry := ⟨"a", 1, 1, none, .single "host" (.text "fw"), .empty, rfl⟩
    let b : ConfigEntry := ⟨"b", 2, 1, some "fw:4444", .single "host" (.text "fw"), .empty, rfl⟩
    let s : Hass := ⟨⟨[a, b], by decide⟩, ⟨[], by decide⟩⟩
    s.configEntries.Distinct ∧ ∃ s', Run step s ["a"] s' ∧
      s'.configEntries.entries.map ConfigEntry.uniqueId = [some "fw:4444", some "fw:4444"] ∧
      ¬ Settles s "a" s' := by
  intro a b s
  have hrun : Run step s ["a"] (asyncMigrateEntry s a).2 := run_of_replay rfl
  have hids : (asyncMigrateEntry s a).2.configEntries.entries.map ConfigEntry.uniqueId =
      [some "fw:4444", some "fw:4444"] := by decide
  refine ⟨?_, _, hrun, hids, fun h => ?_⟩
  · rw [ConfigEntries.Distinct]
    simp [s, a, b]
  · obtain ⟨e', he', hkeep, -⟩ := h.uniqueId a rfl rfl
    have hheld : s.configEntries.HeldByOther a := ⟨b, by simp [s], by decide, by decide⟩
    have hgot : (asyncMigrateEntry s a).2.configEntries.asyncGetEntry "a" = some
        { a.toVersion2 with uniqueId := some "fw:4444" } := rfl
    obtain rfl := Option.some.inj (hgot.symm.trans he')
    cases hkeep hheld

end Runs

end SophosFw.Migration
