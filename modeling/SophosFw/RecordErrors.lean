import SophosFw.PlatformSetup
import SophosFw.RecordLists

/-!
Records the firewall reports an error for, and the entities of their objects.

Such a record is skipped, so its object is missing from the table that is applied, and the next
sync takes it for gone. Only a table without any object is not believed.
-/

namespace SophosFw.Records.ListEndpoint

open SophosFw.PyDict SophosFw.ElementTree SophosFw.Client SophosFw.Platforms SophosFw.SnmpFamilies

variable {l : ListEndpoint}

/-- The key of the endpoint. -/
def endpoint : ListEndpoint → String
  | interfaces => "interfaces"
  | firewallRules => "firewall_rules"
  | webFilterPolicies => "web_filter_policies"
  | dhcpServers => "dhcp_servers"
  | wirelessNetworks => "wireless_networks"

/-- The field of `XmlData`. -/
def table : (l : ListEndpoint) → Dict String l.Object → XmlTable
  | interfaces => .interfaces
  | firewallRules => .firewallRules
  | webFilterPolicies => .webFilterPolicies
  | dhcpServers => .dhcpServers
  | wirelessNetworks => .wirelessNetworks

/-- What a read of the endpoint makes of the end of its request. -/
def readTable (c : SophosClient) (l : ListEndpoint) (outcome : HttpOutcome) :
    Except PyExc (Dict String l.Object) :=
  (c.readAnswer outcome).bind fun root =>
    (l.collect (SophosClient.recordsOf l.tag root)).mapError fun _ => .valueError

lemma exec_readList {S : Type} (serve : S → Request → S × HttpOutcome) (c : SophosClient)
    (l : ListEndpoint) (s : S) :
    (readList c l).exec serve s =
      ⟨(serve s (c.request (.get l.tag))).1, l.readTable c (serve s (c.request (.get l.tag))).2,
        [(c.request (.get l.tag), (serve s (c.request (.get l.tag))).2)]⟩ := by
  have hrecords := c.exec_getRecords serve l.tag s
  unfold readList readTable
  rcases hread : c.readAnswer (serve s (c.request (.get l.tag))).2 with e | root <;>
    rw [hread] at hrecords
  · exact ClientM.exec_bind_error serve hrecords
  · rw [ClientM.exec_bind_ok serve hrecords]
    dsimp only [Except.bind]
    rcases l.collect (SophosClient.recordsOf l.tag root) with e | t <;> rfl

/-- A record-level error: an element of the tag that has nothing but a status with a code. -/
def HasRecordError (l : ListEndpoint) (root : Element) : Prop :=
  ∃ e ∈ root.iter l.tag, isStatusOnly e = true ∧ ∃ status, e.find "Status" = some status ∧
    (status.attr "code").getD "" ≠ ""

/-- A good record has this name. -/
def Names (l : ListEndpoint) (root : Element) (name : String) : Prop :=
  ∃ record ∈ SophosClient.recordsOf l.tag root, text record l.keyField = some name

lemma mem_foldl_addKey {names : List (Option String)} {keys : List String} {key : String} :
    key ∈ names.foldl addKey keys ↔ key ∈ keys ∨ some key ∈ names := by
  induction names generalizing keys with
  | nil => simp
  | cons n names ih =>
    rw [List.foldl_cons, ih, List.mem_cons, ← or_assoc]
    refine or_congr_left ?_
    rcases n with _ | n
    · simp [addKey]
    · unfold addKey
      dsimp only
      rw [Option.some.injEq]
      split
      · next h => exact ⟨.inl, fun hk => hk.elim id fun hk => hk ▸ h⟩
      · rw [List.mem_append, List.mem_singleton]

lemma mem_keys_of_readTable {c : SophosClient} {outcome : HttpOutcome} {root : Element}
    {t : Dict String l.Object} (hroot : c.readAnswer outcome = .ok root)
    (h : l.readTable c outcome = .ok t) {name : String} : name ∈ t.keys ↔ l.Names root name := by
  unfold readTable at h
  rw [hroot] at h
  dsimp only [Except.bind] at h
  rcases hcollect : l.collect (SophosClient.recordsOf l.tag root) with e | t' <;>
    rw [hcollect] at h
  · cases h
  · obtain rfl : t' = t := Except.ok.inj h
    rw [keys_collect hcollect, mem_foldl_addKey]
    unfold Names
    simp

lemma mem_keys_xmlItems {t : Dict String l.Object} {suffixPrefix suffix : String} :
    suffix ∈ (xmlItems suffixPrefix (l.table t)).keys ↔
      ∃ name ∈ t.keys, suffix = suffixPrefix ++ name := by
  cases l <;> exact mem_keys_keyed

end SophosFw.Records.ListEndpoint

namespace SophosFw.Platforms

open SophosFw.PyDict SophosFw.Coordinator SophosFw.Sources SophosFw.Registry SophosFw.DynamicSync
  SophosFw.Records SophosFw.ElementTree SophosFw.Client SophosFw.Runs SophosFw.SnmpFamilies

/-- The cycle that ended last applied this result. -/
def AppliedLast {V σ : Type} {c : SophosCoordinator V σ} (y : Sys c) (key : String) (x : V) :
    Prop :=
  ∃ record updates failures, y.history.getLast? = some record ∧
    record.result = .ok (updates, failures) ∧ updates.get key = some x

lemma field_of_appliedLast {entry : ConfigEntry} {clock : ℚ} {es : List (Event XmlTable)}
    {y y' : Sys (xmlCoordinator XmlTable entry)}
    (hrun : Run Sys.step (Sys.init (xmlCoordinator XmlTable entry) clock) es y)
    {attempt : ℕ → String → Result XmlTable} (hstep : y.step (.finish attempt) = some y')
    {key : String} {x : XmlTable} (h : AppliedLast y' key x) :
    y'.state.field key = some x ∧ y'.state.endpointAvailable key = true := by
  have hprev : ∀ plan, y.running = some plan →
      plan.previous = (y.state.data.getD fun _ => none) :=
    hrun.invariant (I := fun _ y => ∀ plan, y.running = some plan →
      plan.previous = (y.state.data.getD fun _ => none)) nofun
      fun _ _ _ _ _ hi hs => Sys.previous_step hi hs
  obtain ⟨plan, hplan, rfl⟩ := Sys.step_finish hstep
  obtain ⟨record, updates, failures, hlast, hresult, hget⟩ := h
  obtain rfl : y.finishRecord plan attempt = record := by
    simpa [Sys.finish] using hlast
  have hmem : key ∈ updates.keys := updates.get_isSome_iff.mp (by rw [hget]; rfl)
  rcases endCycle_key (hprev plan hplan) y.clock attempt key with
    ⟨updates', failures', hc, -, hfield, -, hav⟩ | ⟨hno, -⟩
  · obtain ⟨rfl, -⟩ := Prod.mk.inj (Except.ok.inj (hc.symm.trans hresult))
    exact ⟨hfield.trans hget, hav⟩
  · exact absurd hmem (hno updates failures hresult)

lemma shows_of_field {platform : PlatformName} {f : XmlFamily} (hf : f ∈ platform.xmlFamilies)
    {s : State XmlTable Unit} {x : XmlTable} (hfield : s.field f.endpoint = some x)
    (hav : s.endpointAvailable f.endpoint = true) :
    f.Shows (viewOf (fun _ => true) s) (xmlItems f.suffixPrefix x) := by
  rw [eq_xmlFamily hf] at hfield ⊢
  refine ⟨hav, ?_, rfl⟩
  unfold State.field at hfield
  unfold DynamicFamily.itemsOf viewOf xmlFamily
  dsimp only
  rw [if_pos rfl]
  rcases hd : s.data with _ | d <;> rw [hd] at hfield
  · cases hfield
  · exact congrArg (Option.map (xmlItems f.suffixPrefix)) hfield

/-! ### What a record-level error does -/

/-- An entry in one of the families of an endpoint. -/
def Feeds (entryId : String) (platform : PlatformName) (families : List XmlFamily)
    (endpoint : String) (f : XmlFamily) (e : RegEntry) : Prop :=
  f ∈ families ∧ f.endpoint = endpoint ∧
    inFamily entryId platform.domain f.suffixPrefix e = true

/-- **Record-level errors and the registry**: a response with one removes no entity of the
endpoint, exactly if none of its good records has a name or if they name the objects of all of
these entities. -/
theorem record_errors_iff (c : SophosClient) (entryId : String) (entry : ConfigEntry)
    (l : ListEndpoint) (platform : PlatformName) {families : List XmlFamily}
    (hfamilies : families.Sublist platform.xmlFamilies) {outcome : HttpOutcome} {root : Element}
    {t : Dict String l.Object} (hroot : c.readAnswer outcome = .ok root)
    (hread : l.readTable c outcome = .ok t) {clock : ℚ} {es : List (Event XmlTable)}
    {y y' : Sys (xmlCoordinator XmlTable entry)}
    (hrun : Run Sys.step (Sys.init (xmlCoordinator XmlTable entry) clock) es y)
    {attempt : ℕ → String → Result XmlTable} (hstep : y.step (.finish attempt) = some y')
    (happlied : AppliedLast y' l.endpoint (l.table t)) (r : EntityRegistry) (b : Book) :
    let r' := (DynamicSync.sync entryId platform.domain (viewOf (fun _ => true) y'.state)
      families r b).1
    l.HasRecordError root →
      ((∀ f, ∀ e ∈ r.entries, Feeds entryId platform families l.endpoint f e → e ∈ r'.entries) ↔
        (∀ name, ¬ l.Names root name) ∨
          ∀ f, ∀ e ∈ r.entries, Feeds entryId platform families l.endpoint f e →
            ∃ name, l.Names root name ∧ suffixOf entryId e = f.suffixPrefix ++ name) := by
  intro r' _
  obtain ⟨hfield, hav⟩ := field_of_appliedLast hrun hstep happlied
  have hapart := (apart_xmlFamilies platform).sublist hfamilies
  have hplain : ∀ g ∈ families, g.trustEmpty = false := fun g hg => by
    rw [eq_xmlFamily (hfamilies.subset hg)]
    rfl
  -- an entry stays if there is no object at all, or if its object is there
  have hstays : ∀ f, ∀ e ∈ r.entries, Feeds entryId platform families l.endpoint f e →
      (e ∈ r'.entries ↔ (∀ name, ¬ l.Names root name) ∨
        ∃ name, l.Names root name ∧ suffixOf entryId e = f.suffixPrefix ++ name) := by
    rintro f e he ⟨hf, hend, hfam⟩
    have hmem := hfamilies.subset hf
    have hshow := shows_of_field hmem (hend ▸ hfield) (hend ▸ hav)
    have hc : f.confirmMissing = false := by
      rw [eq_xmlFamily hmem]
      rfl
    have hkept : e ∈ r'.entries ↔ e ∈ r.entries ∧
        ((xmlItems f.suffixPrefix (l.table t)).keys = [] ∨
          suffixOf entryId e ∈ (xmlItems f.suffixPrefix (l.table t)).keys) := by
      rw [← mem_syncFamilies_of_plain (s := ⟨r, b, []⟩) hapart hplain hf hc hshow hfam]
      simp only [r', sync_eq]
    rw [hkept, and_iff_right he, List.eq_nil_iff_forall_not_mem]
    simp only [ListEndpoint.mem_keys_xmlItems, ListEndpoint.mem_keys_of_readTable hroot hread]
    refine or_congr_left ⟨fun h name hn => h _ ⟨name, hn, rfl⟩, ?_⟩
    rintro h _ ⟨name, hn, -⟩
    exact h name hn
  by_cases hnone : ∀ name, ¬ l.Names root name
  · exact ⟨fun _ => .inl hnone, fun _ f e he hfeeds => (hstays f e he hfeeds).mpr (.inl hnone)⟩
  · rw [or_iff_right hnone]
    refine forall_congr' fun f => forall_congr' fun e => forall_congr' fun he =>
      forall_congr' fun hfeeds => ?_
    rw [hstays f e he hfeeds, or_iff_right hnone]

/-- The firewall reports an error for one interface and sends the other one. -/
def oneFailed : Element :=
  .new "Response" none
    [.new "Interface" none
      [⟨"Status", .single "code" "529", some "Input request failed", none, []⟩],
     .new "Interface" none [.new "Name" (some "PortA") []]]

def onlyPortA : Dict String Interface :=
  .single "PortA" ⟨"PortA", none, none, none, none, none, none⟩

/-- Only the interfaces answer. -/
def interfaceAnswers (_ : ℕ) (key : String) : Result XmlTable :=
  if key = "interfaces" then .value (.interfaces onlyPortA)
  else .exception (.expected "timeout")

def portEntry (entityId port : String) : RegEntry :=
  ⟨entityId, "E", "binary_sensor", "sophos_firewall", "E_iface_" ++ port⟩

def twoPorts : EntityRegistry := ⟨[portEntry "a" "PortA", portEntry "b" "PortB"], by decide⟩

lemma replay_interfaceAnswers :
    ∃ y y' : Sys (xmlCoordinator XmlTable ⟨"fw", fun _ => none⟩),
      Run Sys.step (Sys.init _ 0) [.start none] y ∧ y.step (.finish interfaceAnswers) = some y' ∧
      AppliedLast y' "interfaces" (.interfaces onlyPortA) ∧
      (DynamicSync.sync "E" "binary_sensor" (viewOf (fun _ => true) y'.state) [interfaceFamily]
        twoPorts Book.init).1.entries = [portEntry "a" "PortA"] := by
  have hrun : ((replay Sys.step (Sys.init (xmlCoordinator XmlTable ⟨"fw", fun _ => none⟩) 0)
      [.start none]).bind fun y => (y.step (.finish interfaceAnswers)).map fun y' =>
        (y'.history.getLast?.bind fun record => record.result.toOption.bind fun p =>
            p.1.get "interfaces",
          (DynamicSync.sync "E" "binary_sensor" (viewOf (fun _ => true) y'.state)
            [interfaceFamily] twoPorts Book.init).1.entries)) =
      some (some (.interfaces onlyPortA), [portEntry "a" "PortA"]) := by decide +kernel
  obtain ⟨y, hy, hrun⟩ := Option.bind_eq_some_iff.mp hrun
  obtain ⟨y', hy', hrun⟩ := Option.map_eq_some_iff.mp hrun
  obtain ⟨happlied, hentries⟩ := Prod.mk.inj hrun
  obtain ⟨record, hlast, hresult⟩ := Option.bind_eq_some_iff.mp happlied
  obtain ⟨⟨updates, failures⟩, hok, hget⟩ := Option.bind_eq_some_iff.mp hresult
  refine ⟨y, y', run_of_replay hy, hy', ⟨record, updates, failures, hlast, ?_, hget⟩, hentries⟩
  rcases hr : record.result with e | p <;> rw [hr] at hok
  · cases hok
  · exact congrArg _ (Option.some.inj hok)

lemma hasRecordError_oneFailed : ListEndpoint.interfaces.HasRecordError oneFailed :=
  ⟨_, List.mem_cons_self, rfl, _, rfl, by decide⟩

/-- The record of the second port fails, and its entity goes. -/
theorem record_errors_iff_ports :
    ∃ y' : Sys (xmlCoordinator XmlTable ⟨"fw", fun _ => none⟩),
      ((∀ f, ∀ e ∈ twoPorts.entries, Feeds "E" .binarySensor [interfaceFamily] "interfaces" f e →
        e ∈ (DynamicSync.sync "E" "binary_sensor" (viewOf (fun _ => true) y'.state)
          [interfaceFamily] twoPorts Book.init).1.entries) ↔
      (∀ name, ¬ ListEndpoint.interfaces.Names oneFailed name) ∨
        ∀ f, ∀ e ∈ twoPorts.entries, Feeds "E" .binarySensor [interfaceFamily] "interfaces" f e →
          ∃ name, ListEndpoint.interfaces.Names oneFailed name ∧
            suffixOf "E" e = f.suffixPrefix ++ name) := by
  obtain ⟨y, y', hrun, hstep, happlied, -⟩ := replay_interfaceAnswers
  exact ⟨y', record_errors_iff ⟨"fw", 4444, "user", "password"⟩ "E" ⟨"fw", fun _ => none⟩
    .interfaces .binarySensor (List.singleton_sublist.mpr List.mem_cons_self)
    (show SophosClient.readAnswer _ (.answer 200 (.document oneFailed)) = .ok oneFailed from rfl)
    (by decide +kernel) hrun hstep happlied twoPorts Book.init hasRecordError_oneFailed⟩

/-- A record-level error deletes an entity: that of the object it is about. -/
theorem failed_record_removes_entity :
    ¬ ∀ (outcome : HttpOutcome) (root : Element) (t : Dict String Interface)
      (es : List (Event XmlTable)) (y y' : Sys (xmlCoordinator XmlTable ⟨"fw", fun _ => none⟩))
      (attempt : ℕ → String → Result XmlTable) (r : EntityRegistry),
      (⟨"fw", 4444, "user", "password"⟩ : SophosClient).readAnswer outcome = .ok root →
      ListEndpoint.interfaces.readTable ⟨"fw", 4444, "user", "password"⟩ outcome = .ok t →
      Run Sys.step (Sys.init _ 0) es y → y.step (.finish attempt) = some y' →
      AppliedLast y' "interfaces" (.interfaces t) →
      ListEndpoint.interfaces.HasRecordError root →
      ∀ e ∈ r.entries, inFamily "E" "binary_sensor" "iface_" e = true →
        e ∈ (DynamicSync.sync "E" "binary_sensor" (viewOf (fun _ => true) y'.state)
          [interfaceFamily] r Book.init).1.entries := by
  intro h
  obtain ⟨y, y', hrun, hstep, happlied, hentries⟩ := replay_interfaceAnswers
  have hkept := h (.answer 200 (.document oneFailed)) oneFailed onlyPortA _ y y' interfaceAnswers
    twoPorts rfl (by decide +kernel) hrun hstep happlied hasRecordError_oneFailed
    (portEntry "b" "PortB") (by decide) (by decide)
  rw [hentries] at hkept
  exact absurd hkept (by decide)

end SophosFw.Platforms
