import SophosFw.PlatformSetup

/-!
What the setup of the platforms takes out of the registry when SNMP is switched off.

The unique suffixes come from the entity classes, the removals from lists of suffixes and
prefixes in the platforms. Whatever the objects of the firewall are called, the lists cover what
is on the SNMP coordinator and nothing that is on the other one.
-/

namespace SophosFw.Platforms

open SophosFw.PyDict SophosFw.Coordinator SophosFw.Sources SophosFw.Registry SophosFw.DynamicSync
  SophosFw.Records SophosFw.SnmpFamilies

/-- The runtime data `async_setup_entry` makes: SNMP is initialised if it is switched on. -/
def runtimeData (entry : ConfigEntry) (xml : CoordinatorView (Data XmlTable))
    (preloaded : Option (CoordinatorView (Data (SnmpValue SnmpTable)))) : RuntimeData :=
  ⟨xml, if snmpEnabled entry then preloaded else none⟩

namespace PlatformName

def xmlStatic : PlatformName → List StaticEntity
  | sensor => xmlSensors
  | binarySensor | switch => []

def snmpStatic : PlatformName → List StaticEntity
  | sensor => snmpSensors
  | binarySensor => [⟨some "ha", "ha_enabled"⟩]
  | switch => []

def snmpFamilies : PlatformName → List SnmpFamily
  | sensor => sensorObjectFamilies ++ sensorApplianceFamilies
  | binarySensor => binarySensorFamilies.list
  | switch => switchFamilies.list

end PlatformName

/-- The client calls the fans of the health table `fan_` and their row. -/
def FansNumbered (d : Data (SnmpValue SnmpTable)) : Prop :=
  ∀ v, d "health" = some v → ∀ key ∈ (fansOf v).keys, startsWith key "fan_" = true

/-- The suffix of an entity on the XML coordinator, for some data of it. -/
def XmlSuffix (platform : PlatformName) (suffix : String) : Prop :=
  (∃ entity ∈ platform.xmlStatic, entity.uniqueSuffix = suffix) ∨
  ∃ f ∈ platform.xmlFamilies, ∃ d items, f.items d = some items ∧ suffix ∈ items.keys

/-- The suffix of an entity on the SNMP coordinator, for some data of it. -/
def SnmpSuffix (platform : PlatformName) (suffix : String) : Prop :=
  (∃ entity ∈ platform.snmpStatic, entity.uniqueSuffix = suffix) ∨
  ∃ f ∈ platform.snmpFamilies, ∃ d items, FansNumbered d ∧ f.items d = some items ∧
    suffix ∈ items.keys

/-- An entity that a platform created for the config entry, with a suffix of this kind. -/
def Created (kind : PlatformName → String → Prop) (entryId : String) (e : RegEntry) : Prop :=
  e.configEntryId = entryId ∧ e.platform = integration ∧
    ∃ platform : PlatformName, ∃ suffix, e.domain = platform.domain ∧
      e.uniqueId = buildUniqueId entryId suffix ∧ kind platform suffix

/-- The part of a setup that does not depend on SNMP. -/
def xmlSetup (entryId : String) (entry : ConfigEntry) (xml : CoordinatorView (Data XmlTable))
    (r : EntityRegistry) : PlatformName → Setup
  | .sensor =>
    asyncSetupDynamicEntities entryId "sensor" (xmlConfigured entry) xml [dhcpLeaseFamily]
      (asyncAddStaticEntities entryId "sensor" (xmlConfigured entry) xmlSensors r)
  | .binarySensor =>
    if writeAccess entry then
      asyncSetupDynamicEntities entryId "binary_sensor" (xmlConfigured entry) xml [interfaceFamily]
        (removeFamilies entryId "binary_sensor" ["fwrule_", "wlan_"] r)
    else
      asyncSetupDynamicEntities entryId "binary_sensor" (xmlConfigured entry) xml
        [interfaceFamily, firewallRuleFamily, wirelessNetworkFamily] r
  | .switch =>
    if writeAccess entry then
      asyncSetupDynamicEntities entryId "switch" (xmlConfigured entry) xml switchXmlFamilies r
    else
      .done (removeFamilies entryId "switch"
        ["switch_fwrule_", "switch_webfilter_", "switch_wlan_", "switch_ipsec_"] r)

/-- The branch a platform takes without SNMP. -/
def snmpOff (entryId : String) (entry : ConfigEntry) (r : EntityRegistry) :
    PlatformName → EntityRegistry
  | .sensor => asyncRemoveSnmpEntities entryId r
  | .binarySensor =>
    removeFamilies entryId "binary_sensor" ["vpn_", "psu_", "ap_"]
      (asyncRemoveEntities entryId "binary_sensor" r ["ha_enabled"])
  | .switch => if writeAccess entry then removeFamilies entryId "switch" ["switch_ipsec_"] r else r

/-- What the pattern covers is in the lists: a suffix on its own, or all of a family. -/
def Pattern.within (suffixes families : List String) : Pattern → Bool
  | .exact suffix => suffixes.contains suffix || families.any (startsWith suffix)
  | .family suffixPrefix => families.any (startsWith suffixPrefix)

namespace PlatformName

/-- The suffixes the branch removes. -/
def offSuffixes : PlatformName → List String
  | sensor =>
    snmpSensorKeys.map (fun key => "sensor_" ++ key) ++
      (hardwareFamilies ++ versionFamilies).map DynamicFamily.suffixPrefix ++
      ["sensor_services_summary", "sensor_licenses_summary", "sensor_uptime",
        "ha_current_state", "ha_peer_state", "sensor_cpu_usage"]
  | binarySensor => ["ha_enabled"]
  | switch => []

/-- The families the branch removes. -/
def offFamilies : PlatformName → List String
  | sensor =>
    ["service_", "license_", "sensor_cpu_core_", "traffic_", "sensor_fan_", "ap_clients_", "poe_"]
  | binarySensor => ["vpn_", "psu_", "ap_"]
  | switch => ["switch_ipsec_"]

/-- What is created on the SNMP coordinator, as patterns. -/
def snmpCreated (platform : PlatformName) : List Pattern :=
  platform.snmpStatic.map (fun entity => .exact entity.uniqueSuffix) ++
  match platform with
  | sensor =>
    [.exact "sensor_cpu_usage", .family "ap_clients_", .family "poe_", .family "sensor_cpu_core_",
      .family "sensor_fan_"] ++
    trafficSensors.map (fun key => .family (trafficFamily key).suffixPrefix) ++
    (hardwareFamilies ++ versionFamilies).map fun f => .exact f.suffixPrefix
  | binarySensor => [.family "vpn_", .family "psu_", .family "ap_"]
  | switch => [.family "switch_ipsec_"]

def xmlCreated (platform : PlatformName) : List Pattern :=
  platform.xmlStatic.map (fun entity => .exact entity.uniqueSuffix) ++
  platform.xmlFamilies.map fun f => .family f.suffixPrefix

def offPatterns (platform : PlatformName) : List Pattern :=
  platform.offSuffixes.map .exact ++ platform.offFamilies.map .family

/-- Every pattern of what is created on SNMP is in the lists. -/
lemma snmpCreated_off (platform : PlatformName) : ∀ p ∈ platform.snmpCreated,
    p.within platform.offSuffixes platform.offFamilies = true := by
  cases platform with
  | sensor => decide +kernel
  | binarySensor => decide +kernel
  | switch => decide +kernel

/-- No pattern of what is created on XML meets one in the lists. -/
lemma xmlCreated_off (platform : PlatformName) : ∀ p ∈ platform.xmlCreated,
    ∀ q ∈ platform.offPatterns, p.disjoint q = true := by
  cases platform with
  | sensor => decide +kernel
  | binarySensor => decide +kernel
  | switch => decide +kernel

end PlatformName

section Suffixes

variable {platform : PlatformName} {suffix : String}

lemma startsWith_trans {x p q : String} (h : startsWith x p = true) (h' : startsWith p q = true) :
    startsWith x q = true :=
  decide_eq_true ((of_decide_eq_true h').trans (of_decide_eq_true h))

lemma Pattern.covers_within {p : Pattern} {suffixes families : List String}
    (h : p.within suffixes families = true) (hp : p.covers suffix = true) :
    suffix ∈ suffixes ∨ ∃ f ∈ families, startsWith suffix f = true := by
  cases p with
  | exact x =>
    obtain rfl : suffix = x := of_decide_eq_true hp
    rw [within, Bool.or_eq_true, List.contains_iff_mem, List.any_eq_true] at h
    exact h
  | family x =>
    rw [within, List.any_eq_true] at h
    obtain ⟨f, hf, hx⟩ := h
    exact .inr ⟨f, hf, startsWith_trans hp hx⟩

lemma covers_exact (x : String) : (Pattern.exact x).covers x = true := decide_eq_true rfl

lemma covers_family (x y : String) : (Pattern.family x).covers (x ++ y) = true :=
  startsWith_append x y

lemma exists_covers_xml (h : XmlSuffix platform suffix) :
    ∃ p ∈ platform.xmlCreated, p.covers suffix = true := by
  rcases h with ⟨entity, hentity, rfl⟩ | ⟨f, hf, d, items, hitems, hsuffix⟩
  · exact ⟨_, List.mem_append_left _ (List.mem_map_of_mem hentity), covers_exact _⟩
  · refine ⟨_, List.mem_append_right _ (List.mem_map_of_mem hf), ?_⟩
    rw [eq_xmlFamily hf] at hitems ⊢
    obtain ⟨v, -, rfl⟩ := Option.map_eq_some_iff.mp hitems
    unfold xmlItems at hsuffix
    split at hsuffix
    all_goals
      first
      | obtain ⟨name, -, rfl⟩ := mem_keys_keyed.mp hsuffix
        exact covers_family _ _
      | cases hsuffix

lemma covers_of_keyed {α : Type} {d : Data (SnmpValue SnmpTable)} {endpoint suffixPrefix : String}
    {table : SnmpValue SnmpTable → Dict String α} {item : String → α → SnmpObject}
    {items : Dict String SnmpObject}
    (h : ((d endpoint).map fun v => keyed suffixPrefix item (table v)) = some items)
    (hsuffix : suffix ∈ items.keys) : (Pattern.family suffixPrefix).covers suffix = true := by
  obtain ⟨v, -, rfl⟩ := Option.map_eq_some_iff.mp h
  obtain ⟨name, -, rfl⟩ := mem_keys_keyed.mp hsuffix
  exact covers_family _ _

lemma eq_of_present {key endpoint : String} {present : SnmpValue SnmpTable → Bool}
    {d : Data (SnmpValue SnmpTable)} {items : Dict String SnmpObject}
    (h : (presentFamily key endpoint present).items d = some items)
    (hsuffix : suffix ∈ items.keys) : suffix = "sensor_" ++ key := by
  obtain rfl := Option.some.inj h
  split at hsuffix
  · exact List.mem_singleton.mp hsuffix
  · cases hsuffix

lemma covers_of_fan {d : Data (SnmpValue SnmpTable)} {items : Dict String SnmpObject}
    (hd : FansNumbered d) (h : fanFamily.items d = some items) (hsuffix : suffix ∈ items.keys) :
    (Pattern.family "sensor_fan_").covers suffix = true := by
  obtain ⟨v, hv, rfl⟩ := Option.map_eq_some_iff.mp h
  obtain ⟨name, hname, rfl⟩ := mem_keys_keyed.mp hsuffix
  obtain ⟨t, ht⟩ := of_decide_eq_true (hd v hv name hname)
  refine decide_eq_true ⟨t, ?_⟩
  rw [String.toList_append, ← ht, ← List.append_assoc]
  rfl

lemma exists_covers_sensorObject {f : SnmpFamily} (hf : f ∈ sensorObjectFamilies)
    {d : Data (SnmpValue SnmpTable)} {items : Dict String SnmpObject}
    (h : f.items d = some items) (hsuffix : suffix ∈ items.keys) :
    ∃ p ∈ PlatformName.sensor.snmpCreated, p.covers suffix = true := by
  simp only [sensorObjectFamilies, List.mem_append, List.mem_cons, List.not_mem_nil, or_false,
    List.mem_map] at hf
  rcases hf with (rfl | rfl | rfl | rfl) | ⟨key, hkey, rfl⟩
  · refine ⟨.exact "sensor_cpu_usage", by simp [PlatformName.snmpCreated], ?_⟩
    obtain ⟨v, -, rfl⟩ := Option.map_eq_some_iff.mp h
    split at hsuffix
    · cases hsuffix
    · exact decide_eq_true (List.mem_singleton.mp hsuffix)
  · exact ⟨.family "ap_clients_", by simp [PlatformName.snmpCreated], covers_of_keyed h hsuffix⟩
  · exact ⟨.family "poe_", by simp [PlatformName.snmpCreated], covers_of_keyed h hsuffix⟩
  · exact ⟨.family "sensor_cpu_core_", by simp [PlatformName.snmpCreated],
      covers_of_keyed h hsuffix⟩
  · refine ⟨.family (trafficFamily key).suffixPrefix, ?_, covers_of_keyed h hsuffix⟩
    unfold PlatformName.snmpCreated
    exact List.mem_append_right _ (List.mem_append_left _ (List.mem_append_right _
      (List.mem_map_of_mem hkey)))

lemma exists_covers_sensorAppliance {f : SnmpFamily} (hf : f ∈ sensorApplianceFamilies)
    {d : Data (SnmpValue SnmpTable)} {items : Dict String SnmpObject} (hd : FansNumbered d)
    (h : f.items d = some items) (hsuffix : suffix ∈ items.keys) :
    ∃ p ∈ PlatformName.sensor.snmpCreated, p.covers suffix = true := by
  unfold sensorApplianceFamilies at hf
  rw [List.append_assoc, List.singleton_append] at hf
  rcases List.mem_cons.mp hf with rfl | hf
  · exact ⟨.family "sensor_fan_", by simp [PlatformName.snmpCreated], covers_of_fan hd h hsuffix⟩
  · have hexact : suffix = f.suffixPrefix := by
      simp only [hardwareFamilies, versionFamilies, List.mem_append, List.mem_cons,
        List.not_mem_nil, or_false] at hf
      rcases hf with (rfl | rfl) | (rfl | rfl) <;> exact eq_of_present h hsuffix
    refine ⟨.exact f.suffixPrefix, ?_, decide_eq_true hexact⟩
    unfold PlatformName.snmpCreated
    exact List.mem_append_right _ (List.mem_append_right _ (List.mem_map_of_mem hf))

lemma exists_covers_snmp (h : SnmpSuffix platform suffix) :
    ∃ p ∈ platform.snmpCreated, p.covers suffix = true := by
  rcases h with ⟨entity, hentity, rfl⟩ | ⟨f, hf, d, items, hd, hitems, hsuffix⟩
  · exact ⟨_, List.mem_append_left _ (List.mem_map_of_mem hentity), covers_exact _⟩
  · cases platform with
    | sensor =>
      rcases List.mem_append.mp hf with hf | hf
      · exact exists_covers_sensorObject hf hitems hsuffix
      · exact exists_covers_sensorAppliance hf hd hitems hsuffix
    | binarySensor =>
      simp only [PlatformName.snmpFamilies, binarySensorFamilies, List.mem_cons, List.not_mem_nil,
        or_false] at hf
      rcases hf with rfl | rfl | rfl
      · exact ⟨.family "vpn_", by decide, covers_of_keyed hitems hsuffix⟩
      · exact ⟨.family "psu_", by decide, covers_of_keyed hitems hsuffix⟩
      · exact ⟨.family "ap_", by decide, covers_of_keyed hitems hsuffix⟩
    | switch =>
      obtain rfl := List.mem_singleton.mp hf
      obtain ⟨v, -, rfl⟩ := Option.map_eq_some_iff.mp hitems
      unfold ipsecItems at hsuffix
      rw [Dict.mem_keys_foldl_set] at hsuffix
      refine ⟨.family "switch_ipsec_", by decide, ?_⟩
      rcases hsuffix with hnil | ⟨t, -, rfl⟩
      · cases hnil
      · exact covers_family _ _

end Suffixes

/-! ### Setup without SNMP -/

section Off

variable {entryId : String} {entry : ConfigEntry} {r : EntityRegistry}
  {xml : CoordinatorView (Data XmlTable)}
  {preloaded : Option (CoordinatorView (Data (SnmpValue SnmpTable)))}

lemma not_mem_asyncRemoveEntities {domain suffix : String} (h : r.SlotsDistinct)
    {suffixes : List String} (hs : suffix ∈ suffixes) {e : RegEntry}
    (he : e.slot = (domain, integration, buildUniqueId entryId suffix)) :
    e ∉ (asyncRemoveEntities entryId domain r suffixes).entries := by
  induction suffixes generalizing r with
  | nil => cases hs
  | cons x suffixes ih =>
    intro hmem
    unfold asyncRemoveEntities at hmem
    rw [List.foldl_cons, ← asyncRemoveEntities] at hmem
    rcases hid : r.getEntityId domain integration (buildUniqueId entryId x) with _ | entityId
    · rw [hid] at hmem
      rcases List.mem_cons.mp hs with rfl | hs
      · have hthere := EntityRegistry.getEntityId_isSome.mpr
          ⟨e, mem_of_mem_asyncRemoveEntities hmem, he⟩
        rw [hid] at hthere
        cases hthere
      · exact ih h hs hmem
    · rw [hid] at hmem
      rcases List.mem_cons.mp hs with rfl | hs
      · -- The entry that was found has the slot, so it is this one.
        obtain ⟨e', hfind, rfl⟩ := Option.map_eq_some_iff.mp hid
        have hslot := List.find?_some hfind
        rw [decide_eq_true_eq] at hslot
        obtain ⟨hkept, hgone⟩ := EntityRegistry.mem_remove.mp (mem_of_mem_asyncRemoveEntities hmem)
        have hsame : e = e' := h e hkept e' (List.mem_of_find?_eq_some hfind) (by
          rw [he]
          unfold RegEntry.slot
          rw [hslot.1, hslot.2.1, hslot.2.2])
        exact hgone (by rw [hsame]; exact List.mem_singleton_self _)
      · exact ih (h.remove _) hs hmem

/-- Single suffixes first, then families. -/
def removeListed (entryId : String) (platform : PlatformName) (r : EntityRegistry) :
    EntityRegistry :=
  removeFamilies entryId platform.domain platform.offFamilies
    (asyncRemoveEntities entryId platform.domain r platform.offSuffixes)

variable (entryId entry r) in
lemma snmpOff_eq : ∀ platform : PlatformName, snmpOff entryId entry r platform =
    if platform = .switch ∧ writeAccess entry = false then r else removeListed entryId platform r
  | .sensor => rfl
  | .binarySensor => rfl
  | .switch => by
    unfold snmpOff
    rcases writeAccess entry <;> rfl

variable (entryId r) in
lemma removeListed_removes (platform : PlatformName) :
    OnlyRemoves (AnyOf entryId platform.domain platform.offPatterns) r
      (removeListed entryId platform r) :=
  ((asyncRemoveEntities_removes platform.offSuffixes).mono fun _ he => he.mono fun _ hq =>
    List.mem_append_left _ hq).trans
  ((removeFamilies_removes _ _ _ platform.offFamilies).mono fun _ he => he.mono fun _ hq =>
    List.mem_append_right _ hq)

variable (entryId entry r) in
lemma snmpOff_removes (platform : PlatformName) :
    OnlyRemoves (AnyOf entryId platform.domain platform.offPatterns) r
      (snmpOff entryId entry r platform) := by
  rw [snmpOff_eq]
  split
  · exact .refl
  · exact removeListed_removes entryId r platform

variable (entryId entry xml r) in
lemma xmlSetup_sub (platform : PlatformName) :
    OnlyRemoves (fun _ => True) r (xmlSetup entryId entry xml r platform).registry := by
  cases platform with
  | sensor =>
    exact ((addStatic_removes xmlSensors).mono fun _ _ => trivial).trans
      (setupDynamic_removes.mono fun _ _ => trivial)
  | binarySensor =>
    dsimp only [xmlSetup]
    split
    · exact ((removeFamilies_removes _ _ _ ["fwrule_", "wlan_"]).mono fun _ _ => trivial).trans
        (setupDynamic_removes.mono fun _ _ => trivial)
    · exact setupDynamic_removes.mono fun _ _ => trivial
  | switch =>
    dsimp only [xmlSetup]
    split
    · exact setupDynamic_removes.mono fun _ _ => trivial
    · exact (removeFamilies_removes _ _ _ _).mono fun _ _ => trivial

lemma xmlSetup_not_raised (platform : PlatformName) :
    (xmlSetup entryId entry xml r platform).raised = false := by
  cases platform with
  | sensor => exact setupDynamic_not_raised (by decide)
  | binarySensor =>
    dsimp only [xmlSetup]
    split <;> exact setupDynamic_not_raised (by decide)
  | switch =>
    dsimp only [xmlSetup]
    split
    · exact setupDynamic_not_raised (by decide)
    · rfl

lemma setupEntry_eq (hoff : snmpEnabled entry = false) (platform : PlatformName) :
    platform.setupEntry entryId entry (runtimeData entry xml preloaded) r =
      .done (snmpOff entryId entry (xmlSetup entryId entry xml r platform).registry platform) := by
  have hnone : (runtimeData entry xml preloaded).snmp = none := by
    unfold runtimeData
    rw [hoff]
    rfl
  have hthen : platform.setupEntry entryId entry (runtimeData entry xml preloaded) r =
      (xmlSetup entryId entry xml r platform).andThen fun r =>
        .done (snmpOff entryId entry r platform) := by
    cases platform with
    | sensor =>
      unfold PlatformName.setupEntry sensorSetupEntry
      rw [hnone, hoff]
      rfl
    | binarySensor =>
      unfold PlatformName.setupEntry binarySensorSetupEntry
      rw [hnone, hoff]
      unfold xmlSetup
      rcases writeAccess entry <;> rfl
    | switch =>
      unfold PlatformName.setupEntry switchSetupEntry
      rw [hnone]
      unfold xmlSetup snmpOff
      rcases writeAccess entry <;> rfl
  rw [hthen]
  unfold Setup.andThen
  rw [xmlSetup_not_raised]
  rfl

lemma slotsDistinct_of_sub {P : RegEntry → Prop} {r' : EntityRegistry} (h : r.SlotsDistinct)
    (hsub : OnlyRemoves P r r') : r'.SlotsDistinct := fun e he e' he' hs =>
  h e (hsub.sub e he) e' (hsub.sub e' he') hs

lemma not_mem_removeListed {platform : PlatformName} {suffix : String} (h : r.SlotsDistinct)
    (hs : SnmpSuffix platform suffix) {e : RegEntry} (hentry : e.configEntryId = entryId)
    (he : e.slot = (platform.domain, integration, buildUniqueId entryId suffix)) :
    e ∉ (removeListed entryId platform r).entries := by
  obtain ⟨p, hp, hcovers⟩ := exists_covers_snmp hs
  have hdomain : e.domain = platform.domain := congrArg Prod.fst he
  have huid : e.uniqueId = buildUniqueId entryId suffix := congrArg (fun t => t.2.2) he
  rcases Pattern.covers_within (PlatformName.snmpCreated_off platform p hp) hcovers with
    hlisted | ⟨f, hf, hstarts⟩
  · intro hmem
    exact not_mem_asyncRemoveEntities h hlisted he
      ((removeFamilies_removes _ _ _ platform.offFamilies).sub e hmem)
  · exact not_mem_removeFamilies hf (inFamily_iff.mpr ⟨hentry, hdomain, suffix, huid, hstarts⟩)

lemma not_mem_setupEntry (hoff : snmpEnabled entry = false) {platform : PlatformName}
    {suffix : String} (h : r.SlotsDistinct) (hs : SnmpSuffix platform suffix) {e : RegEntry}
    (hentry : e.configEntryId = entryId)
    (he : e.slot = (platform.domain, integration, buildUniqueId entryId suffix)) :
    e ∉ (platform.setupEntry entryId entry (runtimeData entry xml preloaded)
      r).registry.entries := by
  have hxml := xmlSetup_sub entryId entry r xml platform
  rw [setupEntry_eq hoff, Setup.done, snmpOff_eq]
  split
  · next hno =>
    obtain ⟨rfl, hwrite⟩ := hno
    -- Without write access all families of switches go, the IPsec switches with them.
    obtain ⟨p, hp, hcovers⟩ := exists_covers_snmp hs
    obtain rfl := List.mem_singleton.mp hp
    dsimp only [xmlSetup]
    rw [hwrite, if_neg Bool.false_ne_true]
    have huid : e.uniqueId = buildUniqueId entryId suffix := congrArg (fun t => t.2.2) he
    have hfam : inFamily entryId "switch" "switch_ipsec_" e = true :=
      inFamily_iff.mpr ⟨hentry, congrArg Prod.fst he, suffix, huid, hcovers⟩
    exact not_mem_removeFamilies (by decide) hfam
  · exact not_mem_removeListed (slotsDistinct_of_sub h hxml) hs hentry he

lemma mem_snmpOff {platform : PlatformName} {e : RegEntry} (he : e ∈ r.entries)
    (h : Created XmlSuffix entryId e) : e ∈ (snmpOff entryId entry r platform).entries := by
  obtain ⟨-, -, platform', suffix, hdomain, huid, hs⟩ := h
  by_contra hgone
  obtain ⟨q, hq, hm⟩ := (snmpOff_removes entryId entry r platform).gone e he hgone
  obtain rfl : platform = platform' := PlatformName.domain_injective (hm.1.symm.trans hdomain)
  obtain ⟨p, hp, hcovers⟩ := exists_covers_xml hs
  exact Pattern.not_matches (PlatformName.xmlCreated_off platform p hp q hq)
    ⟨hdomain, suffix, huid, hcovers⟩ hm

variable (entryId entry) in
lemma setUpPlatforms_sub (hoff : snmpEnabled entry = false)
    (views : List (PlatformName × CoordinatorView (Data XmlTable) ×
      Option (CoordinatorView (Data (SnmpValue SnmpTable))))) :
    OnlyRemoves (fun _ => True) r (setUpPlatforms entryId entry
      (views.map fun v => (v.1, runtimeData entry v.2.1 v.2.2)) r) := by
  unfold setUpPlatforms
  induction views generalizing r with
  | nil => exact .refl
  | cons v views ih =>
    rw [List.map_cons, List.foldl_cons]
    refine OnlyRemoves.trans ?_ ih
    dsimp only
    rw [setupEntry_eq hoff, Setup.done]
    exact (xmlSetup_sub entryId entry r v.2.1 v.1).trans
      ((snmpOff_removes entryId entry _ v.1).mono fun _ _ => trivial)

lemma not_mem_setUpPlatforms_off (hoff : snmpEnabled entry = false)
    {views : List (PlatformName × CoordinatorView (Data XmlTable) ×
      Option (CoordinatorView (Data (SnmpValue SnmpTable))))} {platform : PlatformName}
    (hplatform : platform ∈ views.map Prod.fst) {suffix : String} (h : r.SlotsDistinct)
    (hs : SnmpSuffix platform suffix) {e : RegEntry} (hentry : e.configEntryId = entryId)
    (he : e.slot = (platform.domain, integration, buildUniqueId entryId suffix)) :
    e ∉ (setUpPlatforms entryId entry
      (views.map fun v => (v.1, runtimeData entry v.2.1 v.2.2)) r).entries := by
  induction views generalizing r with
  | nil => cases hplatform
  | cons v views ih =>
    have hfirst := setUpPlatforms_sub entryId entry hoff [v] (r := r)
    unfold setUpPlatforms at hfirst ⊢
    rw [List.map_cons, List.foldl_cons, ← setUpPlatforms]
    rw [List.map_cons] at hplatform
    rcases List.mem_cons.mp hplatform with rfl | hplatform
    · intro hmem
      exact not_mem_setupEntry hoff h hs hentry he
        ((setUpPlatforms_sub entryId entry hoff views).sub e hmem)
    · exact ih hplatform (slotsDistinct_of_sub h hfirst)

end Off

/-- Switching SNMP off removes exactly the SNMP entities. After the setup of the three platforms
every entity on the SNMP coordinator is gone. Each setup is its part on XML and the branch without
SNMP, and the branch keeps every entity on the XML coordinator. -/
theorem snmp_off_removes_exactly (entryId : String) {entry : ConfigEntry}
    (hoff : snmpEnabled entry = false)
    {views : List (PlatformName × CoordinatorView (Data XmlTable) ×
      Option (CoordinatorView (Data (SnmpValue SnmpTable))))}
    (hall : (views.map Prod.fst).Perm [.sensor, .binarySensor, .switch])
    {r : EntityRegistry} (hr : r.SlotsDistinct) :
    (∀ e ∈ r.entries, Created SnmpSuffix entryId e →
      e ∉ (setUpPlatforms entryId entry
        (views.map fun v => (v.1, runtimeData entry v.2.1 v.2.2)) r).entries) ∧
    (∀ (platform : PlatformName) (r' : EntityRegistry) xml preloaded,
      platform.setupEntry entryId entry (runtimeData entry xml preloaded) r' =
        .done (snmpOff entryId entry (xmlSetup entryId entry xml r' platform).registry platform)) ∧
    ∀ (platform : PlatformName) (r' : EntityRegistry), ∀ e ∈ r'.entries,
      Created XmlSuffix entryId e → e ∈ (snmpOff entryId entry r' platform).entries := by
  refine ⟨fun e _ hcreated => ?_, fun platform r' xml preloaded => setupEntry_eq hoff platform,
    fun platform r' e he hcreated => mem_snmpOff he hcreated⟩
  obtain ⟨hentry, hint, platform, suffix, hdomain, huid, hs⟩ := hcreated
  refine not_mem_setUpPlatforms_off hoff (hall.mem_iff.mpr ?_) hr hs hentry ?_
  · cases platform <;> decide
  · unfold RegEntry.slot
    rw [hdomain, hint, huid]

/-- A setup without options, of a registry with entities of both coordinators. -/
theorem snmp_off_removes_exactly_mixed :
    let entry : ConfigEntry := ⟨"fw", fun _ => none⟩
    let entity := fun id domain uid => RegEntry.mk id "E" domain integration uid
    let r : EntityRegistry := ⟨[entity "a" "sensor" "E_service_ips",
      entity "b" "sensor" "E_dhcp_leases_service_ips", entity "c" "binary_sensor" "E_vpn_1",
      entity "d" "binary_sensor" "E_iface_vpn_1", entity "e" "sensor" "E_sensor_cpu_usage"],
      by decide⟩
    (setUpPlatforms "E" entry [(.sensor, noSnmp), (.binarySensor, noSnmp), (.switch, noSnmp)]
      r).entries = [entity "b" "sensor" "E_dhcp_leases_service_ips",
        entity "d" "binary_sensor" "E_iface_vpn_1"] ∧
    ∀ e ∈ r.entries, Created SnmpSuffix "E" e →
      e ∉ (setUpPlatforms "E" entry
        [(.sensor, noSnmp), (.binarySensor, noSnmp), (.switch, noSnmp)] r).entries := by
  intro entry entity r
  have hr : r.SlotsDistinct := by
    unfold EntityRegistry.SlotsDistinct
    decide
  have hrun := @snmp_off_removes_exactly "E" entry (by decide)
    [(.sensor, noSnmp.xml, none), (.binarySensor, noSnmp.xml, none), (.switch, noSnmp.xml, none)]
    (List.Perm.refl _) r hr
  exact ⟨by decide +kernel, hrun.1⟩

end SophosFw.Platforms
