import SophosFw.Platforms

/-!
What the setup of the platforms takes out of the registry when there is no SNMP coordinator,
though SNMP is on.
-/

namespace SophosFw.Platforms

open SophosFw.PyDict SophosFw.Coordinator SophosFw.Sources SophosFw.Registry SophosFw.DynamicSync
  SophosFw.Records SophosFw.SnmpFamilies

/-- The families a platform can set up on the XML coordinator. -/
def PlatformName.xmlFamilies : PlatformName → List XmlFamily
  | .sensor => [dhcpLeaseFamily]
  | .binarySensor => [interfaceFamily, firewallRuleFamily, wirelessNetworkFamily]
  | .switch => switchXmlFamilies

lemma apart_xmlFamilies (platform : PlatformName) :
    platform.xmlFamilies.Pairwise fun f g => Apart f.suffixPrefix g.suffixPrefix := by
  have h : (platform.xmlFamilies.map DynamicFamily.suffixPrefix).Pairwise Apart := by
    unfold Apart
    cases platform <;> decide
  exact List.pairwise_map.mp h

lemma eq_xmlFamily {platform : PlatformName} {f : XmlFamily} (hf : f ∈ platform.xmlFamilies) :
    f = xmlFamily f.suffixPrefix f.endpoint := by
  cases platform with
  | sensor =>
    obtain rfl := List.mem_singleton.mp hf
    rfl
  | binarySensor =>
    rcases List.mem_cons.mp hf with rfl | hf
    · rfl
    rcases List.mem_cons.mp hf with rfl | hf
    · rfl
    obtain rfl := List.mem_singleton.mp hf
    rfl
  | switch =>
    rcases List.mem_cons.mp hf with rfl | hf
    · rfl
    rcases List.mem_cons.mp hf with rfl | hf
    · rfl
    obtain rfl := List.mem_singleton.mp hf
    rfl

inductive Pattern
  | exact (suffix : String)
  | family (suffixPrefix : String)
  deriving DecidableEq, Repr

namespace Pattern

def covers : Pattern → String → Bool
  | exact suffix, x => decide (x = suffix)
  | family suffixPrefix, x => startsWith x suffixPrefix

/-- No suffix is covered by both. -/
def disjoint : Pattern → Pattern → Bool
  | exact suffix, q => !q.covers suffix
  | p, exact suffix => !p.covers suffix
  | family p, family p' => !startsWith p p' && !startsWith p' p

lemma not_covers {p q : Pattern} {x : String} (h : p.disjoint q = true) (hx : p.covers x = true) :
    q.covers x = false := by
  cases p with
  | exact suffix =>
    obtain rfl : x = suffix := of_decide_eq_true hx
    simpa [disjoint] using h
  | family p =>
    cases q with
    | exact suffix =>
      by_contra hq
      rw [Bool.not_eq_false] at hq
      obtain rfl : x = suffix := of_decide_eq_true hq
      have hno : (family p).covers x = false := by simpa [disjoint] using h
      rw [hx] at hno
      cases hno
    | family p' =>
      have hapart : Apart p p' := by simpa [disjoint, Apart] using h
      exact hapart.not_startsWith hx

/-- A registry entry of the config entry whose suffix is covered. -/
def Matches (entryId domain : String) (p : Pattern) (e : RegEntry) : Prop :=
  e.domain = domain ∧
    ∃ suffix, e.uniqueId = buildUniqueId entryId suffix ∧ p.covers suffix = true

lemma not_matches {entryId domain : String} {p q : Pattern} {e : RegEntry}
    (h : p.disjoint q = true) (hp : p.Matches entryId domain e) : ¬ q.Matches entryId domain e := by
  rintro ⟨-, suffix', hu', hq⟩
  obtain ⟨-, suffix, hu, hp⟩ := hp
  have heq : suffix = suffix' := buildUniqueId_injective (hu.symm.trans hu')
  rw [← heq, not_covers h hp] at hq
  cases hq

lemma matches_of_inFamily {entryId domain suffixPrefix : String} {e : RegEntry}
    (h : inFamily entryId domain suffixPrefix e = true) :
    (family suffixPrefix).Matches entryId domain e :=
  (inFamily_iff.mp h).2

lemma inFamily_of_matches {entryId domain suffixPrefix : String} {e : RegEntry}
    (he : e.configEntryId = entryId) (h : (family suffixPrefix).Matches entryId domain e) :
    inFamily entryId domain suffixPrefix e = true :=
  inFamily_iff.mpr ⟨he, h⟩

end Pattern

/-! ### What is removed -/

/-- Entries are removed only, and only some. -/
structure OnlyRemoves (P : RegEntry → Prop) (r r' : EntityRegistry) : Prop where
  sub : ∀ e ∈ r'.entries, e ∈ r.entries
  gone : ∀ e ∈ r.entries, e ∉ r'.entries → P e

namespace OnlyRemoves

variable {P Q : RegEntry → Prop} {r r' r'' : EntityRegistry}

lemma refl : OnlyRemoves P r r := ⟨fun _ h => h, fun _ h hno => absurd h hno⟩

lemma trans (h : OnlyRemoves P r r') (h' : OnlyRemoves P r' r'') : OnlyRemoves P r r'' where
  sub e he := h.sub e (h'.sub e he)
  gone e he hgone := by
    by_cases hkept : e ∈ r'.entries
    · exact h'.gone e hkept hgone
    · exact h.gone e he hkept

lemma mono (h : OnlyRemoves P r r') (hPQ : ∀ e, P e → Q e) : OnlyRemoves Q r r' :=
  ⟨h.sub, fun e he hgone => hPQ e (h.gone e he hgone)⟩

end OnlyRemoves

/-- The entries of a platform that one of the patterns matches. -/
def AnyOf (entryId domain : String) (patterns : List Pattern) (e : RegEntry) : Prop :=
  ∃ p ∈ patterns, p.Matches entryId domain e

lemma AnyOf.mono {entryId domain : String} {patterns patterns' : List Pattern} {e : RegEntry}
    (hsub : ∀ p ∈ patterns, p ∈ patterns') (h : AnyOf entryId domain patterns e) :
    AnyOf entryId domain patterns' e := by
  obtain ⟨p, hp, hm⟩ := h
  exact ⟨p, hsub p hp, hm⟩

section Steps

variable {entryId domain : String} {configured : String → Bool} {r : EntityRegistry}

variable (entryId domain r) in
lemma removeFamilies_removes (suffixPrefixes : List String) :
    OnlyRemoves (AnyOf entryId domain (suffixPrefixes.map .family)) r
      (removeFamilies entryId domain suffixPrefixes r) := by
  unfold removeFamilies
  induction suffixPrefixes generalizing r with
  | nil => exact .refl
  | cons suffixPrefix suffixPrefixes ih =>
    rw [List.foldl_cons]
    refine OnlyRemoves.trans ⟨fun e he => ?_, fun e he hgone => ?_⟩
      ((ih _).mono fun e he => he.mono fun p hp => List.mem_cons_of_mem _ hp)
    · exact (mem_asyncRemoveStaleEntities.mp he).1
    · rw [mem_asyncRemoveStaleEntities, not_and, not_not] at hgone
      have hstale := (hgone he).2
      unfold isStale at hstale
      rw [Bool.and_eq_true] at hstale
      exact ⟨_, List.mem_cons_self, Pattern.matches_of_inFamily hstale.1⟩

lemma not_mem_removeFamilies {suffixPrefixes : List String} {suffixPrefix : String}
    (hp : suffixPrefix ∈ suffixPrefixes) {e : RegEntry}
    (h : inFamily entryId domain suffixPrefix e = true) :
    e ∉ (removeFamilies entryId domain suffixPrefixes r).entries := by
  induction suffixPrefixes generalizing r with
  | nil => cases hp
  | cons p suffixPrefixes ih =>
    unfold removeFamilies
    rw [List.foldl_cons, ← removeFamilies]
    rcases List.mem_cons.mp hp with rfl | hp
    · intro hmem
      have hkept := (removeFamilies_removes entryId domain _ suffixPrefixes).sub e hmem
      rw [mem_asyncRemoveStaleEntities] at hkept
      refine hkept.2 ⟨.inr rfl, ?_⟩
      unfold isStale
      rw [h]
      rfl
    · exact ih hp

lemma asyncRemoveEntities_removes (suffixes : List String) :
    OnlyRemoves (AnyOf entryId domain (suffixes.map .exact)) r
      (asyncRemoveEntities entryId domain r suffixes) where
  sub e he := mem_of_mem_asyncRemoveEntities he
  gone e he hgone := by
    obtain ⟨hd, -, suffix, hs, hu⟩ := of_not_mem_asyncRemoveEntities he hgone
    exact ⟨_, List.mem_map_of_mem hs, hd, suffix, hu, decide_eq_true rfl⟩

lemma addStatic_removes (entities : List StaticEntity) :
    OnlyRemoves (AnyOf entryId domain (entities.map fun entity => .exact entity.uniqueSuffix)) r
      (asyncAddStaticEntities entryId domain configured entities r) := by
  unfold asyncAddStaticEntities
  refine (asyncRemoveEntities_removes _).mono fun e he => he.mono fun p hp => ?_
  rw [List.map_map] at hp
  obtain ⟨entity, hentity, rfl⟩ := List.mem_map.mp hp
  exact List.mem_map_of_mem (List.mem_filter.mp hentity).1

variable {D Item E : Type} {v : CoordinatorView D} {families : List (DynamicFamily D Item E)}

lemma setupDynamic_removes :
    OnlyRemoves (AnyOf entryId domain (families.map fun f => .family f.suffixPrefix)) r
      (asyncSetupDynamicEntities entryId domain configured v families r).registry := by
  unfold asyncSetupDynamicEntities
  dsimp only
  have hinactive := removeFamilies_removes entryId domain r
    ((families.filter fun f => !configured f.endpoint).map DynamicFamily.suffixPrefix)
  refine (hinactive.mono fun e he => he.mono fun p hp => ?_).trans
    ⟨fun e he => ?_, fun e he h => ?_⟩
  · rw [List.map_map] at hp
    obtain ⟨f, hf, rfl⟩ := List.mem_map.mp hp
    exact List.mem_map_of_mem (List.mem_filter.mp hf).1
  · rw [sync_eq] at he
    exact sub_syncFamilies he
  · rw [sync_eq] at h
    obtain ⟨f, hf, hfam⟩ := inFamily_of_gone (s := ⟨_, _, _⟩) he h
    exact ⟨_, List.mem_map_of_mem (List.mem_filter.mp hf).1, Pattern.matches_of_inFamily hfam⟩

/-- A setup whose families do not trust an empty result is not ended by an exception. -/
lemma setupDynamic_not_raised (h : ∀ f ∈ families, f.trustEmpty = false) :
    (asyncSetupDynamicEntities entryId domain configured v families r).raised = false := by
  unfold asyncSetupDynamicEntities
  dsimp only
  rw [sync_eq]
  exact not_raised_syncFamilies fun f hf => h f (List.mem_filter.mp hf).1

lemma andThen_removes {P : RegEntry → Prop} {s : Setup} {next : EntityRegistry → Setup}
    (h : OnlyRemoves P r s.registry) (hnext : ∀ r', OnlyRemoves P r' (next r').registry) :
    OnlyRemoves P r (s.andThen next).registry := by
  unfold Setup.andThen
  split
  · exact h
  · exact h.trans (hnext _)

end Steps

namespace PlatformName

def domain : PlatformName → String
  | sensor => "sensor"
  | binarySensor => "binary_sensor"
  | switch => "switch"

lemma domain_injective {p q : PlatformName} (h : p.domain = q.domain) : p = q := by
  cases p <;> cases q <;> first | rfl | exact absurd h (by decide)

/-- The entities of a platform that SNMP feeds, with the endpoint that does. -/
def snmpFeeds : PlatformName → List (Pattern × Option String)
  | sensor =>
    snmpSensors.map (fun entity => (.exact entity.uniqueSuffix, entity.endpoint)) ++
    (sensorObjectFamilies ++ sensorApplianceFamilies).map fun f =>
      (.family f.suffixPrefix, some f.endpoint)
  | binarySensor => (.exact "ha_enabled", some "ha") ::
    binarySensorFamilies.list.map fun f => (.family f.suffixPrefix, some f.endpoint)
  | switch => switchFamilies.list.map fun f => (.family f.suffixPrefix, some f.endpoint)

/-- What the setup of a platform looks at if there is no SNMP coordinator, though SNMP is on. -/
def withoutSnmp : PlatformName → List Pattern
  | sensor => xmlSensors.map (fun entity => .exact entity.uniqueSuffix) ++
    [.family dhcpLeaseFamily.suffixPrefix]
  | binarySensor => [interfaceFamily, firewallRuleFamily, wirelessNetworkFamily].map fun f =>
    .family f.suffixPrefix
  | switch => switchXmlFamilies.map (fun f => .family f.suffixPrefix) ++ [.family "switch_ipsec_"]

lemma disjoint_of_ne_switch {p : PlatformName} (hp : p ≠ switch) :
    ∀ feed ∈ p.snmpFeeds, ∀ q ∈ p.withoutSnmp, feed.1.disjoint q = true := by
  cases p with
  | sensor => decide +kernel
  | binarySensor => decide +kernel
  | switch => exact absurd rfl hp

end PlatformName

/-- An entity of the config entry that SNMP feeds. -/
def FedBySnmp (entryId : String) (e : RegEntry) : Prop :=
  e.configEntryId = entryId ∧
    ∃ platform : PlatformName, ∃ feed ∈ platform.snmpFeeds, feed.1.Matches entryId platform.domain e

/-- The options rule an entity out that SNMP feeds: its endpoint is not polled, or it is a
switch and there is no write access. -/
def RuledOut (entryId : String) (entry : ConfigEntry) (e : RegEntry) : Prop :=
  ∃ platform : PlatformName, ∃ feed ∈ platform.snmpFeeds,
    feed.1.Matches entryId platform.domain e ∧
      (feed.2.any (fun endpoint => !snmpConfigured entry endpoint) = true ∨
        (platform = .switch ∧ writeAccess entry = false))

lemma fedBySnmp_of_ipsec {entryId : String} {e : RegEntry}
    (h : inFamily entryId "switch" "switch_ipsec_" e = true) : FedBySnmp entryId e := by
  refine ⟨?_, .switch, _, List.mem_cons_self, Pattern.matches_of_inFamily h⟩
  unfold inFamily at h
  rw [Bool.and_eq_true, decide_eq_true_eq] at h
  exact h.1.1

lemma ruledOut_ipsec_iff {entryId : String} {entry : ConfigEntry} {e : RegEntry}
    (h : (Pattern.family "switch_ipsec_").Matches entryId "switch" e) :
    RuledOut entryId entry e ↔
      writeAccess entry = false ∨ snmpConfigured entry "tunnels" = false := by
  constructor
  · rintro ⟨platform, feed, hfeed, hm, hwhy⟩
    obtain rfl : platform = .switch := PlatformName.domain_injective (hm.1.symm.trans h.1)
    obtain rfl := List.mem_singleton.mp hfeed
    rcases hwhy with hpoll | ⟨-, hoff⟩
    · exact .inr (by simpa [ipsecFamily] using hpoll)
    · exact .inl hoff
  · intro hwhy
    refine ⟨.switch, _, List.mem_cons_self, h, ?_⟩
    rcases hwhy with hoff | hpoll
    · exact .inr ⟨rfl, hoff⟩
    · exact .inl (by simpa [ipsecFamily] using hpoll)

section Without

variable {entryId : String} {entry : ConfigEntry} {runtime : RuntimeData} {r : EntityRegistry}

lemma sensor_removes (hon : snmpEnabled entry = true) (hnone : runtime.snmp = none) :
    OnlyRemoves (AnyOf entryId "sensor" PlatformName.sensor.withoutSnmp) r
      (sensorSetupEntry entryId entry runtime r).registry := by
  unfold sensorSetupEntry
  rw [hnone, hon]
  refine andThen_removes ?_ fun r' => .refl
  refine (addStatic_removes xmlSensors).mono (fun e he => he.mono ?_) |>.trans
    (setupDynamic_removes.mono fun e he => he.mono ?_)
  · exact fun p hp => List.mem_append_left _ hp
  · exact fun p hp => List.mem_append_right _ hp

lemma binarySensor_removes (hon : snmpEnabled entry = true) (hnone : runtime.snmp = none) :
    OnlyRemoves (AnyOf entryId "binary_sensor" PlatformName.binarySensor.withoutSnmp) r
      (binarySensorSetupEntry entryId entry runtime r).registry := by
  unfold binarySensorSetupEntry
  rw [hnone, hon]
  dsimp only
  refine andThen_removes ?_ fun r' => .refl
  by_cases hw : writeAccess entry = true
  · rw [if_pos hw, if_pos hw]
    refine ((removeFamilies_removes _ _ _ ["fwrule_", "wlan_"]).mono fun e he => he.mono ?_).trans
      (setupDynamic_removes.mono fun e he => he.mono ?_)
    · decide
    · decide
  · rw [if_neg hw, if_neg hw]
    exact setupDynamic_removes

lemma switch_removes (hnone : runtime.snmp = none) :
    OnlyRemoves (AnyOf entryId "switch" PlatformName.switch.withoutSnmp) r
      (switchSetupEntry entryId entry runtime r).registry := by
  unfold switchSetupEntry
  rw [hnone]
  by_cases hw : writeAccess entry = true
  · rw [if_pos hw]
    refine andThen_removes (setupDynamic_removes.mono fun e he => he.mono ?_) fun r' =>
      (removeFamilies_removes _ _ _ ["switch_ipsec_"]).mono fun e he => he.mono ?_
    · exact fun p hp => List.mem_append_left _ hp
    · exact fun p hp => List.mem_append_right _ hp
  · rw [if_neg hw]
    exact removeFamilies_removes _ _ _
      ["switch_fwrule_", "switch_webfilter_", "switch_wlan_", "switch_ipsec_"]

variable (entryId r) in
lemma setupEntry_removes (hon : snmpEnabled entry = true) (hnone : runtime.snmp = none)
    (platform : PlatformName) :
    OnlyRemoves (AnyOf entryId platform.domain platform.withoutSnmp) r
      (platform.setupEntry entryId entry runtime r).registry := by
  cases platform with
  | sensor => exact sensor_removes hon hnone
  | binarySensor => exact binarySensor_removes hon hnone
  | switch => exact switch_removes hnone

lemma not_mem_switchSetupEntry (hw : writeAccess entry = true) (hnone : runtime.snmp = none)
    {e : RegEntry} (h : inFamily entryId "switch" "switch_ipsec_" e = true) :
    e ∉ (switchSetupEntry entryId entry runtime r).registry.entries := by
  unfold switchSetupEntry Setup.andThen
  rw [if_pos hw, hnone, setupDynamic_not_raised (by decide)]
  exact not_mem_removeFamilies List.mem_cons_self h

variable {order : List (PlatformName × RuntimeData)}

lemma setUpPlatforms_removes (hon : snmpEnabled entry = true)
    (hnone : ∀ p ∈ order, p.2.snmp = none) :
    OnlyRemoves (fun e => ∃ platform : PlatformName,
        AnyOf entryId platform.domain platform.withoutSnmp e) r
      (setUpPlatforms entryId entry order r) := by
  unfold setUpPlatforms
  induction order generalizing r with
  | nil => exact .refl
  | cons p order ih =>
    rw [List.foldl_cons]
    have hfirst := setupEntry_removes entryId r hon (hnone p List.mem_cons_self) p.1
    exact (hfirst.mono fun e he => ⟨p.1, he⟩).trans
      (ih fun q hq => hnone q (List.mem_cons_of_mem _ hq))

lemma not_mem_setUpPlatforms (hon : snmpEnabled entry = true) (hw : writeAccess entry = true)
    (hnone : ∀ p ∈ order, p.2.snmp = none) (hswitch : .switch ∈ order.map Prod.fst)
    {e : RegEntry} (h : inFamily entryId "switch" "switch_ipsec_" e = true) :
    e ∉ (setUpPlatforms entryId entry order r).entries := by
  induction order generalizing r with
  | nil => cases hswitch
  | cons p order ih =>
    have hrest : ∀ q ∈ order, q.2.snmp = none := fun q hq => hnone q (List.mem_cons_of_mem _ hq)
    unfold setUpPlatforms
    rw [List.foldl_cons, ← setUpPlatforms]
    rw [List.map_cons] at hswitch
    rcases List.mem_cons.mp hswitch with hp | hswitch
    · intro hmem
      have hkept := (setUpPlatforms_removes hon hrest).sub e hmem
      rw [← hp] at hkept
      exact not_mem_switchSetupEntry hw (hnone p List.mem_cons_self) h hkept
    · exact ih hrest hswitch

end Without

/-- **When SNMP cannot be initialised**, the setup of the platforms removes no entity that SNMP
feeds, unless the options rule it out, if and only if there is no write access, the tunnels are
not polled, or there is no IPsec switch in the registry. -/
theorem snmp_entities_kept_iff (entryId : String) {entry : ConfigEntry}
    (hon : snmpEnabled entry = true) {order : List (PlatformName × RuntimeData)}
    (hall : (order.map Prod.fst).Perm [.sensor, .binarySensor, .switch])
    (hnone : ∀ p ∈ order, p.2.snmp = none) (r : EntityRegistry) :
    (∀ e ∈ r.entries, e ∉ (setUpPlatforms entryId entry order r).entries →
      FedBySnmp entryId e → RuledOut entryId entry e) ↔
    writeAccess entry = false ∨ snmpConfigured entry "tunnels" = false ∨
      ∀ e ∈ r.entries, inFamily entryId "switch" "switch_ipsec_" e = false := by
  constructor
  · intro hkept
    by_contra hno
    push Not at hno
    obtain ⟨hw, htunnels, e, he, hfam⟩ := hno
    rw [ne_eq, Bool.not_eq_false] at hw htunnels hfam
    have hswitch : PlatformName.switch ∈ order.map Prod.fst := by
      rw [hall.mem_iff]
      decide
    have hgone := not_mem_setUpPlatforms (r := r) hon hw hnone hswitch hfam
    have hout := hkept e he hgone (fedBySnmp_of_ipsec hfam)
    rw [ruledOut_ipsec_iff (Pattern.matches_of_inFamily hfam), hw, htunnels] at hout
    simp at hout
  · rintro hwhy e he hgone ⟨hentry, platform, feed, hfeed, hm⟩
    obtain ⟨platform', q, hq, hm'⟩ := (setUpPlatforms_removes hon hnone).gone e he hgone
    obtain rfl : platform = platform' := PlatformName.domain_injective (hm.1.symm.trans hm'.1)
    by_cases hp : platform = .switch
    · subst hp
      obtain rfl := List.mem_singleton.mp hfeed
      rw [ruledOut_ipsec_iff hm]
      rcases hwhy with hw | htunnels | hnoswitch
      · exact .inl hw
      · exact .inr htunnels
      · have hfam : inFamily entryId "switch" "switch_ipsec_" e = true :=
          Pattern.inFamily_of_matches hentry hm
        rw [hnoswitch e he] at hfam
        cases hfam
    · have hapart := PlatformName.disjoint_of_ne_switch hp feed hfeed q hq
      exact absurd hm' (Pattern.not_matches hapart hm)

/-- SNMP and write access are switched on. -/
def writableEntry : ConfigEntry :=
  ⟨"fw", fun key =>
    if key = "snmp_enabled" ∨ key = "write_access" then some (.bool true) else none⟩

/-- Nothing is fetched yet, and SNMP could not be initialised. -/
def noSnmp : RuntimeData := ⟨⟨none, fun _ => false, fun _ => none, fun _ => true⟩, none⟩

/-- A registry without IPsec switches loses nothing. -/
theorem snmp_entities_kept_iff_service :
    snmpEnabled writableEntry = true ∧
    ∀ e ∈ (EntityRegistry.singleton
        ⟨"sensor.ips", "E", "sensor", "sophos_firewall", "E_service_ips"⟩).entries,
      e ∉ (setUpPlatforms "E" writableEntry
        [(.sensor, noSnmp), (.binarySensor, noSnmp), (.switch, noSnmp)]
        (.singleton ⟨"sensor.ips", "E", "sensor", "sophos_firewall", "E_service_ips"⟩)).entries →
      FedBySnmp "E" e → RuledOut "E" writableEntry e := by
  refine ⟨by decide, ?_⟩
  refine (snmp_entities_kept_iff "E" (by decide) (List.Perm.refl _) ?_ _).mpr (.inr (.inr ?_))
  · intro p hp
    simp only [List.mem_cons, List.not_mem_nil, or_false] at hp
    rcases hp with rfl | rfl | rfl <;> rfl
  · decide

/-- An IPsec switch does not survive a start at which SNMP cannot be initialised. -/
theorem ipsec_switch_removed :
    ¬ ∀ (entry : ConfigEntry) (order : List (PlatformName × RuntimeData)) (r : EntityRegistry),
      snmpEnabled entry = true →
      (order.map Prod.fst).Perm [.sensor, .binarySensor, .switch] →
      (∀ p ∈ order, p.2.snmp = none) →
      ∀ e ∈ r.entries, e ∉ (setUpPlatforms "E" entry order r).entries →
        FedBySnmp "E" e → RuledOut "E" entry e := by
  intro h
  have hfam : inFamily "E" "switch" "switch_ipsec_"
      ⟨"switch.site", "E", "switch", "sophos_firewall", "E_switch_ipsec_1"⟩ = true := by decide
  have hnone : ∀ p ∈ [(PlatformName.sensor, noSnmp), (.binarySensor, noSnmp), (.switch, noSnmp)],
      p.2.snmp = none := by
    intro p hp
    simp only [List.mem_cons, List.not_mem_nil, or_false] at hp
    rcases hp with rfl | rfl | rfl <;> rfl
  have hout := h writableEntry
    [(.sensor, noSnmp), (.binarySensor, noSnmp), (.switch, noSnmp)]
    (.singleton ⟨"switch.site", "E", "switch", "sophos_firewall", "E_switch_ipsec_1"⟩)
    (by decide) (List.Perm.refl _) hnone _ List.mem_cons_self
    (not_mem_setUpPlatforms (by decide) (by decide) hnone (by decide) hfam)
    (fedBySnmp_of_ipsec hfam)
  rw [ruledOut_ipsec_iff (Pattern.matches_of_inFamily hfam)] at hout
  revert hout
  decide

end SophosFw.Platforms
