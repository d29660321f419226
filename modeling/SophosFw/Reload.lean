import SophosFw.ConfigFlow

/-!
Which settings a loaded entry works with.

Setting up an entry takes its settings at several points and waits in between, while flows go on
storing new ones. A loaded entry listens to its changes and reloads for them; for an entry that is
not loaded the flows schedule the reload themselves. So once nothing is on its way any more, the
entry works with what is stored.
-/

namespace SophosFw.Reload

open SophosFw.PyDict SophosFw.Runs
open SophosFw.Coordinator (OptionValue)

abbrev Mapping := Dict String OptionValue

/-- `_settings`. -/
structure Settings where
  data : Mapping
  options : Mapping

def Settings.same (a b : Settings) : Bool := a.data.same b.data && a.options.same b.options

/-- `entry.options.get(CONF_SNMP_ENABLED, False)`. -/
def snmpEnabled (options : Mapping) : Bool :=
  ((options.get "snmp_enabled").getD (.bool false)).truthy

/-- What the objects of an entry were made of: the clients of the data, the coordinators of the
options at the time, SNMP if it was switched on and could be initialised. -/
structure RuntimeData where
  data : Mapping
  xml : Mapping
  switched : Mapping
  snmp : Option Mapping
  settings : Settings

/-- How far `async_setup_entry` has got, or `async_unload_entry`. -/
inductive Phase
  | notLoaded
  /-- It waits for the first refresh of the XML coordinator. -/
  | connecting (data xml : Mapping)
  /-- It waits for SNMP to be initialised. -/
  | preloading (data xml switched : Mapping)
  /-- The runtime data and the update listener are there, and it waits for the platforms. -/
  | forwarding
  | loaded
  | unloading

/-- An entry, with the calls of its update listener and the reloads that are on their way. -/
structure World where
  stored : Settings
  phase : Phase
  runtimeData : Option RuntimeData
  listeners : ℕ
  reloads : ℕ

inductive Event
  /-- A reauth or reconfigure flow ends with new data, and with another title or unique id or
  not. -/
  | finishFlow (data : Mapping) (renamed : Bool)
  /-- The options flow ends. -/
  | storeOptions (options : Mapping)
  | rename
  /-- A call of the update listener. -/
  | listener
  | startReload
  | unload
  /-- The end of an unload, after which the entry is set up again or not. -/
  | unloaded (again : Bool)
  /-- Home Assistant starts, retries, or enables the entry. -/
  | setup
  | connected (ok : Bool)
  | preloaded (ok : Bool)
  | forwarded (ok : Bool)

/-- Whether `_async_update_and_finish` schedules a reload itself. -/
def schedulesReload (loaded : Bool) (old new : Mapping) : Bool := !loaded || new.same old

/-- It is what the flows do. -/
lemma reloads_asyncUpdateAndFinish (w : ConfigFlow.World) (i : ℕ) (flow : ConfigFlow.Flow)
    (entry changed : Migration.ConfigEntry) (title : String) :
    (w.asyncUpdateAndFinish i flow entry changed title).reloads =
      if schedulesReload (w.loaded entry.entryId) entry.data changed.data then
        w.reloads ++ [entry.entryId]
      else w.reloads := by
  simp [ConfigFlow.World.asyncUpdateAndFinish, schedulesReload]

namespace World

def isLoaded (w : World) : Bool :=
  match w.phase with
  | .loaded => true
  | _ => false

/-- The update listener is registered until the unload has ended. -/
def listening (w : World) : Bool :=
  match w.phase with
  | .forwarding | .loaded | .unloading => true
  | _ => false

/-- A set-up has taken some of the settings and waits before it takes the rest. -/
def waiting (w : World) : Bool :=
  match w.phase with
  | .connecting _ _ | .preloading _ _ _ => true
  | _ => false

/-- `async_update_entry`. -/
def asyncUpdateEntry (w : World) (settings : Settings) (renamed : Bool) : World :=
  { w with
    stored := settings
    listeners :=
      if w.listening ∧ (settings.same w.stored = false ∨ renamed = true) then w.listeners + 1
      else w.listeners }

/-- `_async_update_and_finish`. -/
def asyncUpdateAndFinish (w : World) (data : Mapping) (renamed : Bool) : World :=
  { w.asyncUpdateEntry { w.stored with data := data } renamed with
    reloads :=
      if schedulesReload w.isLoaded w.stored.data data then w.reloads + 1 else w.reloads }

/-- `_async_update_listener`. Without runtime data it fails. -/
def asyncUpdateListener (w : World) : World :=
  match w.runtimeData with
  | some runtime =>
    if runtime.settings.same w.stored then w else { w with reloads := w.reloads + 1 }
  | none => w

/-- The first part of `async_setup_entry`: the XML client and its coordinator. -/
def beginSetup (w : World) : World :=
  { w with phase := .connecting w.stored.data w.stored.options }

/-- The part that makes the runtime data. -/
def finishSetup (w : World) (data xml switched : Mapping) (snmp : Option Mapping) : World :=
  { w with
    phase := .forwarding
    runtimeData := some ⟨data, xml, switched, snmp, w.stored⟩ }

def step (w : World) : Event → Option World
  | .finishFlow data renamed => some (w.asyncUpdateAndFinish data renamed)
  | .storeOptions options => some (w.asyncUpdateEntry { w.stored with options := options } false)
  | .rename => some (w.asyncUpdateEntry w.stored true)
  | .listener =>
    if 0 < w.listeners then some { w with listeners := w.listeners - 1 }.asyncUpdateListener
    else none
  | .startReload =>
    match w.phase with
    | .notLoaded | .loaded =>
      if 0 < w.reloads then some { w with phase := .unloading, reloads := w.reloads - 1 } else none
    | _ => none
  | .unload =>
    match w.phase with
    | .loaded => some { w with phase := .unloading }
    | _ => none
  | .unloaded again =>
    match w.phase with
    | .unloading =>
      let w := { w with phase := .notLoaded, runtimeData := none }
      some (if again then w.beginSetup else w)
    | _ => none
  | .setup =>
    match w.phase with
    | .notLoaded => some w.beginSetup
    | _ => none
  | .connected ok =>
    match w.phase with
    | .connecting data xml =>
      if ok then
        if snmpEnabled w.stored.options then
          some { w with phase := .preloading data xml w.stored.options }
        else some (w.finishSetup data xml w.stored.options none)
      else some { w with phase := .notLoaded }
    | _ => none
  | .preloaded ok =>
    match w.phase with
    | .preloading data xml switched =>
      some (w.finishSetup data xml switched (if ok then some w.stored.options else none))
    | _ => none
  | .forwarded ok =>
    match w.phase with
    | .forwarding => some { w with phase := if ok then .loaded else .notLoaded }
    | _ => none

/-- What a step can do. -/
inductive Does (w : World) : Event → World → Prop
  | finishFlow (data : Mapping) (renamed : Bool) :
    Does w (.finishFlow data renamed) (w.asyncUpdateAndFinish data renamed)
  | storeOptions (options : Mapping) :
    Does w (.storeOptions options) (w.asyncUpdateEntry { w.stored with options := options } false)
  | rename : Does w .rename (w.asyncUpdateEntry w.stored true)
  | listener (h : 0 < w.listeners) :
    Does w .listener { w with listeners := w.listeners - 1 }.asyncUpdateListener
  | startReload (hp : w.phase = .notLoaded ∨ w.phase = .loaded) (h : 0 < w.reloads) :
    Does w .startReload { w with phase := .unloading, reloads := w.reloads - 1 }
  | unload (hp : w.phase = .loaded) : Does w .unload { w with phase := .unloading }
  | unloaded (again : Bool) (hp : w.phase = .unloading) :
    Does w (.unloaded again)
      (if again then { w with phase := .notLoaded, runtimeData := none }.beginSetup
      else { w with phase := .notLoaded, runtimeData := none })
  | setup (hp : w.phase = .notLoaded) : Does w .setup w.beginSetup
  | refused {data xml : Mapping} (hp : w.phase = .connecting data xml) :
    Does w (.connected false) { w with phase := .notLoaded }
  | preload {data xml : Mapping} (hp : w.phase = .connecting data xml)
    (h : snmpEnabled w.stored.options = true) :
    Does w (.connected true) { w with phase := .preloading data xml w.stored.options }
  | withoutSnmp {data xml : Mapping} (hp : w.phase = .connecting data xml) :
    Does w (.connected true) (w.finishSetup data xml w.stored.options none)
  | preloaded (ok : Bool) {data xml switched : Mapping}
    (hp : w.phase = .preloading data xml switched) :
    Does w (.preloaded ok)
      (w.finishSetup data xml switched (if ok then some w.stored.options else none))
  | forwarded (ok : Bool) (hp : w.phase = .forwarding) :
    Does w (.forwarded ok) { w with phase := if ok then .loaded else .notLoaded }

lemma step_does {w w' : World} {e : Event} (h : w.step e = some w') : Does w e w' := by
  cases e with
  | finishFlow data renamed =>
    cases h
    exact .finishFlow data renamed
  | storeOptions options =>
    cases h
    exact .storeOptions options
  | rename =>
    cases h
    exact .rename
  | listener =>
    obtain ⟨hl, rfl⟩ := Option.ite_none_right_eq_some.mp h |>.imp id Option.some.inj
    exact .listener hl
  | startReload =>
    simp only [step] at h
    split at h
    · obtain ⟨hr, rfl⟩ := Option.ite_none_right_eq_some.mp h |>.imp id Option.some.inj
      exact .startReload (.inl ‹_›) hr
    · obtain ⟨hr, rfl⟩ := Option.ite_none_right_eq_some.mp h |>.imp id Option.some.inj
      exact .startReload (.inr ‹_›) hr
    · cases h
  | unload =>
    simp only [step] at h
    split at h <;> cases h
    exact .unload ‹_›
  | unloaded again =>
    simp only [step] at h
    split at h <;> cases h
    exact .unloaded again ‹_›
  | setup =>
    simp only [step] at h
    split at h <;> cases h
    exact .setup ‹_›
  | connected ok =>
    simp only [step] at h
    split at h
    · next hp =>
      cases ok
      · cases h
        exact .refused hp
      · rw [if_pos rfl] at h
        split at h <;> cases h
        · exact .preload hp ‹_›
        · exact .withoutSnmp hp
    · cases h
  | preloaded ok =>
    simp only [step] at h
    split at h <;> cases h
    exact .preloaded ok ‹_›
  | forwarded ok =>
    simp only [step] at h
    split at h <;> cases h
    exact .forwarded ok ‹_›

end World

/-- The same settings, in whatever order they are stored. -/
def Alike (a b : Settings) : Prop := a.data.get = b.data.get ∧ a.options.get = b.options.get

lemma same_iff {a b : Settings} : a.same b = true ↔ Alike a b := by
  unfold Settings.same Alike
  rw [Bool.and_eq_true, Dict.same_iff, Dict.same_iff]

/-- All of it was made of these settings. -/
structure MadeOf (runtime : RuntimeData) (s : Settings) : Prop where
  data : runtime.data.get = s.data.get
  xml : runtime.xml.get = s.options.get
  switched : runtime.switched.get = s.options.get
  snmp : ∀ options, runtime.snmp = some options →
    options.get = s.options.get ∧ snmpEnabled s.options = true

lemma snmpEnabled_congr {a b : Mapping} (h : a.get = b.get) : snmpEnabled a = snmpEnabled b := by
  unfold snmpEnabled
  rw [h]

lemma MadeOf.congr {runtime : RuntimeData} {a b : Settings} (h : MadeOf runtime a)
    (hab : Alike a b) : MadeOf runtime b where
  data := h.data.trans hab.1
  xml := h.xml.trans hab.2
  switched := h.switched.trans hab.2
  snmp options ho := by
    obtain ⟨hget, henabled⟩ := h.snmp options ho
    exact ⟨hget.trans hab.2, (snmpEnabled_congr hab.2).symm.trans henabled⟩

namespace World

/-- A loaded entry knows what is stored, or a call of the listener or a reload is on its way. -/
def Notices (w : World) : Prop :=
  match w.phase with
  | .forwarding | .loaded =>
    ∃ runtime, w.runtimeData = some runtime ∧
      (Alike runtime.settings w.stored ∨ 0 < w.listeners ∨ 0 < w.reloads)
  | _ => True

/-- While a set-up waits, what it took is what is stored, or a reload is on its way; and so
everything a loaded entry works with was made of the same settings. -/
def Follows (w : World) : Prop :=
  match w.phase with
  | .notLoaded | .unloading => True
  | .connecting data xml =>
    (data.get = w.stored.data.get ∧ xml.get = w.stored.options.get) ∨ 0 < w.reloads
  | .preloading data xml switched =>
    (data.get = w.stored.data.get ∧ xml.get = w.stored.options.get ∧
      switched.get = w.stored.options.get ∧ snmpEnabled switched = true) ∨ 0 < w.reloads
  | .forwarding | .loaded =>
    ∃ runtime, w.runtimeData = some runtime ∧ (MadeOf runtime runtime.settings ∨ 0 < w.reloads)

end World

/-- The options are not changed while a set-up waits that has taken some of them. -/
def Calm : Event → World → Prop
  | .storeOptions options, w => w.waiting = true → options.get = w.stored.options.get
  | _, _ => True

namespace World

/-- Nothing is on its way. -/
def Quiet (w : World) : Prop := w.listeners = 0 ∧ w.reloads = 0

variable {w w' : World}

lemma Notices.update (h : w.Notices) {settings : Settings} {renamed : Bool} {reloads : ℕ}
    (hle : w.reloads ≤ reloads) :
    { w.asyncUpdateEntry settings renamed with reloads := reloads }.Notices := by
  unfold Notices at h ⊢
  rcases hp : w.phase with _ | ⟨data, xml⟩ | ⟨data, xml, switched⟩ | _ | _ | _ <;>
    simp only [asyncUpdateEntry, hp] at h ⊢
  all_goals
    have hl : w.listening = true := by simp [listening, hp]
    obtain ⟨runtime, hr, hcur⟩ := h
    refine ⟨runtime, hr, ?_⟩
    by_cases hsame : settings.same w.stored = true
    · have hs := same_iff.mp hsame
      rcases hcur with hcur | hcur | hcur
      · exact .inl ⟨hcur.1.trans hs.1.symm, hcur.2.trans hs.2.symm⟩
      · refine .inr (.inl ?_)
        split <;> omega
      · exact .inr (.inr (by omega))
    · refine .inr (.inl ?_)
      rw [if_pos ⟨hl, .inl (by simpa using hsame)⟩]
      exact Nat.succ_pos _

lemma Follows.update (h : w.Follows) {settings : Settings} {renamed : Bool} {reloads : ℕ}
    (hle : w.reloads ≤ reloads)
    (hwaits : w.waiting = true → Alike settings w.stored ∨ w.reloads < reloads) :
    { w.asyncUpdateEntry settings renamed with reloads := reloads }.Follows := by
  have hgrow : 0 < w.reloads → 0 < reloads := fun h => h.trans_le hle
  unfold Follows at h ⊢
  rcases hp : w.phase with _ | ⟨data, xml⟩ | ⟨data, xml, switched⟩ | _ | _ | _ <;>
    simp only [asyncUpdateEntry, hp] at h ⊢
  · have hl : w.waiting = true := by simp [waiting, hp]
    rcases hwaits hl with hs | hlt
    · rcases h with ⟨hd, hx⟩ | h
      · exact .inl ⟨hd.trans hs.1.symm, hx.trans hs.2.symm⟩
      · exact .inr (hgrow h)
    · exact .inr (Nat.zero_lt_of_lt hlt)
  · have hl : w.waiting = true := by simp [waiting, hp]
    rcases hwaits hl with hs | hlt
    · rcases h with ⟨hd, hx, hsw, hon⟩ | h
      · exact .inl ⟨hd.trans hs.1.symm, hx.trans hs.2.symm, hsw.trans hs.2.symm, hon⟩
      · exact .inr (hgrow h)
    · exact .inr (Nat.zero_lt_of_lt hlt)
  all_goals
    obtain ⟨runtime, hr, hmade⟩ := h
    exact ⟨runtime, hr, hmade.imp id hgrow⟩

lemma Follows.beginSetup (w : World) : w.beginSetup.Follows := .inl ⟨rfl, rfl⟩

lemma Notices.finishSetup (w : World) (data xml switched : Mapping) (snmp : Option Mapping) :
    (w.finishSetup data xml switched snmp).Notices := ⟨_, rfl, .inl ⟨rfl, rfl⟩⟩

lemma Follows.finishSetup (w : World) {data xml switched : Mapping} {snmp : Option Mapping}
    (h : MadeOf ⟨data, xml, switched, snmp, w.stored⟩ w.stored ∨ 0 < w.reloads) :
    (w.finishSetup data xml switched snmp).Follows := ⟨_, rfl, h⟩

lemma Notices.schedule (h : w.Notices) (listeners : ℕ) :
    { w with listeners := listeners, reloads := w.reloads + 1 }.Notices := by
  unfold Notices at h ⊢
  rcases hp : w.phase with _ | ⟨data, xml⟩ | ⟨data, xml, switched⟩ | _ | _ | _ <;>
    simp only [hp] at h ⊢
  all_goals
    obtain ⟨runtime, hr, -⟩ := h
    exact ⟨runtime, hr, .inr (.inr (Nat.succ_pos _))⟩

lemma Follows.schedule (h : w.Follows) (listeners : ℕ) :
    { w with listeners := listeners, reloads := w.reloads + 1 }.Follows := by
  unfold Follows at h ⊢
  rcases hp : w.phase with _ | ⟨data, xml⟩ | ⟨data, xml, switched⟩ | _ | _ | _ <;>
    simp only [hp] at h ⊢
  · exact .inr (Nat.succ_pos _)
  · exact .inr (Nat.succ_pos _)
  all_goals
    obtain ⟨runtime, hr, -⟩ := h
    exact ⟨runtime, hr, .inr (Nat.succ_pos _)⟩

lemma Notices.listener (h : w.Notices) :
    { w with listeners := w.listeners - 1 }.asyncUpdateListener.Notices := by
  unfold asyncUpdateListener
  split
  · next runtime hr =>
    split
    · next hsame =>
      unfold Notices at h ⊢
      rcases hp : w.phase with _ | ⟨data, xml⟩ | ⟨data, xml, switched⟩ | _ | _ | _ <;>
        simp only
      all_goals exact ⟨runtime, hr, .inl (same_iff.mp hsame)⟩
    · exact h.schedule _
  · next hr =>
    unfold Notices at h ⊢
    rcases hp : w.phase with _ | ⟨data, xml⟩ | ⟨data, xml, switched⟩ | _ | _ | _ <;>
      simp only [hp] at h ⊢
    all_goals
      obtain ⟨_, hr', -⟩ := h
      cases hr.symm.trans hr'

lemma Follows.listener (h : w.Follows) :
    { w with listeners := w.listeners - 1 }.asyncUpdateListener.Follows := by
  unfold asyncUpdateListener
  split
  · split
    · exact h
    · exact h.schedule _
  · exact h

lemma Notices.step (h : w.Notices) {e : Event} (hs : w.step e = some w') : w'.Notices := by
  cases step_does hs with
  | finishFlow data renamed => exact h.update (by split <;> omega)
  | storeOptions options => exact h.update le_rfl
  | rename => exact h.update le_rfl
  | listener _ => exact h.listener
  | startReload _ _ | unload _ | refused _ | setup _ | preload _ _ => trivial
  | unloaded again _ => cases again <;> trivial
  | withoutSnmp _ | preloaded _ _ => exact .finishSetup w _ _ _ _
  | forwarded ok hp =>
    rw [Notices, hp] at h
    cases ok
    · trivial
    · exact h

lemma Follows.step (h : w.Follows) {e : Event} (hcalm : Calm e w) (hs : w.step e = some w') :
    w'.Follows := by
  cases step_does hs with
  | finishFlow data renamed =>
    refine h.update (by split <;> omega) fun hwaiting => .inr ?_
    have hn : w.isLoaded = false := by
      unfold isLoaded
      split
      · next hp => simp [waiting, hp] at hwaiting
      · rfl
    rw [hn, schedulesReload]
    simp
  | storeOptions options =>
    exact h.update le_rfl fun hwaiting => .inl ⟨rfl, hcalm hwaiting⟩
  | rename => exact h.update le_rfl fun _ => .inl ⟨rfl, rfl⟩
  | listener _ => exact h.listener
  | startReload _ _ | unload _ | refused _ => trivial
  | unloaded again hp =>
    cases again
    · trivial
    · exact Follows.beginSetup _
  | setup hp => exact Follows.beginSetup w
  | preload hp hon =>
    rw [Follows, hp] at h
    exact h.imp (fun h => ⟨h.1, h.2, rfl, hon⟩) id
  | withoutSnmp hp =>
    rw [Follows, hp] at h
    exact .finishSetup w (h.imp (fun h => ⟨h.1, h.2, rfl, nofun⟩) id)
  | preloaded ok hp =>
    rw [Follows, hp] at h
    refine .finishSetup w (h.imp (fun h => ⟨h.1, h.2.1, h.2.2.1, fun options ho => ?_⟩) id)
    cases ok <;> cases ho
    exact ⟨rfl, (snmpEnabled_congr h.2.2.1).symm.trans h.2.2.2⟩
  | forwarded ok hp =>
    rw [Follows, hp] at h
    cases ok
    · trivial
    · exact h

end World

/-- Home Assistant before it sets up the entry. -/
def World.init (stored : Settings) : World := ⟨stored, .notLoaded, none, 0, 0⟩

variable {stored : Settings} {es : List Event} {w : World}

lemma notices_run (h : Run World.step (.init stored) es w) : w.Notices := by
  have hinit : (World.init stored).Notices := trivial
  exact h.invariant (I := fun _ w => w.Notices) hinit fun _ _ _ _ _ hI hs => hI.step hs

lemma follows_run (h : Run World.step (.init stored) es w)
    (hcalm : AtEach World.step (.init stored) Calm es) : w.Follows := by
  have hinit : (World.init stored).Follows := trivial
  exact h.invariant_atEach hinit (fun _ _ _ hP hI hs => hI.step hP hs) hcalm

lemma World.Notices.current (h : w.Notices) (hloaded : w.phase = .loaded) (hquiet : w.Quiet) :
    ∃ runtime, w.runtimeData = some runtime ∧ Alike runtime.settings w.stored := by
  rw [World.Notices, hloaded] at h
  obtain ⟨runtime, hr, hcur⟩ := h
  obtain ⟨hl, hre⟩ := hquiet
  refine ⟨runtime, hr, ?_⟩
  rcases hcur with hcur | hcur | hcur
  · exact hcur
  · omega
  · omega

lemma World.Follows.made (h : w.Follows) (hloaded : w.phase = .loaded) (hquiet : w.Quiet) :
    ∃ runtime, w.runtimeData = some runtime ∧ MadeOf runtime runtime.settings := by
  rw [World.Follows, hloaded] at h
  obtain ⟨runtime, hr, hmade⟩ := h
  exact ⟨runtime, hr, hmade.resolve_right (by have := hquiet.2; omega)⟩

/-- **A loaded entry works with what is stored.** Flows and set-ups interleave in any way, but the
options are not changed while a set-up waits that has taken some of them. Once no call of the
listener and no reload is on its way, the clients and coordinators of a loaded entry were made of
the data and options that are stored. -/
theorem loaded_uses_stored (h : Run World.step (.init stored) es w)
    (hcalm : AtEach World.step (.init stored) Calm es) (hloaded : w.phase = .loaded)
    (hquiet : w.Quiet) :
    ∃ runtime, w.runtimeData = some runtime ∧ MadeOf runtime w.stored := by
  obtain ⟨runtime, hr, hmade⟩ := (follows_run h hcalm).made hloaded hquiet
  obtain ⟨_, hr', hcur⟩ := (notices_run h).current hloaded hquiet
  obtain rfl := Option.some.inj (hr.symm.trans hr')
  exact ⟨runtime, hr, hmade.congr hcur⟩

def exampleData : Mapping := ⟨[("host", .text "fw")], by simp⟩

def snmpOn : Mapping := ⟨[("snmp_enabled", .bool true)], by simp⟩

/-- SNMP is switched on while the entry is loaded. -/
theorem loaded_uses_stored_snmp_on : ∃ w runtime,
    Run World.step (.init ⟨exampleData, .empty⟩) [.setup, .connected true, .forwarded true,
      .storeOptions snmpOn, .listener, .startReload, .unloaded true, .connected true,
      .preloaded true, .forwarded true] w ∧
    w.runtimeData = some runtime ∧ MadeOf runtime ⟨exampleData, snmpOn⟩ := by
  let es : List Event := [.setup, .connected true, .forwarded true, .storeOptions snmpOn, .listener,
    .startReload, .unloaded true, .connected true, .preloaded true, .forwarded true]
  have hrun : Run World.step (.init ⟨exampleData, .empty⟩) es _ := run_of_replay rfl
  obtain ⟨runtime, hr, hmade⟩ := loaded_uses_stored hrun
    (.cons rfl trivial <| .cons rfl trivial <| .cons rfl trivial <| .cons rfl nofun <|
      .cons rfl trivial <| .cons rfl trivial <| .cons rfl trivial <| .cons rfl trivial <|
      .cons rfl trivial <| .cons rfl trivial .nil) rfl ⟨rfl, rfl⟩
  exact ⟨_, runtime, hrun, hr, hmade⟩

/-! ### One reload for one flow -/

/-- What Home Assistant does by itself. -/
def Internal : Event → Prop
  | .listener | .startReload | .unloaded true | .setup | .connected _ | .preloaded _
  | .forwarded _ => True
  | .finishFlow _ _ | .storeOptions _ | .rename | .unload | .unloaded false => False

/-- How many reloads have begun. -/
def started (es : List Event) : ℕ :=
  es.countP fun
    | .startReload => true
    | _ => false

lemma started_snoc (es : List Event) (e : Event) :
    started (es ++ [e]) = started es + started [e] := List.countP_append

namespace World

/-- No call of the listener would find another setting. -/
def Unchanged (w : World) : Prop :=
  w.listeners = 0 ∨ ∀ runtime, w.runtimeData = some runtime →
    runtime.settings.same w.stored = true

/-- The one reload is still to be found necessary, or it is on its way or has begun. -/
def Once (es : List Event) (w : World) : Prop :=
  (started es = 0 ∧ w.phase = .loaded ∧ w.reloads = 0 ∧ w.listeners = 1 ∧
    ∃ runtime, w.runtimeData = some runtime ∧ runtime.settings.same w.stored = false) ∨
  (started es + w.reloads = 1 ∧ w.Unchanged)

variable {w w' : World} {es : List Event}

lemma once_asyncUpdateAndFinish (hloaded : w.phase = .loaded) (hquiet : w.Quiet)
    {runtime : RuntimeData} (hr : w.runtimeData = some runtime)
    (hcur : Alike runtime.settings w.stored) (data : Mapping) (renamed : Bool) :
    Once [] (w.asyncUpdateAndFinish data renamed) := by
  obtain ⟨hl, hre⟩ := hquiet
  have hloaded' : w.isLoaded = true := by simp [isLoaded, hloaded]
  have hlistening : w.listening = true := by simp [listening, hloaded]
  by_cases hsame : data.same w.stored.data = true
  · refine .inr ⟨?_, .inr fun runtime' hr' => ?_⟩
    · simp [started, asyncUpdateAndFinish, schedulesReload, hloaded', hsame, hre]
    · obtain rfl : runtime = runtime' := Option.some.inj (hr.symm.trans hr')
      exact same_iff.mpr ⟨hcur.1.trans (Dict.same_iff.mp hsame).symm, hcur.2⟩
  · have hdiff : ({ w.stored with data := data } : Settings).same w.stored = false := by
      simp [Settings.same, hsame]
    refine .inl ⟨rfl, hloaded, ?_, ?_, runtime, hr, ?_⟩
    · simp [asyncUpdateAndFinish, schedulesReload, hloaded', hsame, hre]
    · simp [asyncUpdateAndFinish, asyncUpdateEntry, hlistening, hdiff, hl]
    · rw [← Bool.not_eq_true, same_iff]
      intro halike
      refine hsame (Dict.same_iff.mpr ?_)
      exact halike.1.symm.trans hcur.1

lemma Once.step (h : Once es w) {e : Event} (he : Internal e) (hs : w.step e = some w') :
    Once (es ++ [e]) w' := by
  unfold Once
  rw [started_snoc]
  rcases h with ⟨hn, hp, hre, hl, runtime, hr, hdiff⟩ | ⟨hn, hsame⟩
  · -- only the call of the listener can come now
    cases step_does hs with
    | finishFlow _ _ | storeOptions _ | rename | unload _ => cases he
    | listener _ =>
      right
      have hstep : { w with listeners := w.listeners - 1 }.asyncUpdateListener =
          { w with listeners := 0, reloads := 1 } := by
        simp [asyncUpdateListener, hr, hdiff, hl, hre]
      rw [hstep, hn]
      exact ⟨rfl, .inl rfl⟩
    | startReload _ hpos => omega
    | unloaded _ hp' | setup hp' | refused hp' | preload hp' _ | withoutSnmp hp' | preloaded _ hp'
    | forwarded _ hp' =>
      rw [hp] at hp'
      cases hp'
  · right
    cases step_does hs with
    | finishFlow _ _ | storeOptions _ | rename | unload _ => cases he
    | listener hpos =>
      -- it finds what the entry was set up with
      have hall : ∀ runtime, w.runtimeData = some runtime →
          runtime.settings.same w.stored = true := by
        rcases hsame with h | h
        · omega
        · exact h
      have hstep : { w with listeners := w.listeners - 1 }.asyncUpdateListener =
          { w with listeners := w.listeners - 1 } := by
        unfold asyncUpdateListener
        split
        · next runtime hr => exact if_pos (hall runtime hr)
        · rfl
      rw [hstep]
      exact ⟨hn, .inr hall⟩
    | startReload _ hpos =>
      refine ⟨?_, hsame⟩
      have hone : started [Event.startReload] = 1 := rfl
      rw [hone]
      dsimp only
      omega
    | unloaded again _ =>
      cases again
      · cases he
      · exact ⟨hn, .inr fun runtime hr => by cases hr⟩
    | setup _ | refused _ | preload _ _ | forwarded _ _ => exact ⟨hn, hsame⟩
    | withoutSnmp _ | preloaded _ _ =>
      refine ⟨hn, .inr fun runtime hr => ?_⟩
      obtain rfl := Option.some.inj hr
      exact same_iff.mpr ⟨rfl, rfl⟩

/-- As long as something is on its way, something goes on by itself. -/
lemma exists_internal_step (hw : ¬ w.Quiet) :
    ∃ e w', Internal e ∧ w.step e = some w' := by
  by_cases hl : 0 < w.listeners
  · exact ⟨.listener, _, trivial, if_pos hl⟩
  have hre : 0 < w.reloads := by
    unfold Quiet at hw
    omega
  rcases hp : w.phase with _ | ⟨data, xml⟩ | ⟨data, xml, switched⟩ | _ | _ | _
  · exact ⟨.startReload, _, trivial, by simp only [step, hp, if_pos hre]; rfl⟩
  · exact ⟨.connected false, _, trivial, by simp only [step, hp]; rfl⟩
  · exact ⟨.preloaded false, _, trivial, by simp only [step, hp]; rfl⟩
  · exact ⟨.forwarded true, _, trivial, by simp only [step, hp]; rfl⟩
  · exact ⟨.startReload, _, trivial, by simp only [step, hp, if_pos hre]; rfl⟩
  · exact ⟨.unloaded true, _, trivial, by simp only [step, hp]; rfl⟩

end World

/-- **One flow, one reload.** Take a loaded entry of which no listener call and no reload is on its
way. A reauth or reconfigure flow ends, with new data or with the data the entry has, and then
Home Assistant goes on by itself (no other flow, option change, rename or unload), whatever comes
of the set-ups. It reloads the entry at most once, it can go on until nothing is on its way any
more, and then it has reloaded it. -/
theorem flow_reloads_once (h : Run World.step (.init stored) es w) (hloaded : w.phase = .loaded)
    (hquiet : w.Quiet) (data : Mapping) (renamed : Bool) {es' : List Event} {w' : World}
    (h' : Run World.step (w.asyncUpdateAndFinish data renamed) es' w')
    (hinternal : ∀ e ∈ es', Internal e) :
    started es' ≤ 1 ∧ (w'.Quiet → started es' = 1) ∧
      (¬ w'.Quiet → ∃ e w'', Internal e ∧ w'.step e = some w'') := by
  obtain ⟨runtime, hr, hcur⟩ := (notices_run h).current hloaded hquiet
  have honce : (∀ e ∈ es', Internal e) → World.Once es' w' := by
    refine h'.invariant (I := fun es w => (∀ e ∈ es, Internal e) → World.Once es w)
      (fun _ => World.once_asyncUpdateAndFinish hloaded hquiet hr hcur data renamed) ?_
    intro es w e w' _ hI hs hall
    exact (hI fun e he => hall e (List.mem_append_left _ he)).step
      (hall e (by simp)) hs
  refine ⟨?_, fun hq => ?_, World.exists_internal_step⟩
  · rcases honce hinternal with ⟨hn, -⟩ | ⟨hn, -⟩ <;> omega
  · obtain ⟨hl, hre⟩ := hq
    rcases honce hinternal with ⟨-, -, -, hl', -⟩ | ⟨hn, -⟩ <;> omega

/-- The password is entered again as it is, and the set-up succeeds at the second try. -/
theorem flow_reloads_once_same_password :
    let stored : Settings := ⟨exampleData, .empty⟩
    let w : World := ⟨stored, .loaded, some ⟨exampleData, .empty, .empty, none, stored⟩, 0, 0⟩
    let es' : List Event := [.startReload, .unloaded true, .connected false, .setup,
      .connected true, .forwarded true]
    Run World.step (.init stored) [.setup, .connected true, .forwarded true] w ∧
    (∃ w', Run World.step (w.asyncUpdateAndFinish exampleData false) es' w') ∧
    started es' = 1 := by
  intro stored w es'
  have hrun : Run World.step (.init stored) [.setup, .connected true, .forwarded true] w :=
    run_of_replay rfl
  obtain ⟨w', hw', hquiet⟩ : ∃ w', replay World.step (w.asyncUpdateAndFinish exampleData false)
      es' = some w' ∧ w'.Quiet := ⟨_, rfl, rfl, rfl⟩
  have hrun' := run_of_replay hw'
  exact ⟨hrun, ⟨w', hrun'⟩, (flow_reloads_once hrun rfl ⟨rfl, rfl⟩ exampleData false hrun'
    (by simp [es', Internal])).2.1 hquiet⟩

end SophosFw.Reload
