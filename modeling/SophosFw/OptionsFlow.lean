import SophosFw.Reload
import SophosFw.Sources
import Mathlib.Data.List.Pairwise

/-!
The options: what the forms accept, and what the coordinators make of what is stored.

The set-up of an entry asks for the options in three forms, and the options flow in one. The
coordinators read them by key, with defaults and checks of their own. The two agree: polling goes
at the intervals and for the sources that were entered, and SNMP is only switched on with a
community that was tested.
-/

namespace SophosFw.OptionsFlow

open SophosFw.PyDict SophosFw.Runs SophosFw.Sources
open SophosFw.Coordinator (OptionValue Tier Endpoint tierIntervalKeys)
open SophosFw.Reload (Mapping snmpEnabled)

/-- What a field asks for. -/
inductive Check
  | bool
  | text
  | range (low high : ℕ)
  deriving DecidableEq

/-- The schema of a field lets this value through. -/
def Check.accepts : Check → OptionValue → Bool
  | .bool, .bool _ => true
  | .text, .text _ => true
  | .range low high, .int n => low ≤ n && n ≤ high
  | _, _ => false

structure Field where
  key : String
  default : OptionValue
  check : Check
  deriving DecidableEq

/-- A field, or a section of fields. -/
inductive Item
  | field (f : Field)
  | section (name : String) (fields : List Field)

namespace Item

def key : Item → String
  | field f => f.key
  | .section name _ => name

def fields : Item → List Field
  | field f => [f]
  | .section _ fields => fields

end Item

abbrev Form := List Item

def Form.fields (form : Form) : List Field := form.flatMap Item.fields

/-- `_snmp_fields`. -/
def snmpFields : List Field :=
  [⟨"snmp_enabled", .bool false, .bool⟩, ⟨"snmp_community", .text "public", .text⟩]

/-- `_write_fields`. -/
def writeFields : List Field := [⟨"write_access", .bool false, .bool⟩]

/-- The fields of a tier: its interval, and its sources with whether they need SNMP. -/
def tierFields (snmpEnabled : Bool) (interval : String) (default low high : ℕ)
    (toggles : List (String × Bool × Bool)) : List Field :=
  ⟨interval, .int default, .range low high⟩ ::
    (toggles.filter fun t => snmpEnabled || !t.2.2).map fun t => ⟨t.1, .bool t.2.1, .bool⟩

/-- `_polling_sections`. -/
def pollingSections (snmpEnabled : Bool) : Form :=
  [.section "realtime" (tierFields snmpEnabled "interval_realtime" 30 10 300
    [("poll_xml_interfaces", true, false), ("poll_snmp_stats", true, true),
     ("poll_snmp_services", true, true), ("poll_snmp_traffic", true, true)]),
   .section "fast" (tierFields snmpEnabled "interval_fast" 120 60 600
    [("poll_snmp_tunnels", true, true), ("poll_snmp_ha", false, true),
     ("poll_snmp_wifi", true, true), ("poll_snmp_poe", true, true)]),
   .section "operative" (tierFields snmpEnabled "interval_operative" 600 60 3600
    [("poll_xml_fw_rules", true, false), ("poll_xml_wireless", false, false),
     ("poll_snmp_health", true, true)]),
   .section "static" (tierFields snmpEnabled "interval_static" 1800 300 86400
    [("poll_xml_dhcp", true, false), ("poll_xml_webfilter", true, false),
     ("poll_xml_backup", false, false), ("poll_snmp_licenses", true, true)])]

/-- The form of the options flow. -/
def optionsForm : Form :=
  (snmpFields ++ writeFields).map Item.field ++ pollingSections true

/-- A value, or the values of a section. -/
inductive Entered
  | value (v : OptionValue)
  | values (d : Mapping)

/-- `_flatten`. -/
def flatten (userInput : Dict String Entered) : Mapping :=
  userInput.entries.foldl (fun flat p =>
    match p.2 with
    | .values d => flat.update d
    | .value v => flat.set p.1 v) .empty

def Field.Accepts (f : Field) (d : Mapping) : Prop :=
  ∃ v, d.get f.key = some v ∧ f.check.accepts v

/-- What the schema of some fields lets through. -/
structure FieldsAccept (fields : List Field) (d : Mapping) : Prop where
  keys : ∀ key, key ∈ d.keys ↔ key ∈ fields.map Field.key
  accepts : ∀ f ∈ fields, f.Accepts d

def Item.Accepts (item : Item) (userInput : Dict String Entered) : Prop :=
  match item with
  | .field f => ∃ v, userInput.get f.key = some (.value v) ∧ f.check.accepts v
  | .section name fields =>
    ∃ d, userInput.get name = some (.values d) ∧ FieldsAccept fields d

/-- What the schema of a form lets through. -/
structure FormAccepts (form : Form) (userInput : Dict String Entered) : Prop where
  keys : ∀ key, key ∈ userInput.keys ↔ key ∈ form.map Item.key
  accepts : ∀ item ∈ form, item.Accepts userInput

/-- No two fields of a form have one key. -/
def Form.Distinct (form : Form) : Prop := (form.fields.map Field.key).Nodup

/-- What one entry of the input says of a key. -/
def gives (p : String × Entered) (key : String) : Option OptionValue :=
  match p.2 with
  | .value v => if key = p.1 then some v else none
  | .values d => d.get key

/-- What was entered for a field of a form. -/
def Form.entered (form : Form) (userInput : Dict String Entered) (f : Field) :
    Option OptionValue :=
  (form.find? fun item => f ∈ item.fields).bind fun item =>
    (userInput.get item.key).bind fun x => gives (item.key, x) f.key

/-- The user entered this value for a field of this item. -/
def Item.Given (item : Item) (userInput : Dict String Entered) (f : Field) (v : OptionValue) :
    Prop :=
  ∃ x, (item.key, x) ∈ userInput.entries ∧ gives (item.key, x) f.key = some v

section Flatten

variable {form : Form} {userInput : Dict String Entered}

lemma get_foldl_gives {l : List (String × Entered)} {key : String} {v : OptionValue}
    (h : ∀ p ∈ l, gives p key = none ∨ gives p key = some v) (flat : Mapping) :
    (l.foldl (fun flat p =>
      match p.2 with
      | .values d => flat.update d
      | .value v => flat.set p.1 v) flat).get key =
      if ∃ p ∈ l, gives p key = some v then some v else flat.get key := by
  induction l generalizing flat with
  | nil => simp
  | cons p l ih =>
    rw [List.foldl_cons, ih fun q hq => h q (List.mem_cons_of_mem _ hq)]
    have hstep : (match p.2 with
        | .values d => flat.update d
        | .value v => flat.set p.1 v).get key = (gives p key).or (flat.get key) := by
      obtain ⟨name, v | d⟩ := p
      · simp only [gives, Dict.get_set]
        split <;> rfl
      · exact flat.get_update d key
    have hcons : (∃ q ∈ p :: l, gives q key = some v) ↔
        gives p key = some v ∨ ∃ q ∈ l, gives q key = some v := List.exists_mem_cons_iff ..
    rw [hstep]
    rcases h p List.mem_cons_self with hp | hp
    · rw [hp] at hcons
      simp only [reduceCtorEq, false_or] at hcons
      simp only [hp, hcons, Option.none_or]
    · rw [if_pos (hcons.mpr (.inl hp)), hp]
      split <;> rfl

lemma mem_fields_of_gives {item : Item} (ha : item.Accepts userInput) {x : Entered}
    (hx : (item.key, x) ∈ userInput.entries) {key : String} {v : OptionValue}
    (hg : gives (item.key, x) key = some v) : key ∈ item.fields.map Field.key := by
  have hget := userInput.get_eq_some_iff.mpr hx
  cases item with
  | field f =>
    obtain ⟨v', hv', -⟩ := ha
    obtain rfl : x = .value v' := Option.some.inj (hget.symm.trans hv')
    obtain ⟨rfl, -⟩ := Option.ite_none_right_eq_some.mp hg
    simp [Item.fields, Item.key]
  | «section» name fields =>
    obtain ⟨d, hd, hfields⟩ := ha
    obtain rfl : x = .values d := Option.some.inj (hget.symm.trans hd)
    exact (hfields.keys key).mp (d.get_isSome_iff.mp (Option.isSome_of_eq_some hg))

lemma Form.Distinct.eq_of_mem (hd : form.Distinct) {item item' : Item} (hi : item ∈ form)
    (hi' : item' ∈ form) {key : String} (hk : key ∈ item.fields.map Field.key)
    (hk' : key ∈ item'.fields.map Field.key) : item = item' := by
  unfold Form.Distinct Form.fields at hd
  rw [List.map_flatMap, List.nodup_flatMap] at hd
  by_contra hne
  have hsymm : Std.Symm (Function.onFun List.Disjoint
      fun item : Item => item.fields.map Field.key) := ⟨fun _ _ h => List.Disjoint.symm h⟩
  have hdisj := hd.2.forall hi hi' hne
  exact hdisj hk hk'

lemma exists_entry (h : FormAccepts form userInput) {p : String × Entered}
    (hp : p ∈ userInput.entries) : ∃ item ∈ form, item.key = p.1 := by
  have hkey : p.1 ∈ userInput.keys := List.mem_map_of_mem hp
  exact List.mem_map.mp ((h.keys p.1).mp hkey)

lemma get_flatten_item (hd : form.Distinct) (h : FormAccepts form userInput) {item : Item}
    (hi : item ∈ form) {f : Field} {v : OptionValue} (hv : item.Given userInput f v) :
    (flatten userInput).get f.key = some v := by
  obtain ⟨x, hx, hg⟩ := hv
  have hmem := mem_fields_of_gives (h.accepts item hi) hx hg
  have honly : ∀ p ∈ userInput.entries, gives p f.key = none ∨ gives p f.key = some v := by
    rintro ⟨name, y⟩ hp
    rcases hgp : gives (name, y) f.key with _ | v'
    · exact .inl rfl
    · right
      obtain ⟨item', hi', rfl⟩ := exists_entry h hp
      have hmem' := mem_fields_of_gives (h.accepts item' hi') hp hgp
      obtain rfl := hd.eq_of_mem hi hi' hmem hmem'
      have hxy : x = y := by
        have hx' := userInput.get_eq_some_iff.mpr hx
        exact Option.some.inj (hx'.symm.trans (userInput.get_eq_some_iff.mpr hp))
      rw [← hgp, ← hxy, hg]
  unfold flatten
  rw [get_foldl_gives honly, if_pos ⟨_, hx, hg⟩]

lemma exists_entered (h : FormAccepts form userInput) {item : Item} (hi : item ∈ form) {f : Field}
    (hf : f ∈ item.fields) : ∃ v, item.Given userInput f v ∧ f.check.accepts v := by
  have ha := h.accepts item hi
  cases item with
  | field f' =>
    obtain rfl := List.mem_singleton.mp hf
    obtain ⟨v, hv, hc⟩ := ha
    exact ⟨v, ⟨_, userInput.get_eq_some_iff.mp hv, if_pos rfl⟩, hc⟩
  | «section» name fields =>
    obtain ⟨d, hd, hfields⟩ := ha
    obtain ⟨v, hv, hc⟩ := hfields.accepts f hf
    exact ⟨v, ⟨_, userInput.get_eq_some_iff.mp hd, hv⟩, hc⟩

/-- **Nothing entered is lost.** -/
lemma get_flatten (hd : form.Distinct) (h : FormAccepts form userInput) {f : Field}
    (hf : f ∈ form.fields) : (flatten userInput).get f.key = form.entered userInput f := by
  obtain ⟨item', hi', hf'⟩ := List.mem_flatMap.mp hf
  rcases hfind : form.find? (fun item => f ∈ item.fields) with _ | item
  · have hno := List.find?_eq_none.mp hfind item' hi'
    simp [hf'] at hno
  · have hi := List.mem_of_find?_eq_some hfind
    have hmem : f ∈ item.fields := by simpa using List.find?_some hfind
    obtain ⟨v, hv, -⟩ := exists_entered h hi hmem
    rw [get_flatten_item hd h hi hv, Form.entered, hfind]
    obtain ⟨x, hx, hg⟩ := hv
    rw [Option.bind_some, userInput.get_eq_some_iff.mpr hx, Option.bind_some, hg]

lemma fieldsAccept_flatten (hd : form.Distinct) (h : FormAccepts form userInput) :
    FieldsAccept form.fields (flatten userInput) where
  keys key := by
    constructor
    · intro hkey
      by_contra hno
      have hnone : ∀ p ∈ userInput.entries, gives p key = none := by
        rintro ⟨name, y⟩ hp
        obtain ⟨item, hi, rfl⟩ := exists_entry h hp
        rw [Option.eq_none_iff_forall_ne_some]
        intro v hg
        have hmem := mem_fields_of_gives (h.accepts item hi) hp hg
        refine hno ?_
        rw [Form.fields, List.map_flatMap]
        exact List.mem_flatMap.mpr ⟨item, hi, hmem⟩
      have hget : (flatten userInput).get key = none := by
        unfold flatten
        rw [get_foldl_gives (v := .bool false) (fun p hp => .inl (hnone p hp)), if_neg]
        · rfl
        · rintro ⟨p, hp, hg⟩
          rw [hnone p hp] at hg
          cases hg
      exact (Dict.get_eq_none_iff _).mp hget hkey
    · intro hkey
      obtain ⟨f, hf, rfl⟩ := List.mem_map.mp hkey
      obtain ⟨item, hi, hf⟩ := List.mem_flatMap.mp hf
      obtain ⟨v, hv, -⟩ := exists_entered h hi hf
      exact Dict.get_isSome_iff _ |>.mp (Option.isSome_of_eq_some (get_flatten_item hd h hi hv))
  accepts f hf := by
    obtain ⟨item, hi, hf⟩ := List.mem_flatMap.mp hf
    obtain ⟨v, hv, hc⟩ := exists_entered h hi hf
    exact ⟨v, get_flatten_item hd h hi hv, hc⟩

end Flatten

/-- The value a form shows first. -/
def Field.shown (f : Field) (options : Mapping) : OptionValue := (options.get f.key).getD f.default

/-- The values of some fields, as they are shown. -/
def shownFields (fields : List Field) (options : Mapping) : Mapping :=
  .build (fun f => some (f.key, f.shown options)) fields

def Item.shown (item : Item) (options : Mapping) : Entered :=
  match item with
  | .field f => .value (f.shown options)
  | .section _ fields => .values (shownFields fields options)

/-- A form that is submitted as it is shown. -/
def Form.shown (form : Form) (options : Mapping) : Dict String Entered :=
  .build (fun item => some (item.key, item.shown options)) form

section Shown

variable {form : Form} {options : Mapping}

lemma fieldsAccept_shown {fields : List Field} (hd : (fields.map Field.key).Nodup)
    (h : ∀ f ∈ fields, f.check.accepts (f.shown options) = true) :
    FieldsAccept fields (shownFields fields options) where
  keys key := by rw [shownFields, Dict.keys_build_each hd]
  accepts f hf := ⟨f.shown options, Dict.get_build_each hd hf, h f hf⟩

/-- A form whose values pass their checks can be submitted as it is shown. -/
lemma formAccepts_shown (hd : form.Distinct) (hk : (form.map Item.key).Nodup)
    (h : ∀ f ∈ form.fields, f.check.accepts (f.shown options) = true) :
    FormAccepts form (form.shown options) where
  keys key := by rw [Form.shown, Dict.keys_build_each hk]
  accepts item hi := by
    have hget : (form.shown options).get item.key = some (item.shown options) :=
      Dict.get_build_each hk hi
    have hfields : ∀ f ∈ item.fields, f.check.accepts (f.shown options) = true :=
      fun f hf => h f (List.mem_flatMap.mpr ⟨item, hi, hf⟩)
    cases item with
    | field f => exact ⟨_, hget, hfields f List.mem_cons_self⟩
    | «section» name fields =>
      refine ⟨_, hget, fieldsAccept_shown ?_ hfields⟩
      unfold Form.Distinct Form.fields at hd
      rw [List.map_flatMap, List.nodup_flatMap] at hd
      exact hd.1 _ hi

lemma entered_shown (hd : form.Distinct) (hk : (form.map Item.key).Nodup) {f : Field}
    (hf : f ∈ form.fields) : form.entered (form.shown options) f = some (f.shown options) := by
  obtain ⟨item', hi', hf'⟩ := List.mem_flatMap.mp hf
  rcases hfind : form.find? (fun item => f ∈ item.fields) with _ | item
  · have hno := List.find?_eq_none.mp hfind item' hi'
    simp [hf'] at hno
  have hi := List.mem_of_find?_eq_some hfind
  have hmem : f ∈ item.fields := by simpa using List.find?_some hfind
  have hget : (form.shown options).get item.key = some (item.shown options) :=
    Dict.get_build_each hk hi
  rw [Form.entered, hfind, Option.bind_some, hget, Option.bind_some]
  cases item with
  | field g =>
    obtain rfl := List.mem_singleton.mp hmem
    exact if_pos rfl
  | «section» name fields =>
    unfold Form.Distinct Form.fields at hd
    rw [List.map_flatMap, List.nodup_flatMap] at hd
    exact Dict.get_build_each (hd.1 _ hi) hmem

end Shown

lemma optionsForm_distinct : optionsForm.Distinct := by
  unfold Form.Distinct
  decide

lemma optionsForm_items : (optionsForm.map Item.key).Nodup := by decide

lemma pollingSections_distinct (snmpEnabled : Bool) : (pollingSections snmpEnabled).Distinct := by
  unfold Form.Distinct
  cases snmpEnabled <;> decide

/-! ### The flows -/

/-- The options `async_step_polling` creates the entry with. -/
def setupOptions (snmp write : Mapping) (polling : Dict String Entered) : Mapping :=
  ((Dict.empty.update snmp).update write).update (flatten polling)

/-- What was entered in the set-up of an entry: the form for polling depends on the one for
SNMP. -/
structure SetupInput where
  snmp : Mapping
  write : Mapping
  polling : Dict String Entered
  snmp_accepted : FieldsAccept snmpFields snmp
  write_accepted : FieldsAccept writeFields write
  polling_accepted : FormAccepts (pollingSections (snmpEnabled snmp)) polling

def SetupInput.options (input : SetupInput) : Mapping :=
  setupOptions input.snmp input.write input.polling

/-- What was entered for a field. -/
def SetupInput.entered (input : SetupInput) (f : Field) : Option OptionValue :=
  if f ∈ snmpFields then input.snmp.get f.key
  else if f ∈ writeFields then input.write.get f.key
  else (pollingSections (snmpEnabled input.snmp)).entered input.polling f

/-- What was entered in the form of the options flow. -/
abbrev OptionsInput := { userInput : Dict String Entered // FormAccepts optionsForm userInput }

def OptionsInput.flat (input : OptionsInput) : Mapping := flatten input.1

inductive FlowStatus
  /-- Its form is open and shows these values, with the defaults of what is missing. -/
  | form (shown : Mapping)
  /-- It waits for the test of SNMP at this host, with the options as they were. -/
  | testing (host : String) (options : Mapping) (input : OptionsInput)
  | finished

/-- A config entry and its options flows. -/
structure World where
  host : String
  options : Mapping
  flows : List FlowStatus
  /-- The hosts and communities with which SNMP was reached. -/
  tested : List (String × Option OptionValue)
  /-- What was entered for each field, in the form that was stored last. -/
  entered : Field → Option OptionValue

inductive Event
  | init
  | submit (flow : ℕ) (input : OptionsInput)
  /-- `async_test_snmp_connection` ends, with an error or without. -/
  | tested (flow : ℕ) (ok : Bool)
  /-- Another flow stores another address. -/
  | reconfigured (host : String)

namespace World

/-- `async_create_entry` of the options flow. -/
def store (w : World) (i : ℕ) (options : Mapping) (input : OptionsInput) : World :=
  { w with
    options := options.update input.flat
    flows := w.flows.set i .finished
    entered := optionsForm.entered input.1 }

/-- What a submitted form leads to in `async_step_init`. -/
def submit (w : World) (i : ℕ) (input : OptionsInput) : World :=
  let flat := input.flat
  let snmpChanged := !snmpEnabled w.options ||
    decide (flat.get "snmp_community" ≠ w.options.get "snmp_community")
  if snmpEnabled flat && snmpChanged then
    { w with flows := w.flows.set i (.testing w.host w.options input) }
  else w.store i w.options input

def step (w : World) : Event → Option World
  | .init => some { w with flows := w.flows ++ [.form w.options] }
  | .submit i input =>
    match w.flows[i]? with
    | some (.form _) => some (w.submit i input)
    | _ => none
  | .tested i ok =>
    match w.flows[i]? with
    | some (.testing host options input) =>
      if ok then
        let tested := w.tested ++ [(host, input.flat.get "snmp_community")]
        some { w.store i options input with tested := tested }
      else
        -- shown again, entered values first
        some { w with flows := w.flows.set i (.form (options.update input.flat)) }
    | _ => none
  | .reconfigured host => some { w with host := host }

/-- These values are not stored before SNMP is tested. -/
def NeedsTest (w : World) (shown : Mapping) : Prop :=
  snmpEnabled shown = true ∧
    (snmpEnabled w.options = false ∨ shown.get "snmp_community" ≠ w.options.get "snmp_community")

/-- The entry a set-up creates; `async_step_snmp` has tested SNMP if it is switched on. -/
def created (host : String) (input : SetupInput) : World where
  host := host
  options := input.options
  flows := []
  tested :=
    if snmpEnabled input.snmp then [(host, input.snmp.get "snmp_community")] else []
  entered := input.entered

end World

/-- The fields that every form for the options asks for. -/
def commonFields : List Field := snmpFields ++ writeFields ++ (pollingSections false).fields

lemma commonFields_subset : ∀ f ∈ commonFields, f ∈ optionsForm.fields := by decide

lemma pollingSections_subset (snmpEnabled : Bool) :
    ∀ f ∈ (pollingSections snmpEnabled).fields, f ∈ optionsForm.fields := by
  cases snmpEnabled <;> decide

/-- A complete set of checked values. -/
structure Complete (options : Mapping) : Prop where
  present : ∀ f ∈ commonFields, f.Accepts options
  accepts : ∀ f ∈ optionsForm.fields, ∀ v, options.get f.key = some v → f.check.accepts v

/-- A complete set of checked values, with a tested community if SNMP is switched on. -/
structure Checked (tested : List (String × Option OptionValue)) (options : Mapping) : Prop
    extends Complete options where
  tested : snmpEnabled options = true →
    ∃ host, (host, options.get "snmp_community") ∈ tested

lemma optionsForm_keys : (optionsForm.fields.map Field.key).Nodup := optionsForm_distinct

lemma field_eq {f g : Field} (hf : f ∈ optionsForm.fields) (hg : g ∈ optionsForm.fields)
    (h : f.key = g.key) : f = g :=
  List.inj_on_of_nodup_map optionsForm_keys hf hg h

lemma get_update_of_accepts {fields : List Field} {options flat : Mapping}
    (h : FieldsAccept fields flat) {f : Field} (hf : f ∈ fields) :
    (options.update flat).get f.key = flat.get f.key := by
  obtain ⟨v, hv, -⟩ := h.accepts f hf
  rw [Dict.get_update, hv, Option.some_or]

lemma FieldsAccept.get_eq_none {fields : List Field} {d : Mapping} (h : FieldsAccept fields d)
    {key : String} (hk : key ∉ fields.map Field.key) : d.get key = none :=
  d.get_eq_none_iff.mpr fun hmem => hk ((h.keys key).mp hmem)

lemma FieldsAccept.check {fields : List Field} {d : Mapping} (h : FieldsAccept fields d)
    (hsub : ∀ f ∈ fields, f ∈ optionsForm.fields) {f : Field} (hf : f ∈ optionsForm.fields)
    {v : OptionValue} (hv : d.get f.key = some v) : f.check.accepts v := by
  have hkey := (h.keys f.key).mp (d.get_isSome_iff.mp (Option.isSome_of_eq_some hv))
  obtain ⟨g, hg, hgf⟩ := List.mem_map.mp hkey
  obtain rfl := field_eq (hsub g hg) hf hgf
  obtain ⟨v', hv', hc⟩ := h.accepts g hg
  obtain rfl : v' = v := Option.some.inj (hv'.symm.trans hv)
  exact hc

section Setup

variable (input : SetupInput)

lemma get_options (key : String) : input.options.get key =
    ((flatten input.polling).get key).or ((input.write.get key).or (input.snmp.get key)) := by
  rw [SetupInput.options, setupOptions, Dict.get_update, Dict.get_update, Dict.get_update,
    Dict.get_empty, Option.or_none]

lemma flatten_polling_accepted :
    FieldsAccept (pollingSections (snmpEnabled input.snmp)).fields (flatten input.polling) :=
  fieldsAccept_flatten (pollingSections_distinct _) input.polling_accepted

lemma get_options_snmp {key : String} (hk : key ∈ snmpFields.map Field.key) :
    input.options.get key = input.snmp.get key := by
  have hpolling : ∀ on, ∀ key ∈ snmpFields.map Field.key,
      key ∉ (pollingSections on).fields.map Field.key := by decide
  have hwrite : ∀ key ∈ snmpFields.map Field.key, key ∉ writeFields.map Field.key := by decide
  rw [get_options, (flatten_polling_accepted input).get_eq_none (hpolling _ key hk),
    input.write_accepted.get_eq_none (hwrite key hk), Option.none_or, Option.none_or]

lemma get_options_write {f : Field} (hf : f ∈ writeFields) :
    input.options.get f.key = input.write.get f.key := by
  have hpolling : ∀ on, ∀ f ∈ writeFields, f.key ∉ (pollingSections on).fields.map Field.key := by
    decide
  obtain ⟨v, hv, -⟩ := input.write_accepted.accepts f hf
  rw [get_options, (flatten_polling_accepted input).get_eq_none (hpolling _ f hf), hv,
    Option.none_or, Option.some_or]

lemma get_options_entered {f : Field} (hf : f ∈ optionsForm.fields) :
    input.options.get f.key = input.entered f := by
  unfold SetupInput.entered
  split
  · next hs => exact get_options_snmp input (List.mem_map_of_mem hs)
  split
  · next hw => exact get_options_write input hw
  next hs hw =>
  have hother : ∀ f ∈ optionsForm.fields, f ∉ snmpFields → f ∉ writeFields →
      f.key ∉ writeFields.map Field.key ∧ f.key ∉ snmpFields.map Field.key := by decide
  obtain ⟨hwrite, hsnmp⟩ := hother f hf hs hw
  rw [get_options, input.write_accepted.get_eq_none hwrite,
    input.snmp_accepted.get_eq_none hsnmp, Option.none_or, Option.or_none]
  by_cases hp : f ∈ (pollingSections (snmpEnabled input.snmp)).fields
  · exact get_flatten (pollingSections_distinct _) input.polling_accepted hp
  · -- a source that needs SNMP, and the form for polling did not ask for it
    have hkey : f.key ∉ (pollingSections (snmpEnabled input.snmp)).fields.map Field.key := by
      intro hmem
      obtain ⟨g, hg, hgf⟩ := List.mem_map.mp hmem
      exact hp (field_eq (pollingSections_subset _ g hg) hf hgf ▸ hg)
    have hfind : (pollingSections (snmpEnabled input.snmp)).find?
        (fun item => f ∈ item.fields) = none := by
      rw [List.find?_eq_none]
      intro item hi hmem
      exact hp (List.mem_flatMap.mpr ⟨item, hi, of_decide_eq_true hmem⟩)
    rw [(flatten_polling_accepted input).get_eq_none hkey, Form.entered, hfind]
    rfl

lemma checked_created (host : String) :
    Checked (World.created host input).tested input.options where
  present f hf := by
    have hpolling : ∀ on, ∀ f ∈ (pollingSections false).fields,
        f ∈ (pollingSections on).fields := by decide
    rw [commonFields, List.mem_append, List.mem_append] at hf
    unfold Field.Accepts
    rcases hf with (hf | hf) | hf
    · rw [get_options_snmp input (List.mem_map_of_mem hf)]
      exact input.snmp_accepted.accepts f hf
    · rw [get_options_write input hf]
      exact input.write_accepted.accepts f hf
    · obtain ⟨v, hv, hc⟩ := (flatten_polling_accepted input).accepts f (hpolling _ f hf)
      rw [get_options, hv]
      exact ⟨v, rfl, hc⟩
  accepts f hf v hv := by
    have hsnmp : ∀ f ∈ snmpFields, f ∈ optionsForm.fields := by decide
    have hwrite : ∀ f ∈ writeFields, f ∈ optionsForm.fields := by decide
    rw [get_options, Option.or_eq_some_iff] at hv
    rcases hv with hv | ⟨-, hv⟩
    · exact (flatten_polling_accepted input).check (pollingSections_subset _) hf hv
    rw [Option.or_eq_some_iff] at hv
    rcases hv with hv | ⟨-, hv⟩
    · exact input.write_accepted.check hwrite hf hv
    · exact input.snmp_accepted.check hsnmp hf hv
  tested hon := by
    have hon' : snmpEnabled input.snmp = true := by
      rw [← hon]
      unfold snmpEnabled
      rw [get_options_snmp input (by decide)]
    refine ⟨host, ?_⟩
    rw [get_options_snmp input (by decide)]
    simp [World.created, hon']

end Setup

lemma complete_update {options flat : Mapping} (h : FieldsAccept optionsForm.fields flat) :
    Complete (options.update flat) where
  present f hf := by
    have hf' := commonFields_subset f hf
    unfold Field.Accepts
    rw [get_update_of_accepts h hf']
    exact h.accepts f hf'
  accepts f hf v hv := by
    rw [get_update_of_accepts h hf] at hv
    exact h.check (fun _ hg => hg) hf hv

lemma checked_update {tested : List (String × Option OptionValue)} {options flat : Mapping}
    (h : FieldsAccept optionsForm.fields flat)
    (htested : snmpEnabled flat = true → ∃ host, (host, flat.get "snmp_community") ∈ tested) :
    Checked tested (options.update flat) where
  toComplete := complete_update h
  tested hon := by
    have hkey : ∀ key ∈ ["snmp_enabled", "snmp_community"],
        (options.update flat).get key = flat.get key := by
      intro key hk
      have hfield : ∃ f ∈ optionsForm.fields, f.key = key := by
        revert key
        decide
      obtain ⟨f, hf, rfl⟩ := hfield
      exact get_update_of_accepts h hf
    rw [hkey _ (by decide)]
    refine htested ?_
    rw [← hon]
    unfold snmpEnabled
    rw [hkey _ (by decide)]

/-! ### Every run of options flows -/

namespace World

/-- What is stored is what was entered last, complete and checked, and so is what is shown. -/
structure Inv (w : World) : Prop where
  checked : Checked w.tested w.options
  entered : ∀ f ∈ optionsForm.fields, w.options.get f.key = w.entered f
  forms : ∀ shown, .form shown ∈ w.flows → Complete shown

variable {w w' : World}

lemma inv_created (host : String) (input : SetupInput) : (created host input).Inv :=
  ⟨checked_created input host, fun _ hf => get_options_entered input hf, fun _ hs => by cases hs⟩

lemma Inv.forms_set (h : w.Inv) {i : ℕ} {flow : FlowStatus}
    (hflow : ∀ shown, flow = .form shown → Complete shown) (shown : Mapping)
    (hs : .form shown ∈ w.flows.set i flow) : Complete shown :=
  (List.mem_or_eq_of_mem_set hs).elim (h.forms shown) fun he => hflow shown he.symm

lemma Inv.store (h : w.Inv) (i : ℕ) {options : Mapping} {input : OptionsInput}
    {tested : List (String × Option OptionValue)}
    (htested : snmpEnabled input.flat = true →
      ∃ host, (host, input.flat.get "snmp_community") ∈ tested) :
    { w.store i options input with tested := tested }.Inv := by
  have hflat := fieldsAccept_flatten optionsForm_distinct input.2
  refine ⟨checked_update hflat htested, fun f hf => ?_,
    h.forms_set fun _ hs => by cases hs⟩
  have hget : (options.update input.flat).get f.key = input.flat.get f.key :=
    get_update_of_accepts hflat hf
  exact hget.trans (get_flatten optionsForm_distinct input.2 hf)

lemma Inv.submit (h : w.Inv) (i : ℕ) (input : OptionsInput) : (w.submit i input).Inv := by
  unfold World.submit
  dsimp only
  split
  · exact ⟨h.checked, h.entered, h.forms_set fun _ hs => by cases hs⟩
  · next hno =>
    refine h.store i fun hon => ?_
    -- it is not tested again, so it is on with this community already
    simp only [hon, Bool.true_and, Bool.or_eq_true, Bool.not_eq_true', decide_eq_true_eq,
      not_or, Bool.not_eq_false, not_not] at hno
    obtain ⟨hold, hsame⟩ := hno
    obtain ⟨host, hmem⟩ := h.checked.tested hold
    exact ⟨host, hsame ▸ hmem⟩

lemma Inv.step (h : w.Inv) {e : Event} (hs : w.step e = some w') : w'.Inv := by
  cases e with
  | init =>
    cases hs
    refine ⟨h.checked, h.entered, fun shown hs => ?_⟩
    rcases List.mem_append.mp hs with hs | hs
    · exact h.forms shown hs
    · cases List.mem_singleton.mp hs
      exact h.checked.toComplete
  | submit i input =>
    simp only [World.step] at hs
    split at hs <;> cases hs
    exact h.submit i input
  | tested i ok =>
    simp only [World.step] at hs
    split at hs
    · next host options input _ =>
      split at hs <;> cases hs
      · exact h.store i fun _ => ⟨host, by simp⟩
      · refine ⟨h.checked, h.entered, h.forms_set fun shown hs => ?_⟩
        cases hs
        exact complete_update (fieldsAccept_flatten optionsForm_distinct input.2)
    · cases hs
  | reconfigured host =>
    cases hs
    exact ⟨h.checked, h.entered, h.forms⟩

lemma inv_run {host : String} {input : SetupInput} {es : List Event}
    (h : Run World.step (.created host input) es w) : w.Inv :=
  Run.invariant (I := fun _ w => w.Inv) (inv_created host input)
    (fun _ _ _ _ _ hi hs => Inv.step hi hs) h

end World

/-- The entry as the coordinators read it. -/
def World.entry (w : World) : Coordinator.ConfigEntry := ⟨w.host, w.options.get⟩

/-- Every default passes its own check. -/
lemma default_accepted : ∀ f ∈ optionsForm.fields, f.check.accepts f.default := by decide

lemma exists_interval_field (tier : Tier) : ∃ low high, 5 ≤ low ∧
    ⟨(tierIntervalKeys tier).1, .int (tierIntervalKeys tier).2, .range low high⟩ ∈
      optionsForm.fields := by
  cases tier
  · exact ⟨10, 300, by decide, by decide⟩
  · exact ⟨60, 600, by decide, by decide⟩
  · exact ⟨60, 3600, by decide, by decide⟩
  · exact ⟨300, 86400, by decide, by decide⟩

lemma toggle_field : ∀ ep ∈ xmlEndpoints ++ snmpEndpoints, ∀ toggle, ep.toggle = some toggle →
    ⟨toggle, .bool ep.toggleDefault, .bool⟩ ∈ optionsForm.fields := by
  have hmem : ∀ ep ∈ xmlEndpoints ++ snmpEndpoints, ∀ toggle ∈ ep.toggle,
      (⟨toggle, .bool ep.toggleDefault, .bool⟩ : Field) ∈ optionsForm.fields := by decide
  exact fun ep hep toggle ht => hmem ep hep toggle ht

lemma accepts_range {low high : ℕ} {v : OptionValue}
    (h : (Check.range low high).accepts v = true) : ∃ n : ℤ, v = .int n ∧ low ≤ n ∧ n ≤ high := by
  cases v with
  | int n => exact ⟨n, rfl, by simpa [Check.accepts] using h⟩
  | bool _ => cases h
  | text _ => cases h

lemma accepts_bool {v : OptionValue} (h : Check.bool.accepts v = true) : ∃ b, v = .bool b := by
  cases v with
  | bool b => exact ⟨b, rfl⟩
  | int _ => cases h
  | text _ => cases h

lemma endpointConfigured_of_mem {V σ : Type} (c : Coordinator.SophosCoordinator V σ)
    {ep : Endpoint} (hep : ep ∈ c.endpoints) {toggle : String} (ht : ep.toggle = some toggle) :
    c.endpointConfigured ep.key =
      (Coordinator.readOption c.entry toggle (.bool ep.toggleDefault)).truthy := by
  have hfind : c.endpoints.find? (fun ep' => ep'.key = ep.key) = some ep := by
    rcases hx : c.endpoints.find? (fun ep' => ep'.key = ep.key) with _ | ep'
    · simpa using List.find?_eq_none.mp hx ep hep
    · have hkey : ep'.key = ep.key := by simpa using List.find?_some hx
      have hmem := List.mem_of_find?_eq_some hx
      rw [hx, List.inj_on_of_nodup_map c.keys_nodup hmem hep hkey]
  simp only [Coordinator.SophosCoordinator.endpointConfigured, hfind, ht]

section Reading

variable {w : World}

lemma Complete.shown_accepted {shown : Mapping} (h : Complete shown) {f : Field}
    (hf : f ∈ optionsForm.fields) : f.check.accepts (f.shown shown) = true := by
  unfold Field.shown
  rcases hv : shown.get f.key with _ | v
  · exact default_accepted f hf
  · exact h.accepts f hf v hv

lemma shown_interval (h : w.Inv) {tier : Tier} {low high : ℕ} (hlow : 5 ≤ low)
    (hf : ⟨(tierIntervalKeys tier).1, .int (tierIntervalKeys tier).2, .range low high⟩ ∈
      optionsForm.fields) :
    (w.options.get (tierIntervalKeys tier).1).getD (.int (tierIntervalKeys tier).2) =
      .int (Coordinator.intervals w.entry tier) := by
  obtain ⟨n, hn, hle, -⟩ := accepts_range (h.checked.shown_accepted hf)
  have hread : Coordinator.readOption w.entry (tierIntervalKeys tier).1
      (.int (tierIntervalKeys tier).2) = .int n := hn
  have hmin : ¬ n < Coordinator.minBaseInterval := by
    unfold Coordinator.minBaseInterval
    omega
  have hnat : ((n.toNat : ℕ) : ℤ) = n := by omega
  rw [Coordinator.intervals, Coordinator.intOption, hread]
  simp only [if_neg hmin, hnat]
  exact hn

lemma shown_toggle (h : w.Inv) {V σ : Type} (c : Coordinator.SophosCoordinator V σ)
    (hc : c.entry = w.entry) {ep : Endpoint} (hep : ep ∈ c.endpoints) {toggle : String}
    (ht : ep.toggle = some toggle)
    (hf : ⟨toggle, .bool ep.toggleDefault, .bool⟩ ∈ optionsForm.fields) :
    (w.options.get toggle).getD (.bool ep.toggleDefault) =
      .bool (c.endpointConfigured ep.key) := by
  obtain ⟨b, hb⟩ := accepts_bool (h.checked.shown_accepted hf)
  have hread : Coordinator.readOption c.entry toggle (.bool ep.toggleDefault) = .bool b := by
    rw [hc]
    exact hb
  rw [endpointConfigured_of_mem c hep ht, hread]
  exact hb

lemma Complete.exists_shown {shown : Mapping} (h : Complete shown) : ∃ form : OptionsInput,
    form.1 = optionsForm.shown shown ∧
    ∀ f ∈ optionsForm.fields, form.flat.get f.key = some (f.shown shown) := by
  have haccepts : FormAccepts optionsForm (optionsForm.shown shown) :=
    formAccepts_shown optionsForm_distinct optionsForm_items fun f hf => h.shown_accepted hf
  refine ⟨⟨_, haccepts⟩, rfl, fun f hf => ?_⟩
  rw [OptionsInput.flat, get_flatten optionsForm_distinct haccepts hf]
  exact entered_shown optionsForm_distinct optionsForm_items hf

lemma Complete.submit_shown {shown : Mapping} (h : Complete shown) (i : ℕ) {form : OptionsInput}
    (hflat : ∀ f ∈ optionsForm.fields, form.flat.get f.key = some (f.shown shown)) :
    (w.NeedsTest shown →
      w.submit i form = { w with flows := w.flows.set i (.testing w.host w.options form) }) ∧
    (¬ w.NeedsTest shown → w.submit i form = w.store i w.options form) := by
  have hsame : form.flat.get "snmp_community" = shown.get "snmp_community" := by
    have hfield : ⟨"snmp_community", .text "public", .text⟩ ∈ commonFields := by decide
    obtain ⟨v, hv, -⟩ := h.present _ hfield
    refine (hflat _ (commonFields_subset _ hfield)).trans ?_
    rw [Field.shown, hv, Option.getD_some]
  have henabled : snmpEnabled form.flat = snmpEnabled shown := by
    have hfield : ⟨"snmp_enabled", .bool false, .bool⟩ ∈ optionsForm.fields := by decide
    rw [snmpEnabled, hflat _ hfield]
    rfl
  have htest : (snmpEnabled form.flat && (!snmpEnabled w.options ||
      decide (form.flat.get "snmp_community" ≠ w.options.get "snmp_community"))) = true ↔
      w.NeedsTest shown := by
    simp [World.NeedsTest, hsame, henabled]
  exact ⟨fun hneeds => if_pos (htest.mpr hneeds), fun hneeds => if_neg (mt htest.mp hneeds)⟩

end Reading

section Main

variable {host : String} {input : SetupInput} {es : List Event} {w : World}

/-- A set-up with every value as it is shown. -/
def exampleSetup : SetupInput where
  snmp := shownFields snmpFields .empty
  write := shownFields writeFields .empty
  polling := (pollingSections false).shown .empty
  snmp_accepted := fieldsAccept_shown (by decide) (by decide)
  write_accepted := fieldsAccept_shown (by decide) (by decide)
  polling_accepted := formAccepts_shown (pollingSections_distinct _) (by decide) (by decide)

/-- SNMP is switched on, and polling made slower. -/
def exampleForm : OptionsInput :=
  ⟨optionsForm.shown ⟨[("snmp_enabled", .bool true), ("interval_realtime", .int 60)], by decide⟩,
    formAccepts_shown optionsForm_distinct optionsForm_items (by decide)⟩

/-- The first test of SNMP fails, the form is submitted again, and shown once more after it is
stored. -/
def exampleEvents : List Event :=
  [.init, .submit 0 exampleForm, .tested 0 false, .submit 0 exampleForm, .tested 0 true, .init]

/-- The test of SNMP fails, the form is shown again with what was entered, and another form is
opened. -/
def exampleShownAgain : List Event :=
  [.init, .submit 0 exampleForm, .tested 0 false, .init]

end Main

end SophosFw.OptionsFlow
