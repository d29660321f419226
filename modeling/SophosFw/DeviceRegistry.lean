import SophosFw.Diagnostics
import SophosFw.Memo

/-!
The firewall's entry in the device registry.

It is written whenever one of the coordinators has new data, with what is known at that moment,
unless that is what was written before. Over a run, every field holds the last value that was
known, also when later answers lack it, and the skipped writes make no difference.
-/

namespace SophosFw.DeviceRegistry

open SophosFw.Records SophosFw.Diagnostics

def MANUFACTURER : String := "Sophos"

/-- The device registry's entry. -/
structure DeviceEntry where
  manufacturer : Option String
  name : Option String
  model : Option String
  swVersion : Option String
  serialNumber : Option String
  configurationUrl : Option String

/-- What `_async_update_device` reads when it is called: the address of the config entry, and the
data of the two coordinators. -/
structure Known where
  host : String
  port : ℤ
  admin : Option AdminSettings
  device : Option DeviceInfo

/-- `device_snapshot`: the keyword arguments that are passed, in the order of their names. -/
structure Snapshot where
  host : String
  port : ℤ
  details : List (String × String)
  deriving DecidableEq

/-- Python takes an empty text for no text. -/
def truthy (text : Option String) : Option String := text.filter fun t => t ≠ ""

namespace Known

variable (k : Known)

/-- `(admin.hostname if admin else None) or (device.name if device else None)` -/
def name : Option String :=
  (truthy (k.admin.bind AdminSettings.hostname)).or (truthy (k.device.bind DeviceInfo.name))

def model : Option String := truthy (k.device.bind DeviceInfo.model)

def swVersion : Option String := truthy (k.device.bind DeviceInfo.firmware)

def serialNumber : Option String := truthy (k.device.bind DeviceInfo.serial)

end Known

/-- A device that is not in the registry yet is named after the host while no name is known. -/
def nameDetail (k : Known) (entry : Option DeviceEntry) : Option String :=
  k.name.or (if entry.isNone then some k.host else none)

/-- The snapshot of a call. -/
def snapshotOf (k : Known) (entry : Option DeviceEntry) : Snapshot where
  host := k.host
  port := k.port
  details := [("model", k.model), ("name", nameDetail k entry), ("serial_number", k.serialNumber),
    ("sw_version", k.swVersion)].filterMap fun p => p.2.map (p.1, ·)

/-- `registry.async_get_or_create`: a field that is not passed is left as it is. -/
def getOrCreate (s : Snapshot) (entry : Option DeviceEntry) : Option DeviceEntry :=
  some {
    manufacturer := some MANUFACTURER
    name := (s.details.lookup "name").or (entry.bind DeviceEntry.name)
    model := (s.details.lookup "model").or (entry.bind DeviceEntry.model)
    swVersion := (s.details.lookup "sw_version").or (entry.bind DeviceEntry.swVersion)
    serialNumber := (s.details.lookup "serial_number").or (entry.bind DeviceEntry.serialNumber)
    configurationUrl := some s!"https://{s.host}:{s.port}" }

/-- The registry's entry, with `runtime_data.device_snapshot`. -/
abbrev State := Memo.Memory (Option DeviceEntry) Snapshot

/-- A call of `_async_update_device`, or a new set-up, whose runtime data has no snapshot. -/
abbrev Event := Memo.Event Known

/-- `_async_update_device` -/
def updateDevice : State → Event → State := Memo.step snapshotOf getOrCreate

/-- `_async_update_device` without the snapshot. -/
def updateAlways : Option DeviceEntry → Event → Option DeviceEntry :=
  Memo.plainStep snapshotOf getOrCreate

lemma getOrCreate_idem (s : Snapshot) (entry : Option DeviceEntry) :
    getOrCreate s (getOrCreate s entry) = getOrCreate s entry := by
  have again (a b : Option String) : a.or (a.or b) = a.or b := by cases a <;> rfl
  simp only [getOrCreate, Option.bind_some, again]

lemma lookup_details (k : Known) (entry : Option DeviceEntry) :
    (snapshotOf k entry).details.lookup "name" = nameDetail k entry ∧
    (snapshotOf k entry).details.lookup "model" = k.model ∧
    (snapshotOf k entry).details.lookup "sw_version" = k.swVersion ∧
    (snapshotOf k entry).details.lookup "serial_number" = k.serialNumber := by
  unfold snapshotOf
  dsimp only
  cases k.model <;> cases nameDetail k entry <;> cases k.serialNumber <;> cases k.swVersion <;>
    simp [List.lookup_cons]

/-! ### What the registry says -/

/-- The last call of a run in which something is known, and what it is. -/
def latest {α : Type} (f : Known → Option α) (es : List Event) : Option α :=
  es.reverse.findSome? fun e => match e with
    | .input k => f k
    | .forget => none

lemma latest_snoc {α : Type} (f : Known → Option α) (es : List Event) (e : Event) :
    latest f (es ++ [e]) = (match e with
      | .input k => f k
      | .forget => none).or (latest f es) := by
  unfold latest
  rw [List.reverse_append, List.reverse_singleton, List.singleton_append, List.findSome?_cons]
  cases e with
  | input k =>
    dsimp only
    cases f k <;> rfl
  | forget => rfl

/-- The host a run's first call names. -/
def firstHost : List Event → Option String
  | [] => none
  | .input k :: _ => some k.host
  | .forget :: es => firstHost es

lemma firstHost_snoc (es : List Event) (e : Event) :
    firstHost (es ++ [e]) = (firstHost es).or (firstHost [e]) := by
  induction es with
  | nil => rfl
  | cons e' es ih =>
    cases e' with
    | input k => rfl
    | forget => exact ih

lemma latest_of_no_call {α : Type} (f : Known → Option α) {es : List Event}
    (h : firstHost es = none) : latest f es = none := by
  induction es using List.reverseRecOn with
  | nil => rfl
  | append_singleton es e ih =>
    rw [firstHost_snoc, Option.or_eq_none_iff] at h
    rw [latest_snoc, ih h.1]
    cases e with
    | input k => exact absurd h.2 (by simp [firstHost])
    | forget => rfl

/-- A field that a call only changes to what it knows holds the last known value. -/
lemma field_foldl {α : Type} (p : DeviceEntry → Option α) (f : Known → Option α)
    (hp : ∀ k entry, (getOrCreate (snapshotOf k entry) entry).bind p = (f k).or (entry.bind p))
    (entry : Option DeviceEntry) (es : List Event) :
    (es.foldl updateAlways entry).bind p = (latest f es).or (entry.bind p) := by
  induction es using List.reverseRecOn with
  | nil => rfl
  | append_singleton es e ih =>
    rw [List.foldl_append, List.foldl_cons, List.foldl_nil, latest_snoc]
    cases e with
    | input k =>
      change (getOrCreate _ _).bind p = _
      rw [hp, ih, Option.or_assoc]
    | forget =>
      rw [Option.none_or]
      exact ih

lemma isNone_foldl (entry : Option DeviceEntry) (es : List Event) :
    (es.foldl updateAlways entry).isNone = (entry.isNone && (firstHost es).isNone) := by
  induction es using List.reverseRecOn with
  | nil => simp [firstHost]
  | append_singleton es e ih =>
    rw [List.foldl_append, List.foldl_cons, List.foldl_nil, firstHost_snoc]
    cases e with
    | input k => simp [updateAlways, Memo.plainStep, getOrCreate, firstHost]
    | forget =>
      rw [firstHost, firstHost, Option.or_none]
      exact ih

lemma name_foldl (entry : Option DeviceEntry) (es : List Event) :
    (es.foldl updateAlways entry).bind DeviceEntry.name =
      (latest Known.name es).or (if entry.isSome then entry.bind DeviceEntry.name
        else firstHost es) := by
  induction es using List.reverseRecOn with
  | nil => cases entry <;> rfl
  | append_singleton es e ih =>
    rw [List.foldl_append, List.foldl_cons, List.foldl_nil, latest_snoc, firstHost_snoc]
    cases e with
    | input k =>
      have hnone := isNone_foldl entry es
      change ((snapshotOf k _).details.lookup "name").or _ = _
      rw [(lookup_details k _).1, ih, nameDetail, hnone]
      cases entry with
      | some old => simp [Option.or_assoc]
      | none =>
        rcases hfirst : firstHost es with _ | host
        · simp [latest_of_no_call Known.name hfirst, firstHost]
        · simp
    | forget =>
      have hforget : firstHost [(.forget : Event)] = none := rfl
      rw [hforget, Option.or_none, Option.none_or]
      exact ih

/-- **The device registry.** Whatever the coordinators know and forget, and however often the entry
is set up again, skipping a repeated write makes no difference. Model, firmware and serial number
are the last that were known, and so is the name, which is the host's only while none was known when
the device was new. The link leads to the address of the last call. -/
theorem device_holds_what_was_known (entry : Option DeviceEntry) (es : List Event) :
    let device := (es.foldl updateDevice ⟨entry, none⟩).state
    device = es.foldl updateAlways entry ∧
    device.bind DeviceEntry.model =
      (latest Known.model es).or (entry.bind DeviceEntry.model) ∧
    device.bind DeviceEntry.swVersion =
      (latest Known.swVersion es).or (entry.bind DeviceEntry.swVersion) ∧
    device.bind DeviceEntry.serialNumber =
      (latest Known.serialNumber es).or (entry.bind DeviceEntry.serialNumber) ∧
    device.bind DeviceEntry.name = (latest Known.name es).or
      (if entry.isSome then entry.bind DeviceEntry.name else firstHost es) ∧
    device.bind DeviceEntry.configurationUrl =
      (latest (fun k => some s!"https://{k.host}:{k.port}") es).or
        (entry.bind DeviceEntry.configurationUrl) := by
  intro device
  have hdevice : device = es.foldl updateAlways entry :=
    Memo.foldl_step_state getOrCreate_idem (fun _ h => by cases h) es
  rw [hdevice]
  refine ⟨rfl, field_foldl _ _ ?_ entry es, field_foldl _ _ ?_ entry es,
    field_foldl _ _ ?_ entry es, name_foldl entry es, field_foldl _ _ ?_ entry es⟩
  · intro k entry
    rw [← (lookup_details k entry).2.1]
    rfl
  · intro k entry
    rw [← (lookup_details k entry).2.2.1]
    rfl
  · intro k entry
    rw [← (lookup_details k entry).2.2.2]
    rfl
  · intro k entry
    rfl

end SophosFw.DeviceRegistry
