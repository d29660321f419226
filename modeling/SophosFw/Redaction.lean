import SophosFw.PyDict
import Mathlib.Data.Rat.Defs

/-!
Redaction of nested values by key.

What is relied on of a redactor is stated as laws. The rules after them say which values it
does not tell apart, wherever these stand.
-/

namespace SophosFw.Redaction

/-- The values that diagnostics are made of. -/
inductive PyVal
  | none
  | bool (b : Bool)
  | int (n : ℤ)
  | float (x : ℚ)
  | str (s : String)
  | list (items : List PyVal)
  | tuple (items : List PyVal)
  | dict (entries : List (String × PyVal))

namespace PyVal

/-- Neither `None` nor the empty text is worth hiding. -/
def isBlank : PyVal → Bool
  | none => true
  | str s => s = ""
  | _ => false

/-- `bool(value)`. -/
def truthy : PyVal → Bool
  | none => false
  | bool b => b
  | int n => n ≠ 0
  | float x => x ≠ 0
  | str s => s ≠ ""
  | list items | tuple items => !items.isEmpty
  | dict entries => !entries.isEmpty

/-- `None`, or a value. -/
def opt {α : Type} (f : α → PyVal) : Option α → PyVal
  | Option.none => none
  | some a => f a

end PyVal

variable {redact : PyVal → PyVal} {secret : List String} {marker : PyVal}

/-- What it leaves of the value at a key of a mapping. -/
def leave (redact : PyVal → PyVal) (secret : List String) (marker : PyVal) (key : String)
    (v : PyVal) : PyVal :=
  if v.isBlank then v else if key ∈ secret then marker else redact v

/-- Every value at a secret key is replaced by the marker, in mappings and lists at any depth,
unless it is blank. -/
structure Redacts (redact : PyVal → PyVal) (secret : List String) (marker : PyVal) : Prop where
  dict : ∀ entries, redact (.dict entries) =
    .dict (entries.map fun p => (p.1, leave redact secret marker p.1 p.2))
  list : ∀ items, redact (.list items) = .list (items.map redact)
  other : ∀ v, (∀ entries, v ≠ .dict entries) → (∀ items, v ≠ .list items) → redact v = v

/-! ### What it does not tell apart -/

/-- Wherever one of these values stands, the other could stand as well. -/
structure Hidden (redact : PyVal → PyVal) (v w : PyVal) : Prop where
  isBlank : v.isBlank = w.isBlank
  redact_eq : redact v = redact w

lemma Hidden.refl (v : PyVal) : Hidden redact v v := ⟨rfl, rfl⟩

lemma Hidden.opt {α : Type} {f : α → PyVal} {g : α → α}
    (h : ∀ a, Hidden redact (f a) (f (g a))) (x : Option α) :
    Hidden redact (PyVal.opt f x) (PyVal.opt f (x.map g)) := by
  cases x with
  | none => exact .refl _
  | some a => exact h a

namespace Redacts

variable (hr : Redacts redact secret marker)

include hr

lemma redact_of_isBlank {v : PyVal} (h : v.isBlank) : redact v = v := by
  refine hr.other v ?_ ?_
  · rintro entries rfl
    cases h
  · rintro items rfl
    cases h

lemma leave_eq {v w : PyVal} (h : Hidden redact v w) (key : String) :
    leave redact secret marker key v = leave redact secret marker key w := by
  unfold leave
  rw [← h.isBlank, ← h.redact_eq]
  split
  · next hv =>
    have hw : w.isBlank := h.isBlank ▸ hv
    rw [← hr.redact_of_isBlank hv, h.redact_eq, hr.redact_of_isBlank hw]
  · rfl

lemma hidden_of_leave {es es' : List (String × PyVal)}
    (h : (es.map fun p => (p.1, leave redact secret marker p.1 p.2)) =
      es'.map fun p => (p.1, leave redact secret marker p.1 p.2)) :
    Hidden redact (.dict es) (.dict es') :=
  ⟨rfl, by rw [hr.dict, hr.dict, h]⟩

lemma hidden_dict {α : Type} {f g : α → String × PyVal} {l : List α}
    (h : ∀ a ∈ l, (f a).1 = (g a).1 ∧
      leave redact secret marker (f a).1 (f a).2 = leave redact secret marker (g a).1 (g a).2) :
    Hidden redact (.dict (l.map f)) (.dict (l.map g)) := by
  refine hr.hidden_of_leave ?_
  rw [List.map_map, List.map_map]
  exact List.map_congr_left fun a ha => Prod.ext (h a ha).1 (h a ha).2

end Redacts

lemma leave_of_secret {key : String} (hk : key ∈ secret) {v : PyVal} (hv : v.isBlank = false) :
    leave redact secret marker key v = marker := by
  rw [leave, hv, if_neg Bool.false_ne_true, if_pos hk]

/-- Replace the value at every secret key. -/
def redactBy (secret : List String) (marker : PyVal) : PyVal → PyVal
  | .dict entries => .dict (redactEntries entries)
  | .list items => .list (redactItems items)
  | v => v
where
  redactEntries : List (String × PyVal) → List (String × PyVal)
    | [] => []
    | (key, v) :: rest =>
      (key, if v.isBlank then v else if key ∈ secret then marker else redactBy secret marker v) ::
        redactEntries rest
  redactItems : List PyVal → List PyVal
    | [] => []
    | v :: rest => redactBy secret marker v :: redactItems rest

lemma redacts_redactBy (secret : List String) (marker : PyVal) :
    Redacts (redactBy secret marker) secret marker where
  dict entries := by
    rw [redactBy]
    congr 1
    induction entries with
    | nil => rfl
    | cons p entries ih => rw [redactBy.redactEntries, ih, List.map_cons, leave]
  list items := by
    rw [redactBy]
    congr 1
    induction items with
    | nil => rfl
    | cons v items ih => rw [redactBy.redactItems, ih, List.map_cons]
  other v hdict hlist := by
    cases v with
    | dict entries => exact absurd rfl (hdict entries)
    | list items => exact absurd rfl (hlist items)
    | _ => rfl

end SophosFw.Redaction
