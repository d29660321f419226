import Mathlib.Data.List.Basic
import Mathlib.Data.List.Induction
import Mathlib.Data.List.Nodup
import Mathlib.Tactic.Common

/-!
Dictionaries that remember the order of insertion.

A dictionary is a list of pairs in which no key comes twice; the proof of that is part of
the value. Assigning to a key that is there replaces the value where it stands, assigning to
a new one appends it.
-/

namespace SophosFw.PyDict

variable {κ α : Type*}

section Entries

variable [DecidableEq κ]

/-- Assignment on the bare entries. -/
def setEntry (k : κ) (v : α) : List (κ × α) → List (κ × α)
  | [] => [(k, v)]
  | p :: t => if p.1 = k then (k, v) :: t else p :: setEntry k v t

lemma map_fst_setEntry (k : κ) (v : α) (l : List (κ × α)) :
    (setEntry k v l).map Prod.fst =
      if k ∈ l.map Prod.fst then l.map Prod.fst else l.map Prod.fst ++ [k] := by
  induction l with
  | nil => simp [setEntry]
  | cons p t ih =>
    by_cases h : p.1 = k
    · simp [setEntry, h]
    · have h' : ¬ k = p.1 := fun e => h e.symm
      simp only [setEntry, if_neg h, List.map_cons, List.mem_cons, h', false_or, ih]
      split <;> simp

lemma nodup_setEntry (k : κ) (v : α) {l : List (κ × α)} (h : (l.map Prod.fst).Nodup) :
    ((setEntry k v l).map Prod.fst).Nodup := by
  rw [map_fst_setEntry]
  split
  · exact h
  · next hk =>
    simpa [List.nodup_append] using ⟨h, fun a b hab e => hk (by simpa using ⟨b, e ▸ hab⟩)⟩

lemma lookup_setEntry (k k' : κ) (v : α) (l : List (κ × α)) :
    (setEntry k v l).lookup k' = if k' = k then some v else l.lookup k' := by
  induction l with
  | nil =>
    by_cases h : k' = k
    · subst h; simp [setEntry]
    · simp [setEntry, List.lookup_cons, h, beq_eq_false_iff_ne.mpr h]
  | cons p t ih =>
    by_cases hp : p.1 = k
    · by_cases h : k' = k
      · subst h; simp [setEntry, hp]
      · have hb : (k' == k) = false := beq_eq_false_iff_ne.mpr h
        obtain ⟨a, b⟩ := p
        simp only at hp
        subst hp
        simp [setEntry, List.lookup_cons, hb, h]
    · obtain ⟨a, b⟩ := p
      simp only [setEntry, if_neg hp, List.lookup_cons]
      by_cases h' : k' = a
      · subst h'
        simp [hp]
      · have hb : (k' == a) = false := beq_eq_false_iff_ne.mpr h'
        simp only [hb, ih]

end Entries

/-- A Python `dict`: entries in the order of insertion, no key twice. -/
structure Dict (κ α : Type*) where
  entries : List (κ × α)
  nodup : (entries.map Prod.fst).Nodup

namespace Dict

@[ext] lemma ext {d e : Dict κ α} (h : d.entries = e.entries) : d = e := by
  cases d; cases e; simp_all

instance [DecidableEq κ] [DecidableEq α] : DecidableEq (Dict κ α) := fun _ _ =>
  decidable_of_iff _ Dict.ext_iff.symm

def empty : Dict κ α := ⟨[], List.nodup_nil⟩

def single (k : κ) (v : α) : Dict κ α := ⟨[(k, v)], List.nodup_singleton _⟩

def keys (d : Dict κ α) : List κ := d.entries.map Prod.fst

def values (d : Dict κ α) : List α := d.entries.map Prod.snd

/-- `bool(d)` is the negation of this. -/
def isEmpty (d : Dict κ α) : Bool := d.entries.isEmpty

variable [DecidableEq κ]

/-- `d.get(k)`. -/
def get (d : Dict κ α) (k : κ) : Option α := d.entries.lookup k

/-- `d[k] = v`. -/
def set (d : Dict κ α) (k : κ) (v : α) : Dict κ α :=
  ⟨setEntry k v d.entries, nodup_setEntry k v d.nodup⟩

/-- `d.pop(k, None)`. -/
def pop (d : Dict κ α) (k : κ) : Dict κ α :=
  ⟨d.entries.filter fun p => p.1 ≠ k, d.nodup.sublist (List.filter_sublist.map Prod.fst)⟩

/-- `{k: v for k, v in d.items() if p(k)}`. -/
def filterKeys (p : κ → Bool) (d : Dict κ α) : Dict κ α :=
  ⟨d.entries.filter fun e => p e.1, d.nodup.sublist (List.filter_sublist.map Prod.fst)⟩

/-- `d.update(e)`. -/
def update (d e : Dict κ α) : Dict κ α := e.entries.foldl (fun d p => d.set p.1 p.2) d

@[simp] lemma get_empty (k : κ) : (empty : Dict κ α).get k = none := rfl

@[simp] lemma get_set (d : Dict κ α) (k k' : κ) (v : α) :
    (d.set k v).get k' = if k' = k then some v else d.get k' :=
  lookup_setEntry k k' v d.entries

@[simp] lemma get_filterKeys (p : κ → Bool) (d : Dict κ α) (k : κ) :
    (d.filterKeys p).get k = if p k = true then d.get k else none := by
  obtain ⟨l, hl⟩ := d
  simp only [get, filterKeys]
  clear hl
  induction l with
  | nil => simp
  | cons e t ih =>
    obtain ⟨a, b⟩ := e
    rw [List.filter_cons, List.lookup_cons]
    by_cases hk : k = a
    · subst hk
      by_cases hp : p k = true
      · rw [if_pos hp, List.lookup_cons, if_pos hp]
        simp
      · rw [if_neg hp, ih, if_neg hp, if_neg hp]
    · have hb : (k == a) = false := beq_eq_false_iff_ne.mpr hk
      rw [hb]
      by_cases hp : p a = true
      · rw [if_pos hp, List.lookup_cons, hb]
        exact ih
      · rw [if_neg hp]
        exact ih

lemma get_pop (d : Dict κ α) (k k' : κ) :
    (d.pop k).get k' = if k' = k then none else d.get k' := by
  obtain ⟨l, hl⟩ := d
  simp only [get, pop]
  clear hl
  induction l with
  | nil => simp
  | cons p t ih =>
    obtain ⟨a, b⟩ := p
    by_cases ha : a = k
    · subst ha
      by_cases hk : k' = a
      · subst hk; simpa using ih
      · have hb : (k' == a) = false := beq_eq_false_iff_ne.mpr hk
        simpa [List.lookup_cons, hb, hk] using ih
    · by_cases hk : k' = a
      · subst hk; simp [ha]
      · have hb : (k' == a) = false := beq_eq_false_iff_ne.mpr hk
        simpa [List.lookup_cons, hb, ha] using ih

lemma get_foldl_pop (keys : List κ) (d : Dict κ α) (k : κ) :
    (keys.foldl pop d).get k = if k ∈ keys then none else d.get k := by
  induction keys generalizing d with
  | nil => simp
  | cons k' keys ih =>
    rw [List.foldl_cons, ih, get_pop]
    by_cases hk : k = k'
    · subst hk; simp
    · simp [hk]

lemma get_eq_some_iff (d : Dict κ α) {k : κ} {v : α} : d.get k = some v ↔ (k, v) ∈ d.entries := by
  obtain ⟨l, hl⟩ := d
  simp only [get]
  induction l with
  | nil => simp
  | cons p t ih =>
    obtain ⟨a, b⟩ := p
    simp only [List.map_cons, List.nodup_cons] at hl
    by_cases hk : k = a
    · subst hk
      simp only [List.lookup_cons, beq_self_eq_true, Option.some.injEq, List.mem_cons,
        Prod.mk.injEq, true_and]
      constructor
      · rintro rfl; exact Or.inl rfl
      · rintro (rfl | h)
        · rfl
        · exact absurd (List.mem_map.mpr ⟨_, h, rfl⟩) hl.1
    · have hb : (k == a) = false := beq_eq_false_iff_ne.mpr hk
      simp [List.lookup_cons, hb, hk, ih hl.2]

lemma get_isSome_iff (d : Dict κ α) {k : κ} : (d.get k).isSome ↔ k ∈ d.keys := by
  rw [Option.isSome_iff_exists]
  simp [get_eq_some_iff, keys]

lemma get_eq_none_iff (d : Dict κ α) {k : κ} : d.get k = none ↔ k ∉ d.keys := by
  rw [← get_isSome_iff]; simp

lemma entries_set_of_get_none {d : Dict κ α} {k : κ} (v : α) (h : d.get k = none) :
    (d.set k v).entries = d.entries ++ [(k, v)] := by
  have hk : k ∉ d.entries.map Prod.fst := by simpa [keys] using d.get_eq_none_iff.mp h
  change setEntry k v d.entries = _
  generalize d.entries = l at hk ⊢
  induction l with
  | nil => rfl
  | cons p t ih =>
    obtain ⟨hp, ht⟩ : k ≠ p.1 ∧ k ∉ t.map Prod.fst := by simpa using hk
    rw [setEntry, if_neg (Ne.symm hp), ih ht, List.cons_append]

lemma isEmpty_iff (d : Dict κ α) : d.isEmpty = true ↔ ∀ k, d.get k = none := by
  simp only [get_eq_none_iff, keys, isEmpty, List.isEmpty_iff]
  constructor
  · intro h k; simp [h]
  · intro h
    rcases he : d.entries with _ | ⟨⟨a, b⟩, t⟩
    · rfl
    · exact absurd (by simp [he]) (h a)

lemma not_mem_keys_of_isEmpty {d : Dict κ α} (h : d.isEmpty = true) (k : κ) : k ∉ d.keys := by
  rw [← get_eq_none_iff]
  exact d.isEmpty_iff.mp h k

lemma get_foldl_set {β : Type*} (f : κ × β → α) {l : List (κ × β)} (hl : (l.map Prod.fst).Nodup)
    (d : Dict κ α) (k : κ) :
    (l.foldl (fun d p => d.set p.1 (f p)) d).get k =
      ((l.lookup k).map fun v => f (k, v)).or (d.get k) := by
  induction l generalizing d with
  | nil => rfl
  | cons p t ih =>
    obtain ⟨a, b⟩ := p
    simp only [List.map_cons, List.nodup_cons] at hl
    rw [List.foldl_cons, ih hl.2, get_set]
    by_cases hk : k = a
    · subst hk
      have hn : t.lookup k = none := (⟨t, hl.2⟩ : Dict κ β).get_eq_none_iff.mpr hl.1
      simp [hn]
    · have hb : (k == a) = false := beq_eq_false_iff_ne.mpr hk
      simp [List.lookup_cons, hb, hk]

lemma mem_keys_foldl_set {β : Type*} (g : β → κ) (f : β → α) (l : List β) (d : Dict κ α) (k : κ) :
    k ∈ (l.foldl (fun d b => d.set (g b) (f b)) d).keys ↔ k ∈ d.keys ∨ ∃ b ∈ l, g b = k := by
  induction l generalizing d with
  | nil => simp
  | cons b l ih =>
    rw [List.foldl_cons, ih, ← get_isSome_iff, ← get_isSome_iff, get_set, List.exists_mem_cons_iff]
    by_cases hk : k = g b
    · simp [hk]
    · simp [hk, Ne.symm hk]

/-- `{k: f(k, v) for k, v in d.items()}`. -/
def mapEntries {β : Type*} (f : κ → α → β) (d : Dict κ α) : Dict κ β :=
  ⟨d.entries.map fun p => (p.1, f p.1 p.2), by simpa [Function.comp_def] using d.nodup⟩

lemma get_mapEntries {β : Type*} (f : κ → α → β) (d : Dict κ α) (k : κ) :
    (d.mapEntries f).get k = (d.get k).map (f k) := by
  obtain ⟨l, hl⟩ := d
  simp only [get, mapEntries]
  clear hl
  induction l with
  | nil => rfl
  | cons p t ih =>
    obtain ⟨a, b⟩ := p
    by_cases hk : k = a
    · subst hk
      simp
    · have hb : (k == a) = false := beq_eq_false_iff_ne.mpr hk
      simpa [List.lookup_cons, hb] using ih

lemma get_update (d e : Dict κ α) (k : κ) : (d.update e).get k = (e.get k).or (d.get k) := by
  unfold update
  rw [get_foldl_set Prod.snd e.nodup, Option.map_id']
  rfl

/-- `==`, for which the order does not matter. -/
def same [DecidableEq α] (d e : Dict κ α) : Bool :=
  (d.keys ++ e.keys).all fun k => decide (d.get k = e.get k)

lemma same_iff [DecidableEq α] {d e : Dict κ α} : d.same e = true ↔ d.get = e.get := by
  unfold same
  rw [List.all_eq_true]
  constructor
  · intro h
    funext k
    by_cases hk : k ∈ d.keys ++ e.keys
    · simpa using h k hk
    · rw [List.mem_append, not_or] at hk
      rw [d.get_eq_none_iff.mpr hk.1, e.get_eq_none_iff.mpr hk.2]
  · intro h k _
    simp [h]

section Build

variable {β : Type*}

/-- `for b in l: d[k] = v` on an empty `d`, where some of the `b` are skipped. -/
def build (f : β → Option (κ × α)) (l : List β) : Dict κ α :=
  l.foldl (fun d b =>
    match f b with
    | none => d
    | some (k, v) => d.set k v) .empty

lemma entries_build {f : β → Option (κ × α)} {l : List β}
    (h : ((l.filterMap f).map Prod.fst).Nodup) : (build f l).entries = l.filterMap f := by
  unfold build
  induction l using List.reverseRecOn with
  | nil => rfl
  | append_singleton l b ih =>
    rw [List.filterMap_append, List.map_append, List.nodup_append] at h
    rw [List.foldl_append, List.foldl_cons, List.foldl_nil, List.filterMap_append]
    rcases hb : f b with _ | ⟨k, v⟩
    · simpa [hb] using ih h.1
    · have hnew : k ∉ (l.filterMap f).map Prod.fst := fun hk => h.2.2 k hk k (by simp [hb]) rfl
      rw [← ih h.1] at hnew
      simpa [hb, ih h.1] using entries_set_of_get_none v ((get_eq_none_iff _).mpr hnew)

lemma get_build_eq_some {f : β → Option (κ × α)} {l : List β}
    (h : ((l.filterMap f).map Prod.fst).Nodup) {k : κ} {v : α} :
    (build f l).get k = some v ↔ ∃ b ∈ l, f b = some (k, v) := by
  rw [get_eq_some_iff, entries_build h, List.mem_filterMap]

/-! A loop that stores each of the `b`, under keys of their own. -/

lemma keys_build_each {k : β → κ} {v : β → α} {l : List β} (h : (l.map k).Nodup) :
    (build (fun b => some (k b, v b)) l).keys = l.map k := by
  have hmap : l.filterMap (fun b => some (k b, v b)) = l.map fun b => (k b, v b) :=
    congrFun List.filterMap_eq_map l
  have hkeys : (l.map fun b => (k b, v b)).map Prod.fst = l.map k := by simp
  rw [keys, entries_build (by rwa [hmap, hkeys]), hmap, hkeys]

lemma get_build_each {k : β → κ} {v : β → α} {l : List β} (h : (l.map k).Nodup) {b : β}
    (hb : b ∈ l) : (build (fun b => some (k b, v b)) l).get (k b) = some (v b) := by
  have hkeys : (l.filterMap fun b => some (k b, v b)).map Prod.fst = l.map k := by
    rw [List.map_filterMap]
    exact congrFun List.filterMap_eq_map l
  exact (get_build_eq_some (hkeys ▸ h)).mpr ⟨b, hb, rfl⟩

/-! A loop that stores some of the `b`, each under itself. -/

omit [DecidableEq κ] in
lemma map_fst_filterMap_self (g : κ → Option β) (v : κ → β → α) (l : List κ) :
    (l.filterMap fun k => (g k).map fun c => (k, v k c)).map Prod.fst =
      l.filter fun k => (g k).isSome := by
  induction l with
  | nil => rfl
  | cons k l ih => cases hk : g k <;> simp [hk, ih]

lemma keys_build_self (g : κ → Option β) (v : κ → β → α) {l : List κ} (hl : l.Nodup) :
    (build (fun k => (g k).map fun c => (k, v k c)) l).keys = l.filter fun k => (g k).isSome := by
  have hkeys := map_fst_filterMap_self g v l
  rw [keys, entries_build (hkeys ▸ hl.filter _), hkeys]

lemma get_build_self {g : κ → Option β} {v : κ → β → α} {l : List κ} (hl : l.Nodup) {k : κ}
    {a : α} (h : (build (fun k => (g k).map fun c => (k, v k c)) l).get k = some a) :
    ∃ c, g k = some c ∧ a = v k c := by
  have hkeys := map_fst_filterMap_self g v l
  obtain ⟨k', -, hf⟩ := (get_build_eq_some (hkeys ▸ hl.filter _)).mp h
  obtain ⟨c, hc, heq⟩ := Option.map_eq_some_iff.mp hf
  obtain ⟨rfl, rfl⟩ := Prod.mk.inj heq
  exact ⟨c, hc, rfl⟩

/-- `d.setdefault(k, v)`. -/
def setDefault (d : Dict κ α) (k : κ) (v : α) : Dict κ α := if k ∈ d.keys then d else d.set k v

lemma keys_setDefault (d : Dict κ α) (k : κ) (v : α) :
    (d.setDefault k v).keys = if k ∈ d.keys then d.keys else d.keys ++ [k] := by
  unfold setDefault
  split
  · rfl
  · next hk =>
    rw [keys, entries_set_of_get_none v (d.get_eq_none_iff.mpr hk), List.map_append]
    rfl

lemma get_setDefault (d : Dict κ α) (k k' : κ) (v : α) :
    (d.setDefault k v).get k' = (d.get k').or (if k' = k then some v else none) := by
  unfold setDefault
  split
  · next hk =>
    by_cases h : k' = k
    · obtain ⟨w, hw⟩ := Option.isSome_iff_exists.mp (d.get_isSome_iff.mpr hk)
      simp [h, hw]
    · simp [h]
  · next hk =>
    rw [get_set]
    by_cases h : k' = k
    · simp [h, d.get_eq_none_iff.mpr hk]
    · simp [h]

/-- A loop in which the first of several `b` with one key stays. -/
def buildFirst (g : β → Option κ) (v : β → α) (l : List β) : Dict κ α :=
  l.foldl (fun d b =>
    match g b with
    | none => d
    | some k => d.setDefault k (v b)) .empty

lemma eraseDups_concat (l : List κ) (k : κ) :
    (l ++ [k]).eraseDups = if k ∈ l then l.eraseDups else l.eraseDups ++ [k] := by
  rw [List.eraseDups_append]
  by_cases hk : k ∈ l <;> simp [List.removeAll, hk, List.eraseDups_cons]

lemma keys_buildFirst (g : β → Option κ) (v : β → α) (l : List β) :
    (buildFirst g v l).keys = (l.filterMap g).eraseDups := by
  unfold buildFirst
  induction l using List.reverseRecOn with
  | nil => rfl
  | append_singleton l b ih =>
    rw [List.foldl_append, List.foldl_cons, List.foldl_nil, List.filterMap_append]
    cases hb : g b with
    | none => simpa [hb] using ih
    | some k =>
      have hone : [b].filterMap g = [k] := by simp [hb]
      rw [hone, eraseDups_concat, keys_setDefault, ih]
      simp only [List.mem_eraseDups]

lemma get_buildFirst (g : β → Option κ) (v : β → α) (l : List β) (k : κ) :
    (buildFirst g v l).get k = (l.find? fun b => g b = some k).map v := by
  unfold buildFirst
  induction l using List.reverseRecOn with
  | nil => rfl
  | append_singleton l b ih =>
    rw [List.foldl_append, List.foldl_cons, List.foldl_nil, List.find?_append, Option.map_or]
    cases hb : g b with
    | none => simpa [hb] using ih
    | some k' =>
      dsimp only
      rw [get_setDefault, ih]
      congr 1
      by_cases hk : k = k'
      · simp [hb, hk]
      · simp [hb, hk, Ne.symm hk]

lemma exists_of_get_buildFirst {g : β → Option κ} {v : β → α} {l : List β} {R : β → β → Prop}
    (hrefl : ∀ b, R b b) (hl : l.Pairwise R) {k : κ} {a : α}
    (h : (buildFirst g v l).get k = some a) :
    ∃ b ∈ l, g b = some k ∧ a = v b ∧ ∀ b' ∈ l, g b' = some k → R b b' := by
  rw [get_buildFirst] at h
  obtain ⟨b, hfind, rfl⟩ := Option.map_eq_some_iff.mp h
  obtain ⟨hb, before, after, rfl, hbefore⟩ := List.find?_eq_some_iff_append.mp hfind
  refine ⟨b, by simp, of_decide_eq_true hb, rfl, fun b' hb' hk => ?_⟩
  rcases List.mem_append.mp hb' with hin | hin
  · have hno := hbefore b' hin
    simp [hk] at hno
  rcases List.mem_cons.mp hin with rfl | hin
  · exact hrefl b'
  · exact (List.pairwise_cons.mp (List.pairwise_append.mp hl).2.1).1 b' hin

end Build

end Dict

end SophosFw.PyDict
