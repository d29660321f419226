import Mathlib.Data.List.Find
import SophosFw.Confirmation

/-!
Reading records and writing one back.

A switch shows what the parsed mapping says of a name, and writes through a scan of the raw
elements. Both find the same record, and the record written back is read as the same mapping
with one value changed. It is the record that was read but for this value, if it has no carriage
return elsewhere.
-/

namespace SophosFw.Client

open SophosFw.PyDict SophosFw.PyText SophosFw.ElementTree SophosFw.Records SophosFw.Slot
open SophosFw.Xml (lineEnds)
open ClientM

section ByName

variable {T : Type} {name : T → String}

/-- One object into the mapping, unless its name is there. -/
def addByName (name : T → String) (result : Dict String T) (item : Option T) : Dict String T :=
  match item with
  | none => result
  | some x => if (result.get (name x)).isSome then result else result.set (name x) x

/-- The mapping with another object under a key. -/
def relabel (key : String) (y : T) (entries : List (String × T)) : List (String × T) :=
  entries.map fun p => if p.1 = key then (key, y) else p

lemma byName_eq (items : List (Option T)) :
    byName name items = items.foldl (addByName name) .empty := rfl

lemma get_foldl_addByName (key : String) (items : List (Option T)) (d : Dict String T) :
    (items.foldl (addByName name) d).get key =
      (d.get key).or ((items.find? fun item => item.map name = some key).join) := by
  induction items generalizing d with
  | nil => simp
  | cons item items ih =>
    rw [List.foldl_cons, ih]
    rcases item with _ | x
    · simp [addByName]
    · by_cases hk : name x = key
      · subst hk
        unfold addByName
        dsimp only
        split
        · next h =>
          obtain ⟨y, hy⟩ := Option.isSome_iff_exists.mp h
          simp [hy]
        · next h =>
          have hn : d.get (name x) = none := by simpa using h
          simp [hn]
      · have hget : (addByName name d (some x)).get key = d.get key := by
          unfold addByName
          dsimp only
          split
          · rfl
          · rw [Dict.get_set, if_neg (Ne.symm hk)]
        rw [hget]
        simp [hk]

lemma keys_relabel (key : String) (y : T) (entries : List (String × T)) :
    (relabel key y entries).map Prod.fst = entries.map Prod.fst := by
  unfold relabel
  rw [List.map_map]
  refine List.map_congr_left fun p _ => ?_
  by_cases h : p.1 = key <;> simp [h]

lemma relabel_of_notMem {key : String} {y : T} {entries : List (String × T)}
    (h : key ∉ entries.map Prod.fst) : relabel key y entries = entries := by
  unfold relabel
  have hid : ∀ p ∈ entries, (if p.1 = key then (key, y) else p) = p := by
    intro p hp
    have hne : p.1 ≠ key := by
      rintro rfl
      exact h (List.mem_map_of_mem hp)
    rw [if_neg hne]
  rw [List.map_congr_left hid, List.map_id']

lemma foldl_addByName_relabel {key : String} {y : T} (items : List (Option T))
    {d d' : Dict String T} (hd : d'.entries = relabel key y d.entries)
    (hkey : (d.get key).isSome = true) :
    (items.foldl (addByName name) d').entries =
      relabel key y (items.foldl (addByName name) d).entries := by
  induction items generalizing d d' with
  | nil => exact hd
  | cons item items ih =>
    rcases item with _ | x
    · exact ih hd hkey
    have hkeys : d'.keys = d.keys := by
      unfold Dict.keys
      rw [hd, keys_relabel]
    have hsome : (d'.get (name x)).isSome = (d.get (name x)).isSome := by
      rw [Bool.eq_iff_iff, Dict.get_isSome_iff, Dict.get_isSome_iff, hkeys]
    rw [List.foldl_cons, List.foldl_cons]
    by_cases h : (d.get (name x)).isSome = true
    · have hx : addByName name d (some x) = d := if_pos h
      have hx' : addByName name d' (some x) = d' := if_pos (hsome.trans h)
      rw [hx, hx']
      exact ih hd hkey
    · have hx : addByName name d (some x) = d.set (name x) x := if_neg h
      have hx' : addByName name d' (some x) = d'.set (name x) x := if_neg (hsome ▸ h)
      have hne : name x ≠ key := by
        rintro rfl
        exact h hkey
      have hn : d.get (name x) = none := by simpa using h
      have hn' : d'.get (name x) = none := by
        rw [hn] at hsome
        simpa using hsome
      rw [hx, hx']
      refine ih ?_ ?_
      · rw [Dict.entries_set_of_get_none _ hn, Dict.entries_set_of_get_none _ hn', hd]
        unfold relabel
        simp [hne]
      · rw [Dict.get_set, if_neg (Ne.symm hne)]
        exact hkey

lemma byName_replace {x y : T} (hxy : name y = name x) {l₁ : List (Option T)}
    (l₂ : List (Option T)) (hl : ∀ z, some z ∈ l₁ → name z ≠ name x) :
    (byName name (l₁ ++ some y :: l₂)).entries =
      relabel (name x) y (byName name (l₁ ++ some x :: l₂)).entries := by
  simp only [byName_eq, List.foldl_append, List.foldl_cons]
  generalize hd : l₁.foldl (addByName name) .empty = d
  have hfind : l₁.find? (fun item => item.map name = some (name x)) = none := by
    rw [List.find?_eq_none]
    rintro (_ | z) hz
    · simp
    · simpa using hl z hz
  have hn : d.get (name x) = none := by
    rw [← hd, get_foldl_addByName, hfind]
    rfl
  have hx : addByName name d (some x) = d.set (name x) x := if_neg (by simp [hn])
  have hy : addByName name d (some y) = d.set (name x) y := by
    rw [← hxy] at hn ⊢
    exact if_neg (by simp [hn])
  rw [hx, hy]
  refine foldl_addByName_relabel l₂ ?_ ?_
  · have hmem : name x ∉ d.entries.map Prod.fst := d.get_eq_none_iff.mp hn
    have hrel := relabel_of_notMem (y := y) hmem
    rw [Dict.entries_set_of_get_none _ hn, Dict.entries_set_of_get_none _ hn]
    unfold relabel at hrel ⊢
    rw [List.map_append, hrel]
    simp
  · rw [Dict.get_set, if_pos rfl]
    rfl

end ByName

/-- At most one child with this tag, and that a leaf. -/
def HasLeaf (tag : String) (e : Element) : Prop :=
  (e.findall tag).length ≤ 1 ∧ ∀ c ∈ e.findall tag, c.children = []

/-- The stripped name of a record, as the scan of `_get_record_element` has it. -/
def nameOf (e : Element) : String := strip ((e.findtext "Name").getD "")

lemma lookup_elemToDict_of_hasLeaf {tag : String} {e : Element} (h : HasLeaf tag e) :
    (elemToDict e).lookup tag = (e.find tag).map fun c => .str (c.text.getD "") := by
  obtain ⟨hlen, hleaf⟩ := h
  rw [lookup_elemToDict, Element.find_eq_head_findall]
  rcases hl : e.findall tag with _ | ⟨c, _ | ⟨c', l⟩⟩
  · rfl
  · have hc : c.children = [] := hleaf c (by simp [hl])
    simp [group, childValue, hc]
  · rw [hl] at hlen
    simp at hlen

lemma text_elemToDict {tag : String} {e : Element} (h : HasLeaf tag e) :
    text (elemToDict e) tag =
      let value := strip ((e.findtext tag).getD "")
      if value = "" then none else some value := by
  unfold text Element.findtext
  rw [lookup_elemToDict_of_hasLeaf h]
  rcases e.find tag with _ | c
  · rfl
  · rfl

lemma nameOf_received (e : Element) : nameOf e.received = lineEnds (nameOf e) := by
  rw [nameOf, nameOf, ← strip_lineEnds, Element.findtext_received]
  cases e.findtext "Name" <;> rfl

lemma nameOf_of_isStatusOnly {e : Element} (h : isStatusOnly e = true) : nameOf e = "" := by
  have hn : e.find "Name" = none := by
    unfold isStatusOnly at h
    split at h
    · next c hc =>
      have htag : c.tag = "Status" := by simpa using h
      simp [Element.find, hc, htag]
    · cases h
  simp only [nameOf, Element.findtext, hn]
  rfl

lemma hasLeaf_setChildText {tag : String} (value : String) {e : Element} (h : HasLeaf tag e) :
    HasLeaf tag (e.setChildText tag value) := by
  obtain ⟨hlen, hleaf⟩ := h
  unfold HasLeaf
  rw [e.findall_setChildText_self]
  rcases hl : e.findall tag with _ | ⟨c, l⟩
  · simp [mapFirst]
  · have hc : c.tag = tag := by
      have hmem : c ∈ e.findall tag := by simp [hl]
      simpa using (List.mem_filter.mp hmem).2
    obtain rfl : l = [] := by simpa [hl] using hlen
    simpa [mapFirst, hc, hl] using hleaf

lemma hasLeaf_setChildText_of_ne {tag t : String} (value : String) {e : Element} (ht : t ≠ tag)
    (h : HasLeaf t e) : HasLeaf t (e.setChildText tag value) := by
  unfold HasLeaf
  rw [e.findall_setChildText tag value ht]
  exact h

lemma isStatusOnly_setChildText (tag value : String) (e : Element) :
    isStatusOnly (e.setChildText tag value) = isStatusOnly e := by
  have hiff : ∀ e : Element, isStatusOnly e = true ↔ e.children.map Element.tag = ["Status"] := by
    intro e
    unfold isStatusOnly
    split
    · next c hc => simp [hc]
    · next hne =>
      simp only [Bool.false_eq_true, false_iff]
      intro h
      obtain ⟨c, hc, -⟩ := List.map_eq_singleton_iff.mp h
      exact hne c hc
  rw [Bool.eq_iff_iff, hiff, hiff, e.setChildText_tags]

lemma lookup_setChildText {tag value : String} {e : Element} (h : HasLeaf tag e)
    (hf : e.find tag ≠ none) (k : String) :
    (elemToDict (e.setChildText tag value)).lookup k =
      if k = tag then some (.str value) else (elemToDict e).lookup k := by
  by_cases hk : k = tag
  · subst hk
    obtain ⟨c, hc⟩ := Option.ne_none_iff_exists'.mp hf
    rw [if_pos rfl, lookup_elemToDict_of_hasLeaf (hasLeaf_setChildText value h),
      e.find_setChildText, hc]
    rfl
  · rw [if_neg hk, lookup_elemToDict, lookup_elemToDict, e.findall_setChildText tag value hk]

lemma nameOf_setChildText {tag value : String} (e : Element) (h : tag ≠ "Name") :
    nameOf (e.setChildText tag value) = nameOf e := by
  unfold nameOf Element.findtext
  rw [Element.find_eq_head_findall, Element.find_eq_head_findall,
    e.findall_setChildText tag value (Ne.symm h)]

/-- Nothing in the record has a carriage return, unless it is the text of this field. -/
def CleanBut (field : String) (e : Element) : Prop := (e.setChildText field "").Clean

instance (field : String) (e : Element) : Decidable (CleanBut field e) :=
  inferInstanceAs (Decidable (Element.Clean _))

lemma clean_setText_iff {c : Element} {value : String} (h : '\r' ∉ value.toList) :
    (c.setText value).Clean ↔ (c.setText "").Clean := by
  rw [Element.clean_iff, Element.clean_iff]
  simp [Element.setText, h]

lemma clean_setChildText_iff {field value : String} {e : Element} (h : '\r' ∉ value.toList) :
    (e.setChildText field value).Clean ↔ CleanBut field e := by
  have hchildren (l : List Element) :
      (∀ c ∈ mapFirst (fun c => c.tag = field) (fun c => c.setText value) l, c.Clean) ↔
        ∀ c ∈ mapFirst (fun c => c.tag = field) (fun c => c.setText "") l, c.Clean := by
    induction l with
    | nil => rfl
    | cons c l ih =>
      by_cases hc : c.tag = field
      · simp [mapFirst, hc, clean_setText_iff h]
      · simp only [mapFirst, hc, decide_false, Bool.false_eq_true, if_false, List.forall_mem_cons,
          ih]
  rw [CleanBut, Element.clean_iff, Element.clean_iff]
  exact and_congr_right fun _ => hchildren e.children

/-- The parser of the records with a tag, the value a switch shows of what it makes of them,
and the field and texts with which the value is set. -/
structure Setting (T : Type) where
  tag : String
  field : String
  name : T → String
  parse : Record → Option T
  value : T → Option Bool
  put : Bool → String
  /-- The object with another value. -/
  change : T → Bool → T

namespace Setting

variable {T : Type}

/-- What the parser and the texts have to do with each other. -/
structure Lawful (k : Setting T) : Prop where
  field_ne_name : k.field ≠ "Name"
  put_text : ∀ b, '\r' ∉ (k.put b).toList
  parse_name : ∀ r, (k.parse r).map k.name = text r "Name"
  text_field : ∀ r x, k.parse r = some x → k.value x ≠ none → text r k.field ≠ none
  parse_change : ∀ r r' b x,
    (∀ t, r'.lookup t = if t = k.field then some (.str (k.put b)) else r.lookup t) →
      k.parse r = some x → k.parse r' = some (k.change x b)
  value_change : ∀ x b, k.value (k.change x b) = some b

variable (k : Setting T)

/-- What `_get_records` and the parser make of one element. -/
def readOne (e : Element) : Option T := if isStatusOnly e then none else k.parse (elemToDict e)

/-- The value that is read from a record. -/
def reading (e : Element) : Option Bool := (k.readOne e).bind k.value

/-- The record under a name, if a value is read from it, has no carriage return but in the text of
the value. -/
def CleanUnder (l : List Element) (name : String) : Prop :=
  ∀ e, (l.find? fun e => nameOf e = name) = some e → k.reading e ≠ none → CleanBut k.field e

/-- Records with at most one name and one value each, both leaves, and no record inside. -/
structure WellFormed (l : List Element) : Prop where
  tag : ∀ e ∈ l, e.tag = k.tag
  nested : ∀ e ∈ l, ∀ c ∈ e.children, c.iter k.tag = []
  name : ∀ e ∈ l, HasLeaf "Name" e
  field : ∀ e ∈ l, HasLeaf k.field e

variable {k}

lemma byName_records (hk : k.Lawful) (l : List Element) :
    byName k.name ((((l.filter fun e => !isStatusOnly e).map elemToDict).filter
      fun record => !record.isEmpty).map k.parse) = byName k.name (l.map k.readOne) := by
  have hempty : k.parse [] = none := by
    have h := hk.parse_name []
    rw [show text [] "Name" = none from rfl] at h
    exact Option.map_eq_none_iff.mp h
  rw [byName_eq, byName_eq]
  generalize Dict.empty = d
  induction l generalizing d with
  | nil => rfl
  | cons e l ih =>
    rcases hs : isStatusOnly e with _ | _
    · rcases hr : (elemToDict e).isEmpty with _ | _
      · simp [hs, hr, readOne, ih]
      · have he : elemToDict e = [] := by simpa using hr
        simp [hs, he, readOne, hempty, addByName, ih]
    · simp [hs, readOne, addByName, ih]

lemma name_readOne (hk : k.Lawful) {e : Element} (he : HasLeaf "Name" e) :
    (k.readOne e).map k.name = if nameOf e = "" then none else some (nameOf e) := by
  unfold readOne
  rcases hs : isStatusOnly e with _ | _
  · rw [if_neg (by simp), hk.parse_name, text_elemToDict he]
    rfl
  · rw [if_pos rfl, if_pos (nameOf_of_isStatusOnly hs)]
    rfl

lemma get_byName_eq_some_iff (hk : k.Lawful) {l : List Element} (hl : k.WellFormed l)
    {key : String} {x : T} : (byName k.name (l.map k.readOne)).get key = some x ↔
      key ≠ "" ∧ ∃ e, (l.find? fun e => nameOf e = key) = some e ∧ k.readOne e = some x := by
  have hsame : ∀ e ∈ l, (decide ((k.readOne e).map k.name = some key)) =
      decide (nameOf e = key ∧ key ≠ "") := by
    intro e he
    rw [decide_eq_decide, name_readOne hk (hl.name e he)]
    by_cases hn : nameOf e = ""
    · simp [hn, eq_comm]
    · rw [if_neg hn, Option.some.injEq]
      constructor
      · rintro rfl
        exact ⟨rfl, hn⟩
      · exact And.left
  rw [byName_eq, get_foldl_addByName, Dict.get_empty, Option.none_or, List.find?_map,
    Option.join_eq_some_iff, Option.map_eq_some_iff]
  simp only [Function.comp_def]
  rw [List.find?_congr hsame]
  by_cases hkey : key = ""
  · have hnone : l.find? (fun _ => false) = none := List.find?_eq_none.mpr (by simp)
    simp [hkey, hnone]
  · simp [hkey]

lemma exists_of_get_byName (hk : k.Lawful) {l : List Element} (hl : k.WellFormed l) {key : String}
    {x : T} (h : (byName k.name (l.map k.readOne)).get key = some x) :
    key ≠ "" ∧ ∃ e, (l.find? fun e => nameOf e = key) = some e ∧ k.readOne e = some x :=
  (get_byName_eq_some_iff hk hl).mp h

lemma scanRecords_of_find {tag key : String} (hkey : key ≠ "") {l : List Element} {e : Element}
    (h : (l.find? fun e => nameOf e = key) = some e) (error : Option Element) :
    SophosClient.scanRecords tag key l error = .ok e := by
  induction l generalizing error with
  | nil => cases h
  | cons a l ih =>
    rw [SophosClient.scanRecords]
    rcases hs : isStatusOnly a with _ | _
    · rw [if_neg (by simp)]
      by_cases ha : nameOf a = key
      · obtain rfl : a = e := by simpa [ha] using h
        exact if_pos ha
      · exact (if_neg ha).trans (ih (by simpa [ha] using h) error)
    · have ha : nameOf a ≠ key := by
        rw [nameOf_of_isStatusOnly hs]
        exact Ne.symm hkey
      rw [if_pos rfl]
      exact ih (by simpa [ha] using h) _

/-- What is written for a record. -/
def sent (k : Setting T) (e : Element) (b : Bool) : Element := e.setChildText k.field (k.put b)

lemma nameOf_sent (hk : k.Lawful) (e : Element) (b : Bool) : nameOf (k.sent e b) = nameOf e :=
  nameOf_setChildText e hk.field_ne_name

lemma iter_setText (tag value : String) (c : Element) (h : c.iter tag = []) :
    (c.setText value).iter tag = [] := by
  rw [Element.iter_eq] at h ⊢
  obtain ⟨htag, hsub⟩ := List.append_eq_nil_iff.mp h
  have hne : c.tag ≠ tag := by
    intro he
    rw [if_pos he] at htag
    cases htag
  rw [Element.setText_tag, Element.setText_children, if_neg hne, hsub]
  rfl

lemma wellFormed_replace (hk : k.Lawful) {l : List Element} (hl : k.WellFormed l)
    {p : Element → Bool} {e : Element} (he : e ∈ l) (b : Bool) :
    k.WellFormed (mapFirst p (fun _ => k.sent e b) l) := by
  have hone : ∀ a ∈ mapFirst p (fun _ => k.sent e b) l, a ∈ l ∨ a = k.sent e b := by
    intro a ha
    rcases mem_mapFirst ha with hal | ⟨-, -, rfl⟩
    · exact .inl hal
    · exact .inr rfl
  refine ⟨fun a ha => ?_, fun a ha => ?_, fun a ha => ?_, fun a ha => ?_⟩
  · rcases hone a ha with hal | rfl
    · exact hl.tag a hal
    · exact hl.tag e he
  · rcases hone a ha with hal | rfl
    · exact hl.nested a hal
    · intro c hc
      rcases mem_mapFirst hc with hc | ⟨c', hc', rfl⟩
      · exact hl.nested e he c hc
      · exact iter_setText _ _ c' (hl.nested e he c' hc')
  · rcases hone a ha with hal | rfl
    · exact hl.name a hal
    · exact hasLeaf_setChildText_of_ne _ (Ne.symm hk.field_ne_name) (hl.name e he)
  · rcases hone a ha with hal | rfl
    · exact hl.field a hal
    · exact hasLeaf_setChildText _ (hl.field e he)

lemma readOne_sent (hk : k.Lawful) {e : Element} (he : HasLeaf k.field e)
    (hf : e.find k.field ≠ none) {x : T} (hx : k.readOne e = some x) (b : Bool) :
    k.readOne (k.sent e b) = some (k.change x b) := by
  unfold readOne at hx ⊢
  rw [sent, isStatusOnly_setChildText]
  rcases hs : isStatusOnly e with _ | _
  · rw [hs, if_neg (by simp)] at hx
    rw [if_neg (by simp)]
    exact hk.parse_change _ _ b x (lookup_setChildText he hf) hx
  · rw [hs, if_pos rfl] at hx
    cases hx

lemma name_of_readOne (hk : k.Lawful) {e : Element} (he : HasLeaf "Name" e) {x : T}
    (hx : k.readOne e = some x) : k.name x = nameOf e := by
  have h := name_readOne hk he
  rw [hx] at h
  by_cases hn : nameOf e = ""
  · rw [if_pos hn] at h
    cases h
  · rw [if_neg hn] at h
    simpa using h

lemma find_field_of_value (hk : k.Lawful) {e : Element} (he : HasLeaf k.field e) {x : T}
    (hx : k.readOne e = some x) (hv : k.value x ≠ none) : e.find k.field ≠ none := by
  intro hnone
  unfold readOne at hx
  split at hx
  · cases hx
  · have htext := hk.text_field _ x hx hv
    rw [text_elemToDict he, Element.findtext, hnone] at htext
    exact htext rfl

lemma byName_replace_sent (hk : k.Lawful) {l : List Element} (hl : k.WellFormed l) {key : String}
    {e : Element} (hfind : (l.find? fun e => nameOf e = key) = some e)
    (hf : e.find k.field ≠ none) {x : T} (hx : k.readOne e = some x) (b : Bool) :
    (byName k.name ((mapFirst (fun a => nameOf a = key) (fun _ => k.sent e b) l).map
      k.readOne)).entries =
      relabel key (k.change x b) (byName k.name (l.map k.readOne)).entries := by
  obtain ⟨l₁, l₂, rfl, hkey, hbefore, hmap, -⟩ := exists_split_of_find?_some hfind
  have he : e ∈ l₁ ++ e :: l₂ := by simp
  have hname : k.name x = key := by
    rw [name_of_readOne hk (hl.name e he) hx]
    simpa using hkey
  have hsent := readOne_sent hk (hl.field e he) hf hx b
  have hname' : k.name (k.change x b) = k.name x := by
    have hleaf := hasLeaf_setChildText_of_ne (k.put b) (Ne.symm hk.field_ne_name) (hl.name e he)
    rw [name_of_readOne hk hleaf hsent, name_of_readOne hk (hl.name e he) hx]
    exact nameOf_sent hk e b
  rw [hmap, List.map_append, List.map_cons, hsent, List.map_append, List.map_cons, hx, ← hname]
  refine byName_replace hname' _ fun z hz => ?_
  obtain ⟨a, ha, haz⟩ := List.mem_map.mp hz
  rw [name_of_readOne hk (hl.name a (List.mem_append_left _ ha)) haz, hname]
  simpa using hbefore a ha

end Setting

/-! ### A firewall with such records -/

/-- The rest of its answers: what stands around the records, and how it confirms an update. -/
structure Firewall {T : Type} (k : Setting T) where
  respond : List Element → Element
  confirmation : Element
  iter_respond : ∀ l, k.WellFormed l → (respond l).iter k.tag = l
  accepts : ∀ l, k.WellFormed l → LoginOk (respond l) ∧ StatusOk (respond l)
  confirms : LoginOk confirmation ∧ StatusOk confirmation ∧
    Confirmed [[k.tag, "Status"]] confirmation

namespace Firewall

variable {T : Type} {k : Setting T} (w : Firewall k)

/-- An update replaces the first record with the name of the one that is sent. -/
def serve (l : List Element) (r : Request) : List Element × HttpOutcome :=
  match r.operation with
  | .set "update" sent =>
    (mapFirst (fun e => nameOf e = nameOf sent) (fun _ => sent) l,
      .answer 200 (.document w.confirmation))
  | _ => (l, .answer 200 (.document (w.respond l)))

variable (c : SophosClient) {l : List Element}

lemma serve_get (tag : String) :
    w.serve l (c.request (.get tag)) = (l, .answer 200 (.document (w.respond l))) := rfl

lemma serve_update (sent : Element) :
    w.serve l (c.request (.set "update" sent)) =
      (mapFirst (fun e => nameOf e = nameOf sent) (fun _ => sent) l,
        .answer 200 (.document w.confirmation)) := rfl

lemma readAnswer_respond (hl : k.WellFormed l) :
    c.readAnswer (.answer 200 (.document (w.respond l))) = .ok (w.respond l) :=
  c.readAnswer_ok_iff.mpr ⟨200, rfl, .inl rfl, w.accepts l hl⟩

lemma readConfirm_confirmation (what : Message) :
    c.readConfirm what [[k.tag, "Status"]] (.answer 200 (.document w.confirmation)) = .ok () := by
  obtain ⟨hl, hs, hc⟩ := w.confirms
  have hr : c.readAnswer (.answer 200 (.document w.confirmation)) = .ok w.confirmation :=
    c.readAnswer_ok_iff.mpr ⟨200, rfl, .inl rfl, hl, hs⟩
  obtain ⟨⟨⟩, hok⟩ := (confirm_ok_iff _ what _).mpr hc
  rw [SophosClient.readConfirm, hr]
  exact hok

lemma exec_get (hk : k.Lawful) (hl : k.WellFormed l) :
    (c.getRecords k.tag >>= fun records =>
      (pure (byName k.name (records.map k.parse)) : ClientM (Dict String T))).exec w.serve l =
      ⟨l, .ok (byName k.name (l.map k.readOne)),
        [(c.request (.get k.tag), .answer 200 (.document (w.respond l)))]⟩ := by
  have h := c.exec_getRecords w.serve k.tag l
  rw [serve_get, w.readAnswer_respond c hl] at h
  rw [exec_bind_ok w.serve h, exec_pure, SophosClient.recordsOf, w.iter_respond l hl,
    k.byName_records hk]
  rfl

end Firewall

/-- A getter and a setter agree on the record under a name: what the getter reports is read from the
first record with the name; the setter sends that record with only the value changed, in the only
write, and the getter then returns the same mapping with the new value; without an element for the
value, the setter raises and writes nothing. -/
def AgreeAt {T : Type} (k : Setting T) (c : SophosClient) (get : ClientM (Dict String T))
    (set : String → Bool → ClientM Unit) (w : Firewall k) (l : List Element) (name : String)
    (b : Bool) : Prop :=
  ∃ d, (get.exec w.serve l).result = .ok d ∧ ∀ x, d.get name = some x →
    ∃ e, (l.find? fun e => nameOf e = name) = some e ∧
      (k.value x ≠ none →
        let y := (set name b).exec w.serve l
        y.result = .ok () ∧
        y.trace.map Prod.fst =
          [c.request (.get k.tag), c.request (.set "update" (e.setChildText k.field (k.put b)))] ∧
        ∃ d', (get.exec w.serve y.server).result = .ok d' ∧
          d'.entries = d.entries.map (fun p => if p.1 = name then (name, k.change x b) else p) ∧
          k.value (k.change x b) = some b) ∧
      (e.find k.field = none →
        let y := (set name b).exec w.serve l
        (∃ err, y.result = .error err ∧ err.isSophosError = true) ∧
          y.trace.map Prod.fst = [c.request (.get k.tag)])

section Agree

variable {T : Type} {k : Setting T} (c : SophosClient)

lemma exec_updateField_of_find (w : Firewall k) {l : List Element} {name : String} {e : Element}
    (hrecord : c.readRecord k.tag name (.answer 200 (.document (w.respond l))) = .ok e)
    (hf : e.find k.field ≠ none) (b : Bool) :
    (c.updateField k.tag name k.field (k.put b)).exec w.serve l =
      ⟨mapFirst (fun a => nameOf a = nameOf (k.sent e b).received)
          (fun _ => (k.sent e b).received) l,
        .ok (), [(c.request (.get k.tag), .answer 200 (.document (w.respond l))),
          (c.request (.set "update" (k.sent e b).received),
            .answer 200 (.document w.confirmation))]⟩ := by
  have hchange : changeField k.tag name k.field (k.put b) e = .ok (some (k.sent e b), ()) := by
    unfold changeField
    split
    · next h => exact absurd h hf
    · rfl
  rw [SophosClient.updateField, SophosClient.modifyRecord, exec_withSlot,
    SophosClient.exec_modifyRecordHeld]
  dsimp only
  rw [w.serve_get, hrecord]
  simp only [Except.bind, hchange, SophosClient.writeBack, w.serve_update,
    w.readConfirm_confirmation]

lemma readRecord_of_find (w : Firewall k) {l : List Element} (hl : k.WellFormed l) {name : String}
    {e : Element} (hne : name ≠ "") (hfind : (l.find? fun e => nameOf e = name) = some e) :
    c.readRecord k.tag name (.answer 200 (.document (w.respond l))) = .ok e := by
  rw [SophosClient.readRecord, w.readAnswer_respond c hl]
  change SophosClient.scanRecords k.tag name ((w.respond l).iter k.tag) none = .ok e
  rw [w.iter_respond l hl]
  exact Setting.scanRecords_of_find hne hfind none

/-- They agree if the record is read where it is sent to as it was written. -/
lemma agreeAt_of_cleanUnder (hk : k.Lawful) (w : Firewall k) {l : List Element}
    (hl : k.WellFormed l) {name : String} (hclean : k.CleanUnder l name) (b : Bool) :
    AgreeAt k c (c.getRecords k.tag >>= fun records => pure (byName k.name (records.map k.parse)))
      (fun name b => c.updateField k.tag name k.field (k.put b)) w l name b := by
  refine ⟨_, by rw [w.exec_get c hk hl], fun x hx => ?_⟩
  obtain ⟨hne, e, hfind, hread⟩ := Setting.exists_of_get_byName hk hl hx
  have he : e ∈ l := List.mem_of_find?_eq_some hfind
  have hrecord := readRecord_of_find c w hl hne hfind
  refine ⟨e, hfind, fun hv => ?_, fun hnone => ?_⟩
  · have hf := Setting.find_field_of_value hk (hl.field e he) hread hv
    have hvalue : k.reading e ≠ none := by rwa [Setting.reading, hread]
    have hsame : (k.sent e b).received = k.sent e b :=
      Element.received_eq_self_iff.mpr
        ((clean_setChildText_iff (hk.put_text b)).mpr (hclean e hfind hvalue))
    have hname : nameOf (k.sent e b) = name := by
      rw [Setting.nameOf_sent hk]
      simpa using List.find?_some hfind
    have hset := exec_updateField_of_find c w hrecord hf b
    rw [hsame, hname] at hset
    rw [hset]
    have hl' := Setting.wellFormed_replace (p := fun a => nameOf a = name) hk hl he b
    refine ⟨rfl, rfl, _, by rw [w.exec_get c hk hl'], ?_, hk.value_change x b⟩
    exact Setting.byName_replace_sent hk hl hfind hf hread b
  · have hchange : ∃ err, changeField k.tag name k.field (k.put b) e = .error err ∧
        err.isSophosError = true := by
      unfold changeField
      rw [hnone]
      exact ⟨_, rfl, rfl⟩
    obtain ⟨err, herr, hs⟩ := hchange
    dsimp only
    rw [SophosClient.updateField, SophosClient.modifyRecord, exec_withSlot,
      SophosClient.exec_modifyRecordHeld]
    dsimp only
    rw [w.serve_get, hrecord]
    simp only [Except.bind, herr]
    exact ⟨⟨err, rfl, hs⟩, rfl⟩

/-- Where they agree, the record that was written is the one that is read. -/
lemma cleanUnder_of_agreeAt (hk : k.Lawful) (w : Firewall k) {l : List Element}
    (hl : k.WellFormed l) {name : String} {b : Bool}
    (h : AgreeAt k c
      (c.getRecords k.tag >>= fun records => pure (byName k.name (records.map k.parse)))
      (fun name b => c.updateField k.tag name k.field (k.put b)) w l name b) :
    k.CleanUnder l name := by
  obtain ⟨d, hd, hagree⟩ := h
  rw [w.exec_get c hk hl] at hd
  obtain rfl := Except.ok.inj hd
  intro e hfind hvalue
  have he : e ∈ l := List.mem_of_find?_eq_some hfind
  obtain ⟨v, hv⟩ := Option.ne_none_iff_exists'.mp hvalue
  obtain ⟨x, hread, hv⟩ := Option.bind_eq_some_iff.mp hv
  have hname : nameOf e = name := by simpa using List.find?_some hfind
  have hne : name ≠ "" := by
    have hkey := Setting.name_readOne hk (hl.name e he)
    rintro rfl
    rw [if_pos hname, hread] at hkey
    cases hkey
  obtain ⟨e', hfind', hset, -⟩ :=
    hagree x ((Setting.get_byName_eq_some_iff hk hl).mpr ⟨hne, e, hfind, hread⟩)
  obtain rfl : e = e' := Option.some.inj (hfind.symm.trans hfind')
  obtain ⟨-, htrace, -⟩ := hset (by simp [hv])
  have hf := Setting.find_field_of_value hk (hl.field e he) hread (by simp [hv])
  rw [exec_updateField_of_find c w (readRecord_of_find c w hl hne hfind) hf] at htrace
  have hsame : (k.sent e b).received = e.setChildText k.field (k.put b) := by
    simpa [SophosClient.request] using htrace
  exact (clean_setChildText_iff (hk.put_text b)).mp (Element.received_eq_self_iff.mp hsame)

lemma agreeAt_iff (hk : k.Lawful) (w : Firewall k) {l : List Element} (hl : k.WellFormed l)
    (name : String) (b : Bool) :
    AgreeAt k c (c.getRecords k.tag >>= fun records => pure (byName k.name (records.map k.parse)))
      (fun name b => c.updateField k.tag name k.field (k.put b)) w l name b ↔
        k.CleanUnder l name :=
  ⟨cleanUnder_of_agreeAt c hk w hl, fun h => agreeAt_of_cleanUnder c hk w hl h b⟩

end Agree

def ruleStatus : Setting FirewallRule where
  tag := "FirewallRule"
  field := "Status"
  name := FirewallRule.name
  parse := parseFirewallRule
  value := FirewallRule.enabled
  put b := if b then "Enable" else "Disable"
  change rule b := { rule with enabled := some b }

def policyAction : Setting WebFilterPolicy where
  tag := "WebFilterPolicy"
  field := "DefaultAction"
  name := WebFilterPolicy.name
  parse := parseWebFilterPolicy
  value := WebFilterPolicy.allows
  put b := if b then "Allow" else "Deny"
  change policy b := { policy with defaultAction := some (if b then "Allow" else "Deny") }

lemma text_congr {r r' : Record} {t : String} (h : r'.lookup t = r.lookup t) :
    text r' t = text r t := by
  unfold text
  rw [h]

lemma path_congr {r r' : Record} {t : String} (h : r'.lookup t = r.lookup t) :
    path r' [t] = path r [t] := by
  simp only [path, h]

lemma ruleStatus_lawful : ruleStatus.Lawful where
  field_ne_name := by decide
  put_text b := by cases b <;> decide
  parse_name r := by
    change (parseFirewallRule r).map FirewallRule.name = text r "Name"
    unfold parseFirewallRule
    rcases text r "Name" with _ | name <;> rfl
  text_field r rule h hv := by
    intro hnone
    change parseFirewallRule r = some rule at h
    obtain ⟨name, -, rfl⟩ := Option.map_eq_some_iff.mp h
    change text r "Status" = none at hnone
    apply hv
    change equals (text r "Status") "enable" = none
    rw [hnone]
    rfl
  parse_change r r' b rule hr h := by
    change ∀ t, r'.lookup t = if t = "Status" then some (.str (if b then "Enable" else "Disable"))
      else r.lookup t at hr
    have hother : ∀ t, t ≠ "Status" → r'.lookup t = r.lookup t := by
      intro t ht
      rw [hr, if_neg ht]
    have hstatus : equals (text r' "Status") "enable" = some b := by
      unfold text
      rw [hr, if_pos rfl]
      cases b <;> decide
    change parseFirewallRule r = some rule at h
    change parseFirewallRule r' = some { rule with enabled := some b }
    obtain ⟨name, hname, rfl⟩ := Option.map_eq_some_iff.mp h
    unfold parseFirewallRule
    rw [text_congr (hother "Name" (by decide)), hname, hstatus,
      text_congr (hother "Action" (by decide)), path_congr (hother "NetworkPolicy" (by decide)),
      path_congr (hother "UserPolicy" (by decide)), text_congr (hother "PolicyType" (by decide)),
      text_congr (hother "IPFamily" (by decide))]
    rfl
  value_change _ _ := rfl

lemma policyAction_lawful : policyAction.Lawful where
  field_ne_name := by decide
  put_text b := by cases b <;> decide
  parse_name r := by
    change (parseWebFilterPolicy r).map WebFilterPolicy.name = text r "Name"
    unfold parseWebFilterPolicy
    rcases text r "Name" with _ | name <;> rfl
  text_field r policy h hv := by
    intro hnone
    change parseWebFilterPolicy r = some policy at h
    obtain ⟨name, -, rfl⟩ := Option.map_eq_some_iff.mp h
    change text r "DefaultAction" = none at hnone
    apply hv
    change (text r "DefaultAction").map _ = none
    rw [hnone]
    rfl
  parse_change r r' b policy hr h := by
    change ∀ t, r'.lookup t = if t = "DefaultAction" then
      some (.str (if b then "Allow" else "Deny")) else r.lookup t at hr
    have hname' : text r' "Name" = text r "Name" := text_congr (by rw [hr, if_neg (by decide)])
    have haction : text r' "DefaultAction" = some (if b then "Allow" else "Deny") := by
      unfold text
      rw [hr, if_pos rfl]
      cases b <;> decide
    change parseWebFilterPolicy r = some policy at h
    change parseWebFilterPolicy r' =
      some { policy with defaultAction := some (if b then "Allow" else "Deny") }
    obtain ⟨name, hname, rfl⟩ := Option.map_eq_some_iff.mp h
    unfold parseWebFilterPolicy
    rw [hname', hname, haction]
    rfl
  value_change policy b := by
    change some (decide (lower (if b then "Allow" else "Deny") = "allow")) = some b
    cases b <;> decide

/-- **When read and write agree on records.** Take a firewall with firewall rules of which each has
at most one name and at most one status, both leaves. Whatever `get_firewall_rules` reports under a
name is read from the first record with that stripped name. If it reports a status,
`set_firewall_rule_status` sends that record with only the status text changed, in the only write,
and `get_firewall_rules` then returns the same mapping with the new status under this name; if the
record has no status element, it raises and sends no write. This is so exactly where the record of
a reported status has no carriage return outside the status text. The same holds of web filter
policies and their default action. -/
theorem read_write_agree_iff (c : SophosClient) :
    (∀ (w : Firewall ruleStatus) l, ruleStatus.WellFormed l → ∀ name b,
      AgreeAt ruleStatus c c.getFirewallRules c.setFirewallRuleStatus w l name b ↔
        ruleStatus.CleanUnder l name) ∧
    ∀ (w : Firewall policyAction) l, policyAction.WellFormed l → ∀ name b,
      AgreeAt policyAction c c.getWebFilterPolicies c.setWebFilterDefaultAction w l name b ↔
        policyAction.CleanUnder l name :=
  ⟨fun w _ hl name b => agreeAt_iff c ruleStatus_lawful w hl name b,
    fun w _ hl name b => agreeAt_iff c policyAction_lawful w hl name b⟩

/-- The records as they are, in a response. -/
def plainFirewall {T : Type} (k : Setting T) (h : k.tag ∉ ["Response", "Login", "Status"]) :
    Firewall k where
  respond l := .new "Response" none l
  confirmation := .new "Response" none
    [.new k.tag none [⟨"Status", .single "code" "200", some "Applied", none, []⟩]]
  iter_respond l hl := by
    have hone : ∀ e ∈ l, e.iter k.tag = [e] := by
      intro e he
      have hsub : e.children.flatMap (Element.iter k.tag) = [] :=
        List.flatMap_eq_nil_iff.mpr (hl.nested e he)
      rw [Element.iter_eq, if_pos (hl.tag e he), hsub]
      rfl
    have hroot : (Element.new "Response" none l).tag ≠ k.tag := by
      intro he
      exact h (by simp [← he, Element.new])
    rw [Element.iter_eq, if_neg hroot, List.nil_append]
    change l.flatMap (Element.iter k.tag) = l
    rw [List.flatMap_congr hone, List.flatMap_singleton']
  accepts l hl := by
    have hfind : ∀ t, t ≠ k.tag → (Element.new "Response" none l).findall t = [] := by
      intro t ht
      refine List.filter_eq_nil_iff.mpr fun e he => ?_
      simpa [hl.tag e he] using Ne.symm ht
    have hlogin : "Login" ≠ k.tag := by
      intro he
      exact h (by simp [← he])
    have hstatus : "Status" ≠ k.tag := by
      intro he
      exact h (by simp [← he])
    constructor
    · intro login hl
      rw [Element.findPath, Element.select, hfind _ hlogin] at hl
      cases hl
    · intro status hs
      rw [Element.find_eq_head_findall, hfind _ hstatus] at hs
      cases hs
  confirms := by
    have hlogin : k.tag ≠ "Login" := by
      intro he
      exact h (by simp [he])
    have hstatus : k.tag ≠ "Status" := by
      intro he
      exact h (by simp [he])
    refine ⟨?_, ?_, ⟨"Status", .single "code" "200", some "Applied", none, []⟩, ?_, ?_⟩
    · intro login hl
      simp [Element.findPath, Element.select, Element.findall, Element.new, hlogin] at hl
    · intro status hs
      simp [Element.find, Element.new, hstatus] at hs
    · simp [Element.findPath, Element.select, Element.findall, Element.new]
    · decide

/-- A rule that is there twice, after one that could not be read and one without a name; and another
one, with a description of two lines. -/
theorem read_write_agree_iff_duplicate :
    let c : SophosClient := ⟨"fw", 4444, "admin", "secret"⟩
    let w := plainFirewall ruleStatus (by decide)
    let rule : String → String → String → Element := fun name status description =>
      .new "FirewallRule" none [.new "Name" (some name) [], .new "Status" (some status) [],
        .new "Description" (some description) []]
    let l : List Element := [.new "FirewallRule" none [.new "Status" (some "busy") []],
      .new "FirewallRule" none [.new "Position" (some "Top") []], rule " Guest " "Enable" "a\nb",
      rule "Guest" "Disable" "a\rb", rule "Staff" "Enable" "a\rb"]
    AgreeAt ruleStatus c c.getFirewallRules c.setFirewallRuleStatus w l "Guest" false ∧
      ¬ AgreeAt ruleStatus c c.getFirewallRules c.setFirewallRuleStatus w l "Staff" false := by
  intro c w rule l
  have hl : ruleStatus.WellFormed l := by
    constructor
    case name | field => unfold HasLeaf; decide
    all_goals decide
  have hguest : (l.find? fun e => nameOf e = "Guest") = some (rule " Guest " "Enable" "a\nb") := by
    iterate 2
      refine (List.find?_cons_of_neg (by decide)).trans ?_
    exact List.find?_cons_of_pos (by decide)
  have hstaff : (l.find? fun e => nameOf e = "Staff") = some (rule "Staff" "Enable" "a\rb") := by
    iterate 4
      refine (List.find?_cons_of_neg (by decide)).trans ?_
    exact List.find?_cons_of_pos (by decide)
  obtain ⟨hiff, -⟩ := read_write_agree_iff c
  constructor
  · refine (hiff w l hl "Guest" false).mpr fun e he _ => ?_
    obtain rfl := Option.some.inj (hguest.symm.trans he)
    decide
  · intro h
    have hclean := (hiff w l hl "Staff" false).mp h _ hstaff (by decide)
    exact absurd hclean (by decide)

/-- A rule whose description has a carriage return is sent with a line feed there. -/
theorem sent_with_line_feed :
    let c : SophosClient := ⟨"fw", 4444, "admin", "secret"⟩
    let w := plainFirewall ruleStatus (by decide)
    let rule : String → String → Element := fun status description =>
      .new "FirewallRule" none [.new "Name" (some "Guest") [], .new "Status" (some status) [],
        .new "Description" (some description) []]
    let l : List Element := [rule "Enable" "a\rb"]
    let y := (c.setFirewallRuleStatus "Guest" false).exec w.serve l
    ruleStatus.WellFormed l ∧
      (c.getFirewallRules.exec w.serve l).result.map Dict.entries =
        .ok [("Guest", ⟨"Guest", some true, none, none, none⟩)] ∧
      y.trace.map Prod.fst =
        [c.request (.get "FirewallRule"), c.request (.set "update" (rule "Disable" "a\nb"))] ∧
      ¬ AgreeAt ruleStatus c c.getFirewallRules c.setFirewallRuleStatus w l "Guest" false := by
  intro c w rule l y
  have hl : ruleStatus.WellFormed l := by
    constructor
    case name | field => unfold HasLeaf; decide
    all_goals decide
  have hfind : (l.find? fun e => nameOf e = "Guest") = some (rule "Enable" "a\rb") :=
    List.find?_cons_of_pos (by decide)
  refine ⟨hl, rfl, rfl, fun h => ?_⟩
  have hclean := (agreeAt_iff c ruleStatus_lawful w hl "Guest" false).mp h _ hfind (by decide)
  exact absurd hclean (by decide)

end SophosFw.Client
