import SophosFw.Element
import SophosFw.PyText
import SophosFw.Xml
import Mathlib.Data.List.DropRight

/-!
Elements as documents: how ElementTree writes an element, and what is read of it.

A carriage return in an attribute is written as a reference. One in character data goes out as it
is, and comes back as the line feed that a parser makes of it.
-/

namespace SophosFw.ElementTree

open SophosFw.PyDict SophosFw.Xml
open SophosFw.PyText (strip stripChars)

namespace Element

/-- `ET.tostring(e, encoding="unicode")`; `_escape_cdata` makes the same replacements as the
`escape` of `saxutils`. -/
def tostring : Element → String
  | ⟨tag, attrib, text, tail, children⟩ =>
    (if text.getD "" = "" ∧ children.isEmpty then
      String.ofList (startText tag attrib.entries ++ [' ', '/', '>'])
    else elementText tag attrib.entries (escape (text.getD "") ++ go children)) ++
      escape (tail.getD "")
where
  go : List Element → String
    | [] => ""
    | e :: rest => tostring e ++ go rest

/-- The element as it is read where it was sent to. -/
def received : Element → Element
  | ⟨tag, attrib, text, tail, children⟩ =>
    ⟨tag, attrib, text.map lineEnds, tail.map lineEnds, go children⟩
where
  go : List Element → List Element
    | [] => []
    | e :: rest => received e :: go rest

lemma received_go (l : List Element) : received.go l = l.map received := by
  induction l with
  | nil => rfl
  | cons e l ih => rw [received.go, ih, List.map_cons]

lemma received_eq (e : Element) : e.received =
    ⟨e.tag, e.attrib, e.text.map lineEnds, e.tail.map lineEnds, e.children.map received⟩ := by
  cases e
  rw [received, received_go]

@[simp] lemma received_tag (e : Element) : e.received.tag = e.tag := by rw [received_eq]

@[simp] lemma received_text (e : Element) : e.received.text = e.text.map lineEnds := by
  rw [received_eq]

@[simp] lemma received_children (e : Element) :
    e.received.children = e.children.map received := by
  rw [received_eq]

@[simp] lemma received_new (tag : String) (text : Option String) (children : List Element) :
    (new tag text children).received = new tag (text.map lineEnds) (children.map received) := by
  rw [received_eq]
  rfl

/-- No character data in it, nor what follows it, has a carriage return. -/
def Clean (e : Element) : Prop :=
  e.every (fun e => decide ('\r' ∉ (e.text.getD "").toList) &&
    decide ('\r' ∉ (e.tail.getD "").toList)) = true

instance (e : Element) : Decidable e.Clean := instDecidableEqBool _ _

lemma clean_iff {e : Element} : e.Clean ↔
    ('\r' ∉ (e.text.getD "").toList ∧ '\r' ∉ (e.tail.getD "").toList) ∧
      ∀ c ∈ e.children, c.Clean := by
  rw [Clean, every_iff, Bool.and_eq_true, decide_eq_true_eq, decide_eq_true_eq]
  rfl

lemma Clean.of_mem {e c : Element} (h : e.Clean) (hc : c ∈ e.children) : c.Clean :=
  (clean_iff.mp h).2 c hc

lemma Clean.with_children {e : Element} {l : List Element} (h : e.Clean) (hl : ∀ c ∈ l, c.Clean) :
    Clean { e with children := l } :=
  clean_iff.mpr ⟨(clean_iff.mp h).1, hl⟩

lemma clean_leaf_iff {tag text : String} : (new tag (some text) []).Clean ↔ '\r' ∉ text.toList := by
  rw [clean_iff]
  simp [new]

lemma clean_new_singleton_iff {tag : String} {c : Element} :
    (new tag none [c]).Clean ↔ c.Clean := by
  rw [clean_iff]
  simp [new]

lemma clean_concat_iff {e c : Element} :
    Clean { e with children := e.children ++ [c] } ↔ e.Clean ∧ c.Clean := by
  rw [clean_iff, clean_iff (e := e), List.forall_mem_append, List.forall_mem_singleton]
  tauto

section Split

variable {e list : Element} {l₁ l₂ : List Element}

lemma clean_with_split_iff : Clean { e with children := l₁ ++ list :: l₂ } ↔
    Clean { e with children := l₁ ++ l₂ } ∧ list.Clean := by
  rw [clean_iff, clean_iff, List.forall_mem_append, List.forall_mem_append, List.forall_mem_cons]
  tauto

lemma clean_split_iff (hsplit : e.children = l₁ ++ list :: l₂) :
    e.Clean ↔ Clean { e with children := l₁ ++ l₂ } ∧ list.Clean := by
  rw [← clean_with_split_iff, clean_iff, clean_iff, hsplit]

/-- Another child in the place of one. -/
lemma Clean.replace {list' : Element} (h : e.Clean) (hsplit : e.children = l₁ ++ list :: l₂)
    (hlist : list.Clean → list'.Clean) : Clean { e with children := l₁ ++ list' :: l₂ } := by
  obtain ⟨hrest, hchild⟩ := (clean_split_iff hsplit).mp h
  exact clean_with_split_iff.mpr ⟨hrest, hlist hchild⟩

lemma Clean.drop (h : e.Clean) (hsplit : e.children = l₁ ++ list :: l₂) :
    Clean { e with children := l₁ ++ l₂ } :=
  ((clean_split_iff hsplit).mp h).1

end Split

lemma map_lineEnds_eq_iff {text : Option String} :
    text.map lineEnds = text ↔ '\r' ∉ (text.getD "").toList := by
  rcases text with _ | s
  · simp
  · rw [Option.map_some, Option.some.injEq, lineEnds_eq_iff, Option.getD_some]

lemma received_eq_self_iff {e : Element} : e.received = e ↔ e.Clean := by
  induction e using inductionOn with
  | h e ih =>
    have hchildren : e.children.map received = e.children ↔ ∀ c ∈ e.children, c.Clean := by
      rw [← forall₂_congr ih, ← List.map_inj_left, List.map_id']
    rw [clean_iff, ← hchildren, ← map_lineEnds_eq_iff, ← map_lineEnds_eq_iff, received_eq]
    cases e
    simp [and_assoc]

lemma clean_received (e : Element) : e.received.Clean := by
  induction e using inductionOn with
  | h e ih =>
    have hdata (text : Option String) : '\r' ∉ ((text.map lineEnds).getD "").toList := by
      rcases text with _ | s
      · exact List.not_mem_nil
      · exact not_mem_lineEnds s
    rw [received_eq, clean_iff]
    refine ⟨⟨hdata e.text, hdata e.tail⟩, fun c hc => ?_⟩
    obtain ⟨d, hd, rfl⟩ := List.mem_map.mp hc
    exact ih d hd

@[simp] lemma received_received (e : Element) : e.received.received = e.received :=
  received_eq_self_iff.mpr e.clean_received

lemma find_received (e : Element) (tag : String) :
    e.received.find tag = (e.find tag).map received := by
  rw [find, find, received_children, List.find?_map]
  congr 2
  funext c
  simp

lemma findall_received (e : Element) (tag : String) :
    e.received.findall tag = (e.findall tag).map received := by
  rw [findall, findall, received_children, List.filter_map]
  congr 2
  funext c
  simp

lemma iter_received (e : Element) (tag : String) :
    e.received.iter tag = (e.iter tag).map received := by
  induction e using inductionOn with
  | h e ih =>
    rw [iter_eq, iter_eq, received_tag, received_children, List.map_append, List.map_flatMap,
      List.flatMap_map, List.flatMap_congr ih]
    split <;> rfl

lemma received_setChildText {tag value : String} (h : '\r' ∉ value.toList) (e : Element) :
    (e.setChildText tag value).received = e.received.setChildText tag value := by
  have htext (c : Element) : c.received.setText value = (c.setText value).received := by
    rw [received_eq, received_eq, setText, setText, Option.map_some, lineEnds_eq_iff.mpr h]
  rw [received_eq, received_eq e, setChildText, setChildText,
    mapFirst_map (fun c => by rw [received_tag]) htext]

end Element

lemma isSpace_lineFeed : PyText.isSpace '\n' = true := by decide

lemma isSpace_return : PyText.isSpace '\r' = true := by decide

lemma dropWhile_normalizeLineEnds (l : List Char) :
    (normalizeLineEnds l).dropWhile PyText.isSpace =
      normalizeLineEnds (l.dropWhile PyText.isSpace) := by
  fun_induction normalizeLineEnds l with
  | case1 l ih => simp [isSpace_lineFeed, isSpace_return, ih]
  | case2 l hl ih => simp [isSpace_lineFeed, isSpace_return, ih]
  | case3 c l hl hc ih =>
    rcases hs : PyText.isSpace c with _ | _
    · rw [List.dropWhile_cons_of_neg (by simp [hs]), List.dropWhile_cons_of_neg (by simp [hs]),
        normalizeLineEnds]
      · exact hl
      · exact hc
    · rw [List.dropWhile_cons_of_pos hs, List.dropWhile_cons_of_pos hs, ih]
  | case4 => rfl

/-- White space at the end stays white space, or goes with the carriage return before it. -/
lemma rdropWhile_normalizeLineEnds_concat {c : Char} (hc : PyText.isSpace c = true)
    (l : List Char) : (normalizeLineEnds (l ++ [c])).rdropWhile PyText.isSpace =
      (normalizeLineEnds l).rdropWhile PyText.isSpace := by
  by_cases hcrlf : l.getLast? = some '\r' ∧ c = '\n'
  · obtain ⟨hlast, rfl⟩ := hcrlf
    obtain ⟨m, rfl⟩ := List.getLast?_eq_some_iff.mp hlast
    have hbefore (t : List Char) : normalizeLineEnds (m ++ '\r' :: t) =
        normalizeLineEnds m ++ normalizeLineEnds ('\r' :: t) :=
      normalizeLineEnds_append (.inr (by simp))
    rw [List.append_assoc, List.cons_append, List.nil_append, hbefore, hbefore]
    rfl
  · have hsplit : l.getLast? ≠ some '\r' ∨ [c].head? ≠ some '\n' := by
      rw [← not_and_or]
      simpa using hcrlf
    have hone : ∃ d, PyText.isSpace d = true ∧ normalizeLineEnds [c] = [d] := by
      by_cases hr : c = '\r'
      · exact ⟨'\n', isSpace_lineFeed, by rw [hr]; rfl⟩
      · exact ⟨c, hc, normalizeLineEnds_of_not_mem (by simpa using Ne.symm hr)⟩
    obtain ⟨d, hd, hone⟩ := hone
    rw [normalizeLineEnds_append hsplit, hone, List.rdropWhile_concat_pos _ _ _ hd]

lemma rdropWhile_normalizeLineEnds (l : List Char) :
    (normalizeLineEnds l).rdropWhile PyText.isSpace =
      normalizeLineEnds (l.rdropWhile PyText.isSpace) := by
  induction l using List.reverseRecOn with
  | nil => rfl
  | append_singleton l c ih =>
    rcases hs : PyText.isSpace c with _ | _
    · have hfeed : c ≠ '\n' := by
        rintro rfl
        rw [isSpace_lineFeed] at hs
        cases hs
      have hreturn : '\r' ∉ [c] := by
        rw [List.mem_singleton]
        rintro rfl
        rw [isSpace_return] at hs
        cases hs
      rw [List.rdropWhile_concat_neg _ _ _ (by simp [hs]),
        normalizeLineEnds_append (.inr (by simpa using hfeed)),
        normalizeLineEnds_of_not_mem hreturn, List.rdropWhile_concat_neg _ _ _ (by simp [hs])]
    · rw [rdropWhile_normalizeLineEnds_concat hs, ih, List.rdropWhile_concat_pos _ _ _ hs]

lemma strip_lineEnds (s : String) : strip (lineEnds s) = lineEnds (strip s) := by
  rw [strip, strip, lineEnds, lineEnds, String.toList_ofList, String.toList_ofList, stripChars,
    stripChars, dropWhile_normalizeLineEnds, rdropWhile_normalizeLineEnds]

lemma Element.findtext_received (e : Element) (tag : String) :
    e.received.findtext tag = (e.findtext tag).map lineEnds := by
  rw [findtext, findtext, find_received]
  rcases e.find tag with _ | c
  · rfl
  · rw [Option.map_some, Option.map_some, Option.map_some, received_text]
    cases c.text <;> rfl

/-! ### What is read of a document -/

/-- The node an element stands for. -/
def nodeOf : Element → Node
  | ⟨tag, attrib, text, _, children⟩ =>
    .element tag attrib.entries (textNodes (text.getD "").toList ++ go children)
where
  go : List Element → List Node
    | [] => []
    | ⟨tag, attrib, text, tail, children⟩ :: rest =>
      nodeOf ⟨tag, attrib, text, tail, children⟩ :: (textNodes (tail.getD "").toList ++ go rest)

@[simp] lemma nodeOf_text (tag s : String) :
    nodeOf (.new tag (some s) []) = .element tag [] (textNodes s.toList) := by
  simp only [Element.new, nodeOf, nodeOf.go, Option.getD_some, List.append_nil]
  rfl

@[simp] lemma nodeOf_new (tag : String) (children : List Element) :
    nodeOf (.new tag none children) = .element tag [] (nodeOf.go children) := by
  rfl

@[simp] lemma nodeOf_go_nil : nodeOf.go [] = [] := by rfl

@[simp] lemma nodeOf_go_new (tag : String) (text : Option String) (children rest : List Element) :
    nodeOf.go (.new tag text children :: rest)
      = nodeOf (.new tag text children) :: nodeOf.go rest := by
  rfl

lemma nodeOf_go_cons (e : Element) (l : List Element) :
    nodeOf.go (e :: l) = nodeOf.go [e] ++ nodeOf.go l := by
  cases e
  simp [nodeOf.go]

namespace Element

lemma tostring_go_cons (e : Element) (l : List Element) :
    tostring.go (e :: l) = e.tostring ++ tostring.go l := by
  rw [tostring.go]

/-- Names are names, and all characters are such as a document may contain. -/
inductive WellFormed : Element → Prop
  | mk {e : Element} (tag : isName e.tag.toList) (attrib : ∀ a ∈ e.attrib.entries, State.Written a)
    (text : ∀ c ∈ (e.text.getD "").toList, isXmlChar c)
    (tail : ∀ c ∈ (e.tail.getD "").toList, isXmlChar c)
    (children : ∀ c ∈ e.children, WellFormed c) : WellFormed e

lemma WellFormed.received {e : Element} (h : e.WellFormed) : e.received.WellFormed := by
  induction h with
  | @mk e htag hattrib htext htail _ ih =>
    have hdata {t : Option String} (ht : ∀ c ∈ (t.getD "").toList, isXmlChar c) :
        ∀ c ∈ ((t.map lineEnds).getD "").toList, isXmlChar c := by
      rcases t with _ | t
      · exact ht
      · exact isXmlChar_of_mem_lineEnds ht
    rw [received_eq]
    refine ⟨htag, hattrib, hdata htext, hdata htail, fun c hc => ?_⟩
    obtain ⟨d, hd, rfl⟩ := List.mem_map.mp hc
    exact ih d hd

lemma adds_tostring {e : Element} (h : e.WellFormed) (hclean : e.Clean) :
    Adds e.tostring (nodeOf.go [e]) := by
  induction h with
  | @mk e htag hattrib htext htail _ ih =>
    obtain ⟨⟨hcleanText, hcleanTail⟩, hchildren⟩ := clean_iff.mp hclean
    obtain ⟨tag, attrib, text, tail, children⟩ := e
    have hp : Proper tag attrib.entries := ⟨htag, hattrib, attrib.nodup⟩
    have hlist : ∀ l, (∀ c ∈ l, c ∈ children) → Adds (tostring.go l) (nodeOf.go l) := by
      intro l hl
      induction l with
      | nil => exact .nil
      | cons c l ihl =>
        rw [tostring_go_cons, nodeOf_go_cons]
        refine (ih c (hl c List.mem_cons_self) (hchildren c (hl c List.mem_cons_self))).append
          (ihl fun d hd => hl d (List.mem_cons_of_mem _ hd))
    have hdata {t : String} (ht : ∀ c ∈ t.toList, isXmlChar c) (hcr : '\r' ∉ t.toList) :
        ∀ c ∈ t.toList, isXmlChar c ∧ c ≠ '\r' :=
      fun c hc => ⟨ht c hc, fun h => hcr (h ▸ hc)⟩
    have htail' := hdata htail hcleanTail
    rw [tostring]
    simp only [nodeOf.go, nodeOf, List.append_nil]
    split
    · next hempty =>
      obtain ⟨hnone, hnil⟩ := hempty
      rw [hnone, List.isEmpty_iff.mp hnil]
      exact adds_emptyElement hp htail'
    · exact adds_elementText hp (fills_text (hdata htext hcleanText) (hlist children fun _ => id))
        htail'

lemma head?_tostring (e : Element) : e.tostring.toList.head? = some '<' := by
  cases e
  rw [tostring]
  split <;> simp [elementText, startText]

lemma head?_tostring_go (l : List Element) : (tostring.go l).toList.head? ≠ some '\n' := by
  cases l with
  | nil => simp [tostring.go]
  | cons e l => simp [tostring.go, List.head?_append, head?_tostring]

/-- What is read of a document is the document of what is read. -/
lemma lineEnds_tostring {e : Element} (h : e.WellFormed) :
    lineEnds e.tostring = e.received.tostring := by
  induction h with
  | @mk e htag hattrib _ _ _ ih =>
    obtain ⟨tag, attrib, text, tail, children⟩ := e
    have hp : Proper tag attrib.entries := ⟨htag, hattrib, attrib.nodup⟩
    have hlist : ∀ l, (∀ c ∈ l, c ∈ children) →
        lineEnds (tostring.go l) = tostring.go (l.map received) := by
      intro l hl
      induction l with
      | nil => rfl
      | cons c l ihl =>
        rw [tostring_go_cons, List.map_cons, tostring_go_cons,
          lineEnds_append (.inr (head?_tostring_go l)), ih c (hl c List.mem_cons_self),
          ihl fun d hd => hl d (List.mem_cons_of_mem _ hd)]
    have hdata (t : Option String) : (t.map lineEnds).getD "" = lineEnds (t.getD "") := by
      cases t <;> rfl
    have htail {x : String} (hx : x.toList.getLast? ≠ some '\r') :
        lineEnds (x ++ escape (tail.getD "")) = lineEnds x ++ escape (lineEnds (tail.getD "")) := by
      rw [lineEnds_append (.inl hx), lineEnds_escape]
    rw [received_eq, tostring, tostring]
    by_cases hempty : text.getD "" = "" ∧ children.isEmpty
    · have hempty' : (text.map lineEnds).getD "" = "" ∧ (children.map received).isEmpty := by
        rw [hdata, hempty.1, List.isEmpty_map]
        exact ⟨rfl, hempty.2⟩
      have hno : '\r' ∉ startText tag attrib.entries ++ [' ', '/', '>'] := by
        rw [List.mem_append, not_or]
        exact ⟨not_mem_startText hp, by decide⟩
      rw [if_pos hempty, if_pos hempty', hdata, htail (by simp)]
      rw [lineEnds_eq_iff.mpr (by rwa [String.toList_ofList])]
    · have hempty' : ¬ ((text.map lineEnds).getD "" = "" ∧ (children.map received).isEmpty) := by
        rwa [hdata, lineEnds_eq_empty_iff, List.isEmpty_map]
      rw [if_neg hempty, if_neg hempty', hdata, hdata,
        htail (by simp [getLast?_elementText]), lineEnds_elementText hp,
        lineEnds_append (.inr (head?_tostring_go _)), lineEnds_escape, hlist _ fun _ => id]

/-- The element is read as what is received of it. -/
lemma fills_received {e : Element} (h : e.WellFormed) :
    Fills (lineEnds e.tostring) (nodeOf.go [e.received]) := by
  rw [lineEnds_tostring h]
  exact (adds_tostring h.received e.clean_received).fills

end Element

end SophosFw.ElementTree
