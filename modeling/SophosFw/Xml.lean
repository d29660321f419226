import SophosFw.Unicode

/-!
XML documents as a one-pass scan.

The scan reads elements, attributes, character data and references, the part of XML 1.0 that
needs no comment, CDATA section, processing instruction or declaration; it rejects those, and
everything that is not well-formed. A document is read off the state the scan ends in. The
rules at the end say what each form of content leaves behind.
-/

namespace SophosFw.Xml

open SophosFw.PyText

inductive Node
  | text (s : String)
  | element (tag : String) (attributes : List (String × String)) (children : List Node)
  deriving Repr

namespace Node

/-- The node without its character data: tags, attributes and order. -/
def skeleton : Node → List Node
  | text _ => []
  | element tag attributes children => [element tag attributes (go children)]
where
  go : List Node → List Node
    | [] => []
    | n :: rest => skeleton n ++ go rest

/-- The tags of the elements, in document order. -/
def tags : Node → List String
  | text _ => []
  | element tag _ children => tag :: go children
where
  go : List Node → List String
    | [] => []
    | n :: rest => tags n ++ go rest

def children : Node → List Node
  | text _ => []
  | element _ _ children => children

def isElement (tag : String) : Node → Bool
  | text _ => false
  | element t _ _ => t = tag

/-- The elements a path of tags leads to, in document order. -/
def select (n : Node) : List String → List Node
  | [] => [n]
  | tag :: path => (n.children.filter (isElement tag)).flatMap fun c => c.select path

def charData : Node → String
  | text s => s
  | element _ _ _ => ""

/-- The character data of each element a path leads to. -/
def textsAt (n : Node) (path : List String) : List String :=
  (n.select path).map fun e => String.join (e.children.map charData)

end Node

def isXmlCode (n : ℕ) : Bool :=
  inRanges [(0x9, 0xA), (0xD, 0xD), (0x20, 0xD7FF), (0xE000, 0xFFFD), (0x10000, 0x10FFFF)] n

/-- The characters a document may contain. -/
def isXmlChar (c : Char) : Bool := isXmlCode c.toNat

def isSpace (c : Char) : Bool := c = ' ' || c = '\t' || c = '\n' || c = '\r'

def isNameStart (c : Char) : Bool :=
  inRanges [(0x3A, 0x3A), (0x41, 0x5A), (0x5F, 0x5F), (0x61, 0x7A), (0xC0, 0xD6), (0xD8, 0xF6),
    (0xF8, 0x2FF), (0x370, 0x37D), (0x37F, 0x1FFF), (0x200C, 0x200D), (0x2070, 0x218F),
    (0x2C00, 0x2FEF), (0x3001, 0xD7FF), (0xF900, 0xFDCF), (0xFDF0, 0xFFFD),
    (0x10000, 0xEFFFF)] c.toNat

def isNameChar (c : Char) : Bool :=
  isNameStart c || inRanges [(0x2D, 0x2E), (0x30, 0x39), (0xB7, 0xB7), (0x300, 0x36F),
    (0x203F, 0x2040)] c.toNat

/-- The names of elements and attributes. -/
def isName : List Char → Bool
  | [] => false
  | c :: l => isNameStart c && l.all isNameChar

lemma isXmlChar_of_isNameChar {c : Char} (h : isNameChar c) : isXmlChar c := by
  simp only [isNameChar, isNameStart, inRanges, List.any_cons, List.any_nil, Bool.or_eq_true,
    Bool.and_eq_true, decide_eq_true_eq, Bool.or_false] at h
  simp only [isXmlChar, isXmlCode, inRanges, List.any_cons, List.any_nil, Bool.or_eq_true,
    Bool.and_eq_true, decide_eq_true_eq, Bool.or_false]
  omega

lemma isNameChar_of_isNameStart {c : Char} (h : isNameStart c) : isNameChar c := by
  rw [isNameChar, h, Bool.true_or]

lemma exists_cons_of_isName {l : List Char} (h : isName l) :
    ∃ c m, l = c :: m ∧ isNameStart c ∧ ∀ d ∈ m, isNameChar d := by
  obtain _ | ⟨c, m⟩ := l
  · cases h
  · exact ⟨c, m, rfl, by simpa [isName] using h⟩

/-- The value of a digit in a base of up to sixteen. -/
def digitValue (base : ℕ) (c : Char) : Option ℕ :=
  let n := c.toNat
  let value := if 0x30 ≤ n ∧ n ≤ 0x39 then some (n - 0x30)
    else if 0x41 ≤ n ∧ n ≤ 0x46 then some (n - 0x37)
    else if 0x61 ≤ n ∧ n ≤ 0x66 then some (n - 0x57)
    else none
  value.filter fun v => v < base

/-- The character a character reference gives. -/
def charOfDigits (base : ℕ) (digits : List Char) : Option Char :=
  if digits = [] then none
  else
    ((digits.mapM (digitValue base)).map fun vs => vs.foldl (fun n v => base * n + v) 0).bind
      fun n => if isXmlCode n then some (Char.ofNat n) else none

/-- The character between `&` and `;`: one of the five entities that need no declaration, or
a character reference. -/
def resolve : List Char → Option Char
  | ['a', 'm', 'p'] => some '&'
  | ['l', 't'] => some '<'
  | ['g', 't'] => some '>'
  | ['q', 'u', 'o', 't'] => some '"'
  | ['a', 'p', 'o', 's'] => some '\''
  | '#' :: 'x' :: digits => charOfDigits 16 digits
  | '#' :: digits => charOfDigits 10 digits
  | _ => none

/-! ### The scan -/

/-- Character data as a list of nodes: an empty run of it is no node. -/
def textNodes (s : List Char) : List Node :=
  if s = [] then [] else [.text (String.ofList s)]

lemma textNodes_cons (c : Char) (s : List Char) :
    textNodes (c :: s) = [.text (String.ofList (c :: s))] := by
  rw [textNodes, if_neg (List.cons_ne_nil c s)]

namespace Node

@[simp] lemma skeleton_textNodes (s : List Char) : skeleton.go (textNodes s) = [] := by
  cases s <;> rfl

@[simp] lemma tags_textNodes (s : List Char) : tags.go (textNodes s) = [] := by
  cases s <;> rfl

@[simp] lemma join_charData_textNodes (s : List Char) :
    String.join ((textNodes s).map charData) = String.ofList s := by
  cases s with
  | nil => rfl
  | cons c s =>
    rw [textNodes_cons, List.map_singleton, charData]
    simp [String.join]

end Node

abbrev Attributes := List (String × String)

/-- An element whose end tag is still to come. -/
structure Frame where
  tag : String
  attributes : Attributes
  /-- Its children so far, less the character data after the last one. -/
  before : List Node
  text : List Char

namespace Frame

def nodes (f : Frame) : List Node := f.before ++ textNodes f.text

def addChar (f : Frame) (c : Char) : Frame := { f with text := f.text ++ [c] }

def push (f : Frame) (n : Node) : Frame := { f with before := f.nodes ++ [n], text := [] }

def node (f : Frame) : Node := .element f.tag f.attributes f.nodes

lemma push_between (tag : String) (attributes : Attributes) (before : List Node) (n : Node) :
    push ⟨tag, attributes, before, []⟩ n = ⟨tag, attributes, before ++ [n], []⟩ := by
  rw [push, nodes, textNodes, if_pos rfl, List.append_nil]

end Frame

/-- Where in a document the scan stands. -/
inductive Mode
  /-- Between two tags, after so many closing brackets in a row. -/
  | content (brackets : ℕ)
  | reference (name : List Char)
  | markup
  | startName (tag : List Char)
  /-- In a start tag, after white space. -/
  | startTag (tag : List Char) (attributes : Attributes)
  | attributeName (tag : List Char) (attributes : Attributes) (name : List Char)
  | attributeEq (tag : List Char) (attributes : Attributes) (name : List Char)
  | attributeQuote (tag : List Char) (attributes : Attributes) (name : List Char)
  | attributeValue (tag : List Char) (attributes : Attributes) (name : List Char) (quote : Char)
      (value : List Char)
  | attributeReference (tag : List Char) (attributes : Attributes) (name : List Char)
      (quote : Char) (value : List Char) (entity : List Char)
  | attributeEnd (tag : List Char) (attributes : Attributes)
  /-- In an empty-element tag, after the slash. -/
  | slash (tag : List Char) (attributes : Attributes)
  | endMark
  | endName (tag : List Char)
  | endTag (tag : List Char)

structure State where
  mode : Mode
  /-- The elements the scan is in, the innermost first. -/
  stack : List Frame
  /-- The root element, once it has ended. -/
  root : Option Node

namespace State

def init : State := ⟨.content 0, [], none⟩

/-- Begin an element. A document has one root. -/
def begin (s : State) (tag : List Char) (attributes : Attributes) : Option State :=
  if s.stack = [] ∧ s.root.isSome then none
  else
    some { s with mode := .content 0, stack := ⟨String.ofList tag, attributes, [], []⟩ :: s.stack }

/-- End the innermost element. -/
def close (s : State) : Option State :=
  match s.stack with
  | [] => none
  | [f] => some ⟨.content 0, [], some f.node⟩
  | f :: g :: stack => some { s with mode := .content 0, stack := g.push f.node :: stack }

/-- End the innermost element if its tag is this one. -/
def endElement (s : State) (tag : List Char) : Option State :=
  match s.stack with
  | [] => none
  | f :: _ => if f.tag = String.ofList tag then s.close else none

/-- What may follow the name or an attribute of a start tag. -/
def inStartTag (s : State) (tag : List Char) (attributes : Attributes) (c : Char) : Option State :=
  if c = '>' then s.begin tag attributes
  else if c = '/' then some { s with mode := .slash tag attributes }
  else if isSpace c then some { s with mode := .startTag tag attributes }
  else none

/-- A character of a value of an attribute, white space as a blank. -/
def attributeChar (c : Char) : Char := if isSpace c then ' ' else c

def step (s : State) (c : Char) : Option State :=
  if !isXmlChar c then none
  else
    match s.mode with
    | .content brackets =>
      if c = '<' then some { s with mode := .markup }
      else
        match s.stack with
        | [] => if isSpace c then some s else none
        | f :: stack =>
          if c = '&' then some { s with mode := .reference [] }
          -- "]]>" may not stand in character data
          else if c = '>' ∧ 2 ≤ brackets then none
          else
            some { s with
              mode := .content (if c = ']' then brackets + 1 else 0)
              stack := f.addChar c :: stack }
    | .reference name =>
      if c = ';' then
        match s.stack, resolve name with
        | f :: stack, some d => some { s with mode := .content 0, stack := f.addChar d :: stack }
        | _, _ => none
      else some { s with mode := .reference (name ++ [c]) }
    | .markup =>
      if c = '/' then some { s with mode := .endMark }
      else if isNameStart c then some { s with mode := .startName [c] }
      else none
    | .startName tag =>
      if isNameChar c then some { s with mode := .startName (tag ++ [c]) }
      else s.inStartTag tag [] c
    | .startTag tag attributes =>
      if isNameStart c then some { s with mode := .attributeName tag attributes [c] }
      else s.inStartTag tag attributes c
    | .attributeName tag attributes name =>
      if isNameChar c then some { s with mode := .attributeName tag attributes (name ++ [c]) }
      else if c = '=' then some { s with mode := .attributeQuote tag attributes name }
      else if isSpace c then some { s with mode := .attributeEq tag attributes name }
      else none
    | .attributeEq tag attributes name =>
      if c = '=' then some { s with mode := .attributeQuote tag attributes name }
      else if isSpace c then some s
      else none
    | .attributeQuote tag attributes name =>
      if isSpace c then some s
      else if (c = '"' ∨ c = '\'') ∧ String.ofList name ∉ attributes.map Prod.fst then
        some { s with mode := .attributeValue tag attributes name c [] }
      else none
    | .attributeValue tag attributes name quote value =>
      if c = quote then
        some { s with
          mode := .attributeEnd tag (attributes ++ [(String.ofList name, String.ofList value)]) }
      else if c = '<' then none
      else if c = '&' then
        some { s with mode := .attributeReference tag attributes name quote value [] }
      else
        some { s with
          mode := .attributeValue tag attributes name quote (value ++ [attributeChar c]) }
    | .attributeReference tag attributes name quote value entity =>
      if c = ';' then
        (resolve entity).map fun d =>
          { s with mode := .attributeValue tag attributes name quote (value ++ [d]) }
      else
        some { s with mode := .attributeReference tag attributes name quote value (entity ++ [c]) }
    | .attributeEnd tag attributes => s.inStartTag tag attributes c
    | .slash tag attributes => if c = '>' then (s.begin tag attributes).bind close else none
    | .endMark => if isNameStart c then some { s with mode := .endName [c] } else none
    | .endName tag =>
      if isNameChar c then some { s with mode := .endName (tag ++ [c]) }
      else if c = '>' then s.endElement tag
      else if isSpace c then some { s with mode := .endTag tag }
      else none
    | .endTag tag =>
      if c = '>' then s.endElement tag
      else if isSpace c then some s
      else none

/-- The root of the document, if the scan may stop here. -/
def finish (s : State) : Option Node :=
  match s.mode, s.stack with
  | .content _, [] => s.root
  | _, _ => none

def run (s : State) (l : List Char) : Option State := l.foldlM step s

end State

/-- White space at the end of a line, as a parser passes it on. -/
def normalizeLineEnds : List Char → List Char
  | '\r' :: '\n' :: l => '\n' :: normalizeLineEnds l
  | '\r' :: l => '\n' :: normalizeLineEnds l
  | c :: l => c :: normalizeLineEnds l
  | [] => []

def lineEnds (s : String) : String := String.ofList (normalizeLineEnds s.toList)

/-- The root element of a well-formed document. -/
def parse (s : String) : Option Node :=
  (State.init.run (normalizeLineEnds s.toList)).bind State.finish

example : parse "<a b='1 &lt; 2'>x &#62; <d/></a>" =
    some (.element "a" [("b", "1 < 2")] [.text "x > ", .element "d" [] []]) := by rfl

example : parse "<a><b>x</a></b>" = none := by rfl

/-! ### Line ends -/

lemma normalizeLineEnds_of_not_mem {l : List Char} (h : '\r' ∉ l) : normalizeLineEnds l = l := by
  induction l with
  | nil => rfl
  | cons c l ih =>
    rw [List.mem_cons, not_or] at h
    rw [normalizeLineEnds, ih h.2]
    · rintro m rfl
      exact absurd rfl h.1
    · rintro rfl
      exact absurd rfl h.1

lemma not_mem_normalizeLineEnds (l : List Char) : '\r' ∉ normalizeLineEnds l := by
  fun_induction normalizeLineEnds l with
  | case1 l ih => simpa using ih
  | case2 l h ih => simpa using ih
  | case3 c l h h' ih =>
    rw [List.mem_cons, not_or]
    exact ⟨fun hc => h' hc.symm, ih⟩
  | case4 => exact List.not_mem_nil

lemma normalizeLineEnds_eq_iff {l : List Char} : normalizeLineEnds l = l ↔ '\r' ∉ l := by
  refine ⟨fun h => ?_, normalizeLineEnds_of_not_mem⟩
  rw [← h]
  exact not_mem_normalizeLineEnds l

lemma lineEnds_eq_iff {s : String} : lineEnds s = s ↔ '\r' ∉ s.toList := by
  rw [← normalizeLineEnds_eq_iff, ← String.toList_inj, lineEnds, String.toList_ofList]

lemma not_mem_lineEnds (s : String) : '\r' ∉ (lineEnds s).toList := by
  rw [lineEnds, String.toList_ofList]
  exact not_mem_normalizeLineEnds _

lemma normalizeLineEnds_append {l m : List Char}
    (h : l.getLast? ≠ some '\r' ∨ m.head? ≠ some '\n') :
    normalizeLineEnds (l ++ m) = normalizeLineEnds l ++ normalizeLineEnds m := by
  fun_induction normalizeLineEnds l with
  | case1 l ih =>
    rw [List.cons_append, List.cons_append, normalizeLineEnds, ih, List.cons_append]
    rcases l with _ | ⟨c, l⟩
    · exact .inl nofun
    · simpa using h
  | case2 l hl ih =>
    rcases l with _ | ⟨c, l⟩
    · rcases m with _ | ⟨d, m⟩
      · rfl
      · have hd : d ≠ '\n' := by simpa using h
        rw [List.cons_append, List.nil_append, normalizeLineEnds, List.cons_append]
        · rfl
        · rintro m' ⟨⟩
          exact hd rfl
    · rw [List.cons_append, normalizeLineEnds, ih, List.cons_append]
      · simpa using h
      · rintro m' hm
        obtain ⟨rfl, rfl⟩ := List.cons.inj hm
        exact hl _ rfl
  | case3 c l hl hc ih =>
    rw [List.cons_append, normalizeLineEnds, ih, List.cons_append]
    · rcases l with _ | ⟨d, l⟩
      · exact .inl nofun
      · simpa using h
    · rintro m' rfl
      exact absurd rfl hc
    · exact hc
  | case4 => rfl

lemma lineEnds_append {s t : String}
    (h : s.toList.getLast? ≠ some '\r' ∨ t.toList.head? ≠ some '\n') :
    lineEnds (s ++ t) = lineEnds s ++ lineEnds t := by
  rw [lineEnds, String.toList_append, normalizeLineEnds_append h, String.ofList_append, lineEnds,
    lineEnds]

lemma mem_normalizeLineEnds {l : List Char} {c : Char} (h : c ∈ normalizeLineEnds l) :
    c ∈ l ∨ c = '\n' := by
  fun_induction normalizeLineEnds l with
  | case1 l ih | case2 l _ ih =>
    rcases List.mem_cons.mp h with rfl | h
    · exact .inr rfl
    · exact (ih h).imp_left (by simp +contextual)
  | case3 d l _ _ ih =>
    rcases List.mem_cons.mp h with rfl | h
    · exact .inl List.mem_cons_self
    · exact (ih h).imp_left (List.mem_cons_of_mem _)
  | case4 => cases h

lemma isXmlChar_of_mem_lineEnds {s : String} (h : ∀ c ∈ s.toList, isXmlChar c) :
    ∀ c ∈ (lineEnds s).toList, isXmlChar c := by
  intro c hc
  rw [lineEnds, String.toList_ofList] at hc
  rcases mem_normalizeLineEnds hc with hc | rfl
  · exact h c hc
  · rfl

lemma lineEnds_eq_empty_iff {s : String} : lineEnds s = "" ↔ s = "" := by
  have hnil : ∀ l, normalizeLineEnds l = [] ↔ l = [] := by
    intro l
    fun_cases normalizeLineEnds l <;> simp
  rw [← String.toList_inj, ← String.toList_inj, lineEnds, String.toList_ofList]
  exact hnil _

/-- A document is read as what is read of it. -/
lemma parse_lineEnds (s : String) : parse (lineEnds s) = parse s := by
  rw [parse, parse, lineEnds, String.toList_ofList,
    normalizeLineEnds_of_not_mem (not_mem_normalizeLineEnds _)]

/-- Put `w` for every `c`. -/
def replaceChar (c : Char) (w : String) (l : List Char) : List Char :=
  l.flatMap fun d => if d = c then w.toList else [d]

/-- `xml.sax.saxutils.escape`: the ampersand first. -/
def escape (s : String) : String :=
  String.ofList (replaceChar '<' "&lt;" (replaceChar '>' "&gt;" (replaceChar '&' "&amp;" s.toList)))

def escapeChar (c : Char) : List Char :=
  if c = '&' then "&amp;".toList
  else if c = '>' then "&gt;".toList
  else if c = '<' then "&lt;".toList
  else [c]

/-- What ElementTree writes for a character in the value of an attribute. -/
def escapeAttribChar (c : Char) : List Char :=
  if c = '&' then "&amp;".toList
  else if c = '<' then "&lt;".toList
  else if c = '>' then "&gt;".toList
  else if c = '"' then "&quot;".toList
  else if c = '\r' then "&#13;".toList
  else if c = '\n' then "&#10;".toList
  else if c = '\t' then "&#09;".toList
  else [c]

lemma replaceChar_flatMap (c : Char) (w : String) (f : Char → List Char) (l : List Char) :
    replaceChar c w (l.flatMap f) = l.flatMap fun d => replaceChar c w (f d) := by
  simp only [replaceChar, List.flatMap_assoc]

lemma replaceChar_singleton (c : Char) (w : String) (d : Char) :
    replaceChar c w [d] = if d = c then w.toList else [d] := by
  simp [replaceChar]

/-- No replacement touches what an earlier one has put in. -/
lemma toList_escape (s : String) : (escape s).toList = s.toList.flatMap escapeChar := by
  have hamp (d : Char) : replaceChar '<' "&lt;" (replaceChar '>' "&gt;"
      (if d = '&' then "&amp;".toList else [d])) = escapeChar d := by
    rcases eq_or_ne d '&' with rfl | h
    · rfl
    rw [if_neg h, replaceChar_singleton, escapeChar, if_neg h]
    split
    · rfl
    · rw [replaceChar_singleton]
  rw [escape, String.toList_ofList]
  change replaceChar '<' "&lt;" (replaceChar '>' "&gt;"
    (s.toList.flatMap fun d => if d = '&' then "&amp;".toList else [d])) = _
  rw [replaceChar_flatMap, replaceChar_flatMap]
  exact List.flatMap_congr fun d _ => hamp d

lemma normalizeLineEnds_escape (l : List Char) :
    normalizeLineEnds (l.flatMap escapeChar) = (normalizeLineEnds l).flatMap escapeChar := by
  have hone (c : Char) (m : List Char) (hc : c ≠ '\r') :
      normalizeLineEnds (escapeChar c ++ m) = escapeChar c ++ normalizeLineEnds m := by
    have hno : '\r' ∉ escapeChar c := by
      unfold escapeChar
      split_ifs
      iterate 3
        · decide
      · simpa using hc.symm
    rw [normalizeLineEnds_append (.inl fun h => hno (List.mem_of_getLast? h)),
      normalizeLineEnds_of_not_mem hno]
  fun_induction normalizeLineEnds l with
  | case1 l ih =>
    rw [List.flatMap_cons, List.flatMap_cons, List.flatMap_cons, ← ih]
    rfl
  | case2 l hl ih =>
    rw [List.flatMap_cons, List.flatMap_cons, ← ih]
    change normalizeLineEnds ('\r' :: l.flatMap escapeChar) = '\n' :: _
    rw [normalizeLineEnds]
    · rfl
    rintro m hm
    rcases l with _ | ⟨c, l⟩
    · cases hm
    · have hc : c ≠ '\n' := by
        rintro rfl
        exact hl l rfl
      rw [List.flatMap_cons] at hm
      unfold escapeChar at hm
      split_ifs at hm <;> simp_all
  | case3 c l hl hc ih =>
    rw [List.flatMap_cons, List.flatMap_cons, ← ih, hone c _ (fun h => hc h)]
  | case4 => rfl

lemma lineEnds_escape (s : String) : lineEnds (escape s) = escape (lineEnds s) := by
  apply String.toList_injective
  rw [toList_escape, lineEnds, lineEnds, String.toList_ofList, String.toList_ofList, toList_escape,
    normalizeLineEnds_escape]

/-! ### Runs of the scan -/

namespace State

variable {s : State} {stack : List Frame} {root : Option Node} {tag : List Char}
  {attributes : Attributes}

@[simp] lemma run_nil (s : State) : run s [] = some s := rfl

@[simp] lemma run_cons (s : State) (c : Char) (l : List Char) :
    run s (c :: l) = (step s c).bind fun t => run t l := by
  rfl

lemma run_append (s : State) (l m : List Char) :
    run s (l ++ m) = (run s l).bind fun t => run t m := by
  simp only [run, List.foldlM_append]
  rfl

lemma run_append_of {t : State} {l : List Char} (h : run s l = some t) (m : List Char) :
    run s (l ++ m) = run t m := by
  rw [run_append, h, Option.bind_some]

lemma run_collect (mode : List Char → Mode) {p : Char → Prop}
    (hstep : ∀ l c, p c → step ⟨mode l, stack, root⟩ c = some ⟨mode (l ++ [c]), stack, root⟩)
    (l m : List Char) (h : ∀ c ∈ m, p c) :
    run ⟨mode l, stack, root⟩ m = some ⟨mode (l ++ m), stack, root⟩ := by
  induction m generalizing l with
  | nil => rw [List.append_nil, run_nil]
  | cons c m ih =>
    rw [run_cons, hstep l c (h c List.mem_cons_self), Option.bind_some,
      ih _ fun d hd => h d (List.mem_cons_of_mem _ hd), List.append_assoc, List.singleton_append]

lemma run_startName (l : List Char) {m : List Char} (h : ∀ c ∈ m, isNameChar c) :
    run ⟨.startName l, stack, root⟩ m = some ⟨.startName (l ++ m), stack, root⟩ :=
  run_collect .startName (fun l c hc => by simp [step, isXmlChar_of_isNameChar hc, hc]) l m h

lemma run_attributeName (l : List Char) {m : List Char} (h : ∀ c ∈ m, isNameChar c) :
    run ⟨.attributeName tag attributes l, stack, root⟩ m
      = some ⟨.attributeName tag attributes (l ++ m), stack, root⟩ :=
  run_collect (.attributeName tag attributes)
    (fun l c hc => by simp [step, isXmlChar_of_isNameChar hc, hc]) l m h

lemma run_endName (l : List Char) {m : List Char} (h : ∀ c ∈ m, isNameChar c) :
    run ⟨.endName l, stack, root⟩ m = some ⟨.endName (l ++ m), stack, root⟩ :=
  run_collect .endName (fun l c hc => by simp [step, isXmlChar_of_isNameChar hc, hc]) l m h

/-- The scan has read the name of a start tag and these attributes. -/
def afterTag (tag : List Char) (attributes : Attributes) : Mode :=
  if attributes = [] then .startName tag else .attributeEnd tag attributes

lemma step_afterTag {c : Char} (hx : isXmlChar c) (hc : isNameChar c = false) :
    step ⟨afterTag tag attributes, stack, root⟩ c
      = inStartTag ⟨afterTag tag attributes, stack, root⟩ tag attributes c := by
  rw [afterTag]
  split
  · subst attributes
    simp [step, hx, hc]
  · simp [step, hx]

lemma run_openTag (brackets : ℕ) (h : isName tag) :
    run ⟨.content brackets, stack, root⟩ ('<' :: tag) = some ⟨afterTag tag [], stack, root⟩ := by
  obtain ⟨c, l, rfl, hc, hl⟩ := exists_cons_of_isName h
  have hx := isXmlChar_of_isNameChar (isNameChar_of_isNameStart hc)
  have hslash : c ≠ '/' := by
    rintro rfl
    cases hc
  have hmarkup : step ⟨.content brackets, stack, root⟩ '<' = some ⟨.markup, stack, root⟩ := by rfl
  have hname : step ⟨.markup, stack, root⟩ c = some ⟨.startName [c], stack, root⟩ := by
    simp [step, hx, hslash, hc]
  rw [run_cons, hmarkup, Option.bind_some, run_cons, hname, Option.bind_some]
  exact run_startName [c] hl

/-- An attribute with a name, and a value of characters a document may contain. -/
structure Written (a : String × String) : Prop where
  name : isName a.1.toList
  value : a.2.toList.all isXmlChar

def attributeText (a : String × String) : List Char :=
  ' ' :: a.1.toList ++ '=' :: '"' :: a.2.toList.flatMap escapeAttribChar ++ ['"']

lemma run_escapeAttribChar {c : Char} (h : isXmlChar c) (name value : List Char) :
    run ⟨.attributeValue tag attributes name '"' value, stack, root⟩ (escapeAttribChar c)
      = some ⟨.attributeValue tag attributes name '"' (value ++ [c]), stack, root⟩ := by
  unfold escapeAttribChar
  split_ifs with hamp hlt hgt hquote hcr hlf htab
  iterate 7
    · subst c
      rfl
  · have hspace : attributeChar c = c := by
      unfold attributeChar isSpace
      split
      · next hs => simpa [hcr, hlf, htab, eq_comm] using hs
      · rfl
    simp [step, h, hamp, hlt, hquote, hspace]

lemma run_escapeAttrib (name value : List Char) {l : List Char} (h : ∀ c ∈ l, isXmlChar c) :
    run ⟨.attributeValue tag attributes name '"' value, stack, root⟩ (l.flatMap escapeAttribChar)
      = some ⟨.attributeValue tag attributes name '"' (value ++ l), stack, root⟩ := by
  induction l generalizing value with
  | nil => rw [List.append_nil, List.flatMap_nil, run_nil]
  | cons c l ih =>
    rw [List.flatMap_cons, run_append_of (run_escapeAttribChar (h c List.mem_cons_self) name value),
      ih _ fun d hd => h d (List.mem_cons_of_mem _ hd), List.append_assoc, List.singleton_append]

lemma run_attribute {a : String × String} (ha : Written a)
    (hnew : a.1 ∉ attributes.map Prod.fst) :
    run ⟨afterTag tag attributes, stack, root⟩ (attributeText a)
      = some ⟨afterTag tag (attributes ++ [a]), stack, root⟩ := by
  obtain ⟨c, l, hname, hc, hl⟩ := exists_cons_of_isName ha.name
  have hblank : step ⟨afterTag tag attributes, stack, root⟩ ' '
      = some ⟨.startTag tag attributes, stack, root⟩ := step_afterTag rfl rfl
  have hfirst : step ⟨.startTag tag attributes, stack, root⟩ c
      = some ⟨.attributeName tag attributes [c], stack, root⟩ := by
    simp [step, isXmlChar_of_isNameChar (isNameChar_of_isNameStart hc), hc]
  have heq : step ⟨.attributeName tag attributes a.1.toList, stack, root⟩ '='
      = some ⟨.attributeQuote tag attributes a.1.toList, stack, root⟩ := by rfl
  have hquote : step ⟨.attributeQuote tag attributes a.1.toList, stack, root⟩ '"'
      = some ⟨.attributeValue tag attributes a.1.toList '"' [], stack, root⟩ := by
    simp [step, isSpace, show isXmlChar '"' from rfl, hnew]
  have hchars : run ⟨.attributeValue tag attributes a.1.toList '"' [], stack, root⟩
      (a.2.toList.flatMap escapeAttribChar)
      = some ⟨.attributeValue tag attributes a.1.toList '"' a.2.toList, stack, root⟩ :=
    run_escapeAttrib a.1.toList [] (List.all_eq_true.mp ha.value)
  have hend : step ⟨.attributeValue tag attributes a.1.toList '"' a.2.toList, stack, root⟩ '"'
      = some ⟨.attributeEnd tag (attributes ++ [a]), stack, root⟩ := by
    simp [step, show isXmlChar '"' from rfl]
  rw [attributeText, List.cons_append, List.cons_append, run_cons, hblank, Option.bind_some,
    hname, List.cons_append, List.cons_append, run_cons, hfirst, Option.bind_some,
    List.append_assoc, run_append_of (run_attributeName [c] hl), List.singleton_append, ← hname,
    List.cons_append, run_cons, heq, Option.bind_some, List.cons_append, run_cons, hquote,
    Option.bind_some, run_append_of hchars, run_cons, hend, Option.bind_some, run_nil, afterTag,
    if_neg (List.append_ne_nil_of_right_ne_nil _ (List.cons_ne_nil _ _))]

lemma run_attributes {l : Attributes} (hwritten : ∀ a ∈ l, Written a)
    (hnodup : ((attributes ++ l).map Prod.fst).Nodup) :
    run ⟨afterTag tag attributes, stack, root⟩ (l.flatMap attributeText)
      = some ⟨afterTag tag (attributes ++ l), stack, root⟩ := by
  induction l generalizing attributes with
  | nil => rw [List.append_nil, List.flatMap_nil, run_nil]
  | cons a l ih =>
    have hnew : a.1 ∉ attributes.map Prod.fst := by
      intro ha
      rw [List.map_append, List.map_cons] at hnodup
      exact (List.nodup_append.mp hnodup).2.2 _ ha _ List.mem_cons_self rfl
    rw [List.flatMap_cons,
      run_append_of (run_attribute (hwritten a List.mem_cons_self) hnew),
      ih (fun b hb => hwritten b (List.mem_cons_of_mem _ hb)) (by simpa using hnodup),
      List.append_assoc, List.singleton_append]

end State

/-- A start tag with these attributes is well-formed as `startText` writes it. -/
structure Proper (tag : String) (attributes : Attributes) : Prop where
  name : isName tag.toList
  written : ∀ a ∈ attributes, State.Written a
  nodup : (attributes.map Prod.fst).Nodup

/-- A start tag less its last character. -/
def startText (tag : String) (attributes : Attributes) : List Char :=
  '<' :: tag.toList ++ attributes.flatMap State.attributeText

namespace State

variable {stack : List Frame} {root : Option Node}

lemma run_startText {tag : String} {attributes : Attributes} (h : Proper tag attributes)
    (brackets : ℕ) :
    run ⟨.content brackets, stack, root⟩ (startText tag attributes)
      = some ⟨afterTag tag.toList attributes, stack, root⟩ := by
  rw [startText, run_append_of (run_openTag brackets h.name)]
  exact run_attributes h.written (by simpa using h.nodup)

lemma step_afterTag_close {tag : String} {attributes : Attributes}
    (h : stack = [] → root = none) :
    step ⟨afterTag tag.toList attributes, stack, root⟩ '>'
      = some ⟨.content 0, ⟨tag, attributes, [], []⟩ :: stack, root⟩ := by
  have hroot : ¬(stack = [] ∧ root.isSome) := by
    rintro ⟨hs, hr⟩
    rw [h hs] at hr
    cases hr
  rw [step_afterTag rfl rfl]
  simp [inStartTag, begin, hroot]

lemma close_root (mode : Mode) (f : Frame) (root : Option Node) :
    close ⟨mode, [f], root⟩ = some ⟨.content 0, [], some f.node⟩ := by
  rfl

lemma close_inner (mode : Mode) (f g : Frame) (stack : List Frame) (root : Option Node) :
    close ⟨mode, f :: g :: stack, root⟩
      = some ⟨.content 0, g.push f.node :: stack, root⟩ := by
  rfl

def endText (tag : String) : List Char := '<' :: '/' :: tag.toList ++ ['>']

lemma run_endText {f : Frame} (h : isName f.tag.toList) (brackets : ℕ) :
    run ⟨.content brackets, f :: stack, root⟩ (endText f.tag)
      = close ⟨.content brackets, f :: stack, root⟩ := by
  obtain ⟨c, l, htag, hc, hl⟩ := exists_cons_of_isName h
  have hmarkup : step ⟨.content brackets, f :: stack, root⟩ '<'
      = some ⟨.markup, f :: stack, root⟩ := by rfl
  have hslash : step ⟨.markup, f :: stack, root⟩ '/' = some ⟨.endMark, f :: stack, root⟩ := by rfl
  have hfirst : step ⟨.endMark, f :: stack, root⟩ c = some ⟨.endName [c], f :: stack, root⟩ := by
    simp [step, isXmlChar_of_isNameChar (isNameChar_of_isNameStart hc), hc]
  have hend : step ⟨.endName f.tag.toList, f :: stack, root⟩ '>'
      = close ⟨.content brackets, f :: stack, root⟩ := by
    cases stack <;> simp [step, endElement, close, show isXmlChar '>' from rfl,
      show isNameChar '>' = false from rfl]
  rw [endText, htag, List.cons_append, run_cons, hmarkup, Option.bind_some, List.cons_append,
    run_cons, hslash, Option.bind_some, List.cons_append, run_cons, hfirst, Option.bind_some,
    run_append_of (run_endName [c] hl), List.singleton_append, ← htag, run_cons, hend]
  exact Option.bind_fun_some _

lemma run_escapeChar {c : Char} (h : isXmlChar c) (brackets : ℕ) (f : Frame)
    (stack : List Frame) (root : Option Node) :
    ∃ b, run ⟨.content brackets, f :: stack, root⟩ (escapeChar c)
      = some ⟨.content b, f.addChar c :: stack, root⟩ := by
  rcases eq_or_ne c '&' with rfl | hamp
  · exact ⟨0, rfl⟩
  rcases eq_or_ne c '>' with rfl | hgt
  · exact ⟨0, rfl⟩
  rcases eq_or_ne c '<' with rfl | hlt
  · exact ⟨0, rfl⟩
  refine ⟨if c = ']' then brackets + 1 else 0, ?_⟩
  rw [escapeChar, if_neg hamp, if_neg hgt, if_neg hlt]
  simp [step, h, hamp, hgt, hlt]

lemma run_escape {l : List Char} (h : ∀ c ∈ l, isXmlChar c) (brackets : ℕ) (f : Frame)
    (stack : List Frame) (root : Option Node) :
    ∃ b, run ⟨.content brackets, f :: stack, root⟩ (l.flatMap escapeChar)
      = some ⟨.content b, { f with text := f.text ++ l } :: stack, root⟩ := by
  induction l generalizing brackets f with
  | nil => exact ⟨brackets, by rw [List.append_nil, List.flatMap_nil, run_nil]⟩
  | cons c l ih =>
    obtain ⟨b, hc⟩ := run_escapeChar (h c List.mem_cons_self) brackets f stack root
    obtain ⟨b', hl⟩ := ih (fun d hd => h d (List.mem_cons_of_mem _ hd)) b (f.addChar c)
    refine ⟨b', ?_⟩
    rw [List.flatMap_cons, run_append_of hc, hl, Frame.addChar, List.append_assoc,
      List.singleton_append]

end State

/-- Whatever element the scan is in, this text adds these nodes to it and leaves it between two
tags. -/
structure Yields (s : String) (nodes : List Node) : Prop where
  run : ∀ tag attributes before stack root,
    State.run ⟨.content 0, ⟨tag, attributes, before, []⟩ :: stack, root⟩ s.toList
      = some ⟨.content 0, ⟨tag, attributes, before ++ nodes, []⟩ :: stack, root⟩
  lines : '\r' ∉ s.toList

/-- Whatever element the scan is in, and whatever it has read of it, this text adds these nodes. -/
structure Adds (s : String) (nodes : List Node) : Prop where
  run : ∀ brackets f stack root, ∃ b f',
    State.run ⟨.content brackets, f :: stack, root⟩ s.toList
      = some ⟨.content b, f' :: stack, root⟩ ∧
    f'.tag = f.tag ∧ f'.attributes = f.attributes ∧ f'.nodes = f.nodes ++ nodes
  lines : '\r' ∉ s.toList

/-- This text is what an element with these children may contain. -/
structure Fills (s : String) (nodes : List Node) : Prop where
  run : ∀ tag attributes stack root, ∃ b f,
    State.run ⟨.content 0, ⟨tag, attributes, [], []⟩ :: stack, root⟩ s.toList
      = some ⟨.content b, f :: stack, root⟩ ∧
    f.tag = tag ∧ f.node = .element tag attributes nodes
  lines : '\r' ∉ s.toList

def elementText (tag : String) (attributes : Attributes) (body : String) : String :=
  String.ofList (startText tag attributes ++ '>' :: body.toList ++ State.endText tag)

def emptyElementText (tag : String) (attributes : Attributes) : String :=
  String.ofList (startText tag attributes ++ ['/', '>'])

variable {s t : String} {nodes more : List Node} {tag : String} {attributes : Attributes}

lemma Yields.nil : Yields "" [] :=
  ⟨fun tag attributes before stack root => by rw [List.append_nil]; rfl, List.not_mem_nil⟩

lemma Yields.append (hs : Yields s nodes) (ht : Yields t more) :
    Yields (s ++ t) (nodes ++ more) where
  run tag attributes before stack root := by
    rw [String.toList_append, State.run_append_of (hs.run tag attributes before stack root),
      ht.run, List.append_assoc]
  lines := by
    rw [String.toList_append, List.mem_append, not_or]
    exact ⟨hs.lines, ht.lines⟩

lemma Yields.fills (h : Yields s nodes) : Fills s nodes where
  run tag attributes stack root := by
    refine ⟨0, ⟨tag, attributes, nodes, []⟩, h.run tag attributes [] stack root, rfl, ?_⟩
    rw [Frame.node, Frame.nodes, textNodes, if_pos rfl, List.append_nil]
  lines := h.lines

lemma Adds.nil : Adds "" [] :=
  ⟨fun brackets f _ _ => ⟨brackets, f, rfl, rfl, rfl, (List.append_nil _).symm⟩,
    List.not_mem_nil⟩

lemma Adds.append (hs : Adds s nodes) (ht : Adds t more) : Adds (s ++ t) (nodes ++ more) where
  run brackets f stack root := by
    obtain ⟨b, f', hrun, htag, hattributes, hnodes⟩ := hs.run brackets f stack root
    obtain ⟨b', f'', hrun', htag', hattributes', hnodes'⟩ := ht.run b f' stack root
    refine ⟨b', f'', ?_, htag'.trans htag, hattributes'.trans hattributes, ?_⟩
    · rw [String.toList_append, State.run_append_of hrun, hrun']
    · rw [hnodes', hnodes, List.append_assoc]
  lines := by
    rw [String.toList_append, List.mem_append, not_or]
    exact ⟨hs.lines, ht.lines⟩

lemma Adds.fills (h : Adds s nodes) : Fills s nodes where
  run tag attributes stack root := by
    obtain ⟨b, f, hrun, htag, hattributes, hnodes⟩ :=
      h.run 0 ⟨tag, attributes, [], []⟩ stack root
    refine ⟨b, f, hrun, htag, ?_⟩
    rw [Frame.node, htag, hattributes, hnodes]
    rfl
  lines := h.lines

lemma not_mem_escape (h : '\r' ∉ s.toList) : '\r' ∉ (escape s).toList := by
  rw [toList_escape, List.mem_flatMap]
  rintro ⟨c, hc, hcr⟩
  rw [escapeChar] at hcr
  split_ifs at hcr
  · exact absurd hcr (by decide)
  · exact absurd hcr (by decide)
  · exact absurd hcr (by decide)
  · exact h (List.mem_singleton.mp hcr ▸ hc)

lemma fills_escape (h : ∀ c ∈ s.toList, isXmlChar c ∧ c ≠ '\r') :
    Fills (escape s) (textNodes s.toList) where
  run tag attributes stack root := by
    obtain ⟨b, hb⟩ := State.run_escape (fun c hc => (h c hc).1) 0 ⟨tag, attributes, [], []⟩ stack
      root
    exact ⟨b, _, by rw [toList_escape, hb], rfl, rfl⟩
  lines := not_mem_escape fun hcr => (h _ hcr).2 rfl

lemma not_mem_of_isName {l : List Char} (h : isName l) : '\r' ∉ l := by
  obtain ⟨c, m, rfl, hc, hm⟩ := exists_cons_of_isName h
  intro hcr
  rcases List.mem_cons.mp hcr with rfl | hcr
  · cases hc
  · cases hm _ hcr

lemma not_mem_escapeAttribChar (c : Char) : '\r' ∉ escapeAttribChar c := by
  unfold escapeAttribChar
  split_ifs with _ _ _ _ hcr
  iterate 7
    · decide
  · simpa [eq_comm] using hcr

lemma not_mem_startText (h : Proper tag attributes) : '\r' ∉ startText tag attributes := by
  rw [startText, List.mem_append, List.mem_cons, not_or, not_or]
  refine ⟨⟨by decide, not_mem_of_isName h.name⟩, ?_⟩
  rw [List.mem_flatMap]
  rintro ⟨a, ha, hcr⟩
  simp only [State.attributeText, List.cons_append, List.mem_cons, List.mem_append,
    List.not_mem_nil, Char.reduceEq, false_or, or_false, List.mem_flatMap] at hcr
  rcases hcr with hcr | ⟨c, -, hcr⟩
  · exact not_mem_of_isName (h.written a ha).name hcr
  · exact not_mem_escapeAttribChar c hcr

lemma not_mem_endText (h : isName tag.toList) : '\r' ∉ State.endText tag := by
  simp [State.endText, not_mem_of_isName h]

lemma run_elementText (hp : Proper tag attributes) (h : Fills s nodes) (brackets : ℕ)
    (stack : List Frame) (root : Option Node) (hroot : stack = [] → root = none) :
    ∃ b f, State.run ⟨.content brackets, stack, root⟩ (elementText tag attributes s).toList
      = State.close ⟨.content b, f :: stack, root⟩ ∧ f.node = .element tag attributes nodes := by
  obtain ⟨b, f, hrun, rfl, hf⟩ := h.run tag attributes stack root
  refine ⟨b, f, ?_, hf⟩
  rw [elementText, String.toList_ofList, List.append_assoc,
    State.run_append_of (State.run_startText hp brackets), List.cons_append, State.run_cons,
    State.step_afterTag_close hroot, Option.bind_some, State.run_append_of hrun,
    State.run_endText hp.name]

lemma not_mem_elementText (hp : Proper tag attributes) (h : Fills s nodes) :
    '\r' ∉ (elementText tag attributes s).toList := by
  rw [elementText, String.toList_ofList, List.mem_append, List.mem_append, List.mem_cons, not_or,
    not_or, not_or]
  exact ⟨⟨not_mem_startText hp, by decide, h.lines⟩, not_mem_endText hp.name⟩

lemma lineEnds_elementText (hp : Proper tag attributes) :
    lineEnds (elementText tag attributes s) = elementText tag attributes (lineEnds s) := by
  have hstart : '\r' ∉ startText tag attributes ++ ['>'] := by
    rw [List.mem_append, not_or]
    exact ⟨not_mem_startText hp, by decide⟩
  have hsplit (l : List Char) : startText tag attributes ++ '>' :: l ++ State.endText tag =
      (startText tag attributes ++ ['>']) ++ (l ++ State.endText tag) := by
    simp
  apply String.toList_injective
  simp only [lineEnds, elementText, String.toList_ofList]
  rw [hsplit, hsplit, normalizeLineEnds_append (.inl fun h => hstart (List.mem_of_getLast? h)),
    normalizeLineEnds_of_not_mem hstart, normalizeLineEnds_append (.inr (by simp [State.endText])),
    normalizeLineEnds_of_not_mem (not_mem_endText hp.name)]

lemma getLast?_elementText (tag s : String) (attributes : Attributes) :
    (elementText tag attributes s).toList.getLast? = some '>' := by
  rw [elementText, String.toList_ofList, State.endText, ← List.append_assoc, List.getLast?_concat]

lemma yields_elementText (hp : Proper tag attributes) (h : Fills s nodes) :
    Yields (elementText tag attributes s) [.element tag attributes nodes] where
  run tag' attributes' before stack root := by
    obtain ⟨b, f, hrun, hf⟩ :=
      run_elementText hp h 0 (⟨tag', attributes', before, []⟩ :: stack) root nofun
    rw [hrun, State.close_inner, hf, Frame.push_between]
  lines := not_mem_elementText hp h

lemma yields_emptyElementText (hp : Proper tag attributes) :
    Yields (emptyElementText tag attributes) [.element tag attributes []] where
  run tag' attributes' before stack root := by
    have hslash : State.step ⟨State.afterTag tag.toList attributes,
        ⟨tag', attributes', before, []⟩ :: stack, root⟩ '/'
        = some ⟨.slash tag.toList attributes, ⟨tag', attributes', before, []⟩ :: stack, root⟩ :=
      State.step_afterTag rfl rfl
    have hend : State.step ⟨.slash tag.toList attributes,
        ⟨tag', attributes', before, []⟩ :: stack, root⟩ '>'
        = State.close ⟨.content 0, ⟨tag, attributes, [], []⟩ ::
          ⟨tag', attributes', before, []⟩ :: stack, root⟩ := by
      simp [State.step, State.begin, show isXmlChar '>' from rfl]
    rw [emptyElementText, String.toList_ofList, State.run_append_of (State.run_startText hp 0),
      State.run_cons, hslash, Option.bind_some, State.run_cons, hend, State.close_inner,
      Frame.push_between, Option.bind_some, State.run_nil]
    rfl
  lines := by
    rw [emptyElementText, String.toList_ofList, List.mem_append, not_or]
    exact ⟨not_mem_startText hp, by decide⟩

lemma fills_text (hs : ∀ c ∈ s.toList, isXmlChar c ∧ c ≠ '\r') (ht : Adds t nodes) :
    Fills (escape s ++ t) (textNodes s.toList ++ nodes) where
  run tag attributes stack root := by
    obtain ⟨b, hb⟩ := State.run_escape (fun c hc => (hs c hc).1) 0 ⟨tag, attributes, [], []⟩ stack
      root
    obtain ⟨b', f, hrun, htag, hattributes, hnodes⟩ := ht.run b ⟨tag, attributes, [], s.toList⟩
      stack root
    refine ⟨b', f, ?_, htag, ?_⟩
    · rw [String.toList_append, toList_escape, State.run_append_of hb]
      exact hrun
    · rw [Frame.node, htag, hattributes, hnodes]
      rfl
  lines := by
    rw [String.toList_append, List.mem_append, not_or]
    exact ⟨not_mem_escape fun hcr => (hs _ hcr).2 rfl, ht.lines⟩

lemma adds_of_run {n : Node} (hs : ∀ brackets f stack root,
    State.run ⟨.content brackets, f :: stack, root⟩ s.toList
      = some ⟨.content 0, f.push n :: stack, root⟩) (hlines : '\r' ∉ s.toList)
    (ht : ∀ c ∈ t.toList, isXmlChar c ∧ c ≠ '\r') :
    Adds (s ++ escape t) (n :: textNodes t.toList) where
  run brackets f stack root := by
    obtain ⟨b, hb⟩ := State.run_escape (fun c hc => (ht c hc).1) 0 (f.push n) stack root
    refine ⟨b, { f.push n with text := (f.push n).text ++ t.toList }, ?_, rfl, rfl, ?_⟩
    · rw [String.toList_append, toList_escape, State.run_append_of (hs brackets f stack root), hb]
    · simp [Frame.push, Frame.nodes]
  lines := by
    rw [String.toList_append, List.mem_append, not_or]
    exact ⟨hlines, not_mem_escape fun hcr => (ht _ hcr).2 rfl⟩

lemma adds_elementText (hp : Proper tag attributes) (h : Fills s nodes)
    (ht : ∀ c ∈ t.toList, isXmlChar c ∧ c ≠ '\r') :
    Adds (elementText tag attributes s ++ escape t)
      (.element tag attributes nodes :: textNodes t.toList) := by
  refine adds_of_run (fun brackets f stack root => ?_) (not_mem_elementText hp h) ht
  obtain ⟨b, g, hrun, hg⟩ := run_elementText hp h brackets (f :: stack) root nofun
  rw [hrun, State.close_inner, hg]

lemma adds_emptyElement (hp : Proper tag attributes)
    (ht : ∀ c ∈ t.toList, isXmlChar c ∧ c ≠ '\r') :
    Adds (String.ofList (startText tag attributes ++ [' ', '/', '>']) ++ escape t)
      (.element tag attributes [] :: textNodes t.toList) := by
  refine adds_of_run (fun brackets f stack root => ?_) ?_ ht
  · have hblank : State.step ⟨State.afterTag tag.toList attributes, f :: stack, root⟩ ' '
        = some ⟨.startTag tag.toList attributes, f :: stack, root⟩ := State.step_afterTag rfl rfl
    have hslash : State.step ⟨.startTag tag.toList attributes, f :: stack, root⟩ '/'
        = some ⟨.slash tag.toList attributes, f :: stack, root⟩ := rfl
    have hend : State.step ⟨.slash tag.toList attributes, f :: stack, root⟩ '>'
        = some ⟨.content 0, f.push (.element tag attributes []) :: stack, root⟩ := by
      simp [State.step, State.begin, State.close, Frame.node, Frame.nodes, textNodes,
        show isXmlChar '>' from rfl]
    rw [String.toList_ofList, State.run_append_of (State.run_startText hp brackets),
      State.run_cons, hblank, Option.bind_some, State.run_cons, hslash, Option.bind_some,
      State.run_cons, hend, Option.bind_some, State.run_nil]
  · rw [String.toList_ofList, List.mem_append, not_or]
    exact ⟨not_mem_startText hp, by decide⟩

/-- **The document rule.** A document that is one element parses to that element. -/
theorem parse_elementText (hp : Proper tag attributes) (h : Fills s nodes) :
    parse (elementText tag attributes s) = some (.element tag attributes nodes) := by
  obtain ⟨b, f, hrun, hf⟩ := run_elementText hp h 0 [] none fun _ => rfl
  rw [parse, normalizeLineEnds_of_not_mem (not_mem_elementText hp h), State.init, hrun,
    State.close_root, hf, Option.bind_some, State.finish]

end SophosFw.Xml
