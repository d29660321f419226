import SophosFw.PyDict

/-!
Element trees as `xml.etree.ElementTree` has them: what its search methods find, and edits of
one child.
-/

namespace SophosFw.ElementTree

open SophosFw.PyDict

structure Element where
  tag : String
  attrib : Dict String String
  text : Option String
  /-- The text between this element and the next one. -/
  tail : Option String
  children : List Element

namespace Element

/-- `ET.Element(tag)`, with what `SubElement` and `text` put into it. -/
def new (tag : String) (text : Option String) (children : List Element) : Element :=
  ⟨tag, .empty, text, none, children⟩

def attr (e : Element) (name : String) : Option String := e.attrib.get name

/-- The first child with this tag. -/
def find (e : Element) (tag : String) : Option Element := e.children.find? fun c => c.tag = tag

def findall (e : Element) (tag : String) : List Element := e.children.filter fun c => c.tag = tag

/-- The elements a path of tags leads to, in document order. -/
def select (e : Element) : List String → List Element
  | [] => [e]
  | tag :: path => (e.findall tag).flatMap fun c => c.select path

/-- `find` with a path such as `Login/status`. -/
def findPath (e : Element) (path : List String) : Option Element := (e.select path).head?

/-- The text of the first child with this tag, if there is one. -/
def findtext (e : Element) (tag : String) : Option String :=
  (e.find tag).map fun c => c.text.getD ""

/-- The elements of the tree with this tag, the root included, in document order. -/
def iter (tag : String) : Element → List Element
  | ⟨t, attrib, text, tail, children⟩ =>
    (if t = tag then [⟨t, attrib, text, tail, children⟩] else []) ++ go children
where
  go : List Element → List Element
    | [] => []
    | e :: rest => iter tag e ++ go rest

lemma iter_go (tag : String) (l : List Element) : iter.go tag l = l.flatMap (iter tag) := by
  induction l with
  | nil => rfl
  | cons e l ih => rw [iter.go, ih, List.flatMap_cons]

lemma iter_eq (tag : String) (e : Element) :
    e.iter tag = (if e.tag = tag then [e] else []) ++ e.children.flatMap (iter tag) := by
  cases e
  rw [iter, iter_go]

@[elab_as_elim]
lemma inductionOn {motive : Element → Prop} (e : Element)
    (h : ∀ e, (∀ c ∈ e.children, motive c) → motive e) : motive e := by
  refine h e fun c hc => ?_
  have hsize : sizeOf c < sizeOf e := by
    have hlt := List.sizeOf_lt_of_mem hc
    cases e
    simp only [Element.mk.sizeOf_spec] at hlt ⊢
    omega
  exact inductionOn c h
termination_by sizeOf e

/-- Every element of the tree satisfies `p`. -/
def every (p : Element → Bool) : Element → Bool
  | ⟨tag, attrib, text, tail, children⟩ => p ⟨tag, attrib, text, tail, children⟩ && go children
where
  go : List Element → Bool
    | [] => true
    | e :: rest => every p e && go rest

lemma every_go (p : Element → Bool) (l : List Element) : every.go p l = l.all (every p) := by
  induction l with
  | nil => rfl
  | cons e l ih => rw [every.go, ih, List.all_cons]

lemma every_iff {p : Element → Bool} {e : Element} :
    e.every p = true ↔ p e = true ∧ ∀ c ∈ e.children, c.every p = true := by
  cases e
  rw [every, every_go, Bool.and_eq_true, List.all_eq_true]

lemma find_eq_head_findall (e : Element) (tag : String) : e.find tag = (e.findall tag).head? := by
  simp [find, findall]

end Element

/-! ### The first entry of a list that fits -/

section First

variable {α β : Type}

/-- Change the first entry that satisfies `p`. -/
def mapFirst (p : α → Bool) (f : α → α) : List α → List α
  | [] => []
  | a :: l => if p a then f a :: l else a :: mapFirst p f l

/-- Take out the first entry that satisfies `p`. -/
def eraseFirst (p : α → Bool) : List α → List α
  | [] => []
  | a :: l => if p a then l else a :: eraseFirst p l

variable {p q : α → Bool} {f : α → α}

lemma find?_mapFirst (hf : ∀ a, p (f a) = p a) (l : List α) :
    (mapFirst p f l).find? p = (l.find? p).map f := by
  induction l with
  | nil => rfl
  | cons a l ih =>
    rcases h : p a with _ | _
    · simp [mapFirst, h, ih]
    · simp [mapFirst, h, hf]

lemma mem_mapFirst {b : α} {l : List α} (h : b ∈ mapFirst p f l) : b ∈ l ∨ ∃ a ∈ l, b = f a := by
  induction l with
  | nil => cases h
  | cons a l ih =>
    rcases hp : p a with _ | _
    · rcases List.mem_cons.mp (by simpa [mapFirst, hp] using h) with rfl | hb
      · exact .inl List.mem_cons_self
      · rcases ih hb with hl | ⟨a', ha', rfl⟩
        · exact .inl (List.mem_cons_of_mem _ hl)
        · exact .inr ⟨a', List.mem_cons_of_mem _ ha', rfl⟩
    · rcases List.mem_cons.mp (by simpa [mapFirst, hp] using h) with rfl | hb
      · exact .inr ⟨a, List.mem_cons_self, rfl⟩
      · exact .inl (List.mem_cons_of_mem _ hb)

lemma exists_split_of_find?_some {l : List α} {a : α} (h : l.find? p = some a) :
    ∃ l₁ l₂, l = l₁ ++ a :: l₂ ∧ p a ∧ (∀ b ∈ l₁, p b = false) ∧
      (∀ f, mapFirst p f l = l₁ ++ f a :: l₂) ∧ eraseFirst p l = l₁ ++ l₂ := by
  induction l with
  | nil => cases h
  | cons b l ih =>
    rcases hb : p b with _ | _
    · obtain ⟨l₁, l₂, rfl, hp, hl, hm, he⟩ := ih (by simpa [hb] using h)
      refine ⟨b :: l₁, l₂, rfl, hp, by simpa [hb] using hl, fun f => ?_, ?_⟩
      · simp [mapFirst, hb, hm]
      · simp [eraseFirst, hb, he]
    · obtain rfl : b = a := by simpa [hb] using h
      exact ⟨[], l, rfl, hb, by simp, fun f => by simp [mapFirst, hb], by simp [eraseFirst, hb]⟩

lemma split_unique {l₁ l₂ m₁ m₂ : List α} (h : l₁ ++ l₂ = m₁ ++ m₂)
    (hl₁ : ∀ a ∈ l₁, p a = false) (hl₂ : ∀ a ∈ l₂.head?, p a) (hm₁ : ∀ a ∈ m₁, p a = false)
    (hm₂ : ∀ a ∈ m₂.head?, p a) : l₁ = m₁ ∧ l₂ = m₂ := by
  have hfirst : ∀ {l₁ l₂ : List α}, (∀ a ∈ l₁, p a = false) → (∀ a ∈ l₂.head?, p a) →
      (l₁ ++ l₂).takeWhile (fun a => !p a) = l₁ := by
    intro l₁ l₂ h₁ h₂
    rw [List.takeWhile_append_of_pos (by simpa using h₁)]
    rcases l₂ with _ | ⟨a, l₂⟩
    · exact List.append_nil l₁
    · rw [List.takeWhile_cons_of_neg (by simpa using h₂), List.append_nil]
  have hsame : l₁ = m₁ := by
    rw [← hfirst hl₁ hl₂, h, hfirst hm₁ hm₂]
  subst hsame
  exact ⟨rfl, List.append_cancel_left h⟩

lemma filter_mapFirst (hp : ∀ a, p a → q a = false) (hf : ∀ a, p a → q (f a) = false)
    (l : List α) : (mapFirst p f l).filter q = l.filter q := by
  induction l with
  | nil => rfl
  | cons a l ih =>
    rcases h : p a with _ | _
    · simp [mapFirst, h, List.filter_cons, ih]
    · simp [mapFirst, h, hp a h, hf a h]

lemma filter_mapFirst_self (hf : ∀ a, p (f a) = p a) (l : List α) :
    (mapFirst p f l).filter p = mapFirst p f (l.filter p) := by
  induction l with
  | nil => rfl
  | cons a l ih =>
    rcases h : p a with _ | _
    · simp [mapFirst, h, ih]
    · simp [mapFirst, h, hf]

lemma map_mapFirst {g : α → β} (hg : ∀ a, p a → g (f a) = g a) (l : List α) :
    (mapFirst p f l).map g = l.map g := by
  induction l with
  | nil => rfl
  | cons a l ih =>
    rcases h : p a with _ | _
    · simp [mapFirst, h, ih]
    · simp [mapFirst, h, hg a h]

lemma mapFirst_map {g : α → β} {p' : β → Bool} {f' : β → β} (hp : ∀ a, p' (g a) = p a)
    (hf : ∀ a, f' (g a) = g (f a)) (l : List α) :
    mapFirst p' f' (l.map g) = (mapFirst p f l).map g := by
  induction l with
  | nil => rfl
  | cons a l ih =>
    rcases h : p a with _ | _
    · simp [mapFirst, hp, h, ih]
    · simp [mapFirst, hp, h, hf]

end First

namespace Element

/-- `e.text = value`. -/
def setText (e : Element) (value : String) : Element := { e with text := some value }

/-- `e.find(tag).text = value`, where there is such a child. -/
def setChildText (e : Element) (tag value : String) : Element :=
  { e with children := mapFirst (fun c => c.tag = tag) (fun c => c.setText value) e.children }

variable (e : Element) (tag value : String)

@[simp] lemma setText_tag : (e.setText value).tag = e.tag := rfl
@[simp] lemma setText_children : (e.setText value).children = e.children := rfl
@[simp] lemma setChildText_tag : (e.setChildText tag value).tag = e.tag := rfl

lemma setChildText_tags :
    (e.setChildText tag value).children.map Element.tag = e.children.map Element.tag := by
  rw [setChildText, map_mapFirst]
  exact fun _ _ => rfl

lemma find_setChildText :
    (e.setChildText tag value).find tag = (e.find tag).map fun c => c.setText value := by
  rw [find, setChildText, find?_mapFirst]
  · rfl
  · exact fun _ => rfl

lemma findall_setChildText {t : String} (h : t ≠ tag) :
    (e.setChildText tag value).findall t = e.findall t := by
  rw [findall, setChildText, filter_mapFirst]
  · rfl
  all_goals
    intro c hc
    simp only [decide_eq_true_eq] at hc
    simpa [hc] using h.symm

lemma findall_setChildText_self : (e.setChildText tag value).findall tag =
    mapFirst (fun c => c.tag = tag) (fun c => c.setText value) (e.findall tag) := by
  rw [findall, setChildText, filter_mapFirst_self]
  · rfl
  · exact fun _ => rfl

end Element

end SophosFw.ElementTree
