import SophosFw.Unicode
import Mathlib.Data.List.DropRight

/-!
The text methods of CPython on strings of Unicode scalar values: `strip`, `lower` and
`isdigit`, and what they do to one another.
-/

namespace SophosFw.PyText

def isSpace (c : Char) : Bool := inRanges spaceRanges c.toNat

def stripChars (l : List Char) : List Char := (l.dropWhile isSpace).rdropWhile isSpace

/-- `str.strip()`. -/
def strip (s : String) : String := String.ofList (stripChars s.toList)

def LowerRange.contains (r : LowerRange) (n : ℕ) : Bool :=
  decide (r.first ≤ n) && decide (n ≤ r.last) && decide ((n - r.first) % r.step = 0)

/-- The lower case of a code point beyond ASCII, if it has one. -/
def lowerCode (n : ℕ) : Option ℕ :=
  (lowerRanges.find? fun r => r.contains n).map fun r => r.target + (n - r.first)

/-- The lower case of a character on its own. -/
def lowerChar (c : Char) : List Char :=
  if c.toNat < 128 then
    if 65 ≤ c.toNat ∧ c.toNat ≤ 90 then [Char.ofNat (c.toNat + 32)] else [c]
  else if c = '\u0130' then ['i', '\u0307']
  else
    match lowerCode c.toNat with
    | none => [c]
    | some n => [Char.ofNat n]

def isCased (c : Char) : Bool := inRanges casedRanges c.toNat

def isCaseIgnorable (c : Char) : Bool := inRanges caseIgnorableRanges c.toNat

/-- A capital sigma ends a word; the characters before it come nearest first. -/
def finalSigma (before after : List Char) : Bool :=
  ((before.dropWhile isCaseIgnorable).head?.any isCased) &&
    !((after.dropWhile isCaseIgnorable).head?.any isCased)

def lowerAt (before : List Char) (c : Char) (after : List Char) : List Char :=
  if c = '\u03a3' then [if finalSigma before after then '\u03c2' else '\u03c3']
  else lowerChar c

def lowerChars : List Char → List Char → List Char
  | _, [] => []
  | before, c :: after => lowerAt before c after ++ lowerChars (c :: before) after

/-- `str.lower()`. -/
def lower (s : String) : String := String.ofList (lowerChars [] s.toList)

def isDecimal (c : Char) : Bool := inRanges decimalRanges c.toNat

def isDigitChar (c : Char) : Bool := isDecimal c || inRanges otherDigitRanges c.toNat

/-- `str.isdigit()`. -/
def isDigit (s : String) : Bool := s ≠ "" && s.toList.all isDigitChar

/-! ### What lower leaves -/

/-- The lower-case letters of one run are no capital letters of the other. -/
def LowerRange.separate (r r' : LowerRange) : Bool :=
  decide (r.target + (r.last - r.first) < r'.first) || decide (r'.last < r.target) ||
    (decide (r'.step = 2) && (decide (r.step = 2) || decide (r.first = r.last)) &&
      decide ((r.target + r'.first) % 2 = 1))

lemma LowerRange.not_contains {r r' : LowerRange} (h : r.separate r') {n : ℕ}
    (hn : r.contains n) : r'.contains (r.target + (n - r.first)) = false := by
  simp only [separate, contains, Bool.or_eq_true, Bool.and_eq_true, decide_eq_true_eq] at h hn
  simp only [contains, Bool.and_eq_false_iff, decide_eq_false_iff_not]
  rcases h with (h | h) | ⟨⟨hs, h | h⟩, hp⟩
  · omega
  · omega
  · rw [hs]
    rw [h] at hn
    omega
  · rw [hs]
    omega

lemma lowerRanges_separate :
    (lowerRanges.all fun r => lowerRanges.all fun r' => r.separate r') = true := by
  decide +kernel

lemma toNat_ofNat {n : ℕ} (h : n.isValidChar) : (Char.ofNat n).toNat = n := by
  unfold Char.ofNat
  rw [dif_pos h]
  rfl

/-- Code points no lower-case letter has: the ASCII capitals, the dotted capital I, the
surrogates, white space. -/
def otherRanges : List (ℕ × ℕ) := (65, 90) :: (304, 304) :: (55296, 57343) :: spaceRanges

lemma lowerRanges_others :
    (lowerRanges.all fun r => decide (r.target + (r.last - r.first) < 1114112) &&
      otherRanges.all fun k =>
        decide (r.target + (r.last - r.first) < k.1) || decide (k.2 < r.target)) = true := by
  decide +kernel

lemma lowerCode_spec {n m : ℕ} (h : lowerCode n = some m) :
    lowerCode m = none ∧ m.isValidChar ∧ inRanges otherRanges m = false := by
  obtain ⟨r, hr, rfl⟩ := Option.map_eq_some_iff.mp h
  have hmem := List.mem_of_find?_eq_some hr
  have hc : r.contains n := by simpa using List.find?_some hr
  have hle : n - r.first ≤ r.last - r.first := by
    simp only [LowerRange.contains, Bool.and_eq_true, decide_eq_true_eq] at hc
    omega
  have hother := List.all_eq_true.mp lowerRanges_others r hmem
  simp only [Bool.and_eq_true, decide_eq_true_eq, List.all_eq_true, Bool.or_eq_true] at hother
  refine ⟨?_, ?_, ?_⟩
  · simp only [lowerCode, Option.map_eq_none_iff, List.find?_eq_none, Bool.not_eq_true]
    exact fun r' hr' =>
      LowerRange.not_contains (List.all_eq_true.mp (List.all_eq_true.mp lowerRanges_separate r hmem)
        r' hr') hc
  · have := hother.2 (55296, 57343) (by simp [otherRanges])
    simp only [Nat.isValidChar]
    omega
  · simp only [inRanges, List.any_eq_false, Bool.and_eq_true, decide_eq_true_eq, not_and]
    intro k hk
    have := hother.2 k hk
    omega

/-- A character that lower leaves alone wherever it stands. -/
def IsLow (c : Char) : Prop := lowerChar c = [c] ∧ c ≠ '\u03a3'

lemma isLow_of_ascii {c : Char} (h : c.toNat < 128) (hc : ¬ (65 ≤ c.toNat ∧ c.toNat ≤ 90)) :
    IsLow c :=
  ⟨by rw [lowerChar, if_pos h, if_neg hc], by rintro rfl; exact absurd h (by decide)⟩

lemma isLow_of_code {c : Char} (h : ¬ c.toNat < 128) (hi : c ≠ '\u0130')
    (hn : lowerCode c.toNat = none) : IsLow c := by
  constructor
  · rw [lowerChar, if_neg h, if_neg hi, hn]
  · rintro rfl
    exact absurd hn (by decide +kernel)

lemma not_space_of_other {m : ℕ} (h : inRanges otherRanges m = false) :
    inRanges spaceRanges m = false := by
  simp only [inRanges, otherRanges, List.any_cons, Bool.or_eq_false_iff] at h ⊢
  exact h.2.2.2

lemma lowerChar_spec {c d : Char} (h : d ∈ lowerChar c) :
    IsLow d ∧ (isSpace d → lowerChar c = [c]) := by
  unfold lowerChar at h
  split at h
  · next hascii =>
    split at h
    · next hcap =>
      obtain rfl := List.mem_singleton.mp h
      have hn : (Char.ofNat (c.toNat + 32)).toNat = c.toNat + 32 :=
        toNat_ofNat (by simp only [Nat.isValidChar]; omega)
      refine ⟨isLow_of_ascii (by omega) (by omega), fun hs => ?_⟩
      simp [isSpace, inRanges, spaceRanges, hn] at hs
      omega
    · next hcap =>
      obtain rfl := List.mem_singleton.mp h
      have hlow := isLow_of_ascii hascii hcap
      exact ⟨hlow, fun _ => hlow.1⟩
  next hascii =>
  split at h
  · rcases List.mem_pair.mp h with rfl | rfl
    · exact ⟨isLow_of_ascii (by decide) (by decide), fun hs => absurd hs (by decide)⟩
    · exact ⟨isLow_of_code (by decide) (by decide) (by decide +kernel),
        fun hs => absurd hs (by decide)⟩
  next hi =>
  split at h
  · next hn =>
    obtain rfl := List.mem_singleton.mp h
    have hlow := isLow_of_code hascii hi hn
    exact ⟨hlow, fun _ => hlow.1⟩
  · next m hm =>
    obtain rfl := List.mem_singleton.mp h
    obtain ⟨hnone, hvalid, hother⟩ := lowerCode_spec hm
    have hn : (Char.ofNat m).toNat = m := toNat_ofNat hvalid
    have hspace : isSpace (Char.ofNat m) = false := by
      rw [isSpace, hn]
      exact not_space_of_other hother
    refine ⟨?_, fun hs => by simp [hspace] at hs⟩
    simp only [inRanges, otherRanges, List.any_cons, Bool.or_eq_false_iff, Bool.and_eq_false_iff,
      decide_eq_false_iff_not] at hother
    by_cases hm : m < 128
    · exact isLow_of_ascii (by omega) (by omega)
    · refine isLow_of_code (by omega) ?_ (by rw [hn]; exact hnone)
      intro he
      have : m = 304 := by rw [← hn, he]; rfl
      omega

lemma lowerAt_spec {before after : List Char} {c d : Char} (h : d ∈ lowerAt before c after) :
    IsLow d ∧ (isSpace c = false → isSpace d = false) := by
  unfold lowerAt at h
  split at h
  · have hd : d = '\u03c2' ∨ d = '\u03c3' := by
      split at h <;> simp_all
    rcases hd with rfl | rfl
    · exact ⟨isLow_of_code (by decide) (by decide) (by decide +kernel), fun _ => by decide⟩
    · exact ⟨isLow_of_code (by decide) (by decide) (by decide +kernel), fun _ => by decide⟩
  · obtain ⟨hlow, hs⟩ := lowerChar_spec h
    refine ⟨hlow, fun hc => ?_⟩
    by_contra hd
    rw [hs (by simpa using hd)] at h
    obtain rfl := List.mem_singleton.mp h
    exact hd hc

lemma lowerAt_ne_nil (before : List Char) (c : Char) (after : List Char) :
    lowerAt before c after ≠ [] := by
  unfold lowerAt lowerChar
  split
  · simp
  · split
    · split <;> simp
    · split
      · simp
      · split <;> simp

lemma lowerAt_of_isLow {c : Char} (h : IsLow c) (before after : List Char) :
    lowerAt before c after = [c] := by
  rw [lowerAt, if_neg h.2, h.1]

lemma mem_lowerChars {c : Char} (hc : IsLow c) {before l : List Char} (h : c ∈ l) :
    c ∈ lowerChars before l := by
  induction l generalizing before with
  | nil => cases h
  | cons a l ih =>
    rw [lowerChars, List.mem_append]
    rcases List.mem_cons.mp h with rfl | h
    · rw [lowerAt_of_isLow hc]
      exact .inl (List.mem_singleton_self c)
    · exact .inr (ih h)

lemma lowerChars_isLow {before l : List Char} : ∀ d ∈ lowerChars before l, IsLow d := by
  induction l generalizing before with
  | nil => simp [lowerChars]
  | cons c l ih =>
    intro d hd
    rcases List.mem_append.mp hd with hd | hd
    · exact (lowerAt_spec hd).1
    · exact ih d hd

lemma lowerChars_of_isLow {before l : List Char} (h : ∀ c ∈ l, IsLow c) :
    lowerChars before l = l := by
  induction l generalizing before with
  | nil => rfl
  | cons c l ih =>
    rw [lowerChars, lowerAt_of_isLow (h c List.mem_cons_self),
      ih fun d hd => h d (List.mem_cons_of_mem c hd)]
    rfl

@[simp] lemma lower_lower (s : String) : lower (lower s) = lower s := by
  simp only [lower, String.toList_ofList]
  rw [lowerChars_of_isLow lowerChars_isLow]

lemma lowerChars_concat (before l : List Char) (c : Char) :
    ∃ init, lowerChars before (l ++ [c]) = init ++ lowerAt (l.reverse ++ before) c [] := by
  induction l generalizing before with
  | nil => exact ⟨[], by simp [lowerChars]⟩
  | cons d l ih =>
    obtain ⟨init, h⟩ := ih (d :: before)
    exact ⟨lowerAt before d (l ++ [c]) ++ init, by simp [lowerChars, h]⟩

/-- No white space at either end. -/
def Trimmed (l : List Char) : Prop :=
  (∀ c t, l = c :: t → isSpace c = false) ∧ ∀ i c, l = i ++ [c] → isSpace c = false

lemma stripChars_of_trimmed {l : List Char} (h : Trimmed l) : stripChars l = l := by
  have hd : l.dropWhile isSpace = l := by
    rcases l with _ | ⟨c, t⟩
    · rfl
    · simp [h.1 c t rfl]
  rw [stripChars, hd, List.rdropWhile_eq_self_iff]
  intro hne
  simpa using h.2 _ _ (List.dropLast_append_getLast hne).symm

lemma stripChars_trimmed (l : List Char) : Trimmed (stripChars l) := by
  constructor
  · intro c t h
    obtain ⟨rest, hr⟩ := List.rdropWhile_prefix isSpace (l.dropWhile isSpace)
    rw [← stripChars, h] at hr
    have hd := List.head?_dropWhile_not isSpace l
    rw [← hr] at hd
    simpa using hd
  · intro i c h
    have hl := List.rdropWhile_last_not isSpace (l.dropWhile isSpace)
    rw [← stripChars] at hl
    simpa [h] using hl

lemma Trimmed.lowerChars {l : List Char} (h : Trimmed l) : Trimmed (lowerChars [] l) := by
  constructor
  · intro d t hd
    rcases l with _ | ⟨c, l⟩
    · cases hd
    · rw [PyText.lowerChars] at hd
      obtain ⟨e, rest, he⟩ := List.exists_cons_of_ne_nil (lowerAt_ne_nil [] c l)
      rw [he, List.cons_append] at hd
      obtain ⟨rfl, -⟩ := List.cons.inj hd
      exact (lowerAt_spec (he ▸ List.mem_cons_self)).2 (h.1 c l rfl)
  · intro i d hd
    rcases List.eq_nil_or_concat l with rfl | ⟨l', c, rfl⟩
    · simp [PyText.lowerChars] at hd
    · obtain ⟨init, hl⟩ := lowerChars_concat [] l' c
      rw [List.concat_eq_append, hl] at hd
      have hne := lowerAt_ne_nil (l'.reverse ++ []) c []
      obtain ⟨rest, e, he⟩ : ∃ rest e, lowerAt (l'.reverse ++ []) c [] = rest ++ [e] :=
        ⟨_, _, (List.dropLast_append_getLast hne).symm⟩
      rw [he, ← List.append_assoc] at hd
      obtain ⟨-, hed⟩ := List.append_inj' hd rfl
      obtain rfl : e = d := by simpa using hed
      have hmem : e ∈ lowerAt (l'.reverse ++ []) c [] := by rw [he]; simp
      exact (lowerAt_spec hmem).2 (h.2 l' c (by simp))

@[simp] lemma strip_strip (s : String) : strip (strip s) = strip s := by
  simp only [strip, String.toList_ofList]
  rw [stripChars_of_trimmed (stripChars_trimmed _)]

@[simp] lemma strip_lower_strip (s : String) : strip (lower (strip s)) = lower (strip s) := by
  simp only [strip, lower, String.toList_ofList]
  rw [stripChars_of_trimmed (stripChars_trimmed _).lowerChars]

section Split

variable {p : Char → Bool} {a b x y : List Char} {c d : Char}

lemma takeWhile_split (ha : ∀ z ∈ a, p z = true) (hc : p c = false) :
    (a ++ c :: x).takeWhile p = a := by
  rw [List.takeWhile_append_of_pos ha, List.takeWhile_cons_of_neg (by simp [hc]), List.append_nil]

lemma dropWhile_split (ha : ∀ z ∈ a, p z = true) (hc : p c = false) :
    (a ++ c :: x).dropWhile p = c :: x := by
  rw [List.dropWhile_append_of_pos ha, List.dropWhile_cons_of_neg (by simp [hc])]

/-- A text falls apart at the first character without a property in one way. -/
lemma split_inj (ha : ∀ z ∈ a, p z = true) (hc : p c = false) (hb : ∀ z ∈ b, p z = true)
    (hd : p d = false) (h : a ++ c :: x = b ++ d :: y) : a = b ∧ c = d ∧ x = y := by
  have htake := congrArg (List.takeWhile p) h
  have hdrop := congrArg (List.dropWhile p) h
  rw [takeWhile_split ha hc, takeWhile_split hb hd] at htake
  rw [dropWhile_split ha hc, dropWhile_split hb hd] at hdrop
  exact ⟨htake, List.cons_eq_cons.mp hdrop⟩

lemma of_dropWhile_cons (h : a.dropWhile p = c :: x) : p c = false := by
  have hhead := List.head_dropWhile_not p (l := a) (by rw [h]; exact List.cons_ne_nil _ _)
  simpa [h] using hhead

end Split

section Join

variable {sep part : List Char} {parts : List (List Char)} {c s : Char}

lemma mem_intercalate (hp : part ∈ parts) (hc : c ∈ part) : c ∈ sep.intercalate parts := by
  induction parts with
  | nil => cases hp
  | cons q rest ih =>
    rcases rest with _ | ⟨q', rest⟩
    · rw [List.intercalate_singleton]
      rwa [← List.mem_singleton.mp hp]
    · rw [List.intercalate_cons_cons]
      rcases List.mem_cons.mp hp with rfl | hp
      · exact List.mem_append_left _ (List.mem_append_left _ hc)
      · exact List.mem_append_right _ (ih hp)

lemma forall_mem_intercalate {P : Char → Prop} (h : ∀ l ∈ parts, ∀ c ∈ l, P c) :
    ∀ c ∈ [s].intercalate parts, P c ∨ c = s := by
  induction parts with
  | nil => exact fun c hc => absurd hc List.not_mem_nil
  | cons l rest ih =>
    rw [List.forall_mem_cons] at h
    rcases rest with _ | ⟨l', rest⟩
    · rw [List.intercalate_singleton]
      exact fun c hc => .inl (h.1 c hc)
    · rw [List.intercalate_cons_cons]
      intro c hc
      rcases List.mem_append.mp hc with hc | hc
      · rcases List.mem_append.mp hc with hc | hc
        · exact .inl (h.1 c hc)
        · exact .inr (List.mem_singleton.mp hc)
      · exact ih h.2 c hc

lemma mem_of_mem_splitOn {l : List Char} (hp : part ∈ l.splitOn s) (hc : c ∈ part) : c ∈ l := by
  rw [← @List.intercalate_splitOn Char l _ _ s]
  exact mem_intercalate hp hc

end Join

end SophosFw.PyText
