import SophosFw.PyText
import SophosFw.Regex
import SophosFw.Registry

/-!
The domain names the actions accept.

A text is stripped, lower-cased and cut down to the host of a URL before the pattern is tried,
and cutting can leave a line break at the end that stripping was too early for. The pattern does
not mind one there.
-/

namespace SophosFw.Services

open SophosFw.PyText SophosFw.Regex SophosFw.Registry

def isAlphanumeric (c : Char) : Bool :=
  decide (('A' ≤ c ∧ c ≤ 'Z') ∨ ('a' ≤ c ∧ c ≤ 'z') ∨ ('0' ≤ c ∧ c ≤ '9'))

def isLabelChar (c : Char) : Bool := isAlphanumeric c || c == '-'

/-- `_LABEL` -/
def labelRe : Re :=
  .seq (.cls isAlphanumeric) (.opt (.seq (.star (.cls isLabelChar)) (.cls isAlphanumeric)))

/-- `(?=.{1,250}$)` -/
def lengthRe : Re := .look (.seq (.rep .any 1 250) .eol)

/-- `_DOMAIN_RE` -/
def domainRe : Re :=
  .seq .bol (.seq lengthRe
    (.seq labelRe (.seq (Re.plus (.seq (.cls (· == '.')) labelRe)) .eol)))

/-- `text.split(sep, 1)[1]`, of a text with the separator. -/
def afterFirst (sep : List Char) : List Char → List Char
  | [] => []
  | c :: l => if sep <+: c :: l then (c :: l).drop sep.length else afterFirst sep l

/-- The text the pattern is tried on. -/
def domainText (value : String) : String :=
  let text := lower (strip value)
  let text := if startsWith text "http://" || startsWith text "https://" then
      String.ofList (afterFirst "://".toList text.toList)
    else text
  String.ofList ((text.toList.takeWhile (· ∉ ['/', '?', '#'])).rdropWhile (· == '.'))

/-- `_domain` -/
def domain (value : String) : Except String String :=
  let text := domainText value
  if domainRe.matches text.toList then .ok text
  else .error "expected a domain name such as example.com"

/-- A letter, a digit or a hyphen. -/
def isDomainChar (c : Char) : Bool :=
  decide (('a' ≤ c ∧ c ≤ 'z') ∨ ('0' ≤ c ∧ c ≤ '9') ∨ c = '-')

def IsLabel (w : List Char) : Prop :=
  w ≠ [] ∧ (∀ c ∈ w, isDomainChar c = true) ∧ w.head? ≠ some '-' ∧ w.getLast? ≠ some '-'

/-- At least two labels with dots between them, 250 characters at most. -/
def IsDomain (l : List Char) : Prop :=
  l.length ≤ 250 ∧ 2 ≤ (l.splitOn '.').length ∧ ∀ w ∈ l.splitOn '.', IsLabel w

/-- A text without a leading `http://` or `https://`. -/
def withoutScheme (text : List Char) : List Char :=
  if "http://".toList <+: text then text.drop 7
  else if "https://".toList <+: text then text.drop 8
  else text

/-- What the grammar is about: the text stripped and in lower case, without a scheme, cut before
the first `/`, `?` or `#`, without the dots at its end. -/
def normal (s : String) : List Char :=
  ((withoutScheme (lower (strip s)).toList).takeWhile (· ∉ ['/', '?', '#'])).rdropWhile (· == '.')

instance (w : List Char) : Decidable (IsLabel w) :=
  haveI := List.decidableBAll (fun c => isDomainChar c = true) w
  inferInstanceAs (Decidable (w ≠ [] ∧ (∀ c ∈ w, isDomainChar c = true) ∧ w.head? ≠ some '-' ∧
    w.getLast? ≠ some '-'))

instance (l : List Char) : Decidable (IsDomain l) :=
  haveI := List.decidableBAll IsLabel (l.splitOn '.')
  inferInstanceAs (Decidable (l.length ≤ 250 ∧ 2 ≤ (l.splitOn '.').length ∧
    ∀ w ∈ l.splitOn '.', IsLabel w))

/-! ### What the pattern matches -/

/-- A label in letters of any case. -/
def labelLang : Language Char :=
  single isAlphanumeric * (KStar.kstar (single isLabelChar) * single isAlphanumeric + 1)

def domainLang : Language Char :=
  labelLang * (single (· == '.') * labelLang * KStar.kstar (single (· == '.') * labelLang))

lemma isAlphanumeric_iff {c : Char} :
    isAlphanumeric c = true ↔ isLabelChar c = true ∧ c ≠ '-' := by
  unfold isLabelChar
  rw [Bool.or_eq_true, beq_iff_eq]
  constructor
  · refine fun h => ⟨.inl h, ?_⟩
    rintro rfl
    revert h
    decide
  · exact fun h => h.1.resolve_right h.2

lemma mem_labelLang {w : List Char} : w ∈ labelLang ↔ w ≠ [] ∧
    (∀ c ∈ w, isLabelChar c = true) ∧ w.head? ≠ some '-' ∧ w.getLast? ≠ some '-' := by
  unfold labelLang
  rw [Language.mem_mul]
  constructor
  · rintro ⟨_, ⟨c, hc, rfl⟩, v, hv | rfl, rfl⟩
    · obtain ⟨u, hu, _, ⟨d, hd, rfl⟩, rfl⟩ := Language.mem_mul.mp hv
      rw [mem_single_kstar] at hu
      rw [isAlphanumeric_iff] at hc hd
      rw [← List.append_assoc, List.getLast?_concat]
      refine ⟨by simp, fun x hx => ?_, by simpa using hc.2, by simpa using hd.2⟩
      rcases List.mem_append.mp hx with hx | hx
      · rcases List.mem_cons.mp hx with rfl | hx
        · exact hc.1
        · exact hu x hx
      · rw [List.mem_singleton.mp hx]
        exact hd.1
    · rw [isAlphanumeric_iff] at hc
      exact ⟨by simp, by simpa using hc.1, by simpa using hc.2, by simpa using hc.2⟩
  · rintro ⟨hne, hall, hhead, hlast⟩
    obtain ⟨c, t, rfl⟩ := List.exists_cons_of_ne_nil hne
    have hc : isAlphanumeric c = true :=
      isAlphanumeric_iff.mpr ⟨hall c List.mem_cons_self, by simpa using hhead⟩
    refine ⟨[c], ⟨c, hc, rfl⟩, t, ?_, rfl⟩
    rcases List.eq_nil_or_concat t with rfl | ⟨u, d, rfl⟩
    · exact .inr rfl
    · rw [List.concat_eq_append] at hall hlast ⊢
      refine .inl (Language.append_mem_mul (mem_single_kstar.mpr fun x hx => ?_) ⟨d, ?_, rfl⟩)
      · exact hall x (by simp [hx])
      · refine isAlphanumeric_iff.mpr ⟨hall d (by simp), fun hd => hlast ?_⟩
        rw [← List.cons_append, List.getLast?_concat, hd]

lemma dot_not_mem_label {w : List Char} (h : w ∈ labelLang) : '.' ∉ w := by
  intro hmem
  have hdot := (mem_labelLang.mp h).2.1 _ hmem
  revert hdot
  decide

lemma mem_domainLang {w : List Char} : w ∈ domainLang ↔
    2 ≤ (w.splitOn '.').length ∧ ∀ v ∈ w.splitOn '.', v ∈ labelLang :=
  mem_separated_plus_iff fun _ => dot_not_mem_label

lemma char_of_mem_domainLang {w : List Char} (h : w ∈ domainLang) :
    ∀ c ∈ w, isLabelChar c = true ∨ c = '.' := by
  obtain ⟨ls, -, hall, rfl⟩ := mem_separated_plus.mp h
  exact forall_mem_intercalate fun l hl => (mem_labelLang.mp (hall l hl)).2.1

lemma reads_labelRe (text : List Char) : Reads (labelRe.ends text) labelLang :=
  reads_seq (reads_cls _) (reads_opt (reads_seq (reads_star (reads_cls _)) (reads_cls _)))

lemma reads_dotLabels (text : List Char) :
    Reads ((Re.plus (.seq (.cls (· == '.')) labelRe)).ends text)
      (single (· == '.') * labelLang * KStar.kstar (single (· == '.') * labelLang)) :=
  reads_plus (reads_seq (reads_cls _) (reads_labelRe text))

lemma mem_ends_lengthRe {t l l' : List Char} : l' ∈ lengthRe.ends t l ↔ l' = l ∧
    ∃ v, 1 ≤ v.length ∧ v.length ≤ 250 ∧ '\n' ∉ v ∧ (l = v ∨ l = v ++ ['\n']) := by
  have hrep : Reads ((Re.rep .any 1 250).ends t) _ := reads_rep (reads_cls _) 1 250
  unfold lengthRe
  rw [mem_ends_look]
  refine and_congr_right fun _ => ?_
  simp only [mem_ends_seq, mem_ends_eol]
  constructor
  · rintro ⟨_, m, hm, rfl, hend⟩
    obtain ⟨v, hv, rfl⟩ := (hrep _ _).mp hm
    obtain ⟨hpos, hle, hall⟩ := (mem_single_rep (by decide)).mp hv
    refine ⟨v, hpos, hle, fun hmem => by simpa using hall _ hmem, ?_⟩
    rcases hend with rfl | rfl
    · exact .inl (List.append_nil v)
    · exact .inr rfl
  · rintro ⟨v, hpos, hle, hno, hl⟩
    have hv : v ∈ single (· ≠ '\n') ^ 1 * atMost (single (· ≠ '\n')) (250 - 1) := by
      refine (mem_single_rep (by decide)).mpr ⟨hpos, hle, fun c hc => ?_⟩
      rw [decide_eq_true_eq]
      rintro rfl
      exact hno hc
    rcases hl with rfl | rfl
    · exact ⟨[], [], (hrep _ _).mpr ⟨l, hv, (List.append_nil l).symm⟩, rfl, .inl rfl⟩
    · exact ⟨['\n'], ['\n'], (hrep _ _).mpr ⟨v, hv, rfl⟩, rfl, .inr rfl⟩

lemma eq_of_line {v w : List Char} (hv : '\n' ∉ v) (hw : '\n' ∉ w) {t : List Char}
    (htv : t = v ∨ t = v ++ ['\n']) (htw : t = w ∨ t = w ++ ['\n']) : v = w := by
  rcases htv with rfl | rfl <;> rcases htw with h | h
  · exact h
  · exact absurd (by rw [h]; simp) hv
  · exact absurd (by rw [← h]; simp) hw
  · exact List.append_cancel_right h

lemma newline_not_mem_domain {w : List Char} (h : w ∈ domainLang) : '\n' ∉ w := by
  intro hmem
  rcases char_of_mem_domainLang h _ hmem with h | h <;> revert h <;> decide

/-- The pattern matches a domain name, and a domain name with a line break behind it. -/
lemma matches_domainRe {t : List Char} : domainRe.matches t = true ↔
    ∃ w ∈ domainLang, w.length ≤ 250 ∧ (t = w ∨ t = w ++ ['\n']) := by
  rw [matches_iff]
  unfold domainRe
  simp only [mem_ends_seq, mem_ends_bol, mem_ends_lengthRe, mem_ends_eol]
  constructor
  · rintro ⟨l, _, ⟨rfl, -⟩, _, ⟨rfl, v, -, hle, hno, hv⟩, m, hm, _, hm', rfl, hend⟩
    obtain ⟨a, ha, hma⟩ := (reads_labelRe _ _ _).mp hm
    obtain ⟨b, hb, rfl⟩ := (reads_dotLabels _ _ _).mp hm'
    have hw : a ++ b ∈ domainLang := Language.append_mem_mul ha hb
    rw [← List.append_assoc] at hma
    have hl : a ++ b ++ l = a ++ b ∨ a ++ b ++ l = a ++ b ++ ['\n'] := by
      rcases hend with rfl | rfl
      · exact .inl (List.append_nil _)
      · exact .inr rfl
    rw [hma] at hv ⊢
    rw [eq_of_line hno (newline_not_mem_domain hw) hv hl] at hle
    exact ⟨a ++ b, hw, hle, hl⟩
  · rintro ⟨w, hw, hle, ht⟩
    obtain ⟨a, ha, b, hb, rfl⟩ := Language.mem_mul.mp hw
    have hpos : 1 ≤ (a ++ b).length := by
      have hne := List.length_pos_iff.mpr (mem_labelLang.mp ha).1
      rw [List.length_append]
      omega
    have hend : ∃ l, t = a ++ b ++ l ∧ (l = [] ∨ l = ['\n']) := by
      rcases ht with rfl | rfl
      · exact ⟨[], (List.append_nil _).symm, .inl rfl⟩
      · exact ⟨['\n'], rfl, .inr rfl⟩
    obtain ⟨l, hl, hend⟩ := hend
    have hline := newline_not_mem_domain hw
    refine ⟨l, t, ⟨rfl, trivial⟩, t, ⟨rfl, a ++ b, hpos, hle, hline, ht⟩, b ++ l, ?_, l, ?_, rfl,
      hend⟩
    · exact (reads_labelRe _ _ _).mpr ⟨a, ha, by rw [hl, List.append_assoc]⟩
    · exact (reads_dotLabels _ _ _).mpr ⟨b, hb, rfl⟩

lemma isLow_of_isDomainChar {c : Char} (h : isDomainChar c = true ∨ c = '.') :
    IsLow c ∧ isSpace c = false ∧ c ∉ ['/', '?', '#', ':', '\n'] := by
  have hrange : c.toNat = 45 ∨ c.toNat = 46 ∨ (48 ≤ c.toNat ∧ c.toNat ≤ 57) ∨
      (97 ≤ c.toNat ∧ c.toNat ≤ 122) := by
    rcases h with h | rfl
    · unfold isDomainChar at h
      rcases of_decide_eq_true h with h | h | rfl
      · exact .inr (.inr (.inr h))
      · exact .inr (.inr (.inl h))
      · exact .inl rfl
    · exact .inr (.inl rfl)
  refine ⟨isLow_of_ascii (by omega) (by omega), ?_, ?_⟩
  · unfold isSpace inRanges spaceRanges
    simp
    omega
  · intro hmem
    simp only [List.mem_cons, List.not_mem_nil, or_false] at hmem
    rcases hmem with rfl | rfl | rfl | rfl | rfl <;> revert hrange <;> decide

lemma not_capital_of_isLow {c : Char} (h : IsLow c) : ¬ ('A' ≤ c ∧ c ≤ 'Z') := by
  rintro hcap
  have hnat : 65 ≤ c.toNat ∧ c.toNat ≤ 90 := hcap
  have hlow := h.1
  rw [lowerChar, if_pos (by omega), if_pos hnat] at hlow
  have hcode := congrArg Char.toNat (List.cons.inj hlow).1
  rw [toNat_ofNat (by simp only [Nat.isValidChar]; omega)] at hcode
  omega

lemma isLabelChar_iff {c : Char} (h : IsLow c) : isLabelChar c = true ↔ isDomainChar c = true := by
  have hno := not_capital_of_isLow h
  unfold isLabelChar isAlphanumeric isDomainChar
  rw [Bool.or_eq_true, decide_eq_true_eq, decide_eq_true_eq, beq_iff_eq, or_iff_right hno, or_assoc]

lemma mem_labelLang_iff {w : List Char} (h : ∀ c ∈ w, IsLow c) : w ∈ labelLang ↔ IsLabel w := by
  rw [mem_labelLang]
  unfold IsLabel
  have hchars : (∀ c ∈ w, isLabelChar c = true) ↔ ∀ c ∈ w, isDomainChar c = true :=
    forall₂_congr fun c hc => isLabelChar_iff (h c hc)
  rw [hchars]

lemma mem_domainLang_iff {w : List Char} (h : ∀ c ∈ w, IsLow c) :
    w ∈ domainLang ∧ w.length ≤ 250 ↔ IsDomain w := by
  rw [mem_domainLang, and_comm]
  unfold IsDomain
  refine and_congr_right fun _ => and_congr_right fun _ => forall₂_congr fun v hv => ?_
  exact mem_labelLang_iff fun c hc => h c (mem_of_mem_splitOn hv hc)

lemma IsDomain.char {g : List Char} (h : IsDomain g) :
    ∀ c ∈ g, isDomainChar c = true ∨ c = '.' := by
  rw [← @List.intercalate_splitOn Char g _ _ '.']
  exact forall_mem_intercalate fun l hl => (h.2.2 l hl).2.1

lemma IsDomain.isLow {g : List Char} (h : IsDomain g) : ∀ c ∈ g, IsLow c :=
  fun c hc => (isLow_of_isDomainChar (h.char c hc)).1

lemma IsDomain.not_dot {g init : List Char} (h : IsDomain g) : g ≠ init ++ ['.'] := by
  rintro rfl
  have hempty : ([] : List Char) ∈ (init ++ ['.']).splitOn '.' := by
    rw [List.splitOn_append_cons_self, List.splitOn_nil]
    exact List.mem_append_right _ (List.mem_singleton_self _)
  exact (h.2.2 _ hempty).1 rfl

lemma afterFirst_scheme (l : List Char) :
    afterFirst "://".toList ("http://".toList ++ l) = l ∧
      afterFirst "://".toList ("https://".toList ++ l) = l := ⟨rfl, rfl⟩

lemma toList_domainText (s : String) : (domainText s).toList = normal s := by
  unfold domainText normal withoutScheme
  generalize lower (strip s) = text
  have hstart : ∀ p : String, startsWith text p = true ↔ p.toList <+: text.toList := fun p =>
    decide_eq_true_iff
  have hor : (startsWith text "http://" || startsWith text "https://") = true ↔
      "http://".toList <+: text.toList ∨ "https://".toList <+: text.toList := by
    rw [Bool.or_eq_true, hstart, hstart]
  dsimp only
  rw [String.toList_ofList]
  by_cases hhttp : "http://".toList <+: text.toList
  · obtain ⟨l, hl⟩ := hhttp
    rw [if_pos (hor.mpr (.inl ⟨l, hl⟩)), if_pos ⟨l, hl⟩, String.toList_ofList, ← hl,
      (afterFirst_scheme l).1]
    rfl
  by_cases hhttps : "https://".toList <+: text.toList
  · obtain ⟨l, hl⟩ := hhttps
    rw [if_pos (hor.mpr (.inr ⟨l, hl⟩)), if_neg hhttp, if_pos ⟨l, hl⟩, String.toList_ofList, ← hl,
      (afterFirst_scheme l).2]
    rfl
  · rw [if_neg fun h => (hor.mp h).elim hhttp hhttps, if_neg hhttp, if_neg hhttps]

lemma isLow_of_mem_normal {s : String} : ∀ c ∈ normal s, IsLow c := by
  intro c hc
  have htext : c ∈ (lower (strip s)).toList := by
    have hcut := (List.takeWhile_prefix _).subset ((List.rdropWhile_prefix _ _).subset hc)
    unfold withoutScheme at hcut
    split at hcut
    · exact List.mem_of_mem_drop hcut
    · split at hcut
      · exact List.mem_of_mem_drop hcut
      · exact hcut
  unfold lower at htext
  rw [String.toList_ofList] at htext
  exact lowerChars_isLow c htext

/-- What the validator accepts: the domain names, and those with a line break behind them. -/
lemma domain_eq_ok_iff {s v : String} : domain s = .ok v ↔ v = domainText s ∧
    (IsDomain (normal s) ∨ ∃ g, IsDomain g ∧ normal s = g ++ ['\n']) := by
  have hmatch : domainRe.matches (domainText s).toList = true ↔
      IsDomain (normal s) ∨ ∃ g, IsDomain g ∧ normal s = g ++ ['\n'] := by
    rw [toList_domainText, matches_domainRe]
    have hlow := @isLow_of_mem_normal s
    constructor
    · rintro ⟨w, hw, hle, hl | hl⟩
      · rw [hl] at hlow ⊢
        exact .inl ((mem_domainLang_iff hlow).mp ⟨hw, hle⟩)
      · rw [hl] at hlow
        refine .inr ⟨w, (mem_domainLang_iff fun c hc => ?_).mp ⟨hw, hle⟩, hl⟩
        exact hlow c (List.mem_append_left _ hc)
    · rintro (h | ⟨g, h, hl⟩)
      · obtain ⟨hw, hle⟩ := (mem_domainLang_iff h.isLow).mpr h
        exact ⟨_, hw, hle, .inl rfl⟩
      · obtain ⟨hw, hle⟩ := (mem_domainLang_iff h.isLow).mpr h
        exact ⟨g, hw, hle, .inr hl⟩
  rw [← hmatch]
  unfold domain
  dsimp only
  split
  · next h => simp [h, eq_comm]
  · next h => simp [h]

lemma IsDomain.normal_eq {g : List Char} (h : IsDomain g) : normal (String.ofList g) = g := by
  have hchar : ∀ c ∈ g, c ∉ ['/', '?', '#', ':', '\n'] := fun c hc =>
    (isLow_of_isDomainChar (h.char c hc)).2.2
  have hstrip : strip (String.ofList g) = String.ofList g := by
    unfold strip
    rw [String.toList_ofList, stripChars_of_trimmed]
    constructor
    · rintro c t rfl
      exact (isLow_of_isDomainChar (h.char c List.mem_cons_self)).2.1
    · rintro i c rfl
      exact (isLow_of_isDomainChar (h.char c (by simp))).2.1
  have hlower : lower (String.ofList g) = String.ofList g := by
    unfold lower
    rw [String.toList_ofList, lowerChars_of_isLow h.isLow]
  have hscheme : withoutScheme g = g := by
    have hno : ∀ p : List Char, ':' ∈ p → ¬ p <+: g := fun p hp hpre =>
      hchar ':' (hpre.subset hp) (by decide)
    unfold withoutScheme
    rw [if_neg (hno _ (by decide)), if_neg (hno _ (by decide))]
  have hcut : g.takeWhile (· ∉ ['/', '?', '#']) = g := by
    refine List.takeWhile_eq_self_iff.mpr fun c hc => ?_
    rw [decide_eq_true_eq]
    exact fun hmem => hchar c hc (List.mem_append_left [':', '\n'] hmem)
  unfold normal
  rw [hstrip, hlower, String.toList_ofList, hscheme, hcut, List.rdropWhile_eq_self_iff]
  intro hne hdot
  refine @IsDomain.not_dot g g.dropLast h ?_
  rw [← beq_iff_eq.mp hdot, List.dropLast_append_getLast]

/-- The validator accepts what the grammar says, returns the normal form, which is made of
letters, digits, hyphens and dots, and changes nothing when it is run on that again. -/
structure MeetsGrammar (s : String) : Prop where
  accepts : (∃ v, domain s = .ok v) ↔ IsDomain (normal s)
  value : ∀ v, domain s = .ok v → v.toList = normal s
  chars : ∀ v, domain s = .ok v → ∀ c ∈ v.toList, isDomainChar c = true ∨ c = '.'
  fixed : ∀ v, domain s = .ok v → domain v = .ok v

/-- The validator meets the grammar unless a line break is left behind a domain name. -/
theorem meetsGrammar_iff (s : String) :
    MeetsGrammar s ↔ ¬ ∃ g, IsDomain g ∧ normal s = g ++ ['\n'] := by
  constructor
  · rintro h ⟨g, hg, hl⟩
    have hok : domain s = .ok (domainText s) := domain_eq_ok_iff.mpr ⟨rfl, .inr ⟨g, hg, hl⟩⟩
    have hbreak := h.chars _ hok '\n' (by rw [toList_domainText, hl]; simp)
    revert hbreak
    decide
  · intro hno
    have hok : ∀ v, domain s = .ok v → v = domainText s ∧ IsDomain (normal s) := fun v hv =>
      (domain_eq_ok_iff.mp hv).imp_right fun h => h.resolve_right hno
    refine ⟨⟨fun ⟨v, hv⟩ => (hok v hv).2, fun h => ⟨_, domain_eq_ok_iff.mpr ⟨rfl, .inl h⟩⟩⟩,
      fun v hv => ?_, fun v hv => ?_, fun v hv => ?_⟩
    · rw [(hok v hv).1, toList_domainText]
    · rw [(hok v hv).1, toList_domainText]
      exact (hok v hv).2.char
    · have hv' : v = String.ofList (normal s) := by
        rw [(hok v hv).1, ← toList_domainText, String.ofList_toList]
      have hnormal := (hok v hv).2.normal_eq
      rw [← hv'] at hnormal
      refine domain_eq_ok_iff.mpr ⟨String.toList_inj.mp ?_, .inl ?_⟩
      · rw [toList_domainText, hnormal, hv', String.toList_ofList]
      · rw [hnormal]
        exact (hok v hv).2

/-- The line break of `example.com` with a path on the next line is behind the stripping. -/
theorem not_meetsGrammar : ¬ ∀ s, MeetsGrammar s := by
  intro hall
  have hbreak :=
    (hall "example.com\n/index.html").chars "example.com\n" (by decide) '\n' (by decide)
  revert hbreak
  decide

example : domain "https://www.Example.com/a?b=1" = .ok "www.example.com" := by decide

end SophosFw.Services
