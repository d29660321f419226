import SophosFw.Domain

/-!
The addresses and host names the actions accept.

An address is read octet by octet and written again, a host name is only checked; both are
stripped before. What comes out is the stripped text itself, and running a validator on it again
changes nothing.
-/

namespace SophosFw.Services

open SophosFw.PyText SophosFw.Regex

/-- The digits read as a number. -/
def decimalValue (s : List Char) : ℕ := Nat.ofDigitChars 10 s 0

lemma decimalValue_concat (s : List Char) (c : Char) :
    decimalValue (s ++ [c]) = 10 * decimalValue s + (c.toNat - 48) := by
  simp [decimalValue, Nat.ofDigitChars_append, Nat.ofDigitChars_cons]

lemma toNat_of_isDigit {c : Char} (h : c.isDigit = true) : 48 ≤ c.toNat ∧ c.toNat ≤ 57 := by
  simp only [Char.isDigit, Bool.and_eq_true, decide_eq_true_eq] at h
  exact ⟨UInt32.le_iff_toNat_le.mp h.1, UInt32.le_iff_toNat_le.mp h.2⟩

lemma digitChar_of_isDigit {c : Char} (h : c.isDigit = true) :
    Nat.digitChar (c.toNat - 48) = c := by
  have hc := toNat_of_isDigit h
  apply Char.toNat_inj.mp
  rw [Nat.toNat_digitChar_of_lt_ten (by omega)]
  omega

/-- Only `0` itself starts with a zero. -/
def NoLeadingZero (s : List Char) : Prop := s = ['0'] ∨ s.head? ≠ some '0'

lemma decimalValue_pos {s : List Char} (hs : ∀ c ∈ s, c.isDigit = true) (hne : s ≠ [])
    (h : s.head? ≠ some '0') : 0 < decimalValue s := by
  induction s using List.reverseRecOn with
  | nil => exact absurd rfl hne
  | append_singleton s c ih =>
    rw [decimalValue_concat]
    cases s with
    | nil =>
      have hc := toNat_of_isDigit (hs c (by simp))
      have h48 : c.toNat ≠ 48 := fun heq => h (by simpa using Char.toNat_inj.mp heq)
      omega
    | cons d s =>
      have hpos := ih (fun x hx => hs x (List.mem_append_left _ hx)) (List.cons_ne_nil _ _) h
      omega

lemma toDigits_decimalValue {s : List Char} (hs : ∀ c ∈ s, c.isDigit = true) (hne : s ≠ [])
    (hz : NoLeadingZero s) : Nat.toDigits 10 (decimalValue s) = s := by
  induction s using List.reverseRecOn with
  | nil => exact absurd rfl hne
  | append_singleton s c ih =>
    have hc := hs c (by simp)
    have hlt : c.toNat - 48 < 10 := by
      have := toNat_of_isDigit hc
      omega
    have hprefix : ∀ x ∈ s, x.isDigit = true := fun x hx => hs x (List.mem_append_left _ hx)
    rw [decimalValue_concat]
    rcases eq_or_ne s [] with rfl | hs'
    · simp [decimalValue, Nat.toDigits_of_lt_base hlt, digitChar_of_isDigit hc]
    · have hhead : s.head? ≠ some '0' := by
        rcases hz with hz | hz
        · rw [List.append_eq_singleton_iff] at hz
          simp [hs'] at hz
        · rwa [List.head?_append_of_ne_nil _ hs'] at hz
      rw [← Nat.toDigits_append_toDigits (by decide) (decimalValue_pos hprefix hs' hhead) hlt,
        ih hprefix hs' (.inr hhead), Nat.toDigits_of_lt_base hlt, digitChar_of_isDigit hc]

lemma noLeadingZero_toDigits (n : ℕ) : NoLeadingZero (Nat.toDigits 10 n) := by
  induction n using Nat.strongRecOn with
  | ind n ih =>
    rw [Nat.toDigits_eq_if (by decide)]
    split
    · rcases Nat.eq_zero_or_pos n with rfl | hpos
      · exact .inl rfl
      · exact .inr (by simpa using hpos.ne')
    · next hge =>
      right
      rw [List.head?_append_of_ne_nil _ Nat.toDigits_ne_nil]
      rcases ih (n / 10) (by omega) with h | h
      · have hzero : n / 10 = 0 := by
          rw [← Nat.ofDigitChars_ten_toDigits (n := n / 10), h]
          rfl
        omega
      · exact h

/-- `IPv4Address._parse_octet` -/
def parseOctet (s : List Char) : Option ℕ :=
  if s = [] then none
  else if ¬ s.all Char.isDigit then none
  else if 3 < s.length then none
  else if s ≠ ['0'] ∧ s.head? = some '0' then none
  else if 255 < decimalValue s then none
  else some (decimalValue s)

/-- `ipaddress.IPv4Address(text)`, as its four octets. -/
def ipv4Address (text : List Char) : Option (List ℕ) :=
  if '/' ∈ text then none
  else if (text.splitOn '.').length ≠ 4 then none
  else (text.splitOn '.').mapM parseOctet

/-- `str(address)` -/
def dotted (octets : List ℕ) : List Char := ['.'].intercalate (octets.map (Nat.toDigits 10))

/-- `_ipv4` -/
def ipv4 (value : String) : Except String String :=
  match ipv4Address (strip value).toList with
  | some octets => .ok (String.ofList (dotted octets))
  | none => .error "expected an IPv4 address"

/-- Four numbers up to 255, without leading zeros, with dots between them. -/
def IsIpv4 (l : List Char) : Prop :=
  ∃ octets : List ℕ, octets.length = 4 ∧ (∀ n ∈ octets, n ≤ 255) ∧ l = dotted octets

lemma parseOctet_eq_some_iff {s : List Char} {n : ℕ} :
    parseOctet s = some n ↔ n ≤ 255 ∧ s = Nat.toDigits 10 n := by
  constructor
  · intro h
    unfold parseOctet at h
    split_ifs at h with hne hdigits hlen hzero hmax
    obtain rfl := Option.some.inj h
    refine ⟨by omega, (toDigits_decimalValue (by simpa using hdigits) hne ?_).symm⟩
    by_contra hno
    exact hzero ⟨fun h0 => hno (.inl h0), by_contra fun h0 => hno (.inr h0)⟩
  · rintro ⟨hmax, rfl⟩
    have hdigits : (Nat.toDigits 10 n).all Char.isDigit = true :=
      List.all_eq_true.mpr fun c hc => Nat.isDigit_of_mem_toDigits (by decide) (by decide) hc
    have hlen : (Nat.toDigits 10 n).length ≤ 3 :=
      (Nat.length_toDigits_le_iff (by decide) (by decide)).mpr (by omega)
    have hvalue : decimalValue (Nat.toDigits 10 n) = n := Nat.ofDigitChars_ten_toDigits
    unfold parseOctet
    rw [if_neg Nat.toDigits_ne_nil, if_neg (by simp [hdigits]), if_neg (by omega),
      if_neg fun h => (noLeadingZero_toDigits n).elim h.1 fun h' => h' h.2, hvalue,
      if_neg (by omega)]

lemma mapM_parseOctet {parts : List (List Char)} {octets : List ℕ} :
    parts.mapM parseOctet = some octets ↔
      (∀ n ∈ octets, n ≤ 255) ∧ parts = octets.map (Nat.toDigits 10) := by
  induction parts generalizing octets with
  | nil => cases octets <;> simp
  | cons s parts ih =>
    simp only [List.mapM_cons, Option.bind_eq_bind, Option.bind_eq_some_iff, Option.pure_def,
      Option.some.injEq, parseOctet_eq_some_iff, ih]
    constructor
    · rintro ⟨n, ⟨hn, rfl⟩, rest, ⟨hrest, rfl⟩, rfl⟩
      exact ⟨List.forall_mem_cons.mpr ⟨hn, hrest⟩, rfl⟩
    · rintro ⟨hall, hparts⟩
      cases octets with
      | nil => cases hparts
      | cons n rest =>
        obtain ⟨rfl, rfl⟩ := List.cons.inj hparts
        obtain ⟨hn, hrest⟩ := List.forall_mem_cons.mp hall
        exact ⟨n, ⟨hn, rfl⟩, rest, ⟨hrest, rfl⟩, rfl⟩

lemma isDigit_of_mem_map {octets : List ℕ} :
    ∀ l ∈ octets.map (Nat.toDigits 10), ∀ c ∈ l, c.isDigit = true := by
  intro l hl c hc
  obtain ⟨n, -, rfl⟩ := List.mem_map.mp hl
  exact Nat.isDigit_of_mem_toDigits (by decide) (by decide) hc

lemma char_of_mem_dotted {octets : List ℕ} : ∀ c ∈ dotted octets, c.isDigit = true ∨ c = '.' :=
  forall_mem_intercalate isDigit_of_mem_map

lemma splitOn_dotted {octets : List ℕ} (h : octets ≠ []) :
    (dotted octets).splitOn '.' = octets.map (Nat.toDigits 10) := by
  refine List.splitOn_intercalate '.' (fun l hl hdot => ?_) (by simpa using h)
  have hdigit := isDigit_of_mem_map l hl '.' hdot
  simp at hdigit

lemma ipv4Address_eq_some_iff {text : List Char} {octets : List ℕ} :
    ipv4Address text = some octets ↔
      octets.length = 4 ∧ (∀ n ∈ octets, n ≤ 255) ∧ text = dotted octets := by
  unfold ipv4Address
  constructor
  · intro h
    split_ifs at h with hslash hlen
    obtain ⟨hall, hparts⟩ := mapM_parseOctet.mp h
    refine ⟨?_, hall, ?_⟩
    · have hlen' := congrArg List.length hparts
      rw [List.length_map] at hlen'
      omega
    · rw [dotted, ← hparts, List.intercalate_splitOn]
  · rintro ⟨hlen, hall, rfl⟩
    have hne : octets ≠ [] := by
      rintro rfl
      cases hlen
    have hslash : '/' ∉ dotted octets := fun hmem => by
      have := char_of_mem_dotted _ hmem
      simp at this
    rw [if_neg hslash, splitOn_dotted hne, if_neg (by simpa using hlen)]
    exact mapM_parseOctet.mpr ⟨hall, rfl⟩

lemma ipv4_eq_ok_iff {s v : String} :
    ipv4 s = .ok v ↔ v = strip s ∧ IsIpv4 (strip s).toList := by
  unfold ipv4 IsIpv4
  simp only [← ipv4Address_eq_some_iff]
  cases h : ipv4Address (strip s).toList with
  | none => simp
  | some octets =>
    obtain ⟨-, -, htext⟩ := ipv4Address_eq_some_iff.mp h
    simp [← htext, eq_comm]

/-! ### Host names -/

def isNameChar (c : Char) : Bool := decide (c ≠ ',' ∧ 32 ≤ c.toNat)

/-- `_HOST_NAME_RE` -/
def hostNameRe : Re :=
  .seq .bol (.seq (.cls fun c => isNameChar c && c != '#')
    (.seq (.rep (.cls isNameChar) 0 49) .eol))

/-- `_host_name` -/
def hostName (value : String) : Except String String :=
  let text := strip value
  if hostNameRe.matches text.toList then .ok text
  else .error "host name: max. 50 characters, no comma, not starting with #"

/-- One to fifty characters, no comma, nothing below the blank, and no hash in front. -/
def IsHostName (l : List Char) : Prop :=
  1 ≤ l.length ∧ l.length ≤ 50 ∧ (∀ c ∈ l, c ≠ ',' ∧ 32 ≤ c.toNat) ∧ l.head? ≠ some '#'

lemma isNameChar_iff {c : Char} : isNameChar c = true ↔ c ≠ ',' ∧ 32 ≤ c.toNat := by
  simp [isNameChar]

lemma matches_hostNameRe {t : List Char} :
    hostNameRe.matches t = true ↔ ∃ w, IsHostName w ∧ (t = w ∨ t = w ++ ['\n']) := by
  rw [matches_iff]
  unfold hostNameRe
  simp only [mem_ends_seq, mem_ends_bol, mem_ends_eol]
  constructor
  · rintro ⟨l, _, ⟨rfl, -⟩, m, hm, l', hl', rfl, hend⟩
    obtain ⟨_, ⟨c, hc, rfl⟩, rfl⟩ := (reads_cls _ _ _).mp hm
    obtain ⟨w, hw, rfl⟩ := (reads_rep (reads_cls _) 0 49 _ _).mp hl'
    obtain ⟨-, hlen, hall⟩ := (mem_single_rep (by decide)).mp hw
    simp only [Bool.and_eq_true, bne_iff_ne, ne_eq] at hc
    have hlength : (c :: w).length ≤ 50 := by
      rw [List.length_cons]
      omega
    refine ⟨c :: w, ⟨by simp, hlength, ?_, by simpa using hc.2⟩, ?_⟩
    · exact List.forall_mem_cons.mpr
        ⟨isNameChar_iff.mp hc.1, fun x hx => isNameChar_iff.mp (hall x hx)⟩
    · rcases hend with rfl | rfl
      · exact .inl (by simp)
      · exact .inr (by simp)
  · rintro ⟨w, ⟨hpos, hlen, hall, hhead⟩, ht⟩
    obtain ⟨c, w, rfl⟩ := List.exists_cons_of_length_pos hpos
    obtain ⟨hc, hw⟩ := List.forall_mem_cons.mp hall
    have hend : ∃ l, t = c :: w ++ l ∧ (l = [] ∨ l = ['\n']) := by
      rcases ht with rfl | rfl
      · exact ⟨[], (List.append_nil _).symm, .inl rfl⟩
      · exact ⟨['\n'], rfl, .inr rfl⟩
    obtain ⟨l, rfl, hend⟩ := hend
    refine ⟨l, _, ⟨rfl, trivial⟩, w ++ l, (reads_cls _ _ _).mpr ⟨[c], ⟨c, ?_, rfl⟩, rfl⟩, l, ?_,
      rfl, hend⟩
    · simpa [isNameChar_iff.mpr hc] using hhead
    · refine (reads_rep (reads_cls _) 0 49 _ _).mpr ⟨w, ?_, rfl⟩
      rw [List.length_cons] at hlen
      refine (mem_single_rep (by decide)).mpr ⟨Nat.zero_le _, by omega, fun x hx => ?_⟩
      exact isNameChar_iff.mpr (hw x hx)

lemma hostName_eq_ok_iff {s v : String} :
    hostName s = .ok v ↔ v = strip s ∧ IsHostName (strip s).toList := by
  have hmatch : hostNameRe.matches (strip s).toList = true ↔ IsHostName (strip s).toList := by
    rw [matches_hostNameRe]
    constructor
    · rintro ⟨w, hw, h | h⟩
      · rwa [h]
      · -- no line break is left to a stripped text
        rw [strip, String.toList_ofList] at h
        have hspace := (stripChars_trimmed s.toList).2 w '\n' h
        exact absurd hspace (by decide)
    · exact fun h => ⟨_, h, .inl rfl⟩
  rw [← hmatch]
  unfold hostName
  dsimp only
  split
  · next h => simp [h, eq_comm]
  · next h => simp [h]

/-- The name a blocked address gets by default. -/
def defaultHostName (ip : String) : String := "HA " ++ ip

lemma length_dotted_le {octets : List ℕ} (hlen : octets.length = 4)
    (hall : ∀ n ∈ octets, n ≤ 255) : (dotted octets).length ≤ 15 := by
  have hpart : ∀ n ∈ octets, (Nat.toDigits 10 n).length ≤ 3 := fun n hn =>
    (Nat.length_toDigits_le_iff (by decide) (by decide)).mpr (by have := hall n hn; omega)
  match octets, hlen with
  | [a, b, c, d], _ =>
    simp only [List.mem_cons, List.not_mem_nil, or_false, forall_eq_or_imp, forall_eq] at hpart
    simp only [dotted, List.map_cons, List.map_nil, List.intercalate_cons_cons,
      List.intercalate_singleton, List.length_append, List.length_singleton]
    omega

lemma not_isSpace_of_isDigit {c : Char} (h : c.isDigit = true ∨ c = '.') : isSpace c = false := by
  have hrange : 46 ≤ c.toNat ∧ c.toNat ≤ 57 := by
    rcases h with h | rfl
    · have := toNat_of_isDigit h
      omega
    · decide
  have hall : ∀ n : Fin 58, 46 ≤ n.val → inRanges spaceRanges n.val = false := by decide
  exact hall ⟨c.toNat, by omega⟩ hrange.1

/-- An address makes an acceptable host name. -/
lemma hostName_default {ip : String} (h : IsIpv4 ip.toList) :
    hostName (defaultHostName ip) = .ok (defaultHostName ip) := by
  obtain ⟨octets, hlen, hall, hip⟩ := h
  have htext : (defaultHostName ip).toList = 'H' :: 'A' :: ' ' :: dotted octets := by
    simp [defaultHostName, hip]
  have hchar := @char_of_mem_dotted octets
  have hstrip : strip (defaultHostName ip) = defaultHostName ip := by
    rw [strip, stripChars_of_trimmed, String.ofList_toList]
    rw [htext]
    constructor
    · rintro c t ht
      obtain ⟨rfl, -⟩ := List.cons.inj ht
      decide
    · intro i c hi
      rcases List.eq_nil_or_concat (dotted octets) with hnil | ⟨rest, d, hd⟩
      · -- four octets are not nothing
        have hne : octets ≠ [] := by
          rintro rfl
          cases hlen
        have hsplit := splitOn_dotted hne
        rw [hnil] at hsplit
        have hfour := congrArg List.length hsplit
        rw [List.length_map, hlen] at hfour
        simp at hfour
      · rw [hd] at hi hchar
        rw [List.concat_eq_append, ← List.cons_append, ← List.cons_append,
          ← List.cons_append] at hi
        obtain ⟨-, hdc⟩ := List.append_inj' hi rfl
        obtain rfl : d = c := by simpa using hdc
        exact not_isSpace_of_isDigit (hchar d (by simp))
  refine hostName_eq_ok_iff.mpr ⟨hstrip.symm, ?_⟩
  rw [hstrip, htext]
  have hle := length_dotted_le hlen hall
  refine ⟨by simp, by simp only [List.length_cons]; omega, ?_, by simp⟩
  simp only [List.mem_cons, forall_eq_or_imp]
  refine ⟨by decide, by decide, by decide, fun c hc => ?_⟩
  rcases hchar c hc with hdigit | rfl
  · have hrange := toNat_of_isDigit hdigit
    refine ⟨?_, by omega⟩
    rintro rfl
    exact absurd hdigit (by decide)
  · decide

/-- **What the actions accept.** An address is accepted if and only if, stripped, it is a dotted
quad of numbers up to 255 without leading zeros; a host name if and only if, stripped, it has one
to fifty characters, none of them a comma or below the blank (DEL and the controls after it pass),
and does not start with a hash. Each is returned as it is then, and accepted again unchanged. The
name a blocked address gets by default is always accepted. -/
theorem arguments_accepted_iff (s v : String) :
    (ipv4 s = .ok v ↔ v = strip s ∧ IsIpv4 (strip s).toList) ∧
    (hostName s = .ok v ↔ v = strip s ∧ IsHostName (strip s).toList) ∧
    (ipv4 s = .ok v → ipv4 v = .ok v ∧
      hostName (defaultHostName v) = .ok (defaultHostName v)) ∧
    (hostName s = .ok v → hostName v = .ok v) := by
  refine ⟨ipv4_eq_ok_iff, hostName_eq_ok_iff, fun h => ?_, fun h => ?_⟩
  · obtain ⟨rfl, hv⟩ := ipv4_eq_ok_iff.mp h
    exact ⟨ipv4_eq_ok_iff.mpr (by simpa using hv), hostName_default hv⟩
  · obtain ⟨rfl, hv⟩ := hostName_eq_ok_iff.mp h
    exact hostName_eq_ok_iff.mpr (by simpa using hv)

example : ipv4 " 192.168.1.7\n" = .ok "192.168.1.7" := by decide +kernel

end SophosFw.Services
