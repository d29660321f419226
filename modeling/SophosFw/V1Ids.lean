import SophosFw.UniqueIds

/-!
What version 1 wrote into a unique id, and what the migration reads there.

Host, port and suffix are joined by `_`, which may stand in the host as well. The pattern takes
the first number between two underscores for the port, so a host can carry a number that is
read instead of the port. Exactly these ids, and those of an address that only begins like the
current one, come out with another suffix.
-/

namespace SophosFw.Migration

open SophosFw.PyDict SophosFw.PyText SophosFw.Registry

/-- `.+$`: one line, with or without its line break. -/
def Line (l t : List Char) : Prop := t ≠ [] ∧ '\n' ∉ t ∧ (l = t ∨ l = t ++ ['\n'])

/-- `_V1_UNIQUE_ID` matches, with this suffix. -/
def V1Form (l t : List Char) : Prop :=
  ∃ host port rest, l = host ++ '_' :: (port ++ '_' :: rest) ∧ host ≠ [] ∧ '_' ∉ host ∧
    port ≠ [] ∧ (∀ c ∈ port, isDecimal c = true) ∧ Line rest t

lemma ne_underscore {l : List Char} (h : '_' ∉ l) : ∀ c ∈ l, decide (c ≠ '_') = true := by
  intro c hc
  rw [decide_eq_true_eq]
  rintro rfl
  exact h hc

lemma ne_newline {l : List Char} (h : '\n' ∉ l) : ∀ c ∈ l, decide (c ≠ '\n') = true := by
  intro c hc
  rw [decide_eq_true_eq]
  rintro rfl
  exact h hc

lemma isDecimal_underscore : isDecimal '_' = false := by decide

lemma Line.takeWhile {l t : List Char} (h : Line l t) :
    l.takeWhile (· ≠ '\n') = t ∧
      (l.dropWhile (· ≠ '\n') = [] ∨ l.dropWhile (· ≠ '\n') = ['\n']) := by
  obtain ⟨-, hno, rfl | rfl⟩ := h
  · exact ⟨List.takeWhile_eq_self_iff.mpr (ne_newline hno),
      .inl (List.dropWhile_eq_nil_iff.mpr (ne_newline hno))⟩
  · exact ⟨takeWhile_split (ne_newline hno) (by decide),
      .inr (dropWhile_split (ne_newline hno) (by decide))⟩

lemma v1Suffix_eq_some_iff {uniqueId t : String} :
    v1Suffix uniqueId = some t ↔ V1Form uniqueId.toList t.toList := by
  constructor
  · intro h
    unfold v1Suffix at h
    dsimp only at h
    have hhost := List.takeWhile_append_dropWhile (p := (· ≠ '_')) (l := uniqueId.toList)
    split at h
    · cases h
    · next c rest hdrop =>
      obtain rfl : c = '_' := by simpa using of_dropWhile_cons hdrop
      have hport := List.takeWhile_append_dropWhile (p := isDecimal) (l := rest)
      split at h
      · next rest' hdrop' =>
        have hline := List.takeWhile_append_dropWhile (p := (· ≠ '\n')) (l := rest')
        split at h
        · next hc =>
          obtain ⟨hne, hport', hsuffix, htail⟩ := hc
          obtain rfl := Option.some.inj h
          rw [String.toList_ofList]
          refine ⟨_, _, rest', ?_, hne, fun hmem => ?_, hport', fun c => List.mem_takeWhile_imp,
            hsuffix, fun hmem => ?_, ?_⟩
          · rw [← hdrop', hport, ← hdrop, hhost]
          · simpa using List.mem_takeWhile_imp hmem
          · simpa using List.mem_takeWhile_imp hmem
          · rcases htail with htail | htail
            · rw [htail, List.append_nil] at hline
              exact .inl hline.symm
            · rw [htail] at hline
              exact .inr hline.symm
        · cases h
      · cases h
  · rintro ⟨host, port, rest, hl, hhost, hno, hport, hdec, hline⟩
    obtain ⟨htake, htail⟩ := hline.takeWhile
    unfold v1Suffix
    dsimp only
    rw [hl, takeWhile_split (ne_underscore hno) (by decide),
      dropWhile_split (ne_underscore hno) (by decide)]
    dsimp only
    rw [takeWhile_split hdec isDecimal_underscore, dropWhile_split hdec isDecimal_underscore]
    simp only [htake]
    rw [if_pos ⟨hhost, hport, hline.1, htail⟩, String.ofList_toList]

lemma exists_line_iff {l : List Char} :
    (∃ t, Line l t) ↔ l ≠ [] ∧ l ≠ ['\n'] ∧ '\n' ∉ l.dropLast := by
  constructor
  · rintro ⟨t, hne, hno, rfl | rfl⟩
    · refine ⟨hne, ?_, fun hmem => hno (List.dropLast_subset _ hmem)⟩
      rintro rfl
      exact hno (List.mem_singleton_self _)
    · rw [List.dropLast_concat]
      exact ⟨by simp, fun hl => hne (by simpa using hl), hno⟩
  · rintro ⟨hne, hone, hno⟩
    by_cases hlast : l.getLast hne = '\n'
    · have hl := List.dropLast_append_getLast hne
      rw [hlast] at hl
      refine ⟨l.dropLast, fun hnil => hone ?_, hno, .inr hl.symm⟩
      rw [← hl, hnil, List.nil_append]
    · refine ⟨l, hne, fun hmem => ?_, .inl rfl⟩
      rw [← List.dropLast_append_getLast hne, List.mem_append, List.mem_singleton] at hmem
      exact hmem.elim hno fun h => hlast h.symm

/-- The host of the match ends at the first underscore. -/
lemma v1Form_iff {host l t : List Char} (hno : '_' ∉ host) :
    V1Form (host ++ '_' :: l) t ↔ host ≠ [] ∧ ∃ port rest, l = port ++ '_' :: rest ∧
      port ≠ [] ∧ (∀ c ∈ port, isDecimal c = true) ∧ Line rest t := by
  constructor
  · rintro ⟨host', port, rest, hl, hne, hno', hport⟩
    obtain ⟨rfl, -, rfl⟩ := split_inj (ne_underscore hno) (by decide) (ne_underscore hno')
      (by decide) hl
    exact ⟨hne, port, rest, rfl, hport⟩
  · rintro ⟨hne, port, rest, rfl, hport⟩
    exact ⟨host, port, rest, rfl, hne, hno, hport⟩

/-- `f"{host}_{port}_{suffix}"`. -/
def v1UniqueId (host : String) (port : ℕ) (suffix : String) : String :=
  host ++ "_" ++ toString port ++ "_" ++ suffix

/-- A number follows the first underscore of a host, up to the next one or to the end. -/
def HidesPort (host : String) : Prop :=
  ∃ first number rest, host.toList = first ++ '_' :: (number ++ rest) ∧
    first ≠ [] ∧ '_' ∉ first ∧ number ≠ [] ∧ (∀ c ∈ number, isDecimal c = true) ∧
    (rest = [] ∨ ∃ rest', rest = '_' :: rest') ∧ '\n' ∉ rest

/-- The pattern finds another suffix than the one that was written: behind a number of the host,
or without its line break. -/
def Misread (host suffix : String) : Prop :=
  HidesPort host ∧ '\n' ∉ suffix.toList.dropLast ∨
  '_' ∉ host.toList ∧ host ≠ "" ∧
    ∃ t : String, t ≠ "" ∧ '\n' ∉ t.toList ∧ suffix = t ++ "\n"

section V1

variable {host suffix : String} {port : ℕ}

lemma isDecimal_of_isDigit {c : Char} (h : c.isDigit = true) : isDecimal c = true := by
  unfold Char.isDigit at h
  rw [Bool.and_eq_true, decide_eq_true_eq, decide_eq_true_eq] at h
  unfold isDecimal inRanges
  refine List.any_eq_true.mpr ⟨(48, 57), by decide, ?_⟩
  rw [Bool.and_eq_true, decide_eq_true_eq, decide_eq_true_eq]
  exact ⟨h.1, h.2⟩

lemma isDecimal_of_mem_port : ∀ c ∈ (toString port).toList, isDecimal c = true := by
  intro c hc
  refine isDecimal_of_isDigit ?_
  rw [Nat.toString_eq_ofList_toDigits, String.toList_ofList] at hc
  exact Nat.isDigit_of_mem_toDigits (by decide) (by decide) hc

lemma newline_not_mem_port : '\n' ∉ (toString port).toList := by
  intro hmem
  have hno := isDecimal_of_mem_port _ hmem
  revert hno
  decide

lemma toList_v1UniqueId : (v1UniqueId host port suffix).toList =
    host.toList ++ '_' :: ((toString port).toList ++ '_' :: suffix.toList) := by
  unfold v1UniqueId
  simp

lemma exists_line_append {pre : List Char} (hpre : pre ≠ []) (hno : '\n' ∉ pre) (s : List Char) :
    (∃ t, Line (pre ++ s) t) ↔ '\n' ∉ s.dropLast := by
  rw [exists_line_iff]
  rcases List.eq_nil_or_concat s with rfl | ⟨s', c, rfl⟩
  · rw [List.append_nil]
    refine ⟨fun _ => List.not_mem_nil, fun _ => ⟨hpre, ?_, ?_⟩⟩
    · rintro rfl
      exact hno (List.mem_singleton_self _)
    · exact fun hmem => hno (List.dropLast_subset _ hmem)
  · rw [List.concat_eq_append, ← List.append_assoc, List.dropLast_concat, List.dropLast_concat,
      List.mem_append, not_or]
    refine ⟨fun h => h.2.2.2, fun h => ⟨by simp, fun hone => hpre ?_, hno, h⟩⟩
    have hlen := congrArg List.length hone
    simp only [List.length_append, List.length_singleton] at hlen
    exact List.length_eq_zero_iff.mp (by omega)

lemma Line.ne_of_longer {pre s t : List Char} (h : Line (pre ++ s) t) (hpre : 2 ≤ pre.length) :
    t ≠ s := by
  rintro rfl
  rcases h.2.2 with h | h <;>
  · have hlen := congrArg List.length h
    simp only [List.length_append, List.length_singleton] at hlen
    omega

lemma port_append_length : 2 ≤ ((toString port).toList ++ ['_']).length := by
  have hne : (toString port).toList ≠ [] := by
    rw [Nat.toString_eq_ofList_toDigits, String.toList_ofList]
    exact Nat.toDigits_ne_nil
  have hpos := List.length_pos_iff.mpr hne
  rw [List.length_append, List.length_singleton]
  omega

/-- A host without `_` is read as it was written. -/
lemma v1Form_of_plain (hno : '_' ∉ host.toList) {t : List Char} :
    V1Form (v1UniqueId host port suffix).toList t ↔ host ≠ "" ∧ Line suffix.toList t := by
  rw [toList_v1UniqueId, v1Form_iff hno, Ne, String.toList_eq_nil_iff]
  refine and_congr_right fun _ => ?_
  constructor
  · rintro ⟨port', rest, hl, -, hdec, hline⟩
    obtain ⟨-, -, rfl⟩ := split_inj isDecimal_of_mem_port isDecimal_underscore hdec
      isDecimal_underscore hl
    exact hline
  · refine fun hline => ⟨_, _, rfl, fun hnil => ?_, isDecimal_of_mem_port, hline⟩
    have hlen := @port_append_length port
    rw [hnil] at hlen
    simp at hlen

/-- What stands before the suffix once a number of the host is taken for the port: the rest of
the host and the port. -/
def before (port : ℕ) (rest : List Char) : List Char := rest.tail ++
  (if rest = [] then [] else ['_']) ++ ((toString port).toList ++ ['_'])

lemma before_length (rest : List Char) : 2 ≤ (before port rest).length := by
  have hlen := @port_append_length port
  unfold before
  rw [List.length_append]
  omega

lemma before_ne_nil (rest : List Char) : before port rest ≠ [] := by
  have hlen := @before_length port rest
  exact List.ne_nil_of_length_pos (by omega)

lemma newline_not_mem_before {rest : List Char} (h : '\n' ∉ rest.tail) :
    '\n' ∉ before port rest := by
  have hport : '\n' ∉ (toString port).toList ++ ['_'] := by
    rw [List.mem_append, not_or]
    exact ⟨newline_not_mem_port, by decide⟩
  unfold before
  rw [List.mem_append, List.mem_append]
  rintro ((hmem | hmem) | hmem)
  · exact h hmem
  · revert hmem
    split <;> decide
  · exact hport hmem

lemma Line.newline_not_mem_tail {rest t : List Char}
    (h : Line (before port rest ++ suffix.toList) t) :
    '\n' ∉ rest.tail := by
  have hline := (exists_line_iff.mp ⟨t, h⟩).2.2
  unfold before at hline
  rw [List.append_assoc, List.append_assoc, List.dropLast_append_of_ne_nil (by simp)] at hline
  exact fun hmem => hline (List.mem_append_left _ hmem)

/-- In a host with `_`, the number behind the first one is taken for the port. -/
lemma v1Form_of_split {first b t : List Char} (hhost : host.toList = first ++ '_' :: b)
    (hno : '_' ∉ first) : V1Form (v1UniqueId host port suffix).toList t ↔ first ≠ [] ∧
      ∃ number rest, b = number ++ rest ∧ number ≠ [] ∧ (∀ c ∈ number, isDecimal c = true) ∧
        (rest = [] ∨ ∃ rest', rest = '_' :: rest') ∧
        Line (before port rest ++ suffix.toList) t := by
  rw [toList_v1UniqueId, hhost, List.append_assoc, List.cons_append, v1Form_iff hno]
  refine and_congr_right fun _ => ?_
  constructor
  · rintro ⟨number, rest, hl, hne, hdec, hline⟩
    have hnumber : '_' ∉ number := fun hmem => by
      have hyes := hdec _ hmem
      rw [isDecimal_underscore] at hyes
      cases hyes
    rcases List.append_eq_append_iff.mp hl with ⟨a, rfl, ha⟩ | ⟨c, rfl, hc⟩
    · rcases a with _ | ⟨x, a⟩
      · obtain rfl := (List.cons_eq_cons.mp ha).2
        exact ⟨b, [], by simp, by simpa using hne, by simpa using hdec, .inl rfl,
          by simpa [before] using hline⟩
      · obtain rfl := (List.cons_eq_cons.mp ha).1
        exact absurd (by simp) hnumber
    · rcases c with _ | ⟨x, c⟩
      · obtain rfl := (List.cons_eq_cons.mp hc).2
        exact ⟨number, [], rfl, hne, hdec, .inl rfl, by simpa [before] using hline⟩
      · obtain ⟨rfl, rfl⟩ := List.cons_eq_cons.mp hc
        exact ⟨number, '_' :: c, rfl, hne, hdec, .inr ⟨c, rfl⟩, by simpa [before] using hline⟩
  · rintro ⟨number, rest, rfl, hne, hdec, rfl | ⟨rest', rfl⟩, hline⟩
    · exact ⟨number, (toString port).toList ++ '_' :: suffix.toList, by simp, hne, hdec,
        by simpa [before] using hline⟩
    · exact ⟨number, rest' ++ '_' :: ((toString port).toList ++ '_' :: suffix.toList), by simp,
        hne, hdec, by simpa [before] using hline⟩

lemma misread_iff : (∃ t, V1Form (v1UniqueId host port suffix).toList t ∧ t ≠ suffix.toList) ↔
    Misread host suffix := by
  by_cases hmem : '_' ∈ host.toList
  · obtain ⟨first, b, hhost, hno⟩ := List.eq_append_cons_of_mem hmem
    have hsuffix : ∀ t, V1Form (v1UniqueId host port suffix).toList t → t ≠ suffix.toList := by
      intro t ht
      obtain ⟨-, number, rest, -, -, -, -, hline⟩ := (v1Form_of_split hhost hno).mp ht
      exact hline.ne_of_longer (before_length rest)
    constructor
    · rintro ⟨t, ht, -⟩
      obtain ⟨hne, number, rest, rfl, hnum, hdec, hrest, hline⟩ := (v1Form_of_split hhost hno).mp ht
      have htail : '\n' ∉ rest.tail := hline.newline_not_mem_tail
      refine .inl ⟨⟨first, number, rest, hhost, hne, hno, hnum, hdec, hrest, ?_⟩, ?_⟩
      · rcases hrest with rfl | ⟨rest', rfl⟩
        · exact List.not_mem_nil
        · rw [List.mem_cons, not_or]
          exact ⟨by decide, htail⟩
      · exact (exists_line_append (before_ne_nil rest) (newline_not_mem_before htail) _).mp
          ⟨t, hline⟩
    · rintro (⟨⟨first', number, rest, hhost', hne, hno', hnum, hdec, hrest, hline⟩, hend⟩ | hplain)
      · obtain ⟨t, ht⟩ := (exists_line_append (before_ne_nil rest) (newline_not_mem_before
          fun hmem => hline (List.mem_of_mem_tail hmem)) suffix.toList).mpr hend
        have hform := (@v1Form_of_split _ _ port _ _ _ hhost' hno').mpr
          ⟨hne, number, rest, rfl, hnum, hdec, hrest, ht⟩
        exact ⟨t, hform, hsuffix t hform⟩
      · exact absurd hmem hplain.1
  · have hplain : ∀ t, V1Form (v1UniqueId host port suffix).toList t ↔
        host ≠ "" ∧ Line suffix.toList t := fun t => v1Form_of_plain hmem
    constructor
    · rintro ⟨t, ht, hne⟩
      obtain ⟨hhost, hnil, hno, hl | hl⟩ := (hplain t).mp ht
      · exact absurd hl.symm hne
      · refine .inr ⟨hmem, hhost, String.ofList t, ?_, by simpa using hno, ?_⟩
        · rwa [Ne, ← String.toList_eq_nil_iff, String.toList_ofList]
        · exact String.toList_inj.mp (by simpa using hl)
    · rintro (⟨⟨first, number, rest, hhost, -⟩, -⟩ | ⟨-, hhost, t, hnil, hno, rfl⟩)
      · exact absurd (by rw [hhost]; simp) hmem
      · refine ⟨t.toList, (hplain _).mpr ⟨hhost, ?_, hno, .inr (by simp)⟩, by simp⟩
        rwa [Ne, String.toList_eq_nil_iff]

end V1

/-! ### What the migration reads -/

/-- The suffix the migration goes on with. -/
def Reads (entry : ConfigEntry) (uniqueId t : String) : Prop :=
  startsWith uniqueId entry.newPrefix = false ∧
    (uniqueId = entry.current ++ t ∨
      startsWith uniqueId entry.current = false ∧ V1Form uniqueId.toList t.toList)

/-- What version 1 wrote for this address and suffix is read as it was meant, or not at all. -/
def Legible (entry : ConfigEntry) (host : String) (port : ℕ) (suffix : String) : Prop :=
  if startsWith (v1UniqueId host port suffix) entry.newPrefix then
    host ++ "_" ++ toString port = entry.entryId
  else if startsWith (v1UniqueId host port suffix) entry.current then
    host ++ "_" ++ toString port ++ "_" = entry.current
  else ¬ Misread host suffix

section Reads

variable {entry : ConfigEntry} {e : RegEntry} {host suffix : String} {port : ℕ}

lemma startsWith_iff {s p : String} : startsWith s p = true ↔ ∃ t, s = p ++ t := by
  constructor
  · intro h
    obtain ⟨t, ht⟩ := of_decide_eq_true h
    exact ⟨String.ofList t, String.toList_inj.mp (by simp [ht])⟩
  · rintro ⟨t, rfl⟩
    exact startsWith_append _ _

lemma sliceFrom_append (p t : String) : sliceFrom (p ++ t) p.toList.length = t := by
  unfold sliceFrom
  rw [String.toList_append, List.drop_left, String.ofList_toList]

lemma target_eq_some_iff {u : String} : target entry e = some u ↔
    ∃ t, Reads entry e.uniqueId t ∧ u = entry.newPrefix ++ t := by
  unfold target classify Reads
  rcases hnew : startsWith e.uniqueId entry.newPrefix
  · rw [if_neg Bool.false_ne_true]
    rcases hcur : startsWith e.uniqueId entry.current
    · rw [if_neg Bool.false_ne_true]
      have hother : ∀ t, e.uniqueId ≠ entry.current ++ t := fun t ht => by
        rw [startsWith_iff.mpr ⟨t, ht⟩] at hcur
        cases hcur
      rcases hv : v1Suffix e.uniqueId with _ | s
      · have hno : ∀ t : String, ¬ V1Form e.uniqueId.toList t.toList := fun t ht => by
          rw [v1Suffix_eq_some_iff.mpr ht] at hv
          cases hv
        simp [hother, hno]
      · have hyes : ∀ t : String, V1Form e.uniqueId.toList t.toList ↔ t = s := fun t => by
          rw [← v1Suffix_eq_some_iff, hv, Option.some.injEq, eq_comm]
        simp [hother, hyes, eq_comm]
    · rw [if_pos rfl]
      obtain ⟨t, ht⟩ := startsWith_iff.mp hcur
      rw [ht, sliceFrom_append]
      simp [String.append_right_inj, eq_comm]
  · rw [if_pos rfl]
    simp

lemma legible_iff : Legible entry host port suffix ↔
    (startsWith (v1UniqueId host port suffix) entry.newPrefix = true →
      v1UniqueId host port suffix = entry.newPrefix ++ suffix) ∧
    ∀ t, Reads entry (v1UniqueId host port suffix) t → t = suffix := by
  unfold Legible
  have hid : ∀ p : String, v1UniqueId host port suffix = p ++ suffix ↔
      host ++ "_" ++ toString port ++ "_" = p := fun p => String.append_left_inj suffix
  rcases hnew : startsWith (v1UniqueId host port suffix) entry.newPrefix
  · rw [if_neg Bool.false_ne_true]
    rcases hcur : startsWith (v1UniqueId host port suffix) entry.current
    · rw [if_neg Bool.false_ne_true, ← @misread_iff _ _ port]
      have hother : ∀ t, v1UniqueId host port suffix ≠ entry.current ++ t := fun t ht => by
        rw [startsWith_iff.mpr ⟨t, ht⟩] at hcur
        cases hcur
      unfold Reads
      simp only [hnew, hcur, hother, false_or, true_and, Bool.false_eq_true, false_implies]
      constructor
      · intro h t ht
        by_contra hne
        exact h ⟨t.toList, ht, fun heq => hne (String.toList_inj.mp heq)⟩
      · rintro h ⟨t, ht, hne⟩
        refine hne ?_
        rw [← h (String.ofList t) (by rwa [String.toList_ofList]), String.toList_ofList]
    · rw [if_pos rfl, ← hid]
      unfold Reads
      simp only [hnew, hcur, Bool.true_eq_false, false_and, or_false, true_and, Bool.false_eq_true,
        false_implies]
      constructor
      · intro h t ht
        exact ((String.append_right_inj _).mp (h.symm.trans ht)).symm
      · intro h
        obtain ⟨t, ht⟩ := startsWith_iff.mp hcur
        rw [ht, h t ht]
  · rw [if_pos rfl]
    unfold Reads
    simp only [hnew, Bool.true_eq_false, false_and, false_implies, implies_true, and_true,
      true_implies]
    rw [hid]
    unfold ConfigEntry.newPrefix
    exact (String.append_left_inj "_").symm

end Reads

/-- The entities of the config entry in the order they get their ids in: those of the current
address first. -/
def inOrder (entry : ConfigEntry) (r : EntityRegistry) : List RegEntry :=
  (entriesOf entry r).filter (fun e => startsWith e.uniqueId entry.current) ++
    (entriesOf entry r).filter fun e => !startsWith e.uniqueId entry.current

/-- Somebody has the id with the suffix already, or is read so and comes earlier. -/
def SlotGone (entry : ConfigEntry) (r : EntityRegistry) (e : RegEntry) (t : String) : Prop :=
  (∃ x ∈ r.entries, x.slot = (e.domain, integration, entry.newPrefix ++ t)) ∨
  ∃ A B, inOrder entry r = A ++ e :: B ∧ ∃ x ∈ A, x.domain = e.domain ∧ Reads entry x.uniqueId t

section Order

variable {entry : ConfigEntry} {r : EntityRegistry} {e : RegEntry} {t : String}

lemma isCurrent_eq {u : String} (h : target entry e = some u) :
    isCurrent entry e = startsWith e.uniqueId entry.current := by
  have hnew := (target_spec h).2
  unfold isCurrent classify
  rw [hnew, if_neg Bool.false_ne_true]
  rcases startsWith e.uniqueId entry.current
  · rcases v1Suffix e.uniqueId <;> rfl
  · rfl

lemma filter_planned (b : Bool) (l : List RegEntry) :
    (l.filterMap (planned entry)).filter (fun p => p.isCurrent == b) =
      (l.filter fun e => startsWith e.uniqueId entry.current == b).filterMap (planned entry) := by
  induction l with
  | nil => rfl
  | cons e l ih =>
    rcases hp : planned entry e with _ | p
    · rw [List.filterMap_cons_none hp, ih, List.filter_cons]
      split
      · rw [List.filterMap_cons_none hp]
      · rfl
    · obtain ⟨-, htarget, hcur⟩ := planned_eq_some hp
      rw [List.filterMap_cons_some hp, List.filter_cons, List.filter_cons, hcur,
        isCurrent_eq htarget, ih]
      split
      · rw [List.filterMap_cons_some hp]
      · rfl

lemma plan_eq : plan entry r = (inOrder entry r).filterMap (planned entry) := by
  have htrue := @filter_planned entry true (entriesOf entry r)
  have hfalse := @filter_planned entry false (entriesOf entry r)
  simp only [beq_true, beq_false] at htrue hfalse
  unfold plan currentFirst inOrder
  rw [htrue, hfalse, List.filterMap_append]

lemma mem_inOrder : e ∈ inOrder entry r ↔ e ∈ r.entries ∧ e.configEntryId = entry.entryId := by
  unfold inOrder
  rw [(List.filter_append_perm _ _).mem_iff, mem_entriesOf]

lemma WellKept.gone_iff (h : WellKept entry r) (he : e ∈ r.entries)
    (hmine : e.configEntryId = entry.entryId) (ht : Reads entry e.uniqueId t) :
    ¬ Survives (migrateUniqueIds entry r) e ↔ SlotGone entry r e t := by
  have htarget := target_eq_some_iff.mpr ⟨t, ht, rfl⟩
  obtain ⟨p, hp⟩ : ∃ p, planned entry e = some p := by
    unfold planned
    rw [htarget]
    exact ⟨_, rfl⟩
  obtain ⟨rfl, hp', -⟩ := planned_eq_some hp
  have hslot : p.slot = (p.regEntry.domain, integration, entry.newPrefix ++ t) := by
    unfold Planned.slot
    rw [Option.some.inj (hp'.symm.trans htarget)]
  -- Whoever comes earlier and is headed for the slot is read with the same suffix.
  have hearlier : ∀ A : List RegEntry, (∃ q ∈ A.filterMap (planned entry), q.slot = p.slot) ↔
      ∃ x ∈ A, x.domain = p.regEntry.domain ∧ Reads entry x.uniqueId t := by
    intro A
    rw [hslot]
    constructor
    · rintro ⟨q, hq, hs⟩
      obtain ⟨x, hx, hxq⟩ := List.mem_filterMap.mp hq
      obtain ⟨rfl, hqt, -⟩ := planned_eq_some hxq
      obtain ⟨t', ht', hu⟩ := target_eq_some_iff.mp hqt
      have huid : q.newUid = entry.newPrefix ++ t := congrArg (fun s => s.2.2) hs
      rw [(String.append_right_inj _).mp (hu.symm.trans huid)] at ht'
      exact ⟨_, hx, congrArg Prod.fst hs, ht'⟩
    · rintro ⟨x, hx, hd, ht'⟩
      refine ⟨⟨isCurrent entry x, x, entry.newPrefix ++ t⟩, List.mem_filterMap.mpr ⟨x, hx, ?_⟩, ?_⟩
      · unfold planned
        rw [target_eq_some_iff.mpr ⟨t, ht', rfl⟩, Option.map_some]
      · unfold Planned.slot
        rw [hd]
  have hplan : ∀ A B, inOrder entry r = A ++ p.regEntry :: B →
      plan entry r = A.filterMap (planned entry) ++ p :: B.filterMap (planned entry) := by
    intro A B hAB
    rw [plan_eq, hAB, List.filterMap_append, List.filterMap_cons, hp]
  unfold SlotGone
  rw [← hslot]
  constructor
  · intro hgone
    obtain ⟨A, B, hAB⟩ := List.append_of_mem (mem_inOrder.mpr ⟨he, hmine⟩)
    have htaken : ∃ x ∈ ((A.filterMap (planned entry)).foldl carryOut
        (Migration.recognised entry r)).entries, x.slot = p.slot := by
      by_contra hno
      push Not at hno
      exact hgone ⟨_, h.renamed_of_free (hplan A B hAB) hno, rfl⟩
    rcases (h.taken_before_iff (hplan A B hAB)).mp htaken with hx | hq
    · exact .inl hx
    · exact .inr ⟨A, B, hAB, (hearlier A).mp hq⟩
  · rintro (hx | ⟨A, B, hAB, hx⟩)
    · obtain ⟨A, B, hAB⟩ := List.append_of_mem (mem_inOrder.mpr ⟨he, hmine⟩)
      exact gone_of_taken (hplan A B hAB) ((h.taken_before_iff (hplan A B hAB)).mpr (.inl hx))
    · exact gone_of_taken (hplan A B hAB)
        ((h.taken_before_iff (hplan A B hAB)).mpr (.inr ((hearlier A).mpr hx)))

lemma WellKept.gone_of_unrecognised (h : WellKept entry r) (he : e ∈ r.entries)
    (hmine : e.configEntryId = entry.entryId) (hno : target entry e = none)
    (hold : startsWith e.uniqueId entry.newPrefix = false) :
    ¬ Survives (migrateUniqueIds entry r) e := by
  rintro ⟨x, hx, hid⟩
  rcases h.origin x hx with ⟨hr, hform⟩ | ⟨e', he', -, u, hu, rfl⟩
  · obtain rfl := EntityRegistry.eq_of_entityId hr he hid
    rw [hold] at hform
    cases hform hmine
  · obtain rfl := EntityRegistry.eq_of_entityId he' he hid
    rw [hno] at hu
    cases hu

/-- An entity with an id of version 1 gets the new one with its suffix or goes, exactly if the id
is legible or it loses the place it is wrongly headed for. -/
theorem suffix_kept_iff (h : WellKept entry r) (he : e ∈ r.entries)
    (hmine : e.configEntryId = entry.entryId) {host suffix : String} {port : ℕ}
    (huid : e.uniqueId = v1UniqueId host port suffix) :
    (∀ x ∈ (migrateUniqueIds entry r).entries, x.entityId = e.entityId →
      x.uniqueId = entry.newPrefix ++ suffix) ↔
    Legible entry host port suffix ∨ ∃ t, Reads entry e.uniqueId t ∧ SlotGone entry r e t := by
  rw [legible_iff, ← huid]
  rcases ht : target entry e with _ | u
  · have hno : ∀ t, ¬ Reads entry e.uniqueId t := fun t hr => by
      rw [target_eq_some_iff.mpr ⟨t, hr, rfl⟩] at ht
      cases ht
    have hnone : ¬ ∃ t, Reads entry e.uniqueId t ∧ SlotGone entry r e t :=
      fun ⟨t, hr, _⟩ => hno t hr
    rw [or_iff_left hnone, and_iff_left fun t hr => absurd hr (hno t)]
    rcases hnew : startsWith e.uniqueId entry.newPrefix
    · refine iff_of_true (fun x hx hid => ?_) (fun hyes => by cases hyes)
      exact absurd ⟨x, hx, hid⟩ (h.gone_of_unrecognised he hmine ht hnew)
    · -- It begins like a new id already and is left alone.
      have hstay := h.untouched he fun _ => hnew
      refine ⟨fun hall _ => hall e hstay rfl, fun hkept x hx hid => ?_⟩
      rw [EntityRegistry.eq_of_entityId hx hstay hid, hkept rfl]
  · obtain ⟨t, hr, rfl⟩ := target_eq_some_iff.mp ht
    have hslot : ∀ x ∈ (migrateUniqueIds entry r).entries, x.entityId = e.entityId →
        x.uniqueId = entry.newPrefix ++ t := by
      intro x hx hid
      exact congrArg (fun s => s.2.2) (h.slot_of_survives (target_spec ht).1 he
        (.inr ⟨hmine, _, ht, rfl⟩) hx hid)
    have hone : ∀ t', Reads entry e.uniqueId t' ↔ t' = t := fun t' => by
      refine ⟨fun hr' => ?_, fun heq => heq ▸ hr⟩
      have hu := (target_eq_some_iff.mpr ⟨t', hr', rfl⟩).symm.trans ht
      exact (String.append_right_inj _).mp (Option.some.inj hu)
    have hleg : ((startsWith e.uniqueId entry.newPrefix = true →
        e.uniqueId = entry.newPrefix ++ suffix) ∧ ∀ t', Reads entry e.uniqueId t' → t' = suffix) ↔
        t = suffix := by
      rw [hr.1, and_iff_right fun hyes => by cases hyes]
      exact ⟨fun hall => hall t hr, fun heq t' hr' => ((hone t').mp hr').trans heq⟩
    have hgone : (∃ t', Reads entry e.uniqueId t' ∧ SlotGone entry r e t') ↔
        ¬ Survives (migrateUniqueIds entry r) e := by
      rw [h.gone_iff he hmine hr]
      exact ⟨fun ⟨t', hr', hs⟩ => (hone t').mp hr' ▸ hs, fun hs => ⟨t, hr, hs⟩⟩
    rw [hleg, hgone]
    constructor
    · intro hall
      by_contra hno
      push Not at hno
      obtain ⟨hne, x, hx, hid⟩ := hno
      exact hne ((String.append_right_inj _).mp ((hslot x hx hid).symm.trans (hall x hx hid)))
    · rintro (rfl | hgone) x hx hid
      · exact hslot x hx hid
      · exact absurd ⟨x, hx, hid⟩ hgone

end Order

/-- The host `fw_2` of an earlier address: `2` is taken for the port, and the entity is given an id
that no entity of the integration has. -/
theorem suffix_kept_not_always :
    ¬ ∀ (entry : ConfigEntry) (r : EntityRegistry) (e : RegEntry) (host suffix : String) (port : ℕ),
      WellKept entry r → e ∈ r.entries → e.configEntryId = entry.entryId →
      e.uniqueId = v1UniqueId host port suffix →
      ∀ x ∈ (migrateUniqueIds entry r).entries, x.entityId = e.entityId →
        x.uniqueId = entry.newPrefix ++ suffix := by
  intro hall
  let entry : ConfigEntry := ⟨"e1", 1, 1, none, .single "host" (.text "10.0.0.1"), .empty, rfl⟩
  let e : RegEntry := ⟨"sensor.cpu", "e1", "sensor", integration, "fw_2_4444_cpu"⟩
  have hkept : WellKept entry (.singleton e) := by
    refine ⟨?_, by decide⟩
    unfold EntityRegistry.SlotsDistinct
    decide
  have hafter : ({ e with uniqueId := "e1_4444_cpu" } : RegEntry) ∈
      (migrateUniqueIds entry (.singleton e)).entries := by decide
  have huid := hall entry (.singleton e) e "fw_2" "cpu" 4444 hkept (by decide) rfl (by decide) _
    hafter rfl
  revert huid
  decide

/-- A host without `_` and one with, next to an entity of the current address. -/
theorem suffix_kept_iff_addresses :
    let entry : ConfigEntry := ⟨"e1", 1, 1, none, .single "host" (.text "fw"), .empty, rfl⟩
    let entity := fun id uid => RegEntry.mk id "e1" "sensor" integration uid
    let r : EntityRegistry := ⟨[entity "a" "old_4444_cpu", entity "b" "fw_lab_4444_cpu",
      entity "c" "fw_4444_b_4444_cpu"], by decide⟩
    (migrateUniqueIds entry r).entries = [entity "a" "e1_cpu", entity "c" "e1_b_4444_cpu"] ∧
    ((∀ x ∈ (migrateUniqueIds entry r).entries, x.entityId = "b" →
        x.uniqueId = entry.newPrefix ++ "cpu") ↔
      Legible entry "fw_lab" 4444 "cpu" ∨
        ∃ t, Reads entry "fw_lab_4444_cpu" t ∧
          SlotGone entry r (entity "b" "fw_lab_4444_cpu") t) := by
  intro entry entity r
  have hkept : WellKept entry r := by
    refine ⟨?_, by decide⟩
    unfold EntityRegistry.SlotsDistinct
    decide
  exact ⟨by decide, suffix_kept_iff hkept (e := entity "b" "fw_lab_4444_cpu") (by decide) rfl
    (by decide : "fw_lab_4444_cpu" = v1UniqueId "fw_lab" 4444 "cpu")⟩

end SophosFw.Migration
