import Mathlib.Computability.Language
import Mathlib.Algebra.BigOperators.Group.List.Basic

/-!
Regular expressions as backtracking matchers read them, with lookahead and the two anchors.

An expression takes what is left of a text to what may be left after it, in the order in which
the matcher tries it. Without anchors and lookahead it reads a language off the front of the
text, and that language is put together as the expression is.
-/

namespace SophosFw.Regex

inductive Re
  | cls (p : Char → Bool)
  | seq (r s : Re)
  /-- `r?` -/
  | opt (r : Re)
  /-- `r*` -/
  | star (r : Re)
  /-- `r{m,n}` -/
  | rep (r : Re) (m n : ℕ)
  /-- `(?=r)` -/
  | look (r : Re)
  /-- `^` -/
  | bol
  /-- `$`: the end, or a line break at the end. -/
  | eol

/-- `r+` -/
def Re.plus (r : Re) : Re := .seq r (.star r)

/-- `.` -/
def Re.any : Re := .cls (· ≠ '\n')

/-- One match after the other, so many of them. -/
def times (f : List Char → List (List Char)) : ℕ → List Char → List (List Char)
  | 0, l => [l]
  | n + 1, l => (f l).flatMap (times f n)

/-- At most so many matches, the longer runs first. -/
def upTo (f : List Char → List (List Char)) : ℕ → List Char → List (List Char)
  | 0, l => [l]
  | n + 1, l => (f l).flatMap (upTo f n) ++ [l]

/-- Matches that take something. -/
def advancing (f : List Char → List (List Char)) (l : List Char) : List (List Char) :=
  (f l).filter fun l' => decide (l'.length < l.length)

/-- What may be left after the expression, where `text` is the whole text. -/
def Re.ends (text : List Char) : Re → List Char → List (List Char)
  | .cls _, [] => []
  | .cls p, c :: l => if p c then [l] else []
  | .seq r s, l => (r.ends text l).flatMap (s.ends text)
  | .opt r, l => r.ends text l ++ [l]
  | .star r, l => upTo (advancing (r.ends text)) l.length l
  | .rep r m n, l => (times (r.ends text) m l).flatMap (upTo (r.ends text) (n - m))
  | .look r, l => if r.ends text l = [] then [] else [l]
  | .bol, l => if l.length = text.length then [l] else []
  | .eol, l => if l = [] ∨ l = ['\n'] then [l] else []

/-- `re.match(pattern, text) is not None` -/
def Re.matches (r : Re) (text : List Char) : Bool := r.ends text text ≠ []

/-- What is left is what a word of the language leaves. -/
def Reads (f : List Char → List (List Char)) (L : Language Char) : Prop :=
  ∀ l l', l' ∈ f l ↔ ∃ w ∈ L, l = w ++ l'

/-- The texts of one character of a class. -/
def single (p : Char → Bool) : Language Char := {w | ∃ c, p c = true ∧ w = [c]}

/-- At most so many words of the language in a row. -/
def atMost (L : Language Char) (n : ℕ) : Language Char := {w | ∃ k ≤ n, w ∈ L ^ k}

lemma mem_single {p : Char → Bool} {w : List Char} : w ∈ single p ↔ ∃ c, p c = true ∧ w = [c] :=
  Iff.rfl

namespace Reads

variable {f g : List Char → List (List Char)} {L M : Language Char}

lemma seq (hf : Reads f L) (hg : Reads g M) : Reads (fun l => (f l).flatMap g) (L * M) := by
  intro l l'
  rw [List.mem_flatMap]
  constructor
  · rintro ⟨m, hm, hl'⟩
    obtain ⟨v, hv, rfl⟩ := (hf l m).mp hm
    obtain ⟨w, hw, rfl⟩ := (hg m l').mp hl'
    exact ⟨v ++ w, Language.append_mem_mul hv hw, (List.append_assoc v w l').symm⟩
  · rintro ⟨u, hu, rfl⟩
    obtain ⟨v, hv, w, hw, rfl⟩ := Language.mem_mul.mp hu
    rw [List.append_assoc]
    exact ⟨w ++ l', (hf _ _).mpr ⟨v, hv, rfl⟩, (hg _ _).mpr ⟨w, hw, rfl⟩⟩

lemma orNothing (hf : Reads f L) : Reads (fun l => f l ++ [l]) (L + 1) := by
  intro l l'
  rw [List.mem_append, List.mem_singleton, hf]
  constructor
  · rintro (⟨w, hw, rfl⟩ | rfl)
    · exact ⟨w, .inl hw, rfl⟩
    · exact ⟨[], .inr rfl, rfl⟩
  · rintro ⟨w, hw | rfl, rfl⟩
    · exact .inl ⟨w, hw, rfl⟩
    · exact .inr rfl

lemma times (hf : Reads f L) : ∀ n, Reads (times f n) (L ^ n) := by
  intro n
  induction n with
  | zero =>
    intro l l'
    rw [pow_zero, Regex.times, List.mem_singleton]
    constructor
    · rintro rfl
      exact ⟨[], rfl, rfl⟩
    · rintro ⟨w, rfl, rfl⟩
      rfl
  | succ n ih =>
    rw [pow_succ']
    exact hf.seq ih

lemma upTo (hf : Reads f L) : ∀ n, Reads (upTo f n) (atMost L n) := by
  intro n
  induction n with
  | zero =>
    intro l l'
    rw [Regex.upTo, List.mem_singleton]
    constructor
    · rintro rfl
      exact ⟨[], ⟨0, le_refl 0, rfl⟩, rfl⟩
    · rintro ⟨w, ⟨k, hk, hw⟩, rfl⟩
      obtain rfl := Nat.le_zero.mp hk
      obtain rfl := hw
      rfl
  | succ n ih =>
    intro l l'
    rw [show Regex.upTo f (n + 1) l = (f l).flatMap (Regex.upTo f n) ++ [l] from rfl,
      (hf.seq ih).orNothing l l']
    refine exists_congr fun w => and_congr_left fun _ => ?_
    constructor
    · rintro (hw | rfl)
      · obtain ⟨u, hu, v, ⟨k, hk, hv⟩, rfl⟩ := Language.mem_mul.mp hw
        refine ⟨k + 1, Nat.succ_le_succ hk, ?_⟩
        rw [pow_succ']
        exact Language.append_mem_mul hu hv
      · exact ⟨0, Nat.zero_le _, rfl⟩
    · rintro ⟨k, hk, hw⟩
      rcases k with _ | k
      · exact .inr hw
      · rw [pow_succ'] at hw
        obtain ⟨u, hu, v, hv, rfl⟩ := Language.mem_mul.mp hw
        exact .inl (Language.append_mem_mul hu ⟨k, Nat.le_of_succ_le_succ hk, hv⟩)

lemma advancing (hf : Reads f L) : Reads (advancing f) {w | w ∈ L ∧ w ≠ []} := by
  intro l l'
  unfold Regex.advancing
  rw [List.mem_filter, hf, decide_eq_true_eq]
  constructor
  · rintro ⟨⟨w, hw, rfl⟩, hlen⟩
    refine ⟨w, ⟨hw, ?_⟩, rfl⟩
    rintro rfl
    exact absurd hlen (Nat.lt_irrefl _)
  · rintro ⟨w, ⟨hw, hne⟩, rfl⟩
    have hpos := List.length_pos_iff.mpr hne
    rw [List.length_append]
    exact ⟨⟨w, hw, rfl⟩, by omega⟩

lemma star (hf : Reads f L) :
    Reads (fun l => Regex.upTo (Regex.advancing f) l.length l) (KStar.kstar L) := by
  intro l l'
  rw [hf.advancing.upTo l.length, Language.kstar_def_nonempty]
  refine exists_congr fun w => ?_
  constructor
  · rintro ⟨⟨k, -, hw⟩, hl⟩
    obtain ⟨ws, hws, -, hall⟩ := Language.mem_pow.mp hw
    exact ⟨⟨ws, hws, hall⟩, hl⟩
  · rintro ⟨⟨ws, hws, hall⟩, rfl⟩
    refine ⟨⟨ws.length, ?_, Language.mem_pow.mpr ⟨ws, hws, rfl, hall⟩⟩, rfl⟩
    have hlen : ws.length ≤ ws.flatten.length := by
      have hsum := List.length_le_sum_of_one_le (ws.map List.length) fun n hn => by
        obtain ⟨v, hv, rfl⟩ := List.mem_map.mp hn
        exact List.length_pos_iff.mpr (hall v hv).2
      rwa [List.length_map, ← List.length_flatten] at hsum
    rw [List.length_append, hws]
    omega

end Reads

section Ends

variable {text : List Char} {r s : Re} {L M : Language Char}

lemma ends_cls_cons (p : Char → Bool) (c : Char) (l : List Char) :
    (Re.cls p).ends text (c :: l) = if p c then [l] else [] := rfl

lemma ends_seq : (Re.seq r s).ends text = fun l => (r.ends text l).flatMap (s.ends text) := rfl

lemma ends_opt : r.opt.ends text = fun l => r.ends text l ++ [l] := rfl

lemma ends_star :
    r.star.ends text = fun l => upTo (advancing (r.ends text)) l.length l := rfl

lemma ends_rep (m n : ℕ) : (Re.rep r m n).ends text =
    fun l => (times (r.ends text) m l).flatMap (upTo (r.ends text) (n - m)) := rfl

lemma ends_look (l : List Char) :
    r.look.ends text l = if r.ends text l = [] then [] else [l] := rfl

lemma ends_bol (l : List Char) :
    Re.bol.ends text l = if l.length = text.length then [l] else [] := rfl

lemma ends_eol (l : List Char) :
    Re.eol.ends text l = if l = [] ∨ l = ['\n'] then [l] else [] := rfl

lemma reads_cls (p : Char → Bool) : Reads ((Re.cls p).ends text) (single p) := by
  intro l l'
  constructor
  · intro h
    rcases l with _ | ⟨c, l⟩
    · cases h
    · rw [ends_cls_cons] at h
      split at h
      · next hc =>
        obtain rfl := List.mem_singleton.mp h
        exact ⟨[c], ⟨c, hc, rfl⟩, rfl⟩
      · cases h
  · rintro ⟨w, ⟨c, hc, rfl⟩, rfl⟩
    rw [List.singleton_append, ends_cls_cons, if_pos hc]
    exact List.mem_singleton_self _

lemma reads_seq (hr : Reads (r.ends text) L) (hs : Reads (s.ends text) M) :
    Reads ((Re.seq r s).ends text) (L * M) := by
  rw [ends_seq]
  exact hr.seq hs

lemma reads_opt (hr : Reads (r.ends text) L) : Reads ((Re.opt r).ends text) (L + 1) := by
  rw [ends_opt]
  exact hr.orNothing

lemma reads_star (hr : Reads (r.ends text) L) :
    Reads ((Re.star r).ends text) (KStar.kstar L) := by
  rw [ends_star]
  exact hr.star

lemma reads_plus (hr : Reads (r.ends text) L) : Reads (r.plus.ends text) (L * KStar.kstar L) :=
  reads_seq hr (reads_star hr)

lemma reads_rep (hr : Reads (r.ends text) L) (m n : ℕ) :
    Reads ((Re.rep r m n).ends text) (L ^ m * atMost L (n - m)) := by
  rw [ends_rep]
  exact (hr.times m).seq (hr.upTo (n - m))

lemma mem_ends_seq {l l' : List Char} :
    l' ∈ (Re.seq r s).ends text l ↔ ∃ m ∈ r.ends text l, l' ∈ s.ends text m := by
  rw [ends_seq, List.mem_flatMap]

lemma mem_ends_look {l l' : List Char} :
    l' ∈ (Re.look r).ends text l ↔ l' = l ∧ ∃ m, m ∈ r.ends text l := by
  rw [ends_look]
  split
  · next h => simp [h]
  · next h => simp [List.exists_mem_of_ne_nil _ h]

lemma mem_ends_bol {l l' : List Char} :
    l' ∈ Re.bol.ends text l ↔ l' = l ∧ l.length = text.length := by
  rw [ends_bol]
  split
  · next h => simp [h]
  · next h => simp [h]

lemma mem_ends_eol {l l' : List Char} :
    l' ∈ Re.eol.ends text l ↔ l' = l ∧ (l = [] ∨ l = ['\n']) := by
  rw [ends_eol]
  split
  · next h => simp [h]
  · next h => simp [h]

lemma matches_iff : r.matches text = true ↔ ∃ l, l ∈ r.ends text text := by
  unfold Re.matches
  rw [decide_eq_true_eq]
  exact ⟨List.exists_mem_of_ne_nil _, fun ⟨_, h⟩ => List.ne_nil_of_mem h⟩

end Ends

/-! ### Runs of characters of one class -/

section Single

variable {p : Char → Bool} {w : List Char}

lemma mem_single_pow {n : ℕ} : w ∈ single p ^ n ↔ w.length = n ∧ ∀ c ∈ w, p c = true := by
  induction n generalizing w with
  | zero =>
    rw [pow_zero, Language.mem_one]
    refine ⟨?_, fun h => List.length_eq_zero_iff.mp h.1⟩
    rintro rfl
    exact ⟨rfl, fun c hc => absurd hc List.not_mem_nil⟩
  | succ n ih =>
    rw [pow_succ', Language.mem_mul]
    constructor
    · rintro ⟨_, ⟨c, hc, rfl⟩, v, hv, rfl⟩
      obtain ⟨hlen, hall⟩ := ih.mp hv
      refine ⟨by simp [hlen], fun d hd => ?_⟩
      rcases List.mem_cons.mp hd with rfl | hd
      · exact hc
      · exact hall d hd
    · rintro ⟨hlen, hall⟩
      rcases w with _ | ⟨c, w⟩
      · cases hlen
      · rw [List.forall_mem_cons] at hall
        exact ⟨[c], ⟨c, hall.1, rfl⟩, w, ih.mpr ⟨Nat.succ.inj hlen, hall.2⟩, rfl⟩

lemma mem_single_kstar : w ∈ KStar.kstar (single p) ↔ ∀ c ∈ w, p c = true := by
  rw [Language.kstar_eq_iSup_pow, Language.mem_iSup]
  constructor
  · rintro ⟨n, hw⟩
    exact (mem_single_pow.mp hw).2
  · exact fun hall => ⟨w.length, mem_single_pow.mpr ⟨rfl, hall⟩⟩

lemma mem_single_rep {m n : ℕ} (h : m ≤ n) : w ∈ single p ^ m * atMost (single p) (n - m) ↔
    m ≤ w.length ∧ w.length ≤ n ∧ ∀ c ∈ w, p c = true := by
  rw [Language.mem_mul]
  constructor
  · rintro ⟨u, hu, v, ⟨k, hk, hv⟩, rfl⟩
    obtain ⟨hulen, hu⟩ := mem_single_pow.mp hu
    obtain ⟨hvlen, hv⟩ := mem_single_pow.mp hv
    rw [List.length_append, hulen, hvlen]
    refine ⟨by omega, by omega, fun c hc => ?_⟩
    exact (List.mem_append.mp hc).elim (hu c) (hv c)
  · rintro ⟨hm, hn, hall⟩
    refine ⟨w.take m, mem_single_pow.mpr ⟨?_, fun c hc => hall c (List.mem_of_mem_take hc)⟩,
      w.drop m, ⟨w.length - m, by omega, mem_single_pow.mpr ⟨by simp, fun c hc =>
        hall c (List.mem_of_mem_drop hc)⟩⟩, List.take_append_drop m w⟩
    rw [List.length_take]
    omega

end Single

section Separated

variable {L : Language Char} {s : Char} {w : List Char}

lemma mem_single_eq : w ∈ single (· == s) ↔ w = [s] := by
  rw [mem_single]
  simp

lemma mem_separated_pow {n : ℕ} : w ∈ L * (single (· == s) * L) ^ n ↔
    ∃ ls : List (List Char), ls.length = n + 1 ∧ (∀ l ∈ ls, l ∈ L) ∧ w = [s].intercalate ls := by
  induction n generalizing w with
  | zero =>
    rw [pow_zero, mul_one]
    constructor
    · intro hw
      exact ⟨[w], rfl, fun l hl => List.mem_singleton.mp hl ▸ hw, List.intercalate_singleton.symm⟩
    · rintro ⟨ls, hlen, hall, rfl⟩
      obtain ⟨l, rfl⟩ := List.length_eq_one_iff.mp hlen
      rw [List.intercalate_singleton]
      exact hall l (List.mem_singleton_self l)
  | succ n ih =>
    rw [pow_succ', mul_assoc (single _), Language.mem_mul]
    constructor
    · rintro ⟨l, hl, u, hu, rfl⟩
      obtain ⟨d, hd, v, hv, rfl⟩ := Language.mem_mul.mp hu
      obtain rfl := mem_single_eq.mp hd
      obtain ⟨ls, hlen, hall, rfl⟩ := ih.mp hv
      refine ⟨l :: ls, by rw [List.length_cons, hlen], List.forall_mem_cons.mpr ⟨hl, hall⟩, ?_⟩
      rw [List.intercalate_cons_of_ne_nil (List.ne_nil_of_length_eq_add_one hlen),
        List.append_assoc]
    · rintro ⟨ls, hlen, hall, rfl⟩
      obtain ⟨l, ls, rfl⟩ := List.exists_cons_of_length_eq_add_one hlen
      rw [List.forall_mem_cons] at hall
      have hlen' : ls.length = n + 1 := Nat.succ.inj hlen
      rw [List.intercalate_cons_of_ne_nil (List.ne_nil_of_length_eq_add_one hlen'),
        List.append_assoc]
      exact ⟨l, hall.1, _, Language.append_mem_mul (mem_single_eq.mpr rfl)
        (ih.mpr ⟨ls, hlen', hall.2, rfl⟩), rfl⟩

lemma mem_separated_plus :
    w ∈ L * (single (· == s) * L * KStar.kstar (single (· == s) * L)) ↔
      ∃ ls : List (List Char), 2 ≤ ls.length ∧ (∀ l ∈ ls, l ∈ L) ∧ w = [s].intercalate ls := by
  have hpow : w ∈ L * (single (· == s) * L * KStar.kstar (single (· == s) * L)) ↔
      ∃ n, w ∈ L * (single (· == s) * L) ^ (n + 1) := by
    rw [Language.mem_mul]
    simp only [Language.mem_mul, Language.kstar_eq_iSup_pow, Language.mem_iSup, pow_succ']
    constructor
    · rintro ⟨a, ha, b, ⟨c, hc, d, ⟨n, hd⟩, hcd⟩, hab⟩
      exact ⟨n, a, ha, b, ⟨c, hc, d, hd, hcd⟩, hab⟩
    · rintro ⟨n, a, ha, b, ⟨c, hc, d, hd, hcd⟩, hab⟩
      exact ⟨a, ha, b, ⟨c, hc, d, ⟨n, hd⟩, hcd⟩, hab⟩
  rw [hpow]
  constructor
  · rintro ⟨n, hw⟩
    obtain ⟨ls, hlen, hls⟩ := mem_separated_pow.mp hw
    exact ⟨ls, by omega, hls⟩
  · rintro ⟨ls, hlen, hls⟩
    exact ⟨ls.length - 2, mem_separated_pow.mpr ⟨ls, by omega, hls⟩⟩

/-- If no word has the separator, the words are what splitting finds. -/
lemma mem_separated_plus_iff (hL : ∀ l ∈ L, s ∉ l) :
    w ∈ L * (single (· == s) * L * KStar.kstar (single (· == s) * L)) ↔
      2 ≤ (w.splitOn s).length ∧ ∀ l ∈ w.splitOn s, l ∈ L := by
  rw [mem_separated_plus]
  constructor
  · rintro ⟨ls, hlen, hall, rfl⟩
    rw [List.splitOn_intercalate s (fun l hl => hL l (hall l hl))
      (List.ne_nil_of_length_pos (by omega))]
    exact ⟨hlen, hall⟩
  · rintro ⟨hlen, hall⟩
    exact ⟨w.splitOn s, hlen, hall, (List.intercalate_splitOn s).symm⟩

end Separated

end SophosFw.Regex
