import Mathlib.Data.List.Basic
import Mathlib.Order.Nat
import Mathlib.Tactic.Common

/-!
Streaks: how many of the latest entries of a log have a property, and counters that are to
stay below that.

A counter is advanced when somebody looks at the log, at most once for each entry. It is safe
as long as it never gets ahead of the streak it stands for.
-/

namespace SophosFw.Streak

variable {α : Type*} {q r : α → Bool} {l : List α}

/-- How many entries in a row have the property, from the latest one on. -/
def streak (q : α → Bool) (l : List α) : ℕ := (l.takeWhile q).length

lemma streak_cons_of_pos {a : α} (h : q a = true) : streak q (a :: l) = streak q l + 1 := by
  unfold streak
  rw [List.takeWhile_cons_of_pos h, List.length_cons]

lemma streak_cons_of_neg {a : α} (h : ¬ q a = true) : streak q (a :: l) = 0 := by
  unfold streak
  rw [List.takeWhile_cons_of_neg h, List.length_nil]

lemma streak_mono (h : ∀ a, q a = true → r a = true) : streak q l ≤ streak r l := by
  induction l with
  | nil => exact le_rfl
  | cons a l ih =>
    by_cases ha : q a = true
    · rw [streak_cons_of_pos ha, streak_cons_of_pos (h a ha)]
      exact Nat.succ_le_succ ih
    · rw [streak_cons_of_neg ha]
      exact Nat.zero_le _

lemma of_lt_streak {n : ℕ} (h : n < streak q l) : ∃ a, l[n]? = some a ∧ q a = true := by
  induction l generalizing n with
  | nil => exact absurd h (Nat.not_lt_zero n)
  | cons a l ih =>
    by_cases ha : q a = true
    · rw [streak_cons_of_pos ha] at h
      cases n with
      | zero => exact ⟨a, rfl, ha⟩
      | succ n => exact ih (Nat.lt_of_succ_lt_succ h)
    · rw [streak_cons_of_neg ha] at h
      exact absurd h (Nat.not_lt_zero n)

/-- A counter of the entries with a property is not ahead of the log. An entry is new until
somebody looked; when nobody can tell any more that it was counted, counting it again must
still be right. -/
structure Counted (q : α → Bool) (l : List α) (new counted : Prop) (n : ℕ) : Prop where
  of_new : new → n ≤ streak q l.tail
  le : ¬ new → n ≤ streak q l
  behind : ¬ new → counted ∨ n = 0 ∨ n < streak q l

namespace Counted

variable {new new' counted counted' : Prop} {n n' : ℕ}

lemma zero : Counted q l new counted 0 :=
  ⟨fun _ => Nat.zero_le _, fun _ => Nat.zero_le _, fun _ => .inr (.inl rfl)⟩

lemma mono (h : Counted q l new counted n) (hn : n' ≤ n) : Counted q l new counted n' where
  of_new hnew := hn.trans (h.of_new hnew)
  le hnew := hn.trans (h.le hnew)
  behind hnew := by
    rcases h.behind hnew with hc | h0 | hlt
    · exact .inl hc
    · exact .inr (.inl (by omega))
    · exact .inr (.inr (hn.trans_lt hlt))

lemma log (h : Counted q l new counted n) (hnew : ¬ new) (hnew' : new') (a : α) :
    Counted q (a :: l) new' counted' n where
  of_new _ := h.le hnew
  le hno := absurd hnew' hno
  behind hno := absurd hnew' hno

lemma idle (h : Counted q l new counted n) (hnew : ¬ new) (hnew' : ¬ new')
    (hc : counted → counted') : Counted q l new' counted' n where
  of_new hyes := absurd hyes hnew'
  le _ := h.le hnew
  behind _ := (h.behind hnew).imp_left hc

lemma count {a : α} (h : Counted q (a :: l) new counted n) (ha : q a = true)
    (hn : n' ≤ n ∨ (¬ counted ∧ n' ≤ n + 1)) (hnew' : ¬ new') (hc : counted') :
    Counted q (a :: l) new' counted' n' := by
  have hlen := streak_cons_of_pos (l := l) ha
  refine ⟨fun hyes => absurd hyes hnew', fun _ => ?_, fun _ => .inl hc⟩
  by_cases hnew : new
  · have hle : n ≤ streak q l := h.of_new hnew
    omega
  · have hle := h.le hnew
    rcases h.behind hnew with hc | h0 | hlt
    · rcases hn with hn | ⟨hnot, -⟩
      · omega
      · exact absurd hc hnot
    · omega
    · omega

lemma skip {a : α} (h : Counted q (a :: l) new counted n) (ha : q a = true) (hnew' : ¬ new')
    (hc : counted → counted') : Counted q (a :: l) new' counted' n := by
  have hlen := streak_cons_of_pos (l := l) ha
  by_cases hnew : new
  · have hle : n ≤ streak q l := h.of_new hnew
    exact ⟨fun hyes => absurd hyes hnew', fun _ => by omega, fun _ => .inr (.inr (by omega))⟩
  · exact h.idle hnew hnew' hc

end Counted

end SophosFw.Streak
