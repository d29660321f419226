import Mathlib.Algebra.Order.Archimedean.Basic
import Mathlib.Algebra.Order.Field.Basic
import Mathlib.Tactic.Linarith

/-!
Polling by elapsed time, in runs that are scheduled from the end of the run before.

A run starts about one base interval after the end of the one before and stamps what it fetched
with a time of its own. Something is due once its interval is over, half a base interval of
tolerance granted. So it is never fetched early by more than the tolerance, and the first run
that starts after its interval fetches it.
-/

namespace SophosFw.Periods

variable {K : Type*} [Field K] [LinearOrder K] [IsStrictOrderedRing K]

/-- The times of unboundedly many runs. -/
structure Timing (K : Type*) [Field K] [LinearOrder K] where
  base : K
  jitter : K
  start : ℕ → K
  stamp : ℕ → K
  stop : ℕ → K
  base_pos : 0 < base
  jitter_le : jitter ≤ base / 2
  start_le_stamp : ∀ k, start k ≤ stamp k
  stamp_le_stop : ∀ k, stamp k ≤ stop k
  early : ∀ k, stop k + base - jitter ≤ start (k + 1)
  late : ∀ k, start (k + 1) ≤ stop k + base + jitter

/-- Runs of one duration, without jitter. -/
def Timing.regular (base duration : K) (hb : 0 < base) (hd : 0 ≤ duration) : Timing K where
  base := base
  jitter := 0
  start k := k * (base + duration)
  stamp k := k * (base + duration) + duration
  stop k := k * (base + duration) + duration
  base_pos := hb
  jitter_le := (half_pos hb).le
  start_le_stamp _ := le_add_of_nonneg_right hd
  stamp_le_stop _ := le_rfl
  early k := by push_cast; linarith
  late k := by push_cast; linarith

/-- What is fetched in which run, and the stamp it has before each run. -/
structure Polled (T : Timing K) (interval : K) (fetched : ℕ → Prop) (last : ℕ → Option K) :
    Prop where
  init : last 0 = none
  due : ∀ k, fetched k ↔ ∀ l, last k = some l → interval - T.base / 2 ≤ T.start k - l
  keeps : ∀ k, (fetched k ∧ last (k + 1) = some (T.stamp k)) ∨ last (k + 1) = last k

/-- The run after `j` that fetches next. -/
def Next (fetched : ℕ → Prop) (j k : ℕ) : Prop :=
  j < k ∧ fetched k ∧ ∀ i, j < i → i < k → ¬ fetched i

namespace Timing

variable (T : Timing K)

lemma stop_add_le_start (k : ℕ) : T.stop k + T.base / 2 ≤ T.start (k + 1) := by
  have hearly := T.early k
  have hjitter := T.jitter_le
  linarith

lemma start_add_le_start (k : ℕ) : T.start k + T.base / 2 ≤ T.start (k + 1) := by
  have hrun := (T.start_le_stamp k).trans (T.stamp_le_stop k)
  have hnext := T.stop_add_le_start k
  linarith

lemma stop_le_stop (k : ℕ) : T.stop k ≤ T.stop (k + 1) := by
  have hrun := (T.start_le_stamp (k + 1)).trans (T.stamp_le_stop (k + 1))
  have hnext := T.stop_add_le_start k
  have hbase := T.base_pos
  linarith

lemma start_add_mul_le (j n : ℕ) : T.start j + n * (T.base / 2) ≤ T.start (j + n) := by
  induction n with
  | zero => simp
  | succ n ih =>
    have hnext := T.start_add_le_start (j + n)
    push_cast
    rw [← add_assoc]
    linarith

end Timing

namespace Polled

variable {T : Timing K} {interval : K} {fetched : ℕ → Prop} {last : ℕ → Option K}

lemma last_le (h : Polled T interval fetched last) :
    ∀ k l, last (k + 1) = some l → l ≤ T.stop k := by
  intro k
  induction k with
  | zero =>
    intro l hl
    rcases h.keeps 0 with ⟨-, hnew⟩ | hold
    · obtain rfl := Option.some.inj (hnew.symm.trans hl)
      exact T.stamp_le_stop 0
    · rw [hold, h.init] at hl
      cases hl
  | succ k ih =>
    intro l hl
    rcases h.keeps (k + 1) with ⟨-, hnew⟩ | hold
    · obtain rfl := Option.some.inj (hnew.symm.trans hl)
      exact T.stamp_le_stop (k + 1)
    · rw [hold] at hl
      exact (ih l hl).trans (T.stop_le_stop k)

lemma fetched_of_le_base (h : Polled T interval fetched last) (hi : interval ≤ T.base) (k : ℕ) :
    fetched k := by
  rw [h.due]
  intro l hl
  rcases k with _ | k
  · rw [h.init] at hl
    cases hl
  · have hstamp := h.last_le k l hl
    have hnext := T.stop_add_le_start k
    linarith

section Stamped

variable {j k : ℕ}

omit [IsStrictOrderedRing K] in
lemma last_of_stamped (h : Polled T interval fetched last)
    (hj : last (j + 1) = some (T.stamp j)) (hk : j < k) (hno : ∀ i, j < i → i < k → ¬ fetched i) :
    last k = some (T.stamp j) := by
  induction k with
  | zero => exact absurd hk (Nat.not_lt_zero j)
  | succ k ih =>
    rcases Nat.lt_succ_iff_lt_or_eq.mp hk with hlt | rfl
    · rcases h.keeps k with ⟨hf, -⟩ | hold
      · exact absurd hf (hno k hlt (Nat.lt_succ_self k))
      · rw [hold]
        exact ih hlt fun i hi hik => hno i hi (hik.trans (Nat.lt_succ_self k))
    · exact hj

omit [IsStrictOrderedRing K] in
/-- Nothing is fetched early by more than the tolerance. -/
lemma le_of_next (h : Polled T interval fetched last) (hj : last (j + 1) = some (T.stamp j))
    (hn : Next fetched j k) : interval - T.base / 2 ≤ T.start k - T.stamp j :=
  (h.due k).mp hn.2.1 _ (h.last_of_stamped hj hn.1 hn.2.2)

/-- What the run before did not fetch was not due then. -/
lemma lt_of_next (h : Polled T interval fetched last) (hj : last (j + 1) = some (T.stamp j))
    (hn : Next fetched j (k + 1)) (hne : k ≠ j) :
    T.start (k + 1) - T.stamp j <
      interval + T.base / 2 + T.jitter + (T.stop k - T.start k) := by
  have hjk : j < k := lt_of_le_of_ne (Nat.lt_succ_iff.mp hn.1) hne.symm
  have hlast := h.last_of_stamped hj hjk fun i hi hik =>
    hn.2.2 i hi (hik.trans (Nat.lt_succ_self k))
  have hearlier : ¬ fetched k := hn.2.2 k hjk (Nat.lt_succ_self k)
  have hnot : T.start k - T.stamp j < interval - T.base / 2 := by
    by_contra hle
    refine hearlier ((h.due k).mpr fun l hl => ?_)
    obtain rfl := Option.some.inj (hlast.symm.trans hl)
    exact not_lt.mp hle
  have hlate := T.late k
  linarith

lemma next_of_le (h : Polled T interval fetched last) (hj : last (j + 1) = some (T.stamp j))
    (hk : j < k) (hle : interval ≤ T.start k - T.stamp j) : ∃ i ≤ k, Next fetched j i := by
  classical
  have hsome : ∃ i, j < i ∧ fetched i ∧ i ≤ k := by
    by_contra hno
    push Not at hno
    have hnone : ∀ i, j < i → i < k → ¬ fetched i := fun i hi hik hf =>
      absurd (hno i hi hf) (not_lt.mpr hik.le)
    refine absurd (hno k hk ((h.due k).mpr fun l hl => ?_)) (lt_irrefl k)
    obtain rfl := Option.some.inj ((h.last_of_stamped hj hk hnone).symm.trans hl)
    have hbase := T.base_pos
    linarith
  obtain ⟨hji, hf, hik⟩ := Nat.find_spec hsome
  refine ⟨Nat.find hsome, hik, hji, hf, fun i hi hlt hfi => ?_⟩
  exact Nat.find_min hsome hlt ⟨hi, hfi, hlt.le.trans hik⟩

lemma exists_next [Archimedean K] (h : Polled T interval fetched last)
    (hj : last (j + 1) = some (T.stamp j)) : ∃ k, Next fetched j k := by
  have hbase : 0 < T.base / 2 := half_pos T.base_pos
  obtain ⟨n, hn⟩ := Archimedean.arch (interval + (T.stamp j - T.start (j + 1))) hbase
  rw [nsmul_eq_mul] at hn
  have hlater := T.start_add_mul_le (j + 1) n
  obtain ⟨i, -, hi⟩ := h.next_of_le (k := j + 1 + n) hj (by omega) (by linarith)
  exact ⟨i, hi⟩

end Stamped

end Polled

end SophosFw.Periods
