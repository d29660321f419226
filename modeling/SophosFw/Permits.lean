import Mathlib.Algebra.BigOperators.Group.Finset.Basic
import Mathlib.Algebra.Order.BigOperators.Group.Finset
import Mathlib.Data.Finset.Card

/-!
Counting permits: a fixed number of them is shared by any number of users, who take one each
and give it back.
-/

namespace SophosFw.Permits

variable {ι : Type*} {P Q : ι → Prop} {free n : ℕ}

/-- Of `n` permits, `free` are left, and those who satisfy `P` hold one each of the others. -/
def Shared (P : ι → Prop) (free n : ℕ) : Prop :=
  ∃ holders : Finset ι, (∀ i, i ∈ holders ↔ P i) ∧ holders.card + free = n

namespace Shared

lemma all_free (h : ∀ i, ¬ P i) : Shared P n n :=
  ⟨∅, fun i => by simp [h i], by simp⟩

lemma congr (h : Shared P free n) (hQ : ∀ i, Q i ↔ P i) : Shared Q free n := by
  obtain ⟨holders, hP, hn⟩ := h
  exact ⟨holders, fun i => (hP i).trans (hQ i).symm, hn⟩

lemma take [DecidableEq ι] (h : Shared P free n) {i : ι} (hi : ¬ P i) (hfree : 0 < free)
    (hQ : ∀ j, Q j ↔ j = i ∨ P j) : Shared Q (free - 1) n := by
  obtain ⟨holders, hP, hn⟩ := h
  have hout : i ∉ holders := fun hmem => hi ((hP i).mp hmem)
  refine ⟨insert i holders, fun j => by simp [hP, hQ], ?_⟩
  rw [Finset.card_insert_of_notMem hout]
  omega

lemma give [DecidableEq ι] (h : Shared P free n) {i : ι} (hi : P i)
    (hQ : ∀ j, Q j ↔ j ≠ i ∧ P j) : Shared Q (free + 1) n := by
  obtain ⟨holders, hP, hn⟩ := h
  have hin : i ∈ holders := (hP i).mpr hi
  refine ⟨holders.erase i, fun j => by simp [hP, hQ], ?_⟩
  have hcard := Finset.card_erase_add_one hin
  omega

lemma free_eq (h : Shared P free n) (hno : ∀ i, ¬ P i) : free = n := by
  obtain ⟨holders, hP, hn⟩ := h
  have hempty : holders = ∅ :=
    Finset.eq_empty_of_forall_notMem fun i hi => hno i ((hP i).mp hi)
  rw [hempty, Finset.card_empty] at hn
  omega

lemma exists_holder (h : Shared P free n) (hlt : free < n) : ∃ i, P i := by
  by_contra hno
  have heq := h.free_eq fun i hi => hno ⟨i, hi⟩
  omega

/-- What only holders have, and each of them once, there are at most `n` of. -/
lemma sum_le (h : Shared P free n) {f : ι → ℕ} (hone : ∀ i, f i ≤ 1)
    (hf : ∀ i, f i ≠ 0 → P i) (users : Finset ι) : ∑ i ∈ users, f i ≤ n := by
  obtain ⟨holders, hP, hn⟩ := h
  have hsub : (users.filter fun i => f i ≠ 0) ⊆ holders := fun i hi =>
    (hP i).mpr (hf i (Finset.mem_filter.mp hi).2)
  calc ∑ i ∈ users, f i = ∑ i ∈ users with f i ≠ 0, f i := (Finset.sum_filter_ne_zero _).symm
    _ ≤ ∑ i ∈ users with f i ≠ 0, 1 := Finset.sum_le_sum fun i _ => hone i
    _ = (users.filter fun i => f i ≠ 0).card := (Finset.card_eq_sum_ones _).symm
    _ ≤ holders.card := Finset.card_le_card hsub
    _ ≤ n := by omega

end Shared

end SophosFw.Permits
