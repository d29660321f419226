import Mathlib.Data.List.Basic

/-!
Skipping a write that would only repeat the last one.

A writer remembers what it wrote last and does nothing when it would write the same again. If
writing a thing twice is writing it once, nobody can tell such a writer from one that always
writes, also when it forgets from time to time.
-/

namespace SophosFw.Memo

variable {S I A : Type*}

/-- What is written to, and the last thing written, while it is remembered. -/
structure Memory (S A : Type*) where
  state : S
  last : Option A

/-- An occasion to write, or to forget. -/
inductive Event (I : Type*)
  | input (i : I)
  | forget

section Writer

variable (plan : I → S → A) (write : A → S → S)

/-- The writer that skips. -/
def step [DecidableEq A] (m : Memory S A) : Event I → Memory S A
  | .input i =>
    if m.last = some (plan i m.state) then m
    else ⟨write (plan i m.state) m.state, some (plan i m.state)⟩
  | .forget => { m with last := none }

/-- The writer that always writes. -/
def plainStep (s : S) : Event I → S
  | .input i => write (plan i s) s
  | .forget => s

/-- What is remembered is written. -/
def Written (m : Memory S A) : Prop := ∀ a, m.last = some a → write a m.state = m.state

variable {plan write} [DecidableEq A] {m : Memory S A}

lemma Written.step (h : Written write m) (hidem : ∀ a s, write a (write a s) = write a s)
    (e : Event I) : Written write (step plan write m e) := by
  intro a ha
  cases e with
  | input i =>
    unfold Memo.step at ha ⊢
    dsimp only at ha ⊢
    split at ha
    · next hsame =>
      rw [if_pos hsame]
      exact h a ha
    · next hother =>
      rw [if_neg hother]
      obtain rfl := Option.some.inj ha
      exact hidem _ _
  | forget => cases ha

lemma Written.step_state (h : Written write m) (e : Event I) :
    (Memo.step plan write m e).state = plainStep plan write m.state e := by
  cases e with
  | input i =>
    unfold Memo.step plainStep
    dsimp only
    split
    · next hsame => exact (h _ hsame).symm
    · rfl
  | forget => rfl

/-- **Skipping is invisible.** -/
theorem foldl_step_state (hidem : ∀ a s, write a (write a s) = write a s) (h : Written write m)
    (es : List (Event I)) :
    (es.foldl (step plan write) m).state = es.foldl (plainStep plan write) m.state := by
  induction es generalizing m with
  | nil => rfl
  | cons e es ih =>
    rw [List.foldl_cons, List.foldl_cons, ih (h.step hidem e), h.step_state]

end Writer

end SophosFw.Memo
