import Mathlib.Data.List.Basic

/-!
Runs of a partial step function, and the induction that carries an invariant along them.
-/

namespace SophosFw.Runs

variable {S E : Type*} {step : S → E → Option S} {s₀ s s' : S}

/-- The states reached from `s₀`, with the events that led there, oldest first. -/
inductive Run (step : S → E → Option S) (s₀ : S) : List E → S → Prop
  | start : Run step s₀ [] s₀
  | snoc {es : List E} {s s' : S} {e : E} :
      Run step s₀ es s → step s e = some s' → Run step s₀ (es ++ [e]) s'

/-- **Induction along runs.** What holds at the start and survives every step, holds in
every state a run reaches. -/
theorem Run.invariant {I : List E → S → Prop} (h₀ : I [] s₀)
    (hstep : ∀ es s e s', Run step s₀ es s → I es s → step s e = some s' → I (es ++ [e]) s')
    {es : List E} (h : Run step s₀ es s) : I es s := by
  induction h with
  | start => exact h₀
  | snoc hr hs ih => exact hstep _ _ _ _ hr ih hs

/-- A condition on an event and the state it finds holds at each event of a run. -/
def AtEach (step : S → E → Option S) (s₀ : S) (P : E → S → Prop) (es : List E) : Prop :=
  ∀ es₁ e es₂ s, es = es₁ ++ e :: es₂ → Run step s₀ es₁ s → P e s

lemma AtEach.of_append {P : E → S → Prop} {es es' : List E}
    (h : AtEach step s₀ P (es ++ es')) : AtEach step s₀ P es := by
  intro before e after s hes hr
  refine h before e (after ++ es') s ?_ hr
  rw [hes, List.append_assoc, List.cons_append]

lemma AtEach.of_snoc {P : E → S → Prop} {es : List E} {e : E}
    (h : AtEach step s₀ P (es ++ [e])) :
    AtEach step s₀ P es ∧ ∀ s, Run step s₀ es s → P e s :=
  ⟨h.of_append, fun s hr => h es e [] s rfl hr⟩

lemma Run.eq_of_nil (h : Run step s₀ [] s) : s = s₀ := by
  generalize hes : ([] : List E) = es at h
  cases h with
  | start => rfl
  | snoc _ _ => simp at hes

lemma AtEach.singleton {P : E → S → Prop} {e : E} (h : P e s₀) : AtEach step s₀ P [e] := by
  rintro before e' after s hes hr
  rcases before with _ | ⟨b, before⟩
  · obtain ⟨rfl, -⟩ := List.cons.inj hes
    rw [hr.eq_of_nil]
    exact h
  · simp at hes

/-- **Induction along runs that meet a condition.** What holds at the start and survives every
step that meets it, holds in every state such a run reaches. -/
theorem Run.invariant_atEach {P : E → S → Prop} {I : S → Prop} (h₀ : I s₀)
    (hstep : ∀ s e s', P e s → I s → step s e = some s' → I s')
    {es : List E} (h : Run step s₀ es s) (hP : AtEach step s₀ P es) : I s := by
  induction h with
  | start => exact h₀
  | snoc hr hs ih =>
    obtain ⟨hbefore, hlast⟩ := hP.of_snoc
    exact hstep _ _ _ (hlast _ hr) (ih hbefore) hs

lemma Run.mono {step' : S → E → Option S} (hle : ∀ s e s', step' s e = some s' →
    step s e = some s') {es : List E} (h : Run step' s₀ es s) : Run step s₀ es s := by
  induction h with
  | start => exact .start
  | snoc _ hs ih => exact ih.snoc (hle _ _ _ hs)

/-- Replaying a list of events from a state. -/
def replay (step : S → E → Option S) (s : S) : List E → Option S
  | [] => some s
  | e :: es => (step s e).bind fun s' => replay step s' es

lemma Run.trans_replay {es es' : List E} (h : Run step s₀ es s)
    (hr : replay step s es' = some s') : Run step s₀ (es ++ es') s' := by
  induction es' generalizing es s with
  | nil =>
    obtain rfl : s = s' := by simpa [replay] using hr
    simpa using h
  | cons e es' ih =>
    obtain ⟨t, ht, hr⟩ := Option.bind_eq_some_iff.mp hr
    simpa using ih (h.snoc ht) hr

lemma run_of_replay {es : List E} (h : replay step s₀ es = some s) : Run step s₀ es s := by
  simpa using Run.start.trans_replay h

lemma replay_append (es es' : List E) : replay step s₀ (es ++ es') =
    (replay step s₀ es).bind fun s => replay step s es' := by
  induction es generalizing s₀ with
  | nil => rfl
  | cons e es ih =>
    rcases hs : step s₀ e with _ | s₁
    · simp [replay, hs]
    · simp [replay, hs, ih]

/-- A run is a replay that goes through. -/
lemma Run.replay_eq {es : List E} (h : Run step s₀ es s) : replay step s₀ es = some s := by
  induction h with
  | start => rfl
  | snoc _ hs ih => simp [replay_append, ih, replay, hs]

lemma AtEach.nil {P : E → S → Prop} : AtEach step s₀ P [] := by
  intro before e after s hes
  simp at hes

lemma AtEach.cons {P : E → S → Prop} {e : E} {es : List E} (hs : step s₀ e = some s)
    (he : P e s₀) (h : AtEach step s P es) : AtEach step s₀ P (e :: es) := by
  rintro (_ | ⟨e', before⟩) e'' after t hes hr
  · obtain ⟨rfl, -⟩ := List.cons.inj hes
    rw [hr.eq_of_nil]
    exact he
  · obtain ⟨rfl, hrest⟩ := List.cons.inj hes
    refine h before e'' after t hrest (run_of_replay ?_)
    have hreplay := hr.replay_eq
    simpa [replay, hs] using hreplay

lemma atEach_cons_iff {P : E → S → Prop} {e : E} {es : List E} :
    AtEach step s₀ P (e :: es) ↔ P e s₀ ∧ ∀ s ∈ step s₀ e, AtEach step s P es := by
  constructor
  · refine fun h => ⟨h [] e es s₀ rfl .start, fun s hs before e' after t hes hr => ?_⟩
    refine h (e :: before) e' after t (congrArg _ hes) (run_of_replay ?_)
    simp [replay, Option.mem_def.mp hs, hr.replay_eq]
  · rintro ⟨he, h⟩
    rcases hs : step s₀ e with _ | s
    · rintro (_ | ⟨e', before⟩) e'' after t hes hr
      · obtain ⟨rfl, -⟩ := List.cons.inj hes
        rw [hr.eq_of_nil]
        exact he
      · obtain ⟨rfl, -⟩ := List.cons.inj hes
        have hreplay := hr.replay_eq
        simp [replay, hs] at hreplay
    · exact .cons hs he (h s hs)

instance AtEach.decidable {P : E → S → Prop} [∀ e s, Decidable (P e s)] :
    ∀ (es : List E) (s₀ : S), Decidable (AtEach step s₀ P es)
  | [], _ => .isTrue .nil
  | _ :: es, _ =>
    have : ∀ s, Decidable (AtEach step s P es) := AtEach.decidable es
    decidable_of_iff _ atEach_cons_iff.symm

end SophosFw.Runs
