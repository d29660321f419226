import SophosFw.Slot

/-!
What a program over a request slot ends with when its requests may be given up, and what that says
of many of them.

The precondition of a program is taken over everything that can happen to it at its steps. As runs
are serial, a relation that every program keeps between the server it finds and the one it leaves
is a chain along the order of the slot.
-/

namespace SophosFw.Slot

open SophosFw.Runs

section Logic

variable {S Req Out α β : Type} (serve : S → Req → S × Out) (Lost : Out → Prop)

/-- Whatever happens to the program, it ends with `Q`. A request that is given up was served or
never will be, and the program goes on with one of the outcomes `Lost`. -/
def wp : Prog Req Out α → (α → S → Prop) → S → Prop
  | .ret a, Q, s => Q a s
  | .acquire k, Q, s => ∀ b, wp (k b) Q s
  | .release k, Q, s => wp k Q s
  | .send r k, Q, s => wp (k (serve s r).2) Q (serve s r).1 ∧
      ∀ o, Lost o → wp (k o) Q (serve s r).1 ∧ wp (k o) Q s

variable {serve Lost}

lemma wp_mono {p : Prog Req Out α} {Q Q' : α → S → Prop} (h : ∀ a t, Q a t → Q' a t) {s : S}
    (hp : wp serve Lost p Q s) : wp serve Lost p Q' s := by
  induction p generalizing s with
  | ret a => exact h a s hp
  | acquire k ih =>
    intro b
    exact ih b (hp b)
  | release k ih => exact ih hp
  | send r k ih =>
    obtain ⟨hanswer, hlost⟩ := hp
    refine ⟨ih _ hanswer, fun o ho => ?_⟩
    obtain ⟨hserved, hunserved⟩ := hlost o ho
    exact ⟨ih o hserved, ih o hunserved⟩

lemma wp_and {p : Prog Req Out α} {Q Q' : α → S → Prop} {s : S} (h : wp serve Lost p Q s)
    (h' : wp serve Lost p Q' s) : wp serve Lost p (fun a t => Q a t ∧ Q' a t) s := by
  induction p generalizing s with
  | ret a => exact ⟨h, h'⟩
  | acquire k ih =>
    intro b
    exact ih b (h b) (h' b)
  | release k ih => exact ih h h'
  | send r k ih =>
    refine ⟨ih _ h.1 h'.1, fun o ho => ?_⟩
    obtain ⟨hserved, hunserved⟩ := h.2 o ho
    obtain ⟨hserved', hunserved'⟩ := h'.2 o ho
    exact ⟨ih o hserved hserved', ih o hunserved hunserved'⟩

lemma wp_congr {p : Prog Req Out α} {Q Q' : α → S → Prop} (h : ∀ a t, Q a t ↔ Q' a t) {s : S} :
    wp serve Lost p Q s ↔ wp serve Lost p Q' s :=
  ⟨wp_mono fun a t => (h a t).mp, wp_mono fun a t => (h a t).mpr⟩

lemma wp_bind {p : Prog Req Out α} {f : α → Prog Req Out β} {Q : β → S → Prop} {s : S} :
    wp serve Lost (p >>= f) Q s ↔ wp serve Lost p (fun a => wp serve Lost (f a) Q) s := by
  induction p generalizing s with
  | ret a => rfl
  | acquire k ih => exact forall_congr' fun b => ih b
  | release k ih => exact ih
  | send r k ih =>
    exact and_congr (ih _) (forall_congr' fun o => imp_congr_right fun _ => and_congr (ih o) (ih o))

/-- A program that only sends what leaves `I` alone. -/
lemma wp_of_asks {P : Req → Prop} {I : S → Prop} {p : Prog Req Out α} (hp : p.Asks P)
    (hserve : ∀ s r, P r → I s → I (serve s r).1) {s : S} (hs : I s) :
    wp serve Lost p (fun _ => I) s := by
  induction hp generalizing s with
  | ret a => exact hs
  | acquire _ ih =>
    intro b
    exact ih b hs
  | release _ ih => exact ih hs
  | send hr _ ih =>
    have hserved := hserve _ _ hr hs
    exact ⟨ih _ hserved, fun o _ => ⟨ih o hserved, ih o hs⟩⟩

lemma wp_follow {p q : Prog Req Out α} {Q : α → S → Prop} {s t : S} {fate : Fate Out}
    (hp : wp serve Lost p Q s) (hlost : ∀ served o, fate = .abandoned served o → Lost o)
    (h : follow serve (s, p) fate = some (t, q)) : wp serve Lost q Q t := by
  cases p with
  | ret a => cases fate <;> cases h
  | acquire k =>
    cases fate with
    | granted =>
      cases h
      exact hp true
    | refused =>
      cases h
      exact hp false
    | _ => cases h
  | release k =>
    cases fate with
    | released =>
      cases h
      exact hp
    | _ => cases h
  | send r k =>
    obtain ⟨hanswer, hgiven⟩ := hp
    cases fate with
    | answered =>
      cases h
      exact hanswer
    | abandoned served o =>
      obtain ⟨hserved, hunserved⟩ := hgiven o (hlost served o rfl)
      cases served with
      | true =>
        cases h
        exact hserved
      | false =>
        cases h
        exact hunserved
    | _ => cases h

/-- **Soundness.** A program that ends on its own ends with what its precondition promises. -/
theorem wp_solo {p : Prog Req Out α} {Q : α → S → Prop} {s t : S} {a : α}
    {fates : List (Fate Out)} (hlost : ∀ served o, .abandoned served o ∈ fates → Lost o)
    (hp : wp serve Lost p Q s) (h : solo serve p fates s = some (t, a)) : Q a t := by
  induction fates generalizing p s with
  | nil =>
    cases p with
    | ret a' =>
      cases h
      exact hp
    | _ => cases h
  | cons fate fates ih =>
    unfold solo at h
    rw [List.foldlM_cons] at h
    rcases hf : follow serve (s, p) fate with _ | ⟨u, q⟩ <;> rw [hf] at h
    · cases h
    · have hq : wp serve Lost q Q u := by
        refine wp_follow hp (fun served o he => hlost served o ?_) hf
        rw [he]
        exact List.mem_cons_self
      exact ih (fun served o ho => hlost served o (List.mem_cons_of_mem _ ho)) hq h

end Logic

/-! ### Many programs, one after another -/

section Chains

variable {S ι : Type}

/-- The relations of some programs, one after another, lead from one server to another. -/
def Chain (R : ι → S → S → Prop) : List ι → S → S → Prop
  | [], s, t => s = t
  | i :: rest, s, t => ∃ u, R i s u ∧ Chain R rest u t

namespace Chain

variable {R R' : ι → S → S → Prop} {l l' : List ι} {s t : S}

lemma append_iff : Chain R (l ++ l') s t ↔ ∃ u, Chain R l s u ∧ Chain R l' u t := by
  induction l generalizing s with
  | nil => simp [Chain]
  | cons i l ih =>
    simp only [List.cons_append, Chain, ih]
    constructor
    · rintro ⟨u, hi, v, hl, hl'⟩
      exact ⟨v, ⟨u, hi, hl⟩, hl'⟩
    · rintro ⟨v, ⟨u, hi, hl⟩, hl'⟩
      exact ⟨u, hi, v, hl, hl'⟩

lemma keeps {P : S → Prop} (h : Chain R l s t) (hR : ∀ i ∈ l, ∀ u v, R i u v → P u → P v)
    (hs : P s) : P t := by
  induction l generalizing s with
  | nil =>
    obtain rfl : s = t := h
    exact hs
  | cons i l ih =>
    obtain ⟨u, hi, hl⟩ := h
    exact ih hl (fun j hj => hR j (List.mem_cons_of_mem _ hj))
      (hR i List.mem_cons_self s u hi hs)

lemma of_last {P Q : S → Prop} {i : ι} (h : Chain R (l ++ i :: l') s t)
    (hl : ∀ j ∈ l, ∀ u v, R j u v → Q u → Q v) (hs : Q s)
    (hi : ∀ u v, R i u v → Q u → P v) (hl' : ∀ j ∈ l', ∀ u v, R j u v → P u → P v) : P t := by
  obtain ⟨u, hsu, v, huv, hvt⟩ := append_iff.mp h
  exact hvt.keeps hl' (hi u v huv (hsu.keeps hl hs))

end Chain

end Chains

section Runs

variable {S Req Out ι : Type} {α : ι → Type} {serve : S → Req → S × Out}
  {progs : ∀ i, Prog Req Out (α i)} {Lost : ι → Out → Prop} {I : S → Prop}
  {R : ∀ i, α i → S → S → Prop}

lemma chain_of_serial {fates : ι → List (Fate Out)} {order : List ι} {s t : S}
    {results : List (Sigma α)} {Ended : ∀ i, α i → Prop}
    (hlost : ∀ i served o, .abandoned served o ∈ fates i → Lost i o)
    (hwp : ∀ i s, I s → wp serve (Lost i) (progs i) (fun a t => I t ∧ R i a s t) s)
    (h : serial serve progs fates order s = some (t, results)) (hs : I s)
    (hended : ∀ x ∈ results, Ended x.1 x.2) :
    I t ∧ Chain (fun i u v => ∃ a, Ended i a ∧ R i a u v) order s t := by
  induction order generalizing s results with
  | nil =>
    obtain ⟨rfl, rfl⟩ : s = t ∧ [] = results := by simpa [serial] using h
    exact ⟨hs, rfl⟩
  | cons i rest ih =>
    simp only [serial, Option.bind_eq_some_iff, Option.map_eq_some_iff] at h
    obtain ⟨x, hx, y, hy, he⟩ := h
    obtain ⟨rfl, rfl⟩ := Prod.mk.inj he
    obtain ⟨hI, hR⟩ := wp_solo (hlost i) (hwp i s hs) hx
    obtain ⟨hI', hchain⟩ := ih hy hI fun z hz => hended z (List.mem_cons_of_mem _ hz)
    exact ⟨hI', x.1, ⟨x.2, hended _ List.mem_cons_self, hR⟩, hchain⟩

variable [DecidableEq ι]

/-- **What every program keeps, a run keeps.** Whenever nobody holds the slot, the server is
where a chain of the programs leads that got the slot, in the order in which they got it. -/
theorem chain_of_run (hd : ∀ i, (progs i).Disciplined) {s₀ : S} {es : List (Label ι Out)}
    {s : Sys S Req Out α} (h : Run (step serve) (Sys.init progs s₀) es s) (hfree : s.free = 1)
    (hlost : ∀ i served o, .abandon i served o ∈ es → Lost i o)
    (hwp : ∀ i t, I t → wp serve (Lost i) (progs i) (fun a u => I u ∧ R i a t u) t) (h₀ : I s₀) :
    I s.server ∧
      Chain (fun i t u => ∃ a, s.prog i = .ret a ∧ R i a t u) (order es) s₀ s.server := by
  have hsettled : Settled serve progs s₀ es s (order es) s.server := by
    rcases (inv_run hd h).slot with hf | ⟨i, hb⟩
    · exact hf.settled
    · have hbusy := hb.free
      omega
  obtain ⟨results, hserial, hresults⟩ := hsettled
  refine chain_of_serial (fun i served o ho => hlost i served o ?_) hwp hserial h₀ hresults
  obtain ⟨l, hl, hfate⟩ := List.mem_filterMap.mp ho
  split at hfate
  · next hop =>
    cases l with
    | abandon j served' o' =>
      obtain rfl : j = i := hop
      obtain ⟨rfl, rfl⟩ : served' = served ∧ o' = o := by simpa [Label.fate] using hfate
      exact hl
    | _ => simp [Label.fate] at hfate
  · cases hfate

end Runs

end SophosFw.Slot
