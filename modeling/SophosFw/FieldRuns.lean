import SophosFw.RecordRuns

/-!
The field of a firewall rule or a web filter policy while its switch and other operations
interleave.

An update sends the record as a whole, yet whatever happens it is only this field that is written,
and it ends with the value of the last switching that went through.
-/

namespace SophosFw.Client

open SophosFw.PyDict SophosFw.PyText SophosFw.ElementTree SophosFw.Records SophosFw.Slot
  SophosFw.Runs
open ClientM

inductive Switched
  | ruleStatus
  | policyAction

namespace Switched

def tag : Switched → String
  | ruleStatus => "FirewallRule"
  | policyAction => "WebFilterPolicy"

def field : Switched → String
  | ruleStatus => "Status"
  | policyAction => "DefaultAction"

def put : Switched → Bool → String
  | ruleStatus, on => if on then "Enable" else "Disable"
  | policyAction, on => if on then "Allow" else "Deny"

/-- The record with this field switched. -/
def switch (k : Switched) (e : Element) (on : Bool) : Element := e.setChildText k.field (k.put on)

end Switched

/-- What a call switches the field of a record to. -/
def Call.sets (k : Switched) (name : String) : Call → Option Bool
  | .setFirewallRuleStatus name' enable =>
    match k with
    | .ruleStatus => if name' = name then some enable else none
    | .policyAction => none
  | .setWebFilterDefaultAction name' allow =>
    match k with
    | .ruleStatus => none
    | .policyAction => if name' = name then some allow else none
  | _ => none

lemma mapFirst_mapFirst {α : Type} {p : α → Bool} {f g : α → α} (hf : ∀ a, p (f a) = p a)
    (l : List α) : mapFirst p g (mapFirst p f l) = mapFirst p (g ∘ f) l := by
  induction l with
  | nil => rfl
  | cons a l ih =>
    by_cases ha : p a
    · simp [mapFirst, ha, hf a]
    · simp [mapFirst, ha, ih]

lemma switch_switch (k : Switched) (e : Element) (on on' : Bool) :
    k.switch (k.switch e on) on' = k.switch e on' := by
  have hkeeps : ∀ c : Element,
      decide ((c.setText (k.put on)).tag = k.field) = decide (c.tag = k.field) := fun _ => rfl
  unfold Switched.switch Element.setChildText
  dsimp only
  rw [mapFirst_mapFirst hkeeps]
  rfl

lemma received_switch (k : Switched) (e : Element) (on : Bool) :
    (k.switch e on).received = k.switch e.received on :=
  Element.received_setChildText (by cases k <;> cases on <;> decide) e

section Calls

variable {S : Type} {c : SophosClient} {k : Switched} {name : String}
  {serve : S → Request → S × HttpOutcome} {record : S → Element}

/-- What a call makes of the record; what is written comes as it is read. -/
structure FieldStep (c : SophosClient) (k : Switched) (name : String)
    (serve : S → Request → S × HttpOutcome) (record : S → Element) (call : Call) (returned : Prop)
    (e e' : Element) : Prop where
  other : call.sets k name = none → e' = e
  change : ∀ on, call.sets k name = some on →
    e' = e ∨ e.find k.field ≠ none ∧ e' = (k.switch e on).received
  found : ∀ on, call.sets k name = some on → returned → e.find k.field ≠ none
  sure : ∀ on, call.sets k name = some on → returned →
    ConfirmsApplied c k.tag name serve record → e' = (k.switch e on).received

variable {Lost : HttpOutcome → Prop}

lemma wp_updateField (hk : StoresRecord c k.tag name serve record)
    (hlost : ∀ o, Lost o → GivenUp o) (hreturn : '\r' ∉ name.toList) (on : Bool) {s : S} :
    (c.updateField k.tag name k.field (k.put on)).wp serve Lost (fun r t =>
      (record t = record s ∨ (record s).find k.field ≠ none ∧
        record t = (k.switch (record s) on).received) ∧
      ((∃ a, r = .ok a) → (record s).find k.field ≠ none ∧
        (ConfirmsApplied c k.tag name serve record →
          record t = (k.switch (record s) on).received))) s := by
  have hcases (e : Element) : (∃ err, changeField k.tag name k.field (k.put on) e = .error err) ∨
      e.find k.field ≠ none ∧
        changeField k.tag name k.field (k.put on) e = .ok (some (k.switch e on), ()) := by
    unfold changeField
    split
    · exact .inl ⟨_, rfl⟩
    · next hf => exact .inr ⟨by simp [hf], rfl⟩
  have hkeep : ∀ e sent kept, e.tag = k.tag → nameOf e = name →
      changeField k.tag name k.field (k.put on) e = .ok (some sent, kept) →
        sent.tag = k.tag ∧ nameOf sent = name := by
    intro e sent kept htag hname h
    obtain ⟨hdiffers, -⟩ := changeField_differs h
    have hne (c : Element) (hc : c.tag = "Name") : decide (c.tag = k.field) = false := by
      rw [hc]
      cases k <;> decide
    exact ⟨hdiffers.tag.trans htag, (hdiffers.nameOf_eq hne).trans hname⟩
  refine ClientM.wp_mono (fun r t h => ?_) (wp_modifyRecord hk hlost hreturn hkeep s)
  constructor
  · rcases h.made with hsame | ⟨sent, kept, hmade, hrec⟩
    · exact .inl hsame
    rcases hcases (record s) with ⟨err, he⟩ | ⟨hf, he⟩ <;> rw [he] at hmade
    · cases hmade
    · obtain ⟨hsent, -⟩ := Prod.mk.inj (Except.ok.inj hmade)
      rw [Option.some.inj hsent]
      exact .inr ⟨hf, hrec⟩
  · rintro ⟨kept, hr⟩
    rcases hcases (record s) with ⟨err, he⟩ | ⟨hf, he⟩ <;>
      rcases h.returned kept hr with ⟨hc, -⟩ | ⟨sent, hc, happlied, -⟩ <;> rw [he] at hc
    · cases hc
    · cases hc
    · cases hc
    · obtain ⟨hsent, -⟩ := Prod.mk.inj (Except.ok.inj hc)
      refine ⟨hf, fun hconfirms => ?_⟩
      rw [happlied hconfirms, Option.some.inj hsent]

lemma not_updates_of_sets {call : Call} {r : Request} (hcall : call.sets k name = none)
    (h : call.InScope c r) : ¬ Writes k.tag name (fun _ => True) r.operation := by
  intro hw
  have hupdated := updated_of_scope h hw (by cases k <;> decide)
  cases k <;> cases call <;> simp [Call.updated, Switched.tag] at hupdated
  all_goals
    subst hupdated
    simp [Call.sets] at hcall

lemma call_of_sets {call : Call} {on : Bool} (h : call.sets k name = some on) :
    k = .ruleStatus ∧ call = .setFirewallRuleStatus name on ∨
      k = .policyAction ∧ call = .setWebFilterDefaultAction name on := by
  cases call with
  | setFirewallRuleStatus name' enable =>
    cases k with
    | ruleStatus =>
      obtain ⟨rfl, hon⟩ := Option.ite_none_right_eq_some.mp h
      obtain rfl := Option.some.inj hon
      exact .inl ⟨rfl, rfl⟩
    | policyAction => cases h
  | setWebFilterDefaultAction name' allow =>
    cases k with
    | ruleStatus => cases h
    | policyAction =>
      obtain ⟨rfl, hon⟩ := Option.ite_none_right_eq_some.mp h
      obtain rfl := Option.some.inj hon
      exact .inr ⟨rfl, rfl⟩
  | _ => cases h

lemma wp_fieldCall (hk : StoresRecord c k.tag name serve record)
    (hlost : ∀ o, Lost o → GivenUp o) {call : Call} (hplain : call.Plain) (s : S) :
    (call.body c).wp serve Lost (fun r t =>
      FieldStep c k name serve record call (∃ a, r = .ok a) (record s) (record t)) s := by
  rcases hcall : call.sets k name with _ | on
  · have hframe : (call.body c).wp serve Lost (fun _ t => record t = record s) s :=
      wp_of_asks (Call.asks_scope c hplain) (fun t r hr ht => by
        rw [hk.other t r (not_updates_of_sets hcall hr), ht]) rfl
    refine ClientM.wp_mono (fun r t h => ⟨fun _ => h, ?_, ?_, ?_⟩) hframe
    all_goals
      intro on hon
      cases hcall.symm.trans hon
  · have hreturn : '\r' ∉ name.toList := by
      refine hplain name ?_
      rcases call_of_sets hcall with ⟨-, rfl⟩ | ⟨-, rfl⟩ <;> exact List.mem_cons_self
    have hset := wp_updateField hk hlost hreturn on (s := s)
    rcases call_of_sets hcall with ⟨rfl, rfl⟩ | ⟨rfl, rfl⟩ <;>
    · refine ClientM.wp_mono (fun r t h => ⟨fun hno => ?_, ?_, ?_, ?_⟩) hset
      · cases hno.symm.trans hcall
      · intro on' hon
        obtain rfl := Option.some.inj (hon.symm.trans hcall)
        exact h.1
      · intro on' hon hr
        exact (h.2 hr).1
      · intro on' hon hr
        obtain rfl := Option.some.inj (hon.symm.trans hcall)
        exact (h.2 hr).2

end Calls

/-! ### All calls -/

section Runs

variable {ι S : Type} {c : SophosClient} {k : Switched} {name : String}
  {serve : S → Request → S × HttpOutcome} {record : S → Element}

/-- The record, or what is read of it as one of these calls switched it. -/
def SwitchedBy (calls : ι → Call) (k : Switched) (name : String) (l : List ι) (e e' : Element) :
    Prop :=
  e' = e ∨ e.find k.field ≠ none ∧
    ∃ i ∈ l, ∃ on, (calls i).sets k name = some on ∧ e' = (k.switch e on).received

lemma received_switch_received (k : Switched) (e : Element) (on on' : Bool) :
    (k.switch (k.switch e on).received on').received = (k.switch e on').received := by
  rw [received_switch k (k.switch e on).received, Element.received_received, ← received_switch,
    switch_switch]

lemma FieldStep.switchedBy {calls : ι → Call} {l : List ι} {i : ι} (hi : i ∈ l)
    {returned : Prop} {e u v : Element}
    (h : FieldStep c k name serve record (calls i) returned u v)
    (hu : SwitchedBy calls k name l e u) : SwitchedBy calls k name l e v := by
  rcases hcall : (calls i).sets k name with _ | on
  · rwa [h.other hcall]
  rcases h.change on hcall with rfl | ⟨hf, rfl⟩
  · exact hu
  rcases hu with rfl | ⟨hfound, _, -, on', -, rfl⟩
  · exact .inr ⟨hf, i, hi, on, hcall, rfl⟩
  · exact .inr ⟨hfound, i, hi, on, hcall, received_switch_received k e on' on⟩

/-- **No switching is lost, and nothing else is written.** Operations of the client interleave in
any way, some are given up, and nobody else changes the record; there is no carriage return in it,
nor in the names that are asked for. Whenever nobody holds the slot, the record is the one it was,
or that one with the field as one of the calls wanted it. If a call has returned, the firewall
applies what it confirms and no later call wanted the opposite, the record is the one it was with
the field as that call wanted it. -/
theorem field_changes_not_lost [DecidableEq ι] (calls : ι → Call) (hplain : ∀ i, (calls i).Plain)
    (hk : StoresRecord c k.tag name serve record) {s₀ : S} (hclean : (record s₀).Clean)
    {es : List (Label ι HttpOutcome)} {s : Sys S Request HttpOutcome fun i => (calls i).Result}
    (h : Run (step serve) (Sys.init (fun i => (calls i).prog c) s₀) es s) (hfree : s.free = 1)
    (hgiven : ∀ i served o, .abandon i served o ∈ es → GivenUp o) :
    (record s.server = record s₀ ∨ ∃ i ∈ order es, ∃ on, (calls i).sets k name = some on ∧
      record s.server = k.switch (record s₀) on) ∧
    (ConfirmsApplied c k.tag name serve record → ∀ before i after on,
      order es = before ++ i :: after → (calls i).sets k name = some on →
      Returned (s.prog i) →
      (∀ j ∈ after, ∀ on', (calls j).sets k name = some on' → on' = on) →
        record s.server = k.switch (record s₀) on) := by
  have hchain := chain_of_calls h hfree hgiven (I := fun _ => True) (R := fun i r t u =>
      FieldStep c k name serve record (calls i) (∃ a, r = .ok a) (record t) (record u))
    (fun i hlost t _ => ClientM.wp_mono (fun r u hu => ⟨trivial, hu⟩)
      (wp_fieldCall hk hlost (hplain i) t)) trivial
  have hread (on : Bool) : (k.switch (record s₀) on).received = k.switch (record s₀) on := by
    rw [received_switch, Element.received_eq_self_iff.mpr hclean]
  constructor
  · have hswitched : SwitchedBy calls k name (order es) (record s₀) (record s.server) := by
      refine hchain.keeps
        (P := fun t => SwitchedBy calls k name (order es) (record s₀) (record t)) ?_ (.inl rfl)
      rintro i hi u v ⟨r, -, hstep⟩ hu
      exact hstep.switchedBy hi hu
    rcases hswitched with hsame | ⟨-, i, hi, on, hon, hrec⟩
    · exact .inl hsame
    · exact .inr ⟨i, hi, on, hon, hrec.trans (hread on)⟩
  · rintro hconfirms before i after on hord hcall ⟨a, ha⟩ hno
    rw [hord] at hchain
    rw [← hread on]
    refine hchain.of_last (P := fun t => record t = (k.switch (record s₀) on).received)
      (Q := fun t => SwitchedBy calls k name before (record s₀) (record t)) ?_ (.inl rfl) ?_ ?_
    · rintro j hj u v ⟨r, -, hstep⟩ hu
      exact hstep.switchedBy hj hu
    · rintro u v ⟨r, hr, hstep⟩ hu
      obtain rfl : Except.ok a = r := Prog.ret.inj (ha.symm.trans hr)
      rw [hstep.sure on hcall ⟨a, rfl⟩ hconfirms]
      rcases hu with hu | ⟨-, _, -, on', -, hu⟩ <;> rw [hu]
      exact received_switch_received k (record s₀) on' on
    · rintro j hj u v ⟨r, -, hstep⟩ hu
      rcases hcall' : (calls j).sets k name with _ | on'
      · rw [hstep.other hcall', hu]
      obtain rfl := hno j hj on' hcall'
      rcases hstep.change on' hcall' with hv | ⟨-, hv⟩ <;> rw [hv, hu]
      exact received_switch_received k (record s₀) on' on'

end Runs

/-- A rule is switched off after a call that wanted it on was cancelled with its write at the
firewall, and a poll comes last. -/
theorem field_changes_not_lost_guest :
    let c : SophosClient := ⟨"fw", 4444, "admin", "secret"⟩
    let rule : Element := .new "FirewallRule" none [.new "Name" (some "Guest") [],
      .new "Status" (some "Disable") [], .new "Position" (some "Top") []]
    let calls : Fin 3 → Call := fun i =>
      if i = 0 then .setFirewallRuleStatus "Guest" true
      else if i = 1 then .setFirewallRuleStatus "Guest" false
      else .getFirewallRules
    let exchange (i : Fin 3) : List (Label (Fin 3) HttpOutcome) := [.send i, .serve i, .answer i]
    let es : List (Label (Fin 3) HttpOutcome) :=
      .acquire 0 :: exchange 0 ++ [.send 0, .serve 0, .abandon 0 true .cancelled, .release 0,
        .acquire 1] ++ exchange 1 ++ exchange 1 ++ [.release 1, .acquire 2] ++ exchange 2 ++
          [.release 2]
    ∃ s : Sys Element Request HttpOutcome fun i => (calls i).Result,
      Run (step (recordFirewall "FirewallRule" "Guest")) (Sys.init (fun i => (calls i).prog c) rule)
        es s ∧ s.server = Switched.switch .ruleStatus rule false := by
  intro c rule calls exchange es
  have hreplay : (replay (step (recordFirewall "FirewallRule" "Guest"))
      (Sys.init (fun i => (calls i).prog c) rule) es).map (fun s =>
        (s.free, decide (Returned (s.prog 1)))) = some (1, true) := by
    decide +kernel
  obtain ⟨s, hs, hend⟩ := Option.map_eq_some_iff.mp hreplay
  obtain ⟨hfree, hreturned⟩ : s.free = 1 ∧ Returned (s.prog 1) := by simpa using hend
  have hrun := run_of_replay hs
  have hgiven : ∀ i served o, Label.abandon i served o ∈ es → GivenUp o := by
    intro i served o ho status body he
    subst he
    simp [es, exchange] at ho
  obtain ⟨-, hlast⟩ := field_changes_not_lost calls (by decide) (k := .ruleStatus)
    (storesRecord_recordFirewall c) (show rule.Clean by decide) hrun hfree hgiven
  refine ⟨s, hrun, hlast (confirmsApplied_recordFirewall c) [0] 1 [2] false rfl rfl hreturned ?_⟩
  intro j hj on' hon
  obtain rfl := List.mem_singleton.mp hj
  cases hon

end SophosFw.Client
