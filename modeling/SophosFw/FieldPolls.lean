import SophosFw.FieldRuns
import SophosFw.ReadWrite

/-!
What polls show of a field that is being switched.

A poll waits for the slot like everything else, so it never sees a record between the reading and
the write of a switching: it shows the value of the last one before it that went through.
-/

namespace SophosFw.Client

open SophosFw.PyDict SophosFw.PyText SophosFw.ElementTree SophosFw.Records SophosFw.Slot
  SophosFw.Runs
open ClientM

namespace Setting

variable {T : Type} {w : Setting T} {e : Element} {b : Bool}

lemma value_of_readOne_sent (hw : w.Lawful) (hleaf : HasLeaf w.field (w.sent e b))
    (hf : e.find w.field ≠ none) {x : T} (hx : w.readOne (w.sent e b) = some x) :
    w.value x = some b := by
  have hparse : w.parse (elemToDict (w.sent e b)) = some x := by
    unfold readOne at hx
    split at hx
    · cases hx
    · exact hx
  have hlookup : (elemToDict (w.sent e b)).lookup w.field = some (.str (w.put b)) := by
    obtain ⟨c, hc⟩ := Option.ne_none_iff_exists'.mp hf
    rw [lookup_elemToDict_of_hasLeaf hleaf, sent, Element.find_setChildText, hc]
    rfl
  have hchange := hw.parse_change _ (elemToDict (w.sent e b)) b x (fun t => ?_) hparse
  · rw [Option.some.inj (hparse.symm.trans hchange)]
    exact hw.value_change x b
  · split
    · next ht => rw [ht, hlookup]
    · rfl

lemma value_of_readOne {x : T} (hw : w.Lawful) (hleaf : HasLeaf w.field e)
    (hx : w.readOne e = some x) : w.reading e = w.value x ∧
      ∀ e' on, e = w.sent e' on → e'.find w.field ≠ none → w.value x = some on := by
  constructor
  · rw [reading, hx]
    rfl
  · rintro e' on rfl hf
    exact value_of_readOne_sent hw hleaf hf hx

end Setting

namespace Switched

/-- The value that is read from a record. -/
def reading : Switched → Element → Option Bool
  | ruleStatus => Client.ruleStatus.reading
  | policyAction => Client.policyAction.reading

/-- Records with at most one name and one value each, both leaves, and no record inside. -/
def WellFormed : Switched → List Element → Prop
  | ruleStatus => Client.ruleStatus.WellFormed
  | policyAction => Client.policyAction.WellFormed

end Switched

/-- The value that the answer of a poll has under a name. -/
def Call.shows (k : Switched) (name : String) : (call : Call) → call.Value → Option (Option Bool)
  | .getFirewallRules, rules =>
    match k with
    | .ruleStatus => (rules.get name).map FirewallRule.enabled
    | .policyAction => none
  | .getWebFilterPolicies, policies =>
    match k with
    | .ruleStatus => none
    | .policyAction => (policies.get name).map WebFilterPolicy.allows
  | _, _ => none

section Calls

variable {S : Type} {c : SophosClient} {k : Switched} {name : String}
  {serve : S → Request → S × HttpOutcome} {record : S → Element} {Lost : HttpOutcome → Prop}

lemma run_getRecords (tag : String) :
    (c.getRecords tag).run = .acquire fun granted =>
      if granted then .send (c.request (.get tag)) fun o =>
        .release (.ret ((c.readAnswer o).map (SophosClient.recordsOf tag)))
      else .ret (.error .cancelledError) := by
  refine congrArg Prog.acquire (funext fun granted => ?_)
  rcases granted with _ | _
  · rfl
  refine congrArg (Prog.send _) (funext fun o => congrArg Prog.release ?_)
  have hrecords (r : Except PyExc Element) : (ensure r >>= fun root =>
      (pure (SophosClient.recordsOf tag root) : ClientM (List Record))).run =
        .ret (r.map (SophosClient.recordsOf tag)) := by
    rcases r with e | root <;> rfl
  rw [SophosClient.readAnswer]
  rcases c.readText o with e | text
  · rfl
  · exact hrecords (SophosClient.parseResponse text)

lemma wp_getRecords {tag : String} {Q : Except PyExc (List Record) → S → Prop} {s : S}
    (hcancelled : Q (.error .cancelledError) s)
    (hexchange : ∀ o t, (o = (serve s (c.request (.get tag))).2 ∨ Lost o) →
      Q ((c.readAnswer o).map (SophosClient.recordsOf tag)) t) :
    (c.getRecords tag).wp serve Lost Q s := by
  unfold ClientM.wp
  rw [run_getRecords]
  rintro (_ | _)
  · exact hcancelled
  · exact ⟨hexchange _ _ (.inl rfl), fun o ho => ⟨hexchange _ _ (.inr ho), hexchange _ _ (.inr ho)⟩⟩

lemma wp_poll {T : Type} {w : Setting T} (hw : w.Lawful)
    (hk : StoresRecord c w.tag name serve record) (hlost : ∀ o, Lost o → GivenUp o)
    (hanswers : ∀ s root, c.readAnswer (serve s (c.request (.get w.tag))).2 = .ok root →
      w.WellFormed (root.iter w.tag)) (s : S) :
    (c.getRecords w.tag >>= fun records =>
      (pure (byName w.name (records.map w.parse)) : ClientM (Dict String T))).wp serve Lost
      (fun r _ => ∀ d x, r = .ok d → d.get name = some x →
        HasLeaf w.field (record s) ∧ w.readOne (record s) = some x) s := by
  rw [ClientM.wp_bind]
  refine wp_getRecords (fun d x hr => by cases hr) fun o t ho => ?_
  rcases hr : c.readAnswer o with e | root
  · exact fun d x hd => by cases hd
  rcases ho with rfl | ho
  swap
  · obtain ⟨e, he⟩ := c.readAnswer_givenUp (hlost o ho)
    cases he.symm.trans hr
  rintro d x hd hx
  obtain rfl := Except.ok.inj hd
  have hwell := hanswers s root hr
  rw [SophosClient.recordsOf, Setting.byName_records hw] at hx
  obtain ⟨hne, e, hfind, hread⟩ := Setting.exists_of_get_byName hw hwell hx
  have hrecord : e = record s := by
    refine hk.get s e ?_
    rw [SophosClient.readRecord, hr]
    exact Setting.scanRecords_of_find hne hfind none
  subst hrecord
  exact ⟨hwell.field _ (List.mem_of_find?_eq_some hfind), hread⟩

/-- What an answer shows of the record. -/
def Tells (k : Switched) (name : String) (call : Call) (r : call.Result) (e : Element) : Prop :=
  ∀ a v, r = .ok a → call.shows k name a = some v →
    k.reading e = v ∧ ∀ e' on, e = k.switch e' on → e'.find k.field ≠ none → v = some on

lemma wp_tells (hk : StoresRecord c k.tag name serve record) (hlost : ∀ o, Lost o → GivenUp o)
    (hanswers : ∀ s root, c.readAnswer (serve s (c.request (.get k.tag))).2 = .ok root →
      k.WellFormed (root.iter k.tag)) {call : Call} (hplain : call.Plain) (s : S) :
    (call.body c).wp serve Lost (fun r _ => Tells k name call r (record s)) s := by
  have hother : (∀ a, call.shows k name a = none) →
      (call.body c).wp serve Lost (fun r _ => Tells k name call r (record s)) s := by
    intro hnone
    have htrue : (call.body c).wp serve Lost (fun _ _ => True) s :=
      wp_of_asks (Call.asks_scope c hplain) (fun _ _ _ _ => trivial) trivial
    refine ClientM.wp_mono (fun r t _ a v _ hv => ?_) htrue
    cases (hnone a).symm.trans hv
  cases call with
  | getFirewallRules =>
    cases k with
    | ruleStatus =>
      refine ClientM.wp_mono (fun r t h a v ha hv => ?_)
        (wp_poll ruleStatus_lawful hk hlost hanswers s)
      obtain ⟨x, hx, rfl⟩ := Option.map_eq_some_iff.mp hv
      obtain ⟨hleaf, hread⟩ := h a x ha hx
      exact Setting.value_of_readOne ruleStatus_lawful hleaf hread
    | policyAction => exact hother fun _ => rfl
  | getWebFilterPolicies =>
    cases k with
    | ruleStatus => exact hother fun _ => rfl
    | policyAction =>
      refine ClientM.wp_mono (fun r t h a v ha hv => ?_)
        (wp_poll policyAction_lawful hk hlost hanswers s)
      obtain ⟨x, hx, rfl⟩ := Option.map_eq_some_iff.mp hv
      obtain ⟨hleaf, hread⟩ := h a x ha hx
      exact Setting.value_of_readOne policyAction_lawful hleaf hread
  | _ => exact hother fun _ => rfl

end Calls

/-! ### All calls -/

section Runs

lemma find_received_ne_none {e : Element} {tag : String} (h : e.find tag ≠ none) :
    e.received.find tag ≠ none := by
  rw [Element.find_received]
  simpa using h

variable {ι S : Type} {c : SophosClient} {k : Switched} {name : String}
  {serve : S → Request → S × HttpOutcome} {record : S → Element}

end Runs

/-- A rule with at most one name and one status. -/
def PlainRule (e : Element) : Prop := HasLeaf "Name" e ∧ HasLeaf "Status" e

instance : DecidablePred PlainRule := fun e => inferInstanceAs (Decidable
  (((e.findall "Name").length ≤ 1 ∧ ∀ c ∈ e.findall "Name", c.children = []) ∧
    (e.findall "Status").length ≤ 1 ∧ ∀ c ∈ e.findall "Status", c.children = []))

lemma wellFormed_guarded (c : SophosClient) (s : { e // PlainRule e }) (root : Element)
    (h : c.readAnswer (guarded PlainRule (recordFirewall "FirewallRule" "Guest") s
      (c.request (.get "FirewallRule"))).2 = .ok root) :
    Switched.WellFormed .ruleStatus (root.iter "FirewallRule") := by
  obtain ⟨e, hname, hstatus⟩ := s
  unfold guarded at h
  split at h
  swap
  · cases h
  unfold recordFirewall at h
  dsimp only [SophosClient.request] at h
  split at h
  swap
  · cases h
  next hflat =>
    obtain ⟨htag, hnested, -⟩ := hflat
    obtain ⟨_, ⟨⟩, -⟩ := c.readAnswer_ok_iff.mp h
    have hiter : (Element.new "Response" none [e]).iter "FirewallRule" = [e] := by
      simp [Element.iter_eq, Element.new, htag, hnested]
    rw [hiter]
    constructor
    case nested =>
      intro a ha
      obtain rfl := List.mem_singleton.mp ha
      exact List.flatMap_eq_nil_iff.mp hnested
    all_goals simpa

end SophosFw.Client
