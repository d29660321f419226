import SophosFw.Scope
import SophosFw.SlotLogic

/-!
Reading, changing and writing records back while other operations do the same.

The firewall replaces a record as a whole, so a change that is computed from an old reading would
undo what was written in between. The slot is held from the reading to the write: in every
interleaving a record goes through the changes of the operations on it one after another, each
made of what the one before left.
-/

namespace SophosFw.Client

open SophosFw.PyDict SophosFw.PyText SophosFw.ElementTree SophosFw.Records SophosFw.Slot
  SophosFw.Runs
open ClientM

/-- No answer came. -/
def GivenUp (outcome : HttpOutcome) : Prop := ∀ status body, outcome ≠ .answer status body

/-- It has ended without raising. -/
def Returned {α : Type} (p : Prog Request HttpOutcome (Except PyExc α)) : Prop :=
  ∃ a, p = .ret (.ok a)

instance {α : Type} : (p : Prog Request HttpOutcome (Except PyExc α)) → Decidable (Returned p)
  | .ret (.ok a) => .isTrue ⟨a, rfl⟩
  | .ret (.error _) | .acquire _ | .release _ | .send _ _ => .isFalse nofun

/-- It returned, and a value of this kind. -/
def ReturnedWith {α : Type} (P : α → Prop) (p : Prog Request HttpOutcome (Except PyExc α)) : Prop :=
  ∃ a, p = .ret (.ok a) ∧ P a

instance {α : Type} (P : α → Prop) [DecidablePred P] :
    (p : Prog Request HttpOutcome (Except PyExc α)) → Decidable (ReturnedWith P p)
  | .ret (.ok a) => decidable_of_iff (P a)
      ⟨fun h => ⟨a, rfl, h⟩, fun ⟨_, ha, h⟩ => Except.ok.inj (Prog.ret.inj ha) ▸ h⟩
  | .ret (.error _) | .acquire _ | .release _ | .send _ _ => .isFalse nofun

section Logic

variable {S α β σ : Type} (serve : S → Request → S × HttpOutcome) (Lost : HttpOutcome → Prop)

namespace ClientM

def wp (x : ClientM α) (Q : Except PyExc α → S → Prop) (s : S) : Prop :=
  Slot.wp serve Lost x.run Q s

/-- What an operation still has to do, if it goes on. -/
def onOk (Q : Except PyExc β → S → Prop) (rest : α → S → Prop) : Except PyExc α → S → Prop
  | .error e => Q (.error e)
  | .ok a => rest a

variable {serve Lost}

lemma wp_mono {x : ClientM α} {Q Q' : Except PyExc α → S → Prop} (h : ∀ r t, Q r t → Q' r t)
    {s : S} (hx : x.wp serve Lost Q s) : x.wp serve Lost Q' s := Slot.wp_mono h hx

lemma wp_bind {x : ClientM α} {f : α → ClientM β} {Q : Except PyExc β → S → Prop} {s : S} :
    (x >>= f).wp serve Lost Q s ↔
      x.wp serve Lost (onOk Q fun a => (f a).wp serve Lost Q) s := by
  unfold wp
  rw [ExceptT.run_bind, Slot.wp_bind]
  refine Slot.wp_congr fun r t => ?_
  rcases r with e | a <;> rfl

lemma wp_withSlot {x : ClientM α} {Q : Except PyExc α → S → Prop} {s : S}
    (hx : x.wp serve Lost Q s) (hcancelled : Q (.error .cancelledError) s) :
    (withSlot x).wp serve Lost Q s := by
  rintro (_ | _)
  · exact hcancelled
  · exact Slot.wp_bind.mpr hx

lemma wp_ensure {r : Except PyExc α} {Q : Except PyExc α → S → Prop} {s : S} :
    (ensure r).wp serve Lost Q s ↔ Q r s := Iff.rfl

lemma wp_catch {x : ClientM α} {handler : PyExc → ClientM α} {Q : Except PyExc α → S → Prop}
    {s : S} (hx : x.wp serve Lost (fun r t =>
      match r with
      | .error e => if e.isSophosError then (handler e).wp serve Lost Q t else Q (.error e) t
      | .ok a => Q (.ok a) t) s) :
    (catchSophosError x handler).wp serve Lost Q s := by
  refine Slot.wp_bind.mpr (Slot.wp_mono (fun r t h => ?_) hx)
  rcases r with e | a
  · dsimp only at h ⊢
    split <;> rename_i he
    · rwa [if_pos he] at h
    · rwa [if_neg he] at h
  · exact h

end ClientM

namespace SophosClient

variable (c : SophosClient) {serve Lost}

lemma readAnswer_givenUp {outcome : HttpOutcome} (h : GivenUp outcome) :
    ∃ e, c.readAnswer outcome = .error e := by
  rcases outcome with ⟨status, body⟩ | _ | error | _
  · exact absurd rfl (h status body)
  all_goals exact ⟨_, rfl⟩

lemma wp_post {operation : Operation} {Q : Except PyExc Element → S → Prop} {s : S} :
    (c.post operation true).wp serve Lost Q s ↔
      let x := serve s (c.request operation)
      Q (c.readAnswer x.2) x.1 ∧
        ∀ o, Lost o → Q (c.readAnswer o) x.1 ∧ Q (c.readAnswer o) s := by
  have hsame : ∀ o, onOk Q (fun text => (ensure (parseResponse text)).wp serve Lost Q)
      (c.readText o) = Q (c.readAnswer o) := by
    intro o
    rw [readAnswer]
    rcases c.readText o with e | text <;> rfl
  have hexchange : ∀ Q : Except PyExc (Except String Element) → S → Prop,
      (c.exchange operation).wp serve Lost Q s ↔
        let x := serve s (c.request operation)
        Q (c.readText x.2) x.1 ∧
          ∀ o, Lost o → Q (c.readText o) x.1 ∧ Q (c.readText o) s := fun _ => Iff.rfl
  unfold post
  rw [ClientM.wp_bind, turn, hexchange]
  simp only [hsame]

lemma wp_getRecordElement {tag name : String} {Q : Except PyExc Element → S → Prop} {s : S} :
    (c.getRecordElement tag name).wp serve Lost Q s ↔
      let x := serve s (c.request (.get tag))
      Q (c.readRecord tag name x.2) x.1 ∧
        ∀ o, Lost o → Q (c.readRecord tag name o) x.1 ∧ Q (c.readRecord tag name o) s := by
  have hsame : ∀ o, onOk Q (fun root =>
      (ensure (scanRecords tag name (root.iter tag) none)).wp serve Lost Q) (c.readAnswer o) =
        Q (c.readRecord tag name o) := by
    intro o
    rw [readRecord]
    rcases c.readAnswer o with e | root <;> rfl
  unfold getRecordElement
  rw [ClientM.wp_bind, wp_post]
  simp only [hsame]

end SophosClient

end Logic

/-- The tag and the name of the record that a call reads, changes and writes back. -/
def Call.updated : Call → Option (String × String)
  | .setFirewallRuleStatus name _ => some ("FirewallRule", name)
  | .setWebFilterDefaultAction name _ => some ("WebFilterPolicy", name)
  | .setUrlInGroup group _ _ => some ("WebFilterURLGroup", group)
  | .blockIpInGroup group _ _ | .unblockIpInGroup group _ => some ("IPHostGroup", group)
  | _ => none

lemma updated_of_scope {c : SophosClient} {call : Call} {r : Request} {tag name : String}
    (h : call.InScope c r) (hw : Writes tag name (fun _ => True) r.operation)
    (htag : tag ∉ ["WirelessNetworkStatus", "VPNIPSecConnection"]) :
    call.updated = some (tag, name) := by
  obtain ⟨e, he, rfl, rfl, -⟩ := hw
  obtain ⟨-, hscope⟩ := h
  rw [he] at hscope
  have hwrites : ∀ {tag name : String} {P : Element → Prop},
      Writes tag name P (.set "update" e) → some (tag, name) = some (e.tag, nameOf e) := by
    rintro tag name P ⟨_, ⟨⟩, rfl, rfl, -⟩
    rfl
  cases call with
  | setFirewallRuleStatus | setWebFilterDefaultAction | setUrlInGroup =>
    rcases hscope with h | h
    · cases h
    · exact hwrites h
  | blockIpInGroup group ip name =>
    rcases hscope with h | h | h | h
    · cases h
    · cases h
    · exact absurd (Operation.set.inj h).1 (by decide)
    · exact hwrites h
  | unblockIpInGroup group ip =>
    rcases hscope with h | h | h
    · cases h
    · cases h
    · exact hwrites h
  | setWirelessNetworkStatus | setIpsecConnectionActive =>
    cases hscope
    simp [Element.new] at htag
  | _ => cases hscope

lemma chain_of_calls {ι S : Type} [DecidableEq ι] {c : SophosClient} {calls : ι → Call}
    {serve : S → Request → S × HttpOutcome} {s₀ : S} {es : List (Label ι HttpOutcome)}
    {s : Sys S Request HttpOutcome fun i => (calls i).Result}
    (h : Run (step serve) (Sys.init (fun i => (calls i).prog c) s₀) es s) (hfree : s.free = 1)
    (hgiven : ∀ i served o, .abandon i served o ∈ es → GivenUp o) {I : S → Prop}
    {R : ∀ i, (calls i).Result → S → S → Prop}
    (hwp : ∀ i, (∀ o, (∃ served, Label.abandon i served o ∈ es) → GivenUp o) → ∀ t, I t →
      ((calls i).body c).wp serve (fun o => ∃ served, Label.abandon i served o ∈ es)
        (fun r u => I u ∧ R i r t u) t) (h₀ : I s₀) :
    Chain (fun i t u => ∃ r, s.prog i = .ret r ∧ R i r t u) (order es) s₀ s.server := by
  have hlost : ∀ i o, (∃ served, Label.abandon i served o ∈ es) → GivenUp o := by
    rintro i o ⟨served, ho⟩
    exact hgiven i served o ho
  exact (chain_of_run (fun i => (calls i).disciplined c) h hfree
    (fun i served o ho => ⟨served, ho⟩) (fun i t ht => hwp i (hlost i) t ht) h₀).2

/-! ### A record that only updates change -/

section Records

variable {S σ : Type} (c : SophosClient) (tag name : String)
  (serve : S → Request → S × HttpOutcome) (record : S → Element)

/-- A read that is answered is answered with the record as it is; an update of the record is
applied as a whole or not at all; nothing else changes the record. -/
structure StoresRecord : Prop where
  get : ∀ s e, c.readRecord tag name (serve s (c.request (.get tag))).2 = .ok e → e = record s
  update : ∀ s sent, sent.tag = tag → nameOf sent = name →
    record (serve s (c.request (.set "update" sent))).1 = sent ∨
      record (serve s (c.request (.set "update" sent))).1 = record s
  other : ∀ s r, ¬ Writes tag name (fun _ => True) r.operation → record (serve s r).1 = record s

/-- An update that is confirmed is applied. -/
def ConfirmsApplied : Prop :=
  ∀ s sent, sent.tag = tag → nameOf sent = name →
    Accepted [[tag, "Status"]] (serve s (c.request (.set "update" sent))).2 →
      record (serve s (c.request (.set "update" sent))).1 = sent

def AnswersReads : Prop :=
  ∀ s, ∃ e, c.readRecord tag name (serve s (c.request (.get tag))).2 = .ok e

/-- The write of a call that returns is in place: the firewall applies what it confirms, or the
call got an answer to every read. -/
def Sure (Lost : HttpOutcome → Prop) : Prop :=
  ConfirmsApplied c tag name serve record ∨ AnswersReads c tag name serve ∧ ∀ o, ¬ Lost o

/-- What became of the record `e`, and what a change of it returned; what is written comes as it is
read. -/
structure Edited (Lost : HttpOutcome → Prop) (change : Element → Except PyExc (Option Element × σ))
    (verify : Option (Element → Bool)) (e : Element) (r : Except PyExc σ) (e' : Element) :
    Prop where
  made : e' = e ∨ ∃ sent kept, change e = .ok (some sent, kept) ∧ e' = sent.received
  returned : ∀ kept, r = .ok kept → (change e = .ok (none, kept) ∧ e' = e) ∨
    ∃ sent, change e = .ok (some sent, kept) ∧
      (ConfirmsApplied c tag name serve record → e' = sent.received) ∧
      ∀ v, verify = some v → AnswersReads c tag name serve → (∀ o, ¬ Lost o) → v e' = true

variable {c tag name serve record} {Lost : HttpOutcome → Prop}

lemma Edited.of_raised {change : Element → Except PyExc (Option Element × σ)}
    {verify : Option (Element → Bool)} {e e' : Element} {err : PyExc}
    (h : e' = e ∨ ∃ sent kept, change e = .ok (some sent, kept) ∧ e' = sent.received) :
    Edited c tag name serve record Lost change verify e (.error err) e' where
  made := h
  returned kept h := by cases h

/-- Where nothing is lost on the way, what was made is in place. -/
lemma Edited.made_of_clean {change : Element → Except PyExc (Option Element × σ)}
    {verify : Option (Element → Bool)} {e e' : Element} {r : Except PyExc σ}
    (h : Edited c tag name serve record Lost change verify e r e')
    (hclean : ∀ sent kept, change e = .ok (some sent, kept) → sent.Clean) :
    e' = e ∨ ∃ kept, change e = .ok (some e', kept) := by
  rcases h.made with hsame | ⟨sent, kept, hc, rfl⟩
  · exact .inl hsame
  · rw [Element.received_eq_self_iff.mpr (hclean sent kept hc)]
    exact .inr ⟨kept, hc⟩

lemma tag_and_name_of_readRecord {outcome : HttpOutcome} {e : Element}
    (h : c.readRecord tag name outcome = .ok e) : e.tag = tag ∧ nameOf e = name := by
  unfold SophosClient.readRecord at h
  rcases hr : c.readAnswer outcome with err | root
  · rw [hr] at h
    cases h
  · rw [hr] at h
    have hfind := SophosClient.scanRecords_ok_iff.mp h
    have hmem := (List.mem_filter.mp (List.mem_of_find?_eq_some hfind)).1
    exact ⟨tag_of_mem_iter hmem, by simpa using List.find?_some hfind⟩

lemma wp_read (hk : StoresRecord c tag name serve record) (hlost : ∀ o, Lost o → GivenUp o)
    {Q : Except PyExc Element → S → Prop} {s : S}
    (h : ∀ r t, record t = record s →
      (∀ e, r = .ok e → e = record s ∧ e.tag = tag ∧ nameOf e = name) →
      (AnswersReads c tag name serve → (∀ o, ¬ Lost o) → ∃ e, r = .ok e) → Q r t) :
    (c.getRecordElement tag name).wp serve Lost Q s := by
  have hsame : record (serve s (c.request (.get tag))).1 = record s := by
    refine hk.other s _ ?_
    rintro ⟨e, he, -⟩
    cases he
  rw [SophosClient.wp_getRecordElement]
  refine ⟨h _ _ hsame (fun e he => ⟨hk.get s e he, tag_and_name_of_readRecord he⟩)
    fun hanswers _ => hanswers s, fun o ho => ?_⟩
  obtain ⟨err, herr⟩ := c.readAnswer_givenUp (hlost o ho)
  have hread : c.readRecord tag name o = .error err := by
    rw [SophosClient.readRecord, herr]
    rfl
  rw [hread]
  constructor
  · exact h _ _ hsame (fun e he => by cases he) fun _ hnone => absurd ho (hnone o)
  · exact h _ _ rfl (fun e he => by cases he) fun _ hnone => absurd ho (hnone o)

lemma wp_update (hk : StoresRecord c tag name serve record) (hlost : ∀ o, Lost o → GivenUp o)
    (hreturn : '\r' ∉ name.toList) {sent : Element} (htag : sent.tag = tag)
    (hname : nameOf sent = name) {Q : Except PyExc Element → S → Prop} {s : S}
    (h : ∀ r t, record t = sent.received ∨ record t = record s →
      (∀ root, r = .ok root → Confirmed [[tag, "Status"]] root →
        ConfirmsApplied c tag name serve record → record t = sent.received) → Q r t) :
    (c.post (.set "update" sent.received) true).wp serve Lost Q s := by
  rw [← Element.received_tag] at htag
  have hname : nameOf sent.received = name := by
    rw [nameOf_received, hname, Xml.lineEnds_eq_iff.mpr hreturn]
  have hupdate := hk.update s sent.received htag hname
  rw [SophosClient.wp_post]
  refine ⟨h _ _ hupdate fun root hr hconf happlied => ?_, fun o ho => ?_⟩
  · obtain ⟨status, hanswer, hok⟩ := (c.readAnswer_ok_iff).mp hr
    exact happlied s sent.received htag hname
      ⟨status, root, hanswer, hok.1, hok.2.1, hok.2.2, hconf⟩
  · obtain ⟨err, herr⟩ := c.readAnswer_givenUp (hlost o ho)
    rw [herr]
    constructor
    · exact h _ _ hupdate fun root hr => by cases hr
    · exact h _ _ (.inr rfl) fun root hr => by cases hr

lemma wp_readBack (hk : StoresRecord c tag name serve record) (hlost : ∀ o, Lost o → GivenUp o)
    {verify : Element → Bool} {kept : σ} {Q : Except PyExc σ → S → Prop} {s : S}
    (h : ∀ r t, record t = record s →
      (∀ k, r = .ok k → k = kept ∧
        (AnswersReads c tag name serve → (∀ o, ¬ Lost o) → verify (record s) = true)) → Q r t) :
    (c.readBack tag name verify kept).wp serve Lost Q s := by
  unfold SophosClient.readBack
  rw [ClientM.wp_bind]
  refine ClientM.wp_catch (ClientM.wp_bind.mpr (wp_read hk hlost fun r t hsame hget hans => ?_))
  rcases r with e | after
  · have hlate : ¬ (AnswersReads c tag name serve ∧ ∀ o, ¬ Lost o) := by
      rintro ⟨hanswers, hnone⟩
      obtain ⟨_, h⟩ := hans hanswers hnone
      cases h
    dsimp only [ClientM.onOk]
    split
    · refine h _ t hsame fun k hk => ?_
      obtain rfl := Except.ok.inj hk
      exact ⟨rfl, fun h₁ h₂ => absurd ⟨h₁, h₂⟩ hlate⟩
    · exact h _ t hsame fun k hk => by cases hk
  · obtain ⟨rfl, -⟩ := hget after rfl
    change ClientM.wp _ _ (if verify (record s) = true then _ else _) Q t
    split
    · next hv =>
      refine h _ t hsame fun k hk => ?_
      obtain rfl := Except.ok.inj hk
      exact ⟨rfl, fun _ _ => hv⟩
    · exact h _ t hsame fun k hk => by cases hk

lemma wp_modifyRecordHeld (hk : StoresRecord c tag name serve record)
    (hlost : ∀ o, Lost o → GivenUp o) (hreturn : '\r' ∉ name.toList)
    {change : Element → Except PyExc (Option Element × σ)} {verify : Option (Element → Bool)}
    (hkeep : ∀ e sent kept, e.tag = tag → nameOf e = name → change e = .ok (some sent, kept) →
      sent.tag = tag ∧ nameOf sent = name) (s : S) :
    (c.modifyRecordHeld tag name change verify).wp serve Lost
      (fun r t => Edited c tag name serve record Lost change verify (record s) r (record t)) s := by
  unfold SophosClient.modifyRecordHeld
  rw [ClientM.wp_bind]
  refine wp_read hk hlost fun r t hsame hget _ => ?_
  rcases r with err | e
  · exact .of_raised (.inl hsame)
  obtain ⟨rfl, htag, hname⟩ := hget e rfl
  change ClientM.wp serve Lost (ensure (change (record s)) >>= _) _ t
  rw [ClientM.wp_bind, ClientM.wp_ensure]
  rcases hc : change (record s) with err | ⟨_ | sent, kept⟩
  · exact .of_raised (.inl hsame)
  · refine ⟨.inl hsame, fun k hk => ?_⟩
    obtain rfl := Except.ok.inj hk
    exact .inl ⟨hc, hsame⟩
  -- the record is the one that was read when its replacement arrives
  obtain ⟨htag', hname'⟩ := hkeep _ _ _ htag hname hc
  change ClientM.wp serve Lost (c.post (.set "update" sent.received) true >>= _) _ t
  rw [ClientM.wp_bind]
  refine wp_update hk hlost hreturn htag' hname' fun r u happlied hconf => ?_
  have hmade : record u = record s ∨
      ∃ sent kept, change (record s) = .ok (some sent, kept) ∧ record u = sent.received := by
    rcases happlied with h | h
    · exact .inr ⟨sent, kept, hc, h⟩
    · exact .inl (h.trans hsame)
  rcases r with err | root
  · exact .of_raised hmade
  change ClientM.wp serve Lost (ensure (confirm root _ _) >>= _) _ u
  rw [ClientM.wp_bind, ClientM.wp_ensure]
  rcases hok : confirm root _ [[tag, "Status"]] with err | ⟨⟩
  · exact .of_raised hmade
  have happly := hconf root rfl ((confirm_ok_iff root _ _).mp ⟨_, hok⟩)
  rcases verify with _ | verify
  · refine ⟨hmade, fun k hk => ?_⟩
    obtain rfl := Except.ok.inj hk
    exact .inr ⟨sent, hc, happly, fun v hv => by cases hv⟩
  · refine wp_readBack hk hlost fun r v hrec hverdict => ?_
    refine ⟨hrec.symm ▸ hmade, fun k hk => ?_⟩
    obtain ⟨rfl, hverify⟩ := hverdict k hk
    refine .inr ⟨sent, hc, fun h => hrec.trans (happly h), ?_⟩
    rintro _ ⟨⟩ hanswers hnone
    rw [hrec]
    exact hverify hanswers hnone

lemma wp_modifyRecord (hk : StoresRecord c tag name serve record)
    (hlost : ∀ o, Lost o → GivenUp o) (hreturn : '\r' ∉ name.toList)
    {change : Element → Except PyExc (Option Element × σ)} {verify : Option (Element → Bool)}
    (hkeep : ∀ e sent kept, e.tag = tag → nameOf e = name → change e = .ok (some sent, kept) →
      sent.tag = tag ∧ nameOf sent = name) (s : S) :
    (c.modifyRecord tag name change verify).wp serve Lost
      (fun r t => Edited c tag name serve record Lost change verify (record s) r (record t)) s :=
  ClientM.wp_withSlot (wp_modifyRecordHeld hk hlost hreturn hkeep s) (.of_raised (.inl rfl))

end Records

def recordConfirmation (tag : String) : Element :=
  .new "Response" none
    [.new tag none [⟨"Status", .single "code" "200", some "Configuration applied", none, []⟩]]

/-- It applies the updates of the record, and answers a read with it if there is no other in it. -/
def recordFirewall (tag name : String) (e : Element) (r : Request) : Element × HttpOutcome :=
  match r.operation with
  | .set operation sent =>
    if operation = "update" ∧ sent.tag = tag ∧ nameOf sent = name then
      (sent, .answer 200 (.document (recordConfirmation tag)))
    else (e, .timeout)
  | _ =>
    if e.tag = tag ∧ e.children.flatMap (Element.iter tag) = [] ∧ tag ≠ "Response" then
      (e, .answer 200 (.document (.new "Response" none [e])))
    else (e, .timeout)

section OneRecord

variable (c : SophosClient) {tag name : String}

lemma storesRecord_recordFirewall :
    StoresRecord c tag name (recordFirewall tag name) id where
  get e e' h := by
    unfold recordFirewall at h
    dsimp only [SophosClient.request] at h
    split at h
    · next hflat =>
      obtain ⟨htag, hnested, hresponse⟩ := hflat
      have hiter : (Element.new "Response" none [e]).iter tag = [e] := by
        simp [Element.iter_eq, Element.new, htag, hnested, Ne.symm hresponse]
      rcases hr : c.readAnswer (.answer 200 (.document (.new "Response" none [e]))) with err | root
      · rw [SophosClient.readRecord, hr] at h
        cases h
      · obtain ⟨_, ⟨⟩, -⟩ := c.readAnswer_ok_iff.mp hr
        rw [SophosClient.readRecord, hr] at h
        change SophosClient.scanRecords _ _ ((Element.new "Response" none [e]).iter _) none = _ at h
        rw [hiter] at h
        exact List.mem_singleton.mp (SophosClient.mem_of_scanRecords h)
    · cases h
  update e sent htag hname := by
    unfold recordFirewall
    dsimp only [SophosClient.request]
    rw [if_pos ⟨rfl, htag, hname⟩]
    exact .inl rfl
  other e r h := by
    unfold recordFirewall
    split
    · next operation sent hop =>
      split
      · next hupdate =>
        obtain ⟨rfl, htag, hname⟩ := hupdate
        exact absurd ⟨sent, hop, htag, hname, trivial⟩ h
      · rfl
    · split <;> rfl

lemma confirmsApplied_recordFirewall :
    ConfirmsApplied c tag name (recordFirewall tag name) id := by
  intro e sent htag hname _
  unfold recordFirewall
  dsimp only [SophosClient.request]
  rw [if_pos ⟨rfl, htag, hname⟩]
  rfl

end OneRecord

section Guarded

variable {S : Type} (P : S → Prop) [DecidablePred P] (serve : S → Request → S × HttpOutcome)

/-- What leads out of `P` is not done. -/
def guarded (s : { s : S // P s }) (r : Request) : { s : S // P s } × HttpOutcome :=
  if h : P (serve s r).1 then (⟨(serve s r).1, h⟩, (serve s r).2) else (s, .timeout)

variable {P serve} {c : SophosClient} {tag name : String} {record : S → Element}

lemma storesRecord_guarded (hk : StoresRecord c tag name serve record) :
    StoresRecord c tag name (guarded P serve) fun s => record s where
  get s e h := by
    unfold guarded at h
    split at h
    · exact hk.get s e h
    · cases h
  update s sent htag hname := by
    unfold guarded
    split
    · exact hk.update s sent htag hname
    · exact .inr rfl
  other s r h := by
    unfold guarded
    split
    · exact hk.other s r h
    · rfl

lemma confirmsApplied_guarded (hk : ConfirmsApplied c tag name serve record) :
    ConfirmsApplied c tag name (guarded P serve) fun s => record s := by
  intro s sent htag hname haccepted
  unfold guarded at haccepted ⊢
  split
  · next h =>
    rw [dif_pos h] at haccepted
    exact hk s sent htag hname haccepted
  · next h =>
    rw [dif_neg h] at haccepted
    obtain ⟨_, _, hanswer, -⟩ := haccepted
    cases hanswer

end Guarded

end SophosFw.Client
