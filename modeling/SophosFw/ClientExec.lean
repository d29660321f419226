import SophosFw.ClientRuns

/-!
One operation of the client on its own, against a firewall that answers each request in some
way: what it ends with, and the requests it sent with their answers.
-/

namespace SophosFw.Client

open SophosFw.PyDict SophosFw.ElementTree SophosFw.Records SophosFw.Slot
open ClientM

section Results

variable {α β : Type} {x : Except PyExc α} {f : α → β}

lemma map_eq_error_iff {e : PyExc} : x.map f = .error e ↔ x = .error e := by
  cases x <;> simp [Except.map]

lemma map_eq_ok_iff {b : β} : x.map f = .ok b ↔ ∃ a, x = .ok a ∧ f a = b := by
  cases x <;> simp [Except.map]

end Results

section Exec

variable {S α β : Type} (serve : S → Request → S × HttpOutcome)

abbrev Ended (S α : Type) := Ran S Request HttpOutcome (Except PyExc α)

namespace ClientM

def exec (x : ClientM α) (s : S) : Ended S α := Slot.exec serve x.run s

lemma exec_pure (a : α) (s : S) : (pure a : ClientM α).exec serve s = ⟨s, .ok a, []⟩ := rfl

lemma exec_raise (e : PyExc) (s : S) :
    (raise e : ClientM α).exec serve s = ⟨s, .error e, []⟩ := rfl

lemma exec_ensure (x : Except PyExc α) (s : S) : (ensure x).exec serve s = ⟨s, x, []⟩ := rfl

lemma exec_withSlot (x : ClientM α) (s : S) : (withSlot x).exec serve s = x.exec serve s := by
  change Slot.exec serve (x.run >>= fun r => .release (.ret r)) s = _
  rw [exec_bind]
  simp [Slot.exec, ClientM.exec]

lemma exec_turn (slotHeld : Bool) (x : ClientM α) (s : S) :
    (turn slotHeld x).exec serve s = x.exec serve s := by
  cases slotHeld
  · exact exec_withSlot serve x s
  · rfl

lemma exec_bind_ok {x : ClientM α} {f : α → ClientM β} {s t : S} {a : α}
    {trace : List (Request × HttpOutcome)} (h : x.exec serve s = ⟨t, .ok a, trace⟩) :
    (x >>= f).exec serve s =
      ⟨((f a).exec serve t).server, ((f a).exec serve t).result,
        trace ++ ((f a).exec serve t).trace⟩ := by
  rw [ClientM.exec, ExceptT.run_bind, exec_bind]
  rw [ClientM.exec] at h
  rw [h]
  rfl

lemma exec_bind_error {x : ClientM α} {f : α → ClientM β} {s t : S} {e : PyExc}
    {trace : List (Request × HttpOutcome)} (h : x.exec serve s = ⟨t, .error e, trace⟩) :
    (x >>= f).exec serve s = ⟨t, .error e, trace⟩ := by
  rw [ClientM.exec, ExceptT.run_bind, exec_bind]
  rw [ClientM.exec] at h
  rw [h]
  simp [Slot.exec]

lemma exec_bind_pure (x : ClientM α) (f : α → β) (s : S) :
    (x >>= fun a => pure (f a)).exec serve s =
      ⟨(x.exec serve s).server, (x.exec serve s).result.map f, (x.exec serve s).trace⟩ := by
  rcases h : x.exec serve s with ⟨t, e | a, trace⟩
  · rw [exec_bind_error serve h]
    rfl
  · rw [exec_bind_ok serve h, exec_pure]
    simp [Except.map]

end ClientM

namespace ClientM

section Catch

variable {x : ClientM α} {handler : PyExc → ClientM α} {s t : S}
  {trace : List (Request × HttpOutcome)}

lemma exec_catch_ok {a : α} (h : x.exec serve s = ⟨t, .ok a, trace⟩) :
    (catchSophosError x handler).exec serve s = ⟨t, .ok a, trace⟩ := by
  rw [ClientM.exec] at h
  change Slot.exec serve (x.run >>= _) s = _
  rw [exec_bind, h]
  simp [Slot.exec]

lemma exec_catch_other {e : PyExc} (h : x.exec serve s = ⟨t, .error e, trace⟩)
    (he : e.isSophosError = false) :
    (catchSophosError x handler).exec serve s = ⟨t, .error e, trace⟩ := by
  rw [ClientM.exec] at h
  change Slot.exec serve (x.run >>= _) s = _
  rw [exec_bind, h]
  simp [Slot.exec, he]

lemma exec_catch_sophos {e : PyExc} (h : x.exec serve s = ⟨t, .error e, trace⟩)
    (he : e.isSophosError = true) :
    (catchSophosError x handler).exec serve s =
      ⟨((handler e).exec serve t).server, ((handler e).exec serve t).result,
        trace ++ ((handler e).exec serve t).trace⟩ := by
  rw [ClientM.exec] at h
  change Slot.exec serve (x.run >>= _) s = _
  rw [exec_bind, h]
  simp [ClientM.exec, he]

end Catch

end ClientM

namespace SophosClient

variable (c : SophosClient)

/-- What `_post` makes of the end of a request. -/
def readAnswer (outcome : HttpOutcome) : Except PyExc Element :=
  (c.readText outcome).bind parseResponse

lemma mem_of_scanRecords {tag name : String} {l : List Element} {error : Option Element}
    {e : Element} (h : scanRecords tag name l error = .ok e) : e ∈ l := by
  induction l generalizing error with
  | nil => cases error <;> cases h
  | cons a l ih =>
    rw [scanRecords] at h
    split at h
    · exact List.mem_cons_of_mem _ (ih h)
    · split at h
      · obtain rfl := Except.ok.inj h
        exact List.mem_cons_self
      · exact List.mem_cons_of_mem _ (ih h)

/-- What `_get_record_element` makes of it. -/
def readRecord (tag name : String) (outcome : HttpOutcome) : Except PyExc Element :=
  (c.readAnswer outcome).bind fun root => scanRecords tag name (root.iter tag) none

/-- What a write makes of it. -/
def readConfirm (what : Message) (paths : List (List String)) (outcome : HttpOutcome) :
    Except PyExc Unit :=
  (c.readAnswer outcome).bind fun root => confirm root what paths

lemma exec_post (operation : Operation) (slotHeld : Bool) (s : S) :
    (c.post operation slotHeld).exec serve s =
      ⟨(serve s (c.request operation)).1, c.readAnswer (serve s (c.request operation)).2,
        [(c.request operation, (serve s (c.request operation)).2)]⟩ := by
  have hx := exec_turn serve slotHeld (c.exchange operation) s
  rw [show (c.exchange operation).exec serve s =
    ⟨(serve s (c.request operation)).1, c.readText (serve s (c.request operation)).2,
      [(c.request operation, (serve s (c.request operation)).2)]⟩ from rfl] at hx
  rw [post, readAnswer]
  rcases hr : c.readText (serve s (c.request operation)).2 with e | text <;> rw [hr] at hx
  · rw [exec_bind_error serve hx]
    rfl
  · rw [exec_bind_ok serve hx]
    rfl

lemma exec_post_bind (operation : Operation) (slotHeld : Bool) (f : Element → ClientM α) (s : S) :
    (c.post operation slotHeld >>= f).exec serve s =
      let x := serve s (c.request operation)
      match c.readAnswer x.2 with
      | .error e => ⟨x.1, .error e, [(c.request operation, x.2)]⟩
      | .ok root =>
        let y := (f root).exec serve x.1
        ⟨y.server, y.result, (c.request operation, x.2) :: y.trace⟩ := by
  have h := c.exec_post serve operation slotHeld s
  dsimp only
  split
  · next e he =>
    rw [he] at h
    exact exec_bind_error serve h
  · next root he =>
    rw [he] at h
    exact exec_bind_ok serve h

/-- The records of a response, as `_get_records` returns them. -/
def recordsOf (tag : String) (root : Element) : List Record :=
  (((root.iter tag).filter fun e => !isStatusOnly e).map elemToDict).filter
    fun record => !record.isEmpty

lemma exec_getRecords (tag : String) (s : S) :
    (c.getRecords tag).exec serve s =
      ⟨(serve s (c.request (.get tag))).1,
        (c.readAnswer (serve s (c.request (.get tag))).2).map (recordsOf tag),
        [(c.request (.get tag), (serve s (c.request (.get tag))).2)]⟩ := by
  rw [getRecords, exec_post_bind]
  dsimp only
  rcases c.readAnswer (serve s (c.request (.get tag))).2 with e | root <;> rfl

lemma exec_getRecordElement (tag name : String) (s : S) :
    (c.getRecordElement tag name).exec serve s =
      ⟨(serve s (c.request (.get tag))).1, c.readRecord tag name (serve s (c.request (.get tag))).2,
        [(c.request (.get tag), (serve s (c.request (.get tag))).2)]⟩ := by
  rw [getRecordElement, exec_post_bind, readRecord]
  dsimp only
  rcases c.readAnswer (serve s (c.request (.get tag))).2 with e | root <;> rfl

/-- What `_ip_hosts_held` makes of it. -/
def readIpHosts (ip : String) (outcome : HttpOutcome) : Except PyExc (List String) :=
  (c.readAnswer outcome).map fun root => (root.iter "IPHost").filterMap (ipHostName ip)

lemma exec_ipHostsHeld (ip : String) (s : S) :
    (c.ipHostsHeld ip).exec serve s =
      ⟨(serve s (c.request (.get "IPHost"))).1,
        c.readIpHosts ip (serve s (c.request (.get "IPHost"))).2,
        [(c.request (.get "IPHost"), (serve s (c.request (.get "IPHost"))).2)]⟩ := by
  rw [ipHostsHeld, exec_post_bind, readIpHosts]
  dsimp only
  rcases c.readAnswer (serve s (c.request (.get "IPHost"))).2 with e | root <;> rfl

/-- What `_add_ip_host_held` makes of the confirmation. -/
def addedHost (name : String) : Except PyExc Unit → Except PyExc String
  | .ok () => .ok name
  | .error (.writeError message code) =>
    if code = some "502" then
      .error (.writeError [.text "An IP host named ", .repr name,
        .text " already exists with another address"] (some "502"))
    else .error (.writeError message code)
  | .error e => .error e

lemma addIpHostHeld_eq (ip name : String) :
    c.addIpHostHeld ip name = c.post (.set "add" (newIpHost ip name).received) true >>= fun root =>
      ensure (addedHost name (confirm root [.text "Add IP host ", .repr name]
        [["IPHost", "Status"]])) := by
  rw [addIpHostHeld]
  congr
  funext root
  rcases confirm root [.text "Add IP host ", .repr name] [["IPHost", "Status"]] with e | ⟨⟩
  · cases e with
    | writeError message code =>
      by_cases h : code = some "502"
      · simp only [addedHost, if_pos h]
        rfl
      · simp only [addedHost, if_neg h]
        rfl
    | _ => rfl
  · rfl

/-- The verdict of the read-back of a confirmed write. -/
def verdict {σ : Type} (tag name : String) (verify : Element → Bool) (kept : σ) :
    Except PyExc Element → Except PyExc σ
  | .error e => if e.isSophosError then .ok kept else .error e
  | .ok after =>
    if verify after then .ok kept
    else .error (.writeError [.text (tag ++ " "), .repr name,
      .text (": the firewall confirmed the change, " ++
        "but reading it back shows it was not applied")] (some "not_applied"))

/-- The part of `_modify_record_held` after the change. -/
def writeBack {σ : Type} (tag name : String) (verify : Option (Element → Bool))
    (changed : Element) (kept : σ) (s : S) : Ended S σ :=
  let set := c.request (.set "update" changed.received)
  let y := serve s set
  match c.readConfirm [.text ("Set " ++ tag ++ " "), .repr name] [[tag, "Status"]] y.2 with
  | .error e => ⟨y.1, .error e, [(set, y.2)]⟩
  | .ok _ =>
    match verify with
    | none => ⟨y.1, .ok kept, [(set, y.2)]⟩
    | some verify =>
      let get := c.request (.get tag)
      let z := serve y.1 get
      ⟨z.1, verdict tag name verify kept (c.readRecord tag name z.2), [(set, y.2), (get, z.2)]⟩

lemma mem_trace_writeBack {σ : Type} (tag name : String) (verify : Option (Element → Bool))
    (changed : Element) (kept : σ) (s : S) :
    ∃ o, (c.request (.set "update" changed.received), o) ∈
      (c.writeBack serve tag name verify changed kept s).trace := by
  refine ⟨(serve s (c.request (.set "update" changed.received))).2, ?_⟩
  unfold writeBack
  dsimp only
  split
  · exact List.mem_cons_self
  · split
    · exact List.mem_cons_self
    · exact List.mem_cons_self

lemma exec_readBack {σ : Type} (tag name : String) (verify : Element → Bool) (kept : σ) (s : S) :
    (c.readBack tag name verify kept).exec serve s =
    ⟨(serve s (c.request (.get tag))).1,
      verdict tag name verify kept (c.readRecord tag name (serve s (c.request (.get tag))).2),
      [(c.request (.get tag), (serve s (c.request (.get tag))).2)]⟩ := by
  rw [readBack]
  have hget := c.exec_getRecordElement serve tag name s
  rcases hr : c.readRecord tag name (serve s (c.request (.get tag))).2 with e | after
  · rw [hr] at hget
    have hmap := exec_bind_error serve hget
      (f := fun a => (pure (some a) : ClientM (Option Element)))
    rcases he : e.isSophosError with _ | _
    · rw [exec_bind_error serve (exec_catch_other serve hmap he)]
      simp [verdict, he]
    · rw [exec_bind_ok serve (exec_catch_sophos serve hmap he)]
      simp [verdict, he, exec_pure]
  · rw [hr] at hget
    have hmap := exec_bind_ok serve hget (f := fun a => (pure (some a) : ClientM (Option Element)))
    rw [exec_bind_ok serve (exec_catch_ok serve hmap)]
    rcases hv : verify after with _ | _
    · simp [verdict, hv, exec_raise, exec_pure]
    · simp [verdict, hv, exec_pure]

/-- `_modify_record_held` as a whole. -/
lemma exec_modifyRecordHeld {σ : Type} (tag name : String)
    (change : Element → Except PyExc (Option Element × σ)) (verify : Option (Element → Bool))
    (s : S) :
    (c.modifyRecordHeld tag name change verify).exec serve s =
      let get := c.request (.get tag)
      let x := serve s get
      match (c.readRecord tag name x.2).bind change with
      | .error e => ⟨x.1, .error e, [(get, x.2)]⟩
      | .ok (none, kept) => ⟨x.1, .ok kept, [(get, x.2)]⟩
      | .ok (some changed, kept) =>
        let y := c.writeBack serve tag name verify changed kept x.1
        ⟨y.server, y.result, (get, x.2) :: y.trace⟩ := by
  have hget := c.exec_getRecordElement serve tag name s
  dsimp only
  rcases hr : c.readRecord tag name (serve s (c.request (.get tag))).2 with e | elem
  · rw [hr] at hget
    exact exec_bind_error serve hget
  rw [hr] at hget
  rw [modifyRecordHeld, exec_bind_ok serve hget]
  rcases hc : change elem with e | ⟨_ | changed, kept⟩
  · rw [exec_bind_error serve (exec_ensure serve _ _)]
    simp [Except.bind, hc]
  · rw [exec_bind_ok serve (exec_ensure serve _ _)]
    simp [Except.bind, hc, exec_pure]
  · rw [exec_bind_ok serve (exec_ensure serve _ _)]
    simp only [Except.bind, hc, exec_post_bind, writeBack, readConfirm]
    rcases c.readAnswer (serve _ (c.request (.set "update" changed.received))).2 with e | root
    · simp
    · dsimp only
      rcases hconf : confirm root _ _ with e | ⟨⟩
      · rw [exec_bind_error serve (exec_ensure serve _ _)]
        simp
      · rw [exec_bind_ok serve (exec_ensure serve _ _)]
        rcases verify with _ | verify
        · simp [exec_pure]
        · simp only [exec_readBack]
          simp

end SophosClient

end Exec

end SophosFw.Client
