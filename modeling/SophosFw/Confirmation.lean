import SophosFw.ClientExec

/-!
When a write counts as done, and what an operation can fail with.

What the code makes of an answer is compared with what an accepted answer is. The operations
are put together from posts, and two facts go along with every part: which errors it can end
with, and that it goes on after a write only if the answer is an accepted one.
-/

namespace SophosFw.Client

open SophosFw.PyDict SophosFw.PyText SophosFw.ElementTree SophosFw.Records SophosFw.Slot
open ClientM

/-- The login of a response did not fail. -/
def LoginOk (root : Element) : Prop :=
  ∀ login, root.findPath ["Login", "status"] = some login →
    contains "fail" (lower (textOf login)) = false ∧
      contains "invalid" (lower (textOf login)) = false

/-- The response as a whole is no error. -/
def StatusOk (root : Element) : Prop :=
  ∀ status, root.find "Status" = some status →
    (status.attr "code").getD "" ∈ ["200", "201", "202", ""]

/-- A three-digit code starting with 2; a digit is one in the sense of `isdigit`. -/
def SuccessCode (code : String) : Prop :=
  ∃ a b, code.toList = ['2', a, b] ∧ isDigitChar a = true ∧ isDigitChar b = true

lemma isSuccess_iff (code : String) : isSuccess code = true ↔ SuccessCode code := by
  have hlist : ∀ l : List Char, (l.length = 3 ∧ l.all isDigitChar = true ∧ l.head? = some '2') ↔
      ∃ a b, l = ['2', a, b] ∧ isDigitChar a = true ∧ isDigitChar b = true := by
    intro l
    constructor
    · rintro ⟨hlen, hall, hhead⟩
      match l, hlen with
      | [x, a, b], _ =>
        obtain rfl : x = '2' := Option.some.inj hhead
        simp only [List.all_cons, List.all_nil, Bool.and_true, Bool.and_eq_true] at hall
        exact ⟨a, b, rfl, hall.2⟩
    · rintro ⟨a, b, rfl, ha, hb⟩
      have htwo : isDigitChar '2' = true := by decide
      exact ⟨rfl, by simp [htwo, ha, hb], rfl⟩
  have hne : code.toList.length = 3 → code ≠ "" := by
    rintro hlen rfl
    cases hlen
  unfold SuccessCode
  rw [← hlist]
  simp only [isSuccess, isDigit, Bool.and_eq_true, decide_eq_true_eq, ne_eq, and_assoc]
  exact ⟨fun ⟨hlen, _, hall, hhead⟩ => ⟨hlen, hall, hhead⟩,
    fun ⟨hlen, hall, hhead⟩ => ⟨hlen, hne hlen, hall, hhead⟩⟩

instance (code : String) : Decidable (SuccessCode code) :=
  decidable_of_iff _ (isSuccess_iff code)

/-- The first status along the paths has a code of success. -/
def Confirmed (paths : List (List String)) (root : Element) : Prop :=
  ∃ status, paths.findSome? root.findPath = some status ∧
    SuccessCode ((status.attr "code").getD "")

/-- The status of an answer with a body. -/
def HttpOk (status : ℕ) : Prop := status = 200 ∨ status = 201

/-- An answer that accepts a write. -/
def Accepted (paths : List (List String)) (outcome : HttpOutcome) : Prop :=
  ∃ status root, outcome = .answer status (.document root) ∧ HttpOk status ∧ LoginOk root ∧
    StatusOk root ∧ Confirmed paths root

/-- An answer with a body that is not text in its charset. -/
def Undecodable (outcome : HttpOutcome) : Prop :=
  ∃ status, outcome = .answer status .undecodable ∧ HttpOk status

lemma checkStatus_ok_iff {root r : Element} :
    checkStatus root = .ok r ↔ r = root ∧ StatusOk root := by
  rcases hs : root.find "Status" with _ | status
  · have hok : StatusOk root := by
      intro status h
      rw [hs] at h
      cases h
    have hc : checkStatus root = .ok root := by simp only [checkStatus, hs]
    rw [hc, and_iff_left hok, Except.ok.injEq, eq_comm]
  · have hok : StatusOk root ↔ (status.attr "code").getD "" ∈ ["200", "201", "202", ""] := by
      simp [StatusOk, hs]
    rw [hok]
    simp only [checkStatus, hs]
    generalize (status.attr "code").getD "" = code
    by_cases h : code = "200" ∨ code = "201" ∨ code = "202" ∨ code = ""
    · have hne : ¬ (code = "532" ∨ code = "534") ∧ ¬ code = "535" := by
        rcases h with rfl | rfl | rfl | rfl <;> decide
      simp [h, hne, eq_comm]
    · have hmem : code ∉ ["200", "201", "202", ""] := by simpa using h
      split
      · simp [hmem]
      · split <;> simp [hmem]

lemma checkStatus_error {root : Element} {e : PyExc} (h : checkStatus root = .error e) :
    e.isSophosError = true := by
  unfold checkStatus at h
  split at h
  · cases h
  · dsimp only at h
    split at h
    · cases h
      rfl
    · split at h
      · cases h
        rfl
      · split at h
        · cases h
        · cases h
          rfl

lemma checkLogin_ok_iff {root r : Element} :
    checkLogin root = .ok r ↔ r = root ∧ LoginOk root ∧ StatusOk root := by
  rcases hl : root.findPath ["Login", "status"] with _ | login
  · have hok : LoginOk root := by
      intro login h
      rw [hl] at h
      cases h
    have hc : checkLogin root = checkStatus root := by simp only [checkLogin, hl]
    rw [hc, checkStatus_ok_iff, and_iff_right hok]
  · have hok : LoginOk root ↔ ¬ (contains "fail" (lower (textOf login)) = true ∨
        contains "invalid" (lower (textOf login)) = true) := by
      simp [LoginOk, hl]
    rw [hok]
    simp only [checkLogin, hl]
    split
    · next h => simp [h]
    · next h => rw [checkStatus_ok_iff, and_iff_right h]

lemma checkLogin_error {root : Element} {e : PyExc} (h : checkLogin root = .error e) :
    e.isSophosError = true := by
  unfold checkLogin at h
  split at h
  · exact checkStatus_error h
  · split at h
    · cases h
      rfl
    · exact checkStatus_error h

lemma scanRecords_error {tag name : String} {l : List Element} {error : Option Element}
    {e : PyExc} (h : SophosClient.scanRecords tag name l error = .error e) :
    e.isSophosError = true := by
  induction l generalizing error with
  | nil => cases error <;> cases h <;> rfl
  | cons a l ih =>
    rw [SophosClient.scanRecords] at h
    split at h
    · exact ih h
    · split at h
      · cases h
      · exact ih h

lemma confirm_ok_iff (root : Element) (what : Message) (paths : List (List String)) :
    (∃ a, confirm root what paths = .ok a) ↔ Confirmed paths root := by
  rcases h : paths.findSome? root.findPath with _ | status
  · simp [confirm, Confirmed, h]
  · have hcode := isSuccess_iff ((status.attr "code").getD "")
    rcases hs : isSuccess ((status.attr "code").getD "") with _ | _ <;>
      simp [confirm, Confirmed, h, hs, ← hcode]

lemma confirm_error {root : Element} {what : Message} {paths : List (List String)} {e : PyExc}
    (h : confirm root what paths = .error e) : e.isSophosError = true := by
  unfold confirm at h
  split at h
  · cases h
    rfl
  · dsimp only at h
    split at h
    · cases h
    · cases h
      rfl

namespace SophosClient

variable (c : SophosClient)

lemma readText_of_httpOk {status : ℕ} (h : HttpOk status) (body : Body) :
    c.readText (.answer status body) =
      match body with
      | .undecodable => .error .unicodeDecodeError
      | .malformed error => .ok (.error error)
      | .document root => .ok (.ok root) := by
  unfold HttpOk at h
  have h403 : status ≠ 403 := by omega
  have hok : ¬ (status ≠ 200 ∧ status ≠ 201) := by omega
  have h : c.readText (.answer status body) = _ := (if_neg h403).trans (if_neg hok)
  refine h.trans ?_
  cases body <;> rfl

lemma readText_of_not_httpOk {status : ℕ} (h : ¬ HttpOk status) (body : Body) :
    ∃ e, c.readText (.answer status body) = .error e ∧ e.isSophosError = true := by
  unfold HttpOk at h
  by_cases h403 : status = 403
  · exact ⟨_, if_pos h403, rfl⟩
  · have hok : status ≠ 200 ∧ status ≠ 201 := by omega
    exact ⟨_, (if_neg h403).trans (if_pos hok), rfl⟩

lemma readAnswer_ok_iff {outcome : HttpOutcome} {root : Element} :
    c.readAnswer outcome = .ok root ↔
      ∃ status, outcome = .answer status (.document root) ∧ HttpOk status ∧ LoginOk root ∧
        StatusOk root := by
  rcases outcome with ⟨status, body⟩ | _ | _ | _
  · by_cases h : HttpOk status
    · rw [readAnswer, c.readText_of_httpOk h]
      rcases body with _ | error | doc
      · simp [Except.bind]
      · simp [Except.bind, parseResponse]
      · simp only [Except.bind, parseResponse, checkLogin_ok_iff]
        constructor
        · rintro ⟨rfl, hl, hs⟩
          exact ⟨status, rfl, h, hl, hs⟩
        · rintro ⟨_, ⟨⟩, _, hl, hs⟩
          exact ⟨rfl, hl, hs⟩
    · obtain ⟨e, he, -⟩ := c.readText_of_not_httpOk h body
      rw [readAnswer, he]
      simp only [Except.bind, reduceCtorEq, false_iff]
      rintro ⟨_, ⟨⟩, hok, -⟩
      exact h hok
  all_goals simp [readAnswer, readText, Except.bind]

lemma readAnswer_undecodable {outcome : HttpOutcome} (h : Undecodable outcome) :
    c.readAnswer outcome = .error .unicodeDecodeError := by
  obtain ⟨status, rfl, hs⟩ := h
  rw [readAnswer, c.readText_of_httpOk hs]
  rfl

lemma readAnswer_error {outcome : HttpOutcome} {e : PyExc} (h : c.readAnswer outcome = .error e)
    (hu : ¬ Undecodable outcome) (hc : outcome ≠ .cancelled) : e.isSophosError = true := by
  rcases outcome with ⟨status, body⟩ | _ | _ | _
  · by_cases hs : HttpOk status
    · rw [readAnswer, c.readText_of_httpOk hs] at h
      rcases body with _ | error | root
      · exact absurd ⟨status, rfl, hs⟩ hu
      · cases h
        rfl
      · exact checkLogin_error h
    · obtain ⟨e', he', hse⟩ := c.readText_of_not_httpOk hs body
      rw [readAnswer, he'] at h
      cases h
      exact hse
  · cases h
    rfl
  · cases h
    rfl
  · exact absurd rfl hc

lemma readRecord_error {tag name : String} {outcome : HttpOutcome} {e : PyExc}
    (h : c.readRecord tag name outcome = .error e) (hu : ¬ Undecodable outcome)
    (hc : outcome ≠ .cancelled) : e.isSophosError = true := by
  rw [readRecord] at h
  rcases hr : c.readAnswer outcome with e' | root
  · rw [hr] at h
    cases h
    exact c.readAnswer_error hr hu hc
  · rw [hr] at h
    exact scanRecords_error h

lemma addedHost_ok_iff {name : String} {x : Except PyExc Unit} :
    (∃ a, addedHost name x = .ok a) ↔ ∃ a, x = .ok a := by
  rcases x with e | ⟨⟩
  · have h : ∀ a, addedHost name (.error e) ≠ .ok a := by
      intro a
      cases e with
      | writeError message code =>
        by_cases hc : code = some "502" <;> simp [addedHost, hc]
      | _ => simp [addedHost]
    simp [h]
  · simp [addedHost]

lemma addedHost_error {name : String} {x : Except PyExc Unit}
    (hx : ∀ e, x = .error e → e.isSophosError = true) {e : PyExc}
    (h : addedHost name x = .error e) : e.isSophosError = true := by
  rcases x with e' | ⟨⟩
  · have he := hx e' rfl
    cases e' with
    | writeError message code =>
      by_cases hc : code = some "502"
      · rw [addedHost, if_pos hc] at h
        cases h
        rfl
      · rw [addedHost, if_neg hc] at h
        cases h
        rfl
    | _ =>
      cases h
      exact he
  · cases h

end SophosClient

section Rules

variable {S α β : Type} (serve : S → Request → S × HttpOutcome)
  (paths : Request → List (List String))

/-- How an operation, or a part of one, ended after these requests:

* it can only fail with an error of the client, unless an answer cannot be decoded or it is
  cancelled;
* an answer that cannot be decoded ends it with that error;
* after a write it goes on, or returns, exactly when the answer accepts the write. -/
structure Ended.Sound (y : Ended S α) : Prop where
  sophos : (∀ x ∈ y.trace, ¬ Undecodable x.2 ∧ x.2 ≠ .cancelled) →
    ∀ e, y.result = .error e → e.isSophosError = true
  undecodable : ∀ x ∈ y.trace, Undecodable x.2 → y.result = .error .unicodeDecodeError
  accepted : ∀ pre r o post, y.trace = pre ++ (r, o) :: post → r.isSet = true →
    ((post ≠ [] ∨ ∃ a, y.result = .ok a) ↔ Accepted (paths r) o)

variable {serve paths}

lemma Ended.sound_single {t : S} {res : Except PyExc α} {r : Request} {o : HttpOutcome}
    (he : ¬ Undecodable o → o ≠ .cancelled → ∀ e, res = .error e → e.isSophosError = true)
    (hu : Undecodable o → res = .error .unicodeDecodeError)
    (ha : r.isSet = true → ((∃ a, res = .ok a) ↔ Accepted (paths r) o)) :
    Ended.Sound paths (⟨t, res, [(r, o)]⟩ : Ended S α) := by
  refine ⟨fun hd e h => ?_, fun y hy h => ?_, fun pre r' o' post htr hset => ?_⟩
  · obtain ⟨hnu, hnc⟩ := hd _ (List.mem_singleton_self _)
    exact he hnu hnc e h
  · obtain rfl := List.mem_singleton.mp hy
    exact hu h
  · rcases List.singleton_eq_append_iff.mp htr with ⟨-, h⟩ | ⟨-, h⟩
    · obtain ⟨⟨rfl, rfl⟩, rfl⟩ : (r' = r ∧ o' = o) ∧ post = [] := by
        simpa [eq_comm] using h
      simpa using ha hset
    · cases h

variable (serve paths)

namespace ClientM

def Sound (x : ClientM α) : Prop := ∀ s, Ended.Sound paths (x.exec serve s)

/-- It sends no write. -/
def Reads (x : ClientM α) : Prop := ∀ s, ∀ r ∈ (x.exec serve s).trace, r.1.isSet = false

/-- It sends a request, or it returns. -/
def GoesOn (x : ClientM α) : Prop :=
  ∀ s, (x.exec serve s).trace ≠ [] ∨ ∃ a, (x.exec serve s).result = .ok a

variable {serve paths}

lemma sound_of_silent {x : ClientM α} {r : Except PyExc α}
    (hx : ∀ s, x.exec serve s = ⟨s, r, []⟩) (hr : ∀ e, r = .error e → e.isSophosError = true) :
    Sound serve paths x := by
  intro s
  rw [hx]
  constructor
  · intro _ e h
    exact hr e h
  · intro y hy
    cases hy
  · intro pre r o post h
    simp at h

lemma sound_pure (a : α) : Sound serve paths (pure a : ClientM α) :=
  sound_of_silent (fun s => exec_pure serve a s) fun _ h => by cases h

lemma sound_ensure {x : Except PyExc α} (h : ∀ e, x = .error e → e.isSophosError = true) :
    Sound serve paths (ensure x) :=
  sound_of_silent (fun s => exec_ensure serve x s) h

lemma sound_withSlot {x : ClientM α} (hx : Sound serve paths x) :
    Sound serve paths (withSlot x) := by
  intro s
  rw [exec_withSlot]
  exact hx s

lemma goesOn_pure (a : α) : GoesOn serve (pure a : ClientM α) :=
  fun _ => .inr ⟨a, rfl⟩

lemma goesOn_of_trace {x : ClientM α} (h : ∀ s, (x.exec serve s).trace ≠ []) : GoesOn serve x :=
  fun s => .inl (h s)

lemma trace_bind_ne_nil {x : ClientM α} {f : α → ClientM β}
    (h : ∀ s, (x.exec serve s).trace ≠ []) (s : S) : ((x >>= f).exec serve s).trace ≠ [] := by
  have hs := h s
  rcases hx : x.exec serve s with ⟨t, e | a, trace⟩
  · rw [hx] at hs
    rw [exec_bind_error serve hx]
    exact hs
  · rw [hx] at hs
    rw [exec_bind_ok serve hx]
    exact List.append_ne_nil_of_left_ne_nil hs _

lemma reads_of_silent {x : ClientM α} {r : Except PyExc α}
    (hx : ∀ s, x.exec serve s = ⟨s, r, []⟩) : Reads serve x := by
  intro s
  rw [hx]
  simp

lemma Sound.bind {x : ClientM α} {f : α → ClientM β} (hx : Sound serve paths x)
    (hf : ∀ a, Sound serve paths (f a)) (hgo : Reads serve x ∨ ∀ a, GoesOn serve (f a)) :
    Sound serve paths (x >>= f) := by
  intro s
  have hxs := hx s
  rcases h : x.exec serve s with ⟨t, e | a, trace⟩
  · rw [h] at hxs
    rw [exec_bind_error serve h]
    refine ⟨fun hd e' he => ?_, fun y hy hu => ?_, fun pre r o post htr hset => ?_⟩
    · cases he
      exact hxs.sophos hd e rfl
    · have he := hxs.undecodable y hy hu
      simpa using he
    · have ha := hxs.accepted pre r o post htr hset
      simpa using ha
  · rw [h] at hxs
    rw [exec_bind_ok serve h]
    have hfs := hf a t
    refine ⟨fun hd e he => ?_, fun y hy hu => ?_, fun pre r o post htr hset => ?_⟩
    · exact hfs.sophos (fun y hy => hd y (List.mem_append_right _ hy)) e he
    · rcases List.mem_append.mp hy with hy | hy
      · have he := hxs.undecodable y hy hu
        cases he
      · exact hfs.undecodable y hy hu
    · dsimp only at htr
      rcases List.append_eq_append_iff.mp htr with ⟨l, rfl, hl⟩ | ⟨l, htrace, hl⟩
      · exact hfs.accepted l r o post hl hset
      · rcases l with _ | ⟨w, l⟩
        · exact hfs.accepted [] r o post (by simpa using hl.symm) hset
        · obtain ⟨rfl, rfl⟩ : w = (r, o) ∧ post = l ++ ((f a).exec serve t).trace := by
            simpa [eq_comm] using hl
          have hacc : Accepted (paths r) o :=
            (hxs.accepted pre r o l htrace hset).mp (.inr ⟨a, rfl⟩)
          rw [iff_true_right hacc]
          rcases hgo with hr | hgo
          · have hmem : (r, o) ∈ (x.exec serve s).trace := by simp [h, htrace]
            have hnot := hr s _ hmem
            rw [hnot] at hset
            cases hset
          · rcases hgo a t with hne | hok
            · exact .inl (by simp [hne])
            · exact .inr hok

end ClientM

namespace SophosClient

variable (c : SophosClient)

lemma accepted_iff {ps : List (List String)} {outcome : HttpOutcome} :
    Accepted ps outcome ↔ ∃ root, c.readAnswer outcome = .ok root ∧ Confirmed ps root := by
  simp only [readAnswer_ok_iff]
  constructor
  · rintro ⟨status, root, ho, hs, hl, hr, hc⟩
    exact ⟨root, ⟨status, ho, hs, hl, hr⟩, hc⟩
  · rintro ⟨root, ⟨status, ho, hs, hl, hr⟩, hc⟩
    exact ⟨status, root, ho, hs, hl, hr, hc⟩

lemma readConfirm_ok_iff (what : Message) (ps : List (List String)) (outcome : HttpOutcome) :
    (∃ a, c.readConfirm what ps outcome = .ok a) ↔ Accepted ps outcome := by
  rw [readConfirm, accepted_iff]
  rcases c.readAnswer outcome with e | root
  · simp [Except.bind]
  · simpa [Except.bind] using confirm_ok_iff root what ps

lemma writeBack_cases {σ : Type} (tag name : String) (verify : Element → Bool) (changed : Element)
    (kept : σ) (s : S) :
    let x := serve s (c.request (.set "update" changed.received))
    let z := serve x.1 (c.request (.get tag))
    (¬ Accepted [[tag, "Status"]] x.2 ∧ ∃ err,
      c.writeBack serve tag name (some verify) changed kept s =
        ⟨x.1, .error err, [(c.request (.set "update" changed.received), x.2)]⟩) ∨
    (Accepted [[tag, "Status"]] x.2 ∧
      c.writeBack serve tag name (some verify) changed kept s =
        ⟨z.1, verdict tag name verify kept (c.readRecord tag name z.2),
          [(c.request (.set "update" changed.received), x.2), (c.request (.get tag), z.2)]⟩) := by
  dsimp only
  rw [← c.readConfirm_ok_iff [.text ("Set " ++ tag ++ " "), .repr name], writeBack]
  rcases c.readConfirm [.text ("Set " ++ tag ++ " "), .repr name] [[tag, "Status"]]
    (serve s (c.request (.set "update" changed.received))).2 with err | _
  · exact .inl ⟨by simp, err, rfl⟩
  · exact .inr ⟨⟨_, rfl⟩, rfl⟩

variable {serve paths}

lemma sound_post_bind (operation : Operation) (slotHeld : Bool) {k : Element → ClientM α}
    {r : Element → Except PyExc α} (hk : ∀ root s, (k root).exec serve s = ⟨s, r root, []⟩)
    (he : ∀ root e, r root = .error e → e.isSophosError = true)
    (hc : (c.request operation).isSet = true → ∀ root,
      (∃ a, r root = .ok a) ↔ Confirmed (paths (c.request operation)) root) :
    Sound serve paths (c.post operation slotHeld >>= k) := by
  intro s
  have hexec : (c.post operation slotHeld >>= k).exec serve s =
      ⟨(serve s (c.request operation)).1,
        (c.readAnswer (serve s (c.request operation)).2).bind r,
        [(c.request operation, (serve s (c.request operation)).2)]⟩ := by
    rw [exec_post_bind]
    dsimp only
    rcases c.readAnswer (serve s (c.request operation)).2 with e | root
    · rfl
    · simp [hk, Except.bind]
  rw [hexec]
  generalize (serve s (c.request operation)).2 = o
  refine Ended.sound_single (fun hu hcan e h => ?_) (fun hu => ?_) fun hset => ?_
  · rcases hr : c.readAnswer o with e' | root
    · rw [hr] at h
      cases h
      exact c.readAnswer_error hr hu hcan
    · rw [hr] at h
      exact he root e h
  · rw [c.readAnswer_undecodable hu]
    rfl
  · rw [c.accepted_iff]
    rcases hr : c.readAnswer o with e' | root
    · simp [Except.bind]
    · simpa [Except.bind] using hc hset root

lemma sound_getRecordElement (tag name : String) :
    Sound serve paths (c.getRecordElement tag name) :=
  c.sound_post_bind _ _ (fun _ s => exec_ensure serve _ s) (fun _ _ h => scanRecords_error h) nofun

lemma reads_getRecordElement (tag name : String) : Reads serve (c.getRecordElement tag name) := by
  intro s
  rw [exec_getRecordElement]
  simp [request, Request.isSet]

lemma sound_ipHostsHeld (ip : String) : Sound serve paths (c.ipHostsHeld ip) :=
  c.sound_post_bind _ _ (fun _ s => exec_pure serve _ s) (fun _ _ h => by cases h) nofun

lemma reads_ipHostsHeld (ip : String) : Reads serve (c.ipHostsHeld ip) := by
  intro s
  rw [exec_ipHostsHeld]
  simp [request, Request.isSet]

lemma sound_addIpHostHeld (ip name : String)
    (hp : paths (c.request (.set "add" (newIpHost ip name).received)) = [["IPHost", "Status"]]) :
    Sound serve paths (c.addIpHostHeld ip name) := by
  rw [addIpHostHeld_eq]
  refine c.sound_post_bind _ _ (fun _ s => exec_ensure serve _ s)
    (fun _ _ h => addedHost_error (fun _ => confirm_error) h) fun _ root => ?_
  rw [hp, addedHost_ok_iff, confirm_ok_iff]

lemma sound_readBack {σ : Type} (tag name : String) (verify : Element → Bool) (kept : σ) :
    Sound serve paths (c.readBack tag name verify kept) := by
  intro s
  rw [exec_readBack]
  generalize (serve s (c.request (.get tag))).2 = o
  refine Ended.sound_single (fun hu hcan e h => ?_) (fun hu => ?_) nofun
  · unfold verdict at h
    split at h
    · next e' he' =>
      have hs := c.readRecord_error he' hu hcan
      rw [if_pos hs] at h
      cases h
    · split at h
      · cases h
      · cases h
        rfl
  · rw [readRecord, c.readAnswer_undecodable hu]
    rfl

lemma trace_readBack_ne_nil {σ : Type} (tag name : String) (verify : Element → Bool) (kept : σ)
    (s : S) : ((c.readBack tag name verify kept).exec serve s).trace ≠ [] := by
  rw [exec_readBack]
  simp

/-- What a change can fail with. -/
def ChangeErrors {σ : Type} (change : Element → Except PyExc (Option Element × σ)) : Prop :=
  ∀ elem e, change elem = .error e → e.isSophosError = true

lemma sound_modifyRecordHeld {σ : Type} {tag name : String}
    {change : Element → Except PyExc (Option Element × σ)} {verify : Option (Element → Bool)}
    (hp : ∀ content, paths (c.request (.set "update" content)) = [[tag, "Status"]])
    (hchange : ChangeErrors change) :
    Sound serve paths (c.modifyRecordHeld tag name change verify) := by
  refine (c.sound_getRecordElement tag name).bind (fun elem => ?_)
    (.inl (c.reads_getRecordElement tag name))
  refine (sound_ensure (hchange elem)).bind (fun x => ?_)
    (.inl (reads_of_silent fun s => exec_ensure serve _ s))
  obtain ⟨_ | changed, kept⟩ := x
  · exact sound_pure kept
  dsimp only
  rw [← bind_assoc]
  have hset : Sound serve paths (c.post (.set "update" changed.received) true >>= fun root =>
      ensure (confirm root [.text ("Set " ++ tag ++ " "), .repr name] [[tag, "Status"]])) := by
    refine c.sound_post_bind _ _ (fun _ s => exec_ensure serve _ s)
      (fun _ _ h => confirm_error h) fun _ root => ?_
    rw [hp, confirm_ok_iff]
  rcases verify with _ | verify
  · exact hset.bind (fun _ => sound_pure kept) (.inr fun _ => goesOn_pure kept)
  · exact hset.bind (fun _ => c.sound_readBack tag name verify kept)
      (.inr fun _ => goesOn_of_trace (c.trace_readBack_ne_nil tag name verify kept))

lemma trace_modifyRecordHeld_ne_nil {σ : Type} (tag name : String)
    (change : Element → Except PyExc (Option Element × σ)) (verify : Option (Element → Bool))
    (s : S) : ((c.modifyRecordHeld tag name change verify).exec serve s).trace ≠ [] := by
  refine trace_bind_ne_nil (fun t => ?_) s
  rw [exec_getRecordElement]
  simp

lemma checkIpv4Group_error {elem : Element} {group : String} {e : PyExc}
    (h : checkIpv4Group elem group = .error e) : e.isSophosError = true := by
  unfold checkIpv4Group at h
  split at h
  · cases h
    rfl
  · cases h

lemma addMember_errors (group host : String) : ChangeErrors (addMember group host) := by
  intro elem e h
  unfold addMember at h
  rcases hc : checkIpv4Group elem group with e' | ⟨⟩
  · rw [hc] at h
    cases h
    exact checkIpv4Group_error hc
  · rw [hc] at h
    simp only [bind, Except.bind] at h
    split at h
    · cases h
    · split at h <;> cases h

lemma removeMembers_errors (group : String) (hosts : List String) :
    ChangeErrors (removeMembers group hosts) := by
  intro elem e h
  unfold removeMembers at h
  rcases hc : checkIpv4Group elem group with e' | ⟨⟩
  · rw [hc] at h
    cases h
    exact checkIpv4Group_error hc
  · rw [hc] at h
    simp only [bind, Except.bind] at h
    split at h
    · cases h
    · split at h
      · cases h
      · split at h <;> cases h

lemma changeUrls_errors (group wanted : String) (present : Bool) :
    ChangeErrors (changeUrls group wanted present) := by
  intro elem e h
  unfold changeUrls at h
  split at h
  · cases h
    rfl
  · dsimp only at h
    repeat' split at h
    all_goals cases h

lemma changeField_errors (tag name field value : String) :
    ChangeErrors (changeField tag name field value) := by
  intro elem e h
  unfold changeField at h
  split at h
  · cases h
    rfl
  · cases h

lemma sound_blockIpInGroup (group ip name : String)
    (hadd : paths (c.request (.set "add" (newIpHost ip name).received)) = [["IPHost", "Status"]])
    (hupdate : ∀ content,
      paths (c.request (.set "update" content)) = [["IPHostGroup", "Status"]]) :
    Sound serve paths (c.blockIpInGroup group ip name) := by
  refine sound_withSlot ((c.sound_getRecordElement _ _).bind (fun elem => ?_)
    (.inl (c.reads_getRecordElement _ _)))
  refine (sound_ensure fun _ => checkIpv4Group_error).bind (fun _ => ?_)
    (.inl (reads_of_silent fun s => exec_ensure serve _ s))
  refine (c.sound_ipHostsHeld ip).bind (fun hosts => ?_) (.inl (c.reads_ipHostsHeld ip))
  split
  · exact sound_pure _
  · refine Sound.bind ?_ (fun host => ?_) (.inr fun host => ?_)
    · rcases hosts with _ | ⟨host, hosts⟩
      · exact c.sound_addIpHostHeld ip name hadd
      · exact sound_pure host
    · exact (c.sound_modifyRecordHeld hupdate (addMember_errors group host)).bind
        (fun _ => sound_pure _) (.inr fun _ => goesOn_pure _)
    · exact goesOn_of_trace (trace_bind_ne_nil (c.trace_modifyRecordHeld_ne_nil _ _ _ _))

lemma sound_unblockIpInGroup (group ip : String)
    (hupdate : ∀ content,
      paths (c.request (.set "update" content)) = [["IPHostGroup", "Status"]]) :
    Sound serve paths (c.unblockIpInGroup group ip) := by
  refine Sound.bind (sound_withSlot ?_) (fun removed => sound_pure _)
    (.inr fun removed => goesOn_pure _)
  exact (c.sound_ipHostsHeld ip).bind
    (fun hosts => c.sound_modifyRecordHeld hupdate (removeMembers_errors group hosts))
    (.inl (c.reads_ipHostsHeld ip))

lemma sound_postConfirm (content : Element) (what : Message) {ps : List (List String)}
    (hp : paths (c.request (.set "update" content)) = ps) :
    Sound serve paths (c.post (.set "update" content) false >>= fun root =>
      ensure (confirm root what ps)) := by
  refine c.sound_post_bind _ _ (fun _ s => exec_ensure serve _ s) (fun _ _ => confirm_error)
    fun _ root => ?_
  rw [hp, confirm_ok_iff]

end SophosClient

end Rules

/-! ### The operations -/

namespace Call

/-- The operations that write. -/
def isWrite : Call → Bool
  | setFirewallRuleStatus _ _ | setWebFilterDefaultAction _ _ | setUrlInGroup _ _ _
  | blockIpInGroup _ _ _ | unblockIpInGroup _ _ | setWirelessNetworkStatus _ _
  | setIpsecConnectionActive _ _ => true
  | _ => false

/-- Where an operation looks for the confirmation of a write. -/
def confirmPaths (call : Call) (r : Request) : List (List String) :=
  match call, r.operation with
  | setFirewallRuleStatus _ _, _ => [["FirewallRule", "Status"]]
  | setWebFilterDefaultAction _ _, _ => [["WebFilterPolicy", "Status"]]
  | setUrlInGroup _ _ _, _ => [["WebFilterURLGroup", "Status"]]
  | blockIpInGroup _ _ _, .set "add" _ => [["IPHost", "Status"]]
  | blockIpInGroup _ _ _, _ => [["IPHostGroup", "Status"]]
  | unblockIpInGroup _ _, _ => [["IPHostGroup", "Status"]]
  | setWirelessNetworkStatus _ _, _ => [["WirelessNetworkStatus", "Status"]]
  | setIpsecConnectionActive _ active, _ =>
    let action := if active then "Active" else "DeActive"
    [["VPNIPSecConnection", action, "Status"], ["VPNIPSecConnection", "Status"],
      [action, "Status"], ["Configuration", "Status"]]
  | _, _ => []

variable {S : Type} (c : SophosClient) (serve : S → Request → S × HttpOutcome)

lemma sound (call : Call) (hw : call.isWrite = true) :
    Sound serve call.confirmPaths (call.body c) := by
  cases call with
  | setFirewallRuleStatus name enable =>
    exact sound_withSlot (c.sound_modifyRecordHeld (fun _ => rfl)
      (SophosClient.changeField_errors _ _ _ _))
  | setWebFilterDefaultAction name allow =>
    exact sound_withSlot (c.sound_modifyRecordHeld (fun _ => rfl)
      (SophosClient.changeField_errors _ _ _ _))
  | setUrlInGroup group url present =>
    exact sound_withSlot (c.sound_modifyRecordHeld (fun _ => rfl)
      (SophosClient.changeUrls_errors _ _ _))
  | blockIpInGroup group ip name => exact c.sound_blockIpInGroup group ip name rfl fun _ => rfl
  | unblockIpInGroup group ip => exact c.sound_unblockIpInGroup group ip fun _ => rfl
  | setWirelessNetworkStatus name enable => exact c.sound_postConfirm _ _ rfl
  | setIpsecConnectionActive name active => exact c.sound_postConfirm _ _ rfl
  | _ => cases hw

/-- **Writes are confirmed, and failures are errors of the client.** Whatever the firewall
answers, an operation that writes goes on after a write, or returns, exactly when the answer
accepts it. And all it ever fails with is a `SophosError`, if and only if no answer has a body
that is not text in its charset: such a body raises `UnicodeDecodeError`, which nothing turns
into one. -/
theorem writes_confirmed_iff (call : Call) (hw : call.isWrite = true) (s : S)
    (hcan : ∀ x ∈ ((call.body c).exec serve s).trace, x.2 ≠ .cancelled) :
    let y := (call.body c).exec serve s
    ((∀ pre r o post, y.trace = pre ++ (r, o) :: post → r.isSet = true →
        ((post ≠ [] ∨ ∃ a, y.result = .ok a) ↔ Accepted (call.confirmPaths r) o)) ∧
      ∀ e, y.result = .error e → e.isSophosError = true) ↔
    ∀ x ∈ y.trace, ¬ Undecodable x.2 := by
  intro y
  have hs := call.sound c serve hw s
  constructor
  · rintro ⟨-, he⟩ x hx hu
    have h := he _ (hs.undecodable x hx hu)
    cases h
  · intro hu
    exact ⟨hs.accepted, hs.sophos fun x hx => ⟨hu x hx, hcan x hx⟩⟩

/-- A wireless network that the firewall switches. -/
theorem writes_confirmed_iff_wireless :
    let c : SophosClient := ⟨"fw", 4444, "admin", "secret"⟩
    let status : Element := ⟨"Status", .single "code" "200", some "Applied", none, []⟩
    let answer : Element := .new "Response" none [.new "WirelessNetworkStatus" none [status]]
    let serve : Unit → Request → Unit × HttpOutcome :=
      fun _ _ => ((), .answer 200 (.document answer))
    let call : Call := .setWirelessNetworkStatus "GuestAP" true
    let y := (call.body c).exec serve ()
    (∀ pre r o post, y.trace = pre ++ (r, o) :: post → r.isSet = true →
      ((post ≠ [] ∨ ∃ a, y.result = .ok a) ↔ Accepted (call.confirmPaths r) o)) ∧
      ∀ e, y.result = .error e → e.isSophosError = true := by
  intro c status answer serve call y
  refine (writes_confirmed_iff c serve call rfl () fun x hx => ?_).mpr fun x hx => ?_
  · obtain rfl := List.mem_singleton.mp hx
    nofun
  · obtain rfl := List.mem_singleton.mp hx
    rintro ⟨_, ⟨⟩, _⟩

/-- The same with a message that is not UTF-8: what escapes is no error of the client. -/
theorem undecodable_answer_escapes :
    let c : SophosClient := ⟨"fw", 4444, "admin", "secret"⟩
    let serve : Unit → Request → Unit × HttpOutcome := fun _ _ => ((), .answer 200 .undecodable)
    let y := (c.setWirelessNetworkStatus "GuestAP" true).exec serve ()
    (∃ r, r.isSet = true ∧ y.trace = [(r, .answer 200 .undecodable)]) ∧
      ¬ ∀ e, y.result = .error e → e.isSophosError = true := by
  intro c serve y
  refine ⟨⟨_, ?_, rfl⟩, fun h => ?_⟩
  · rfl
  · have he := h .unicodeDecodeError rfl
    cases he

end Call

end SophosFw.Client
