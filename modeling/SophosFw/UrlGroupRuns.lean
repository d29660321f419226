import SophosFw.RecordRuns

/-!
The domains of a URL group while calls of `set_url_in_group` and other operations interleave.

Calls on different domains do not disturb each other, and a call that returns is in effect until a
later one asks for the opposite.
-/

namespace SophosFw.Client

open SophosFw.PyDict SophosFw.PyText SophosFw.ElementTree SophosFw.Records SophosFw.Slot
  SophosFw.Runs
open ClientM

section Change

variable {wanted domain : String} {e sent : Element} {present : Bool}

lemma isUrlEntry_new (h : domain ≠ wanted) (hw : lower (strip wanted) = wanted) :
    isUrlEntry domain (.new "URL" (some wanted) []) = false := by
  simp [isUrlEntry, Element.new, textOf, hw, Ne.symm h]

lemma isUrlEntry_of_ne (h : domain ≠ wanted) {c : Element} (hc : isUrlEntry domain c = true) :
    isUrlEntry wanted c = false := by
  unfold isUrlEntry at hc ⊢
  simp only [Bool.and_eq_true, decide_eq_true_eq] at hc
  simp [hc.2, h]

lemma hasUrl_replace {list list' : Element} {l₁ l₂ : List Element}
    (hsplit : e.children = l₁ ++ list :: l₂) (hlist : isUrlList list' = isUrlList list)
    (hentries : ∀ c, isUrlEntry domain c = true → (c ∈ list'.children ↔ c ∈ list.children)) :
    HasUrl domain { e with children := l₁ ++ list' :: l₂ } ↔ HasUrl domain e := by
  have hsame : (∃ entry ∈ list'.children, isUrlEntry domain entry = true) ↔
      ∃ entry ∈ list.children, isUrlEntry domain entry = true := by
    constructor
    · rintro ⟨entry, hmem, h⟩
      exact ⟨entry, (hentries entry h).mp hmem, h⟩
    · rintro ⟨entry, hmem, h⟩
      exact ⟨entry, (hentries entry h).mpr hmem, h⟩
  unfold HasUrl
  rw [hsplit]
  simp only [List.mem_append, List.mem_cons, or_and_right, exists_or, exists_eq_left, hlist, hsame]

lemma UrlChange.hasUrl_of_ne (hc : UrlChange wanted e present sent) (h : domain ≠ wanted)
    (hw : lower (strip wanted) = wanted) : HasUrl domain sent ↔ HasUrl domain e := by
  cases hc with
  | appended hsplit hlist =>
    refine hasUrl_replace hsplit rfl fun c hc => ?_
    have hne : c ≠ .new "URL" (some wanted) [] := by
      rintro rfl
      rw [isUrlEntry_new h hw] at hc
      cases hc
    simp [hne]
  | created hnone =>
    unfold HasUrl
    simp only [List.mem_append, List.mem_singleton, or_and_right, exists_or, exists_eq_left]
    simp [Element.new, isUrlEntry, textOf, hw, Ne.symm h]
  | removed hsplit hlist _ =>
    refine hasUrl_replace hsplit rfl fun c hc => ?_
    simp [isUrlEntry_of_ne h hc]
  | @dropped l₁ list l₂ hsplit hlist hrest =>
    have hnone : ¬ ∃ entry ∈ list.children, isUrlEntry domain entry = true := by
      rintro ⟨entry, hmem, hentry⟩
      have hin : entry ∈ list.children.filter fun c => !isUrlEntry wanted c :=
        List.mem_filter.mpr ⟨hmem, by simp [isUrlEntry_of_ne h hentry]⟩
      rw [hrest] at hin
      cases hin
    unfold HasUrl
    rw [hsplit]
    simp only [List.mem_append, List.mem_cons, or_and_right, exists_or, exists_eq_left, hnone,
      and_false, false_or]

lemma UrlChange.differs (hc : UrlChange wanted e present sent) : DiffersIn isUrlList e sent := by
  cases hc with
  | @appended _ list _ hsplit hlist | @removed _ list _ hsplit hlist _ =>
    have hlist' : ∀ cs, isUrlList { list with children := cs } = true := fun _ => hlist
    refine ⟨rfl, ?_⟩
    rw [hsplit]
    simp [hlist, hlist']
  | created hnone =>
    refine ⟨rfl, ?_⟩
    simp [isUrlList, Element.new]
  | dropped hsplit hlist _ =>
    refine ⟨rfl, ?_⟩
    rw [hsplit]
    simp [hlist]

/-- A group with at most one list, and nothing in it that is lost on the way. -/
structure PlainUrlGroup (e : Element) : Prop where
  one : OneUrlList e
  clean : e.Clean

lemma PlainUrlGroup.of_urlChange (h : PlainUrlGroup e) (hc : UrlChange wanted e present sent)
    (hw : '\r' ∉ wanted.toList) : PlainUrlGroup sent :=
  ⟨hc.oneUrlList h.one, (hc.clean_iff h.one).mpr (.of_clean h.clean hw)⟩

end Change

section Calls

variable {S : Type} (c : SophosClient) (group : String)
  (serve : S → Request → S × HttpOutcome) (record : S → Element)

/-- What a call makes of the group. -/
structure UrlStep (Lost : HttpOutcome → Prop) (call : Call) (returned : Prop) (e e' : Element) :
    Prop where
  other : (∀ url present, call ≠ .setUrlInGroup group url present) → e' = e
  change : ∀ url present, call = .setUrlInGroup group url present →
    e' = e ∨ UrlChange (lower (strip url)) e present e'
  sure : ∀ url present, call = .setUrlInGroup group url present → returned →
    Sure c "WebFilterURLGroup" group serve record Lost →
      (HasUrl (lower (strip url)) e' ↔ present = true)

variable {c group serve record} {Lost : HttpOutcome → Prop}

lemma wp_setUrlInGroup (hk : StoresRecord c "WebFilterURLGroup" group serve record)
    (hlost : ∀ o, Lost o → GivenUp o) (hgroup : '\r' ∉ group.toList) {url : String}
    (hurl : '\r' ∉ (lower (strip url)).toList) (present : Bool) {s : S}
    (hrec : PlainUrlGroup (record s)) :
    (c.setUrlInGroup group url present).wp serve Lost (fun r t => PlainUrlGroup (record t) ∧
      UrlStep c group serve record Lost (.setUrlInGroup group url present) (∃ a, r = .ok a)
        (record s) (record t)) s := by
  have hw : lower (strip (lower (strip url))) = lower (strip url) := by simp
  have hname : ∀ c : Element, c.tag = "Name" → isUrlList c = false := by
    intro c hc
    have hne : lower "Name" ≠ lower "URLlist" := by decide
    simpa [isUrlList, hc] using hne
  have hkeep : ∀ e sent kept, e.tag = "WebFilterURLGroup" → nameOf e = group →
      changeUrls group (lower (strip url)) present e = .ok (some sent, kept) →
        sent.tag = "WebFilterURLGroup" ∧ nameOf sent = group := by
    intro e sent kept htag hgroup h
    obtain ⟨hdiffers, -⟩ := changeUrls_differs h
    exact ⟨hdiffers.tag.trans htag, (hdiffers.nameOf_eq hname).trans hgroup⟩
  refine ClientM.wp_mono (fun r t h => ?_) (wp_modifyRecord hk hlost hgroup hkeep s)
  have hone := hrec.one
  have hcases := changeUrls_cases (lower (strip url)) group present hone
  have hsent : ∀ sent kept, changeUrls group (lower (strip url)) present (record s) =
      .ok (some sent, kept) → UrlChange (lower (strip url)) (record s) present sent := by
    intro sent kept hc
    rcases hcases with ⟨-, err, he, -⟩ | ⟨-, -, he⟩ | ⟨-, -, sent', he, hchange⟩ <;> rw [he] at hc
    · cases hc
    · cases hc
    · obtain ⟨⟨⟩, -⟩ := Prod.mk.inj (Except.ok.inj hc)
      exact hchange
  have hsentClean : ∀ sent kept, changeUrls group (lower (strip url)) present (record s) =
      .ok (some sent, kept) → sent.Clean :=
    fun sent kept hc => (hrec.of_urlChange (hsent sent kept hc) hurl).clean
  have hchange : record t = record s ∨
      UrlChange (lower (strip url)) (record s) present (record t) := by
    rcases h.made_of_clean hsentClean with hsame | ⟨kept, hc⟩
    · exact .inl hsame
    · exact .inr (hsent _ kept hc)
  have hrec' : PlainUrlGroup (record t) := by
    rcases hchange with hsame | hc
    · rwa [hsame]
    · exact hrec.of_urlChange hc hurl
  refine ⟨hrec', fun h => absurd rfl (h url present), ?_, ?_⟩
  · rintro _ _ ⟨⟩
    exact hchange
  rintro _ _ ⟨⟩ ⟨kept, hr⟩ hsure
  rcases h.returned kept hr with ⟨he, hsame⟩ | ⟨sent, he, happlied, hverified⟩
  · rw [hsame]
    rcases hcases with ⟨-, err, he', -⟩ | ⟨-, hno, -⟩ | ⟨-, -, sent, he', -⟩
    · rw [he'] at he
      cases he
    · exact hno
    · rw [he'] at he
      cases he
  · rcases hsure with hconfirms | ⟨hanswers, hnone⟩
    · rw [happlied hconfirms, Element.received_eq_self_iff.mpr (hsentClean sent kept he)]
      exact (hsent sent kept he).hasUrl hone hw
    · exact (verify_iff hrec'.one).mp (hverified _ rfl hanswers hnone)

lemma not_updates_of_scope {call : Call} {r : Request}
    (hcall : ∀ url present, call ≠ .setUrlInGroup group url present) (h : call.InScope c r) :
    ¬ Writes "WebFilterURLGroup" group (fun _ => True) r.operation := by
  intro hw
  have hupdated := updated_of_scope h hw (by decide)
  cases call with
  | setUrlInGroup group' url present =>
    obtain ⟨-, rfl⟩ := Prod.mk.inj (Option.some.inj hupdated)
    exact hcall url present rfl
  | _ => simp [Call.updated] at hupdated

lemma wp_call (hk : StoresRecord c "WebFilterURLGroup" group serve record)
    (hlost : ∀ o, Lost o → GivenUp o) {call : Call} (hplain : call.Plain) {s : S}
    (hrec : PlainUrlGroup (record s)) :
    (call.body c).wp serve Lost (fun r t => PlainUrlGroup (record t) ∧
      UrlStep c group serve record Lost call (∃ a, r = .ok a) (record s) (record t)) s := by
  by_cases hcall : ∃ url present, call = .setUrlInGroup group url present
  · obtain ⟨url, present, rfl⟩ := hcall
    have hargs : ∀ t ∈ [group, lower (strip url)], '\r' ∉ t.toList := hplain
    exact wp_setUrlInGroup hk hlost (hargs group (by simp)) (hargs _ (by simp)) present hrec
  · push Not at hcall
    have hframe : (call.body c).wp serve Lost (fun _ t => record t = record s) s :=
      wp_of_asks (Call.asks_scope c hplain) (fun t r hr ht => by
        rw [hk.other t r (not_updates_of_scope hcall hr), ht]) rfl
    refine ClientM.wp_mono (fun r t h => ?_) hframe
    refine ⟨by rwa [h], fun _ => h, ?_, ?_⟩
    · intro url present he
      exact absurd he (hcall url present)
    · intro url present he
      exact absurd he (hcall url present)

end Calls

/-! ### All calls -/

section Runs

variable {ι S : Type} {c : SophosClient} {group : String}
  {serve : S → Request → S × HttpOutcome} {record : S → Element}

/-- None of these calls asks for the opposite. -/
def Undisputed (calls : ι → Call) (group domain : String) (present : Bool) (l : List ι) : Prop :=
  ∀ i ∈ l, ∀ url present', calls i = .setUrlInGroup group url present' →
    lower (strip url) = domain → present' = present

lemma UrlStep.differs {call : Call} {Lost : HttpOutcome → Prop} {returned : Prop}
    {e e' : Element} (h : UrlStep c group serve record Lost call returned e e') :
    DiffersIn isUrlList e e' := by
  by_cases hcall : ∃ url present, call = .setUrlInGroup group url present
  · obtain ⟨url, present, rfl⟩ := hcall
    rcases h.change url present rfl with rfl | hc
    · exact ⟨rfl, rfl⟩
    · exact hc.differs
  · push Not at hcall
    rw [h.other hcall]
    exact ⟨rfl, rfl⟩

lemma UrlStep.keeps {call : Call} {Lost : HttpOutcome → Prop} {returned : Prop}
    {e e' : Element} (h : UrlStep c group serve record Lost call returned e e')
    (hone : OneUrlList e) {domain : String} {present : Bool}
    (hcall : ∀ url present', call = .setUrlInGroup group url present' →
      lower (strip url) = domain → present' = present)
    (he : HasUrl domain e ↔ present = true) : HasUrl domain e' ↔ present = true := by
  by_cases hurl : ∃ url present, call = .setUrlInGroup group url present
  · obtain ⟨url, present', rfl⟩ := hurl
    have hw : lower (strip (lower (strip url))) = lower (strip url) := by simp
    rcases h.change url present' rfl with rfl | hc
    · exact he
    by_cases hd : domain = lower (strip url)
    · subst hd
      obtain rfl := hcall url present' rfl rfl
      exact hc.hasUrl hone hw
    · rw [hc.hasUrl_of_ne hd hw, he]
  · push Not at hurl
    rw [h.other hurl, he]

end Runs

end SophosFw.Client
