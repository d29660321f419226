import SophosFw.Confirmation

/-!
The domains of a URL group.

The firewall replaces a group as a whole, so a change of one entry has to keep everything
else. What is written is the group as read but for the entries of one domain, and without a
carriage return in it that is also what is sent; what the operation returns is what became of the
group.
-/

namespace SophosFw.Client

open SophosFw.PyDict SophosFw.PyText SophosFw.ElementTree SophosFw.Records SophosFw.Slot
open ClientM

/-- The group lists the domain. -/
def HasUrl (wanted : String) (e : Element) : Prop :=
  ∃ list ∈ e.children, isUrlList list = true ∧
    ∃ entry ∈ list.children, isUrlEntry wanted entry = true

/-- It has at most one list. -/
def OneUrlList (e : Element) : Prop := (e.children.filter isUrlList).length ≤ 1

/-- A group that is not built in. -/
def Editable (e : Element) : Prop := lower ((childText e "IsDefault").getD "No") = "no"

/-- What is written in place of a group, to have the domain in it or not: the group but for one
entry more, or but for the entries of the domain; a list of entries comes and goes with its
first and last entry. -/
inductive UrlChange (wanted : String) (e : Element) : Bool → Element → Prop
  | appended {l₁ list l₂} (hsplit : e.children = l₁ ++ list :: l₂) (hlist : isUrlList list = true) :
    UrlChange wanted e true { e with
      children := l₁ ++ { list with
        children := list.children ++ [.new "URL" (some wanted) []] } :: l₂ }
  | created (hnone : ∀ c ∈ e.children, isUrlList c = false) :
    UrlChange wanted e true { e with
      children := e.children ++ [.new "URLlist" none [.new "URL" (some wanted) []]] }
  | removed {l₁ list l₂} (hsplit : e.children = l₁ ++ list :: l₂) (hlist : isUrlList list = true)
    (hrest : list.children.filter (fun c => !isUrlEntry wanted c) ≠ []) :
    UrlChange wanted e false { e with
      children := l₁ ++ { list with
        children := list.children.filter fun c => !isUrlEntry wanted c } :: l₂ }
  | dropped {l₁ list l₂} (hsplit : e.children = l₁ ++ list :: l₂) (hlist : isUrlList list = true)
    (hrest : list.children.filter (fun c => !isUrlEntry wanted c) = []) :
    UrlChange wanted e false { e with children := l₁ ++ l₂ }

lemma childCi_urlList (e : Element) : childCi e "URLlist" = e.children.find? isUrlList := rfl

lemma OneUrlList.others {e list : Element} {l₁ l₂ : List Element} (h : OneUrlList e)
    (hsplit : e.children = l₁ ++ list :: l₂) (hlist : isUrlList list = true) :
    (∀ c ∈ l₁, isUrlList c = false) ∧ ∀ c ∈ l₂, isUrlList c = false := by
  unfold OneUrlList at h
  rw [hsplit, List.filter_append, List.filter_cons_of_pos hlist, List.length_append,
    List.length_cons] at h
  have h₁ : l₁.filter isUrlList = [] := List.length_eq_zero_iff.mp (by omega)
  have h₂ : l₂.filter isUrlList = [] := List.length_eq_zero_iff.mp (by omega)
  constructor
  · intro c hc
    simpa using List.filter_eq_nil_iff.mp h₁ c hc
  · intro c hc
    simpa using List.filter_eq_nil_iff.mp h₂ c hc

lemma OneUrlList.eq_of_mem {e list list' : Element} {l₁ l₂ : List Element} (h : OneUrlList e)
    (hsplit : e.children = l₁ ++ list :: l₂) (hlist : isUrlList list = true)
    (hmem : list' ∈ e.children) (hlist' : isUrlList list' = true) : list' = list := by
  obtain ⟨h₁, h₂⟩ := h.others hsplit hlist
  rw [hsplit, List.mem_append, List.mem_cons] at hmem
  rcases hmem with hmem | rfl | hmem
  · rw [h₁ list' hmem] at hlist'
    cases hlist'
  · rfl
  · rw [h₂ list' hmem] at hlist'
    cases hlist'

lemma urls_ne_nil_iff {wanted : String} {e : Element} (h : OneUrlList e) :
    urls wanted e ≠ [] ↔ HasUrl wanted e := by
  unfold urls HasUrl
  rw [childCi_urlList]
  rcases hf : e.children.find? isUrlList with _ | list
  · have hnone : ∀ c ∈ e.children, isUrlList c = false := by simpa using hf
    simp only [ne_eq, not_true_eq_false, false_iff]
    rintro ⟨list, hmem, hlist, -⟩
    rw [hnone list hmem] at hlist
    cases hlist
  · obtain ⟨l₁, l₂, hsplit, hlist, -⟩ := exists_split_of_find?_some hf
    have hmem : list ∈ e.children := List.mem_of_find?_eq_some hf
    have hiff : list.children.filter (isUrlEntry wanted) ≠ [] ↔
        ∃ entry ∈ list.children, isUrlEntry wanted entry = true := by
      rw [ne_eq, List.filter_eq_nil_iff]
      push Not
      rfl
    rw [hiff]
    constructor
    · intro hentry
      exact ⟨list, hmem, hlist, hentry⟩
    · rintro ⟨list', hmem', hlist', hentry⟩
      obtain rfl := h.eq_of_mem hsplit hlist hmem' hlist'
      exact hentry

section Change

variable {wanted : String} {e sent : Element} {present : Bool}

lemma OneUrlList.of_replace {list list' : Element} {l₁ l₂ : List Element} (h : OneUrlList e)
    (hsplit : e.children = l₁ ++ list :: l₂) (hlist : isUrlList list = true)
    (hlist' : isUrlList list' = true) :
    OneUrlList { e with children := l₁ ++ list' :: l₂ } := by
  unfold OneUrlList at h ⊢
  rw [hsplit, List.filter_append, List.filter_cons_of_pos hlist] at h
  rw [List.filter_append, List.filter_cons_of_pos hlist']
  simpa using h

lemma UrlChange.oneUrlList (h : OneUrlList e) (hc : UrlChange wanted e present sent) :
    OneUrlList sent := by
  cases hc with
  | appended hsplit hlist => exact h.of_replace hsplit hlist hlist
  | created hnone =>
    have hnil : e.children.filter isUrlList = [] := by simpa using hnone
    unfold OneUrlList
    rw [List.filter_append, hnil]
    exact List.length_filter_le _ _
  | removed hsplit hlist _ => exact h.of_replace hsplit hlist hlist
  | dropped hsplit hlist _ =>
    unfold OneUrlList at h ⊢
    rw [hsplit, List.filter_append, List.filter_cons_of_pos hlist] at h
    rw [List.filter_append]
    simp only [List.length_append, List.length_cons] at h ⊢
    omega

lemma UrlChange.unique {sent' : Element} (h : OneUrlList e) (hc : UrlChange wanted e present sent)
    (hc' : UrlChange wanted e present sent') : sent = sent' := by
  have hsplit : ∀ {l₁ l₂ m₁ m₂ : List Element} {list list' : Element},
      e.children = l₁ ++ list :: l₂ → isUrlList list = true → e.children = m₁ ++ list' :: m₂ →
        isUrlList list' = true → l₁ = m₁ ∧ list = list' ∧ l₂ = m₂ := by
    intro l₁ l₂ m₁ m₂ list list' hl hlist hm hlist'
    obtain ⟨rfl, hrest⟩ := split_unique (p := isUrlList) (hl.symm.trans hm) (h.others hl hlist).1
      (by simpa using hlist) (h.others hm hlist').1 (by simpa using hlist')
    exact ⟨rfl, List.cons.inj hrest⟩
  cases hc with
  | appended hl hlist =>
    cases hc' with
    | appended hm hlist' =>
      obtain ⟨rfl, rfl, rfl⟩ := hsplit hl hlist hm hlist'
      rfl
    | created hnone =>
      rw [hnone _ (by simp [hl])] at hlist
      cases hlist
  | created hnone =>
    cases hc' with
    | appended hm hlist' =>
      rw [hnone _ (by simp [hm])] at hlist'
      cases hlist'
    | created _ => rfl
  | removed hl hlist hrest =>
    cases hc' with
    | removed hm hlist' _ =>
      obtain ⟨rfl, rfl, rfl⟩ := hsplit hl hlist hm hlist'
      rfl
    | dropped hm hlist' hrest' =>
      obtain ⟨rfl, rfl, rfl⟩ := hsplit hl hlist hm hlist'
      exact absurd hrest' hrest
  | dropped hl hlist hrest =>
    cases hc' with
    | removed hm hlist' hrest' =>
      obtain ⟨rfl, rfl, rfl⟩ := hsplit hl hlist hm hlist'
      exact absurd hrest hrest'
    | dropped hm hlist' _ =>
      obtain ⟨rfl, rfl, rfl⟩ := hsplit hl hlist hm hlist'
      rfl

lemma UrlChange.hasUrl (h : OneUrlList e) (hc : UrlChange wanted e present sent)
    (hw : lower (strip wanted) = wanted) : HasUrl wanted sent ↔ present = true := by
  have hentry : isUrlEntry wanted (.new "URL" (some wanted) []) = true := by
    have htag : lower "URL" = "url" := by decide
    simp [isUrlEntry, Element.new, textOf, htag, hw]
  cases hc with
  | appended hsplit hlist =>
    exact iff_of_true ⟨_, List.mem_append_right _ List.mem_cons_self, hlist, _,
      List.mem_append_right _ (List.mem_singleton_self _), hentry⟩ rfl
  | created hnone =>
    have hlist : isUrlList (.new "URLlist" none [.new "URL" (some wanted) []]) = true := by
      simp [isUrlList, Element.new]
    exact iff_of_true ⟨_, List.mem_append_right _ (List.mem_singleton_self _), hlist, _,
      List.mem_singleton_self _, hentry⟩ rfl
  | removed hsplit hlist _ =>
    obtain ⟨h₁, h₂⟩ := h.others hsplit hlist
    refine iff_of_false ?_ (by simp)
    rintro ⟨list', hmem, hlist', entry, hin, hurl⟩
    rcases List.mem_append.mp hmem with hmem | hmem
    · rw [h₁ list' hmem] at hlist'
      cases hlist'
    · rcases List.mem_cons.mp hmem with rfl | hmem
      · have hno := (List.mem_filter.mp hin).2
        rw [hurl] at hno
        cases hno
      · rw [h₂ list' hmem] at hlist'
        cases hlist'
  | dropped hsplit hlist _ =>
    obtain ⟨h₁, h₂⟩ := h.others hsplit hlist
    refine iff_of_false ?_ (by simp)
    rintro ⟨list', hmem, hlist', -⟩
    rcases List.mem_append.mp hmem with hmem | hmem
    · rw [h₁ list' hmem] at hlist'
      cases hlist'
    · rw [h₂ list' hmem] at hlist'
      cases hlist'

/-- No carriage return in the group and the domain, if that is put in; otherwise none in the group
without its list, nor in the list without the entries of the domain, if there are others. -/
def StaysClean (wanted : String) (present : Bool) (e : Element) : Prop :=
  if present then e.Clean ∧ '\r' ∉ wanted.toList
  else Element.Clean { e with children := e.children.filter fun c => !isUrlList c } ∧
    ∀ list ∈ e.children, isUrlList list = true →
      list.children.filter (fun c => !isUrlEntry wanted c) ≠ [] →
        Element.Clean { list with children := list.children.filter fun c => !isUrlEntry wanted c }

lemma StaysClean.of_clean (he : e.Clean) (hw : '\r' ∉ wanted.toList) :
    StaysClean wanted present e := by
  unfold StaysClean
  split
  · exact ⟨he, hw⟩
  · refine ⟨he.with_children fun c hc => he.of_mem (List.mem_filter.mp hc).1, ?_⟩
    intro list hlist _ _
    have hclean := he.of_mem hlist
    exact hclean.with_children fun c hc => hclean.of_mem (List.mem_filter.mp hc).1

/-- The change of a group has no carriage return if what stays of it has none. -/
lemma UrlChange.clean_iff (h : OneUrlList e) (hc : UrlChange wanted e present sent) :
    sent.Clean ↔ StaysClean wanted present e := by
  -- taking the list out leaves the other children
  have hothers : ∀ {l₁ list l₂}, e.children = l₁ ++ list :: l₂ → isUrlList list = true →
      e.children.filter (fun c => !isUrlList c) = l₁ ++ l₂ := by
    intro l₁ list l₂ hsplit hlist
    obtain ⟨h₁, h₂⟩ := h.others hsplit hlist
    rw [hsplit, List.filter_append, List.filter_cons_of_neg (by simp [hlist]),
      List.filter_eq_self.mpr (by simpa using h₁), List.filter_eq_self.mpr (by simpa using h₂)]
  cases hc with
  | @appended l₁ list l₂ hsplit hlist =>
    rw [StaysClean, if_pos rfl, Element.clean_with_split_iff, Element.clean_concat_iff,
      Element.clean_leaf_iff, Element.clean_split_iff hsplit, and_assoc]
  | created hnone =>
    rw [StaysClean, if_pos rfl, Element.clean_concat_iff, Element.clean_new_singleton_iff,
      Element.clean_leaf_iff]
  | @removed l₁ list l₂ hsplit hlist hrest =>
    rw [StaysClean, if_neg (by decide), hothers hsplit hlist, Element.clean_with_split_iff,
      and_congr_right_iff]
    intro _
    constructor
    · intro hclean list' hmem hlist' _
      rwa [h.eq_of_mem hsplit hlist hmem hlist']
    · intro hclean
      exact hclean list (by simp [hsplit]) hlist hrest
  | @dropped l₁ list l₂ hsplit hlist hrest =>
    rw [StaysClean, if_neg (by decide), hothers hsplit hlist, iff_self_and]
    intro _ list' hmem hlist' hrest'
    rw [h.eq_of_mem hsplit hlist hmem hlist'] at hrest'
    exact absurd hrest hrest'

end Change

/-- What the closure makes of a group: it refuses a built-in one, leaves it alone if nothing has
to change, and otherwise changes the membership. -/
lemma changeUrls_cases (wanted group : String) (present : Bool) {e : Element} (h : OneUrlList e) :
    (¬ Editable e ∧ ∃ err, changeUrls group wanted present e = .error err ∧
      err.isSophosError = true) ∨
    (Editable e ∧ (HasUrl wanted e ↔ present = true) ∧
      changeUrls group wanted present e = .ok (none, false)) ∨
    (Editable e ∧ ¬ (HasUrl wanted e ↔ present = true) ∧ ∃ sent,
      changeUrls group wanted present e = .ok (some sent, true) ∧
        UrlChange wanted e present sent) := by
  unfold changeUrls
  by_cases hed : Editable e
  · refine .inr ?_
    have hif : ¬ lower ((childText e "IsDefault").getD "No") ≠ "no" := not_not.mpr hed
    rw [if_neg hif, ← urls_ne_nil_iff h]
    dsimp only
    cases present with
    | false =>
      rw [if_neg (by simp)]
      rcases hf : childCi e "URLlist" with _ | list
      · have hno : urls wanted e = [] := by simp only [urls, hf]
        exact .inl ⟨hed, by simp [hno], rfl⟩
      · by_cases hno : urls wanted e = []
        · exact .inl ⟨hed, by simp [hno], if_pos hno⟩
        · refine .inr ⟨hed, by simp [hno], ?_⟩
          rw [childCi_urlList] at hf
          obtain ⟨l₁, l₂, hsplit, hlist, -, hmap, herase⟩ := exists_split_of_find?_some hf
          dsimp only
          rw [if_neg hno, hmap, herase]
          by_cases hrest : (without (isUrlEntry wanted) list).children = []
          · exact ⟨_, if_pos hrest, .dropped hsplit hlist hrest⟩
          · exact ⟨_, if_neg hrest, .removed hsplit hlist hrest⟩
    | true =>
      rw [if_pos rfl]
      by_cases hno : urls wanted e = []
      · refine .inr ⟨hed, by simp [hno], ?_⟩
        rw [if_neg (not_not.mpr hno)]
        rcases hf : childCi e "URLlist" with _ | list
        · rw [childCi_urlList] at hf
          exact ⟨_, rfl, .created (by simpa using hf)⟩
        · rw [childCi_urlList] at hf
          obtain ⟨l₁, l₂, hsplit, hlist, -, hmap, -⟩ := exists_split_of_find?_some hf
          dsimp only
          rw [hmap]
          exact ⟨_, rfl, .appended hsplit hlist⟩
      · exact .inl ⟨hed, by simp [hno], if_pos hno⟩
  · exact .inl ⟨hed, _, if_pos hed, rfl⟩

/-! ### A firewall that applies, rejects or ignores a write -/

def urlGroupPaths : List (List String) := [["WebFilterURLGroup", "Status"]]

section Firewall

variable {S : Type} (c : SophosClient) (group : String) (serve : S → Request → S × HttpOutcome)
  (record : S → Element)

/-- A read changes nothing, and if it is answered, then with the group as it is. A write is
applied and confirmed, or not applied and not confirmed, or confirmed and not applied. -/
structure KeepsGroup : Prop where
  get_record : ∀ s, record (serve s (c.request (.get "WebFilterURLGroup"))).1 = record s
  get : ∀ s e, c.readRecord "WebFilterURLGroup" group
    (serve s (c.request (.get "WebFilterURLGroup"))).2 = .ok e → e = record s
  set : ∀ s sent,
    let x := serve s (c.request (.set "update" sent))
    (record x.1 = sent ∧ Accepted urlGroupPaths x.2) ∨
      (record x.1 = record s ∧ ¬ Accepted urlGroupPaths x.2) ∨
      (record x.1 = record s ∧ Accepted urlGroupPaths x.2)

/-- The reads of an operation were answered. -/
def ReadsAnswered (trace : List (Request × HttpOutcome)) : Prop :=
  ∀ x ∈ trace, x.1.isSet = false → ∃ e, c.readRecord "WebFilterURLGroup" group x.2 = .ok e

def NoWrite (trace : List (Request × HttpOutcome)) : Prop := ∀ x ∈ trace, x.1.isSet = false

/-- How `set_url_in_group` ended that found the group `e`. -/
structure TellsTruth (wanted : String) (present : Bool) (e : Element) (y : Ended S Bool) :
    Prop where
  builtIn : ¬ Editable e → NoWrite y.trace ∧ ∃ err, y.result = .error err
  unchanged : (HasUrl wanted e ↔ present = true) →
    NoWrite y.trace ∧ (Editable e → ReadsAnswered c group y.trace → y.result = .ok false)
  sent : ∀ x ∈ y.trace, x.1.isSet = true →
    ∃ sent, x.1 = c.request (.set "update" sent) ∧ UrlChange wanted e present sent
  once : (y.trace.filter fun x => x.1.isSet).length ≤ 1
  returned : ∀ r, y.result = .ok r → (r = true ↔ ¬ (HasUrl wanted e ↔ present = true))
  applied : ∀ r, y.result = .ok r → ReadsAnswered c group y.trace →
    (HasUrl wanted (record y.server) ↔ present = true)
  confirmed : ∀ sent a, (c.request (.set "update" sent), a) ∈ y.trace →
    Accepted urlGroupPaths a → record y.server = sent → ReadsAnswered c group y.trace →
    y.result = .ok true
  rejected : ∀ x ∈ y.trace, x.1.isSet = true → ¬ Accepted urlGroupPaths x.2 →
    ∃ err, y.result = .error err
  ignored : ∀ x ∈ y.trace, x.1.isSet = true → Accepted urlGroupPaths x.2 → record y.server = e →
    ReadsAnswered c group y.trace → ∃ err, y.result = .error err ∧ err.isSophosError = true

variable {c group serve record} {wanted : String} {present : Bool}

lemma tellsTruth_of_noWrite {e : Element} {y : Ended S Bool} (hno : NoWrite y.trace)
    (hbuiltIn : ¬ Editable e → ∃ err, y.result = .error err)
    (hunchanged : (HasUrl wanted e ↔ present = true) → Editable e →
      ReadsAnswered c group y.trace → y.result = .ok false)
    (hreturned : ∀ r, y.result = .ok r → r = false ∧ (HasUrl wanted e ↔ present = true) ∧
      record y.server = e) :
    TellsTruth c group record wanted present e y where
  builtIn h := ⟨hno, hbuiltIn h⟩
  unchanged h := ⟨hno, hunchanged h⟩
  sent x hx hset := by
    rw [hno x hx] at hset
    cases hset
  once := by
    have hnil : (y.trace.filter fun x => x.1.isSet) = [] := by
      rw [List.filter_eq_nil_iff]
      intro x hx
      simp [hno x hx]
    rw [hnil]
    exact Nat.zero_le 1
  returned r hr := by
    obtain ⟨rfl, hsame, -⟩ := hreturned r hr
    simp [hsame]
  applied r hr _ := by
    obtain ⟨-, hsame, hrecord⟩ := hreturned r hr
    rw [hrecord]
    exact hsame
  confirmed sent a hmem := by
    have hset := hno _ hmem
    cases hset
  rejected x hx hset := by
    rw [hno x hx] at hset
    cases hset
  ignored x hx hset := by
    rw [hno x hx] at hset
    cases hset

lemma noWrite_get (o : HttpOutcome) :
    NoWrite [(c.request (.get "WebFilterURLGroup"), o)] := by
  intro x hx
  obtain rfl := List.mem_singleton.mp hx
  rfl

lemma tellsTruth_of_set {e sent : Element} {o a : HttpOutcome} {t : S} {res : Except PyExc Bool}
    {rest : List (Request × HttpOutcome)} (hed : Editable e)
    (hdiff : ¬ (HasUrl wanted e ↔ present = true)) (hc : UrlChange wanted e present sent)
    (hrest : NoWrite rest) (hreturned : ∀ r, res = .ok r → r = true)
    (happlied : ∀ r, res = .ok r → ReadsAnswered c group rest →
      (HasUrl wanted (record t) ↔ present = true))
    (hconfirmed : Accepted urlGroupPaths a → record t = sent → ReadsAnswered c group rest →
      res = .ok true)
    (hrejected : ¬ Accepted urlGroupPaths a → ∃ err, res = .error err)
    (hignored : Accepted urlGroupPaths a → record t = e → ReadsAnswered c group rest →
      ∃ err, res = .error err ∧ err.isSophosError = true) :
    TellsTruth c group record wanted present e
      ⟨t, res, (c.request (.get "WebFilterURLGroup"), o) ::
        (c.request (.set "update" sent), a) :: rest⟩ := by
  have hset : ∀ x ∈ (c.request (.get "WebFilterURLGroup"), o) ::
      (c.request (.set "update" sent), a) :: rest, x.1.isSet = true →
      x = (c.request (.set "update" sent), a) := by
    intro x hx hset
    rcases List.mem_cons.mp hx with rfl | hx
    · cases hset
    · rcases List.mem_cons.mp hx with rfl | hx
      · rfl
      · rw [hrest x hx] at hset
        cases hset
  have hanswered : ReadsAnswered c group ((c.request (.get "WebFilterURLGroup"), o) ::
      (c.request (.set "update" sent), a) :: rest) → ReadsAnswered c group rest := by
    intro h x hx
    exact h x (List.mem_cons_of_mem _ (List.mem_cons_of_mem _ hx))
  constructor
  · intro h
    exact absurd hed h
  · intro h
    exact absurd h hdiff
  · intro x hx h
    obtain rfl := hset x hx h
    exact ⟨sent, rfl, hc⟩
  · have hnil : (rest.filter fun x => x.1.isSet) = [] := by
      rw [List.filter_eq_nil_iff]
      intro x hx
      simp [hrest x hx]
    have hget : (c.request (.get "WebFilterURLGroup")).isSet = false := rfl
    have hset' : (c.request (.set "update" sent)).isSet = true := rfl
    simp [hnil, hget, hset']
  · intro r hr
    obtain rfl := hreturned r hr
    simp [hdiff]
  · intro r hr hans
    exact happlied r hr (hanswered hans)
  · intro sent' a' hmem hacc hsame hans
    obtain ⟨⟨rfl⟩, rfl⟩ := Prod.mk.inj (hset _ hmem rfl)
    exact hconfirmed hacc hsame (hanswered hans)
  · intro x hx h hno
    obtain rfl := hset x hx h
    exact hrejected hno
  · intro x hx h hacc hsame hans
    obtain rfl := hset x hx h
    exact hignored hacc hsame (hanswered hans)

lemma verify_iff {e : Element} (h : OneUrlList e) :
    (decide (urls wanted e ≠ []) == present) = true ↔ (HasUrl wanted e ↔ present = true) := by
  rw [beq_iff_eq, ← urls_ne_nil_iff h, Bool.eq_iff_iff, decide_eq_true_eq]

lemma tellsTruth_of_rejected {e sent : Element} {o a : HttpOutcome} {t : S} (err : PyExc)
    (hed : Editable e) (hdiff : ¬ (HasUrl wanted e ↔ present = true))
    (hc : UrlChange wanted e present sent) (hno : ¬ Accepted urlGroupPaths a) :
    TellsTruth c group record wanted present e
      ⟨t, .error err, [(c.request (.get "WebFilterURLGroup"), o),
        (c.request (.set "update" sent), a)]⟩ := by
  refine tellsTruth_of_set hed hdiff hc ?_ ?_ ?_ ?_ (fun _ => ⟨err, rfl⟩) ?_
  · intro x hx
    cases hx
  · intro r hr
    cases hr
  · intro r hr
    cases hr
  · intro hacc
    exact absurd hacc hno
  · intro hacc
    exact absurd hacc hno

lemma tellsTruth_of_reading {e sent : Element} {o a b : HttpOutcome} {t : S} (hed : Editable e)
    (hdiff : ¬ (HasUrl wanted e ↔ present = true)) (hc : UrlChange wanted e present sent)
    (hsent : HasUrl wanted sent ↔ present = true) (hacc : Accepted urlGroupPaths a)
    (hone : OneUrlList (record t))
    (hread : ∀ e', c.readRecord "WebFilterURLGroup" group b = .ok e' → e' = record t) :
    TellsTruth c group record wanted present e
      ⟨t, SophosClient.verdict "WebFilterURLGroup" group
          (fun e => decide (urls wanted e ≠ []) == present) true
          (c.readRecord "WebFilterURLGroup" group b),
        [(c.request (.get "WebFilterURLGroup"), o), (c.request (.set "update" sent), a),
          (c.request (.get "WebFilterURLGroup"), b)]⟩ := by
  have hrest : NoWrite [(c.request (.get "WebFilterURLGroup"), b)] := noWrite_get b
  rcases hr : c.readRecord "WebFilterURLGroup" group b with err | after
  · -- nobody knows what became of the group; the call trusts the confirmation
    have hnot : ¬ ReadsAnswered c group [(c.request (.get "WebFilterURLGroup"), b)] := by
      intro h
      obtain ⟨e, he⟩ := h _ (List.mem_singleton_self _) rfl
      rw [hr] at he
      cases he
    refine tellsTruth_of_set hed hdiff hc hrest ?_ ?_ ?_ ?_ ?_
    · intro r hres
      unfold SophosClient.verdict at hres
      dsimp only at hres
      split at hres
      · exact (Except.ok.inj hres).symm
      · cases hres
    · intro _ _ h
      exact absurd h hnot
    · intro _ _ h
      exact absurd h hnot
    · intro hno
      exact absurd hacc hno
    · intro _ _ h
      exact absurd h hnot
  · obtain rfl := hread after hr
    by_cases hv : HasUrl wanted (record t) ↔ present = true
    · have hver := (verify_iff hone).mpr hv
      rw [SophosClient.verdict, if_pos hver]
      refine tellsTruth_of_set hed hdiff hc hrest ?_ ?_ ?_ ?_ ?_
      · rintro _ ⟨⟩
        rfl
      · intro _ _ _
        exact hv
      · intro _ _ _
        rfl
      · intro hno
        exact absurd hacc hno
      · intro _ hsame
        rw [hsame] at hv
        exact absurd hv hdiff
    · have hver := mt (verify_iff hone).mp hv
      rw [SophosClient.verdict, if_neg hver]
      refine tellsTruth_of_set hed hdiff hc hrest ?_ ?_ ?_ ?_ ?_
      · intro r hres
        cases hres
      · intro r hres
        cases hres
      · intro _ hsame
        rw [hsame] at hv
        exact absurd hsent hv
      · intro hno
        exact absurd hacc hno
      · intro _ _ _
        exact ⟨_, rfl, rfl⟩

lemma tellsTruth_of_write (hk : KeepsGroup c group serve record) {s : S} {sent : Element}
    (hone : OneUrlList (record s)) (hed : Editable (record s))
    (hdiff : ¬ (HasUrl wanted (record s) ↔ present = true))
    (hc : UrlChange wanted (record s) present sent) (hclean : sent.Clean)
    (hw : lower (strip wanted) = wanted) (o : HttpOutcome) :
    let y := c.writeBack serve "WebFilterURLGroup" group
      (some fun e => decide (urls wanted e ≠ []) == present) sent true s
    TellsTruth c group record wanted present (record s)
      ⟨y.server, y.result, (c.request (.get "WebFilterURLGroup"), o) :: y.trace⟩ := by
  intro y
  have hset := hk.set s sent
  have hcases := c.writeBack_cases serve "WebFilterURLGroup" group
    (fun e => decide (urls wanted e ≠ []) == present) sent true s
  rw [Element.received_eq_self_iff.mpr hclean] at hcases
  set x := serve s (c.request (.set "update" sent)) with hx
  rcases hcases with ⟨hno, err, hy⟩ | ⟨hacc, hy⟩
  · rw [show y = _ from hy]
    exact tellsTruth_of_rejected err hed hdiff hc hno
  · rw [show y = _ from hy]
    have hkeep := hk.get_record x.1
    have hone' : OneUrlList (record x.1) := by
      rcases hset with ⟨h, -⟩ | ⟨h, -⟩ | ⟨h, -⟩
      · rw [h]
        exact hc.oneUrlList hone
      · rwa [h]
      · rwa [h]
    refine tellsTruth_of_reading hed hdiff hc (hc.hasUrl hone hw) hacc ?_ fun e' he' => ?_
    · rwa [hkeep]
    · rw [hkeep]
      exact hk.get x.1 e' he'

/-- If the group is read and its membership has to change, no carriage return is lost. -/
def WritesClean (c : SophosClient) (group wanted : String) (present : Bool) (e : Element)
    (read : HttpOutcome) : Prop :=
  (∃ e, c.readRecord "WebFilterURLGroup" group read = .ok e) → Editable e →
    ¬ (HasUrl wanted e ↔ present = true) → StaysClean wanted present e

/-- **When `set_url_in_group` tells the truth and changes only the membership.** Take a firewall
that keeps the group, and a group with at most one list of domains. A built-in group is refused
before any write. If nothing has to change, nothing is written and the result is `False`. What is
sent, in one write at most, is the group as read but for one entry more or the entries of the
domain less. A call that returns says whether the membership was different before, and if its
reads were answered, the group has the domain or not as wanted; a write that was confirmed but not
applied raises. All this is so exactly if, where the membership has to change, there is no carriage
return in the group but for the entries that are taken out, nor in the domain that is put in. -/
theorem set_url_in_group_tells_truth_iff (hk : KeepsGroup c group serve record) (url : String)
    (present : Bool) (s : S) (hone : OneUrlList (record s)) :
    TellsTruth c group record (lower (strip url)) present (record s)
      ((c.setUrlInGroup group url present).exec serve s) ↔
    WritesClean c group (lower (strip url)) present (record s)
      (serve s (c.request (.get "WebFilterURLGroup"))).2 := by
  have hw : lower (strip (lower (strip url))) = lower (strip url) := by simp
  generalize hwanted : lower (strip url) = wanted at hw
  have hkeep := hk.get_record s
  have hget := hk.get s
  rw [SophosClient.setUrlInGroup, hwanted, SophosClient.modifyRecord, exec_withSlot,
    SophosClient.exec_modifyRecordHeld]
  dsimp only
  generalize hx : serve s (c.request (.get "WebFilterURLGroup")) = x at hkeep hget ⊢
  have hno : NoWrite [(c.request (.get "WebFilterURLGroup"), x.2)] := noWrite_get x.2
  rcases hr : c.readRecord "WebFilterURLGroup" group x.2 with err | e
  · refine iff_of_true (tellsTruth_of_noWrite hno (fun _ => ⟨err, rfl⟩) ?_ nofun) ?_
    · intro _ _ hans
      obtain ⟨e, he⟩ := hans _ (List.mem_singleton_self _) rfl
      rw [hr] at he
      cases he
    · rintro ⟨e, he⟩
      rw [hr] at he
      cases he
  · obtain rfl := hget e hr
    rcases changeUrls_cases wanted group present hone with
      ⟨hed, err, hch, -⟩ | ⟨hed, hsame, hch⟩ | ⟨hed, hdiff, sent, hch, hc⟩
    · simp only [Except.bind, hch]
      refine iff_of_true (tellsTruth_of_noWrite hno (fun _ => ⟨err, rfl⟩) ?_ nofun) ?_
      · intro _ h
        exact absurd h hed
      · intro _ h
        exact absurd h hed
    · simp only [Except.bind, hch]
      refine iff_of_true
        (tellsTruth_of_noWrite hno (fun h => absurd hed h) (fun _ _ _ => rfl) ?_) ?_
      · rintro _ ⟨⟩
        exact ⟨rfl, hsame, hkeep⟩
      · intro _ _ h
        exact absurd hsame h
    · simp only [Except.bind, hch]
      constructor
      · intro h _ _ _
        rw [← hc.clean_iff hone]
        -- what was sent is the one change there is
        obtain ⟨o, ho⟩ := c.mem_trace_writeBack serve "WebFilterURLGroup" group
          (some fun e => decide (urls wanted e ≠ []) == present) sent true x.1
        obtain ⟨sent', hsent, hc'⟩ := h.sent _ (List.mem_cons_of_mem _ ho) rfl
        obtain rfl : sent.received = sent' := by simpa [SophosClient.request] using hsent
        exact Element.received_eq_self_iff.mp (hc'.unique hone hc)
      · intro h
        have hclean := (hc.clean_iff hone).mpr (h ⟨_, hr⟩ hed hdiff)
        rw [← hkeep] at hone hed hdiff hc ⊢
        exact tellsTruth_of_write hk hone hed hdiff hc hclean hw x.2

end Firewall

def urlConfirmation : Element :=
  .new "Response" none [.new "WebFilterURLGroup" none
    [⟨"Status", .single "code" "200", some "Configuration applied", none, []⟩]]

/-- It applies every write, and answers a read with the group if there is no other in it. -/
def urlFirewall (e : Element) (r : Request) : Element × HttpOutcome :=
  match r.operation with
  | .set _ sent => (sent, .answer 200 (.document urlConfirmation))
  | _ =>
    if e.tag = "WebFilterURLGroup" ∧ e.children.flatMap (Element.iter "WebFilterURLGroup") = [] then
      (e, .answer 200 (.document (.new "Response" none [e])))
    else (e, .timeout)

lemma keepsGroup_urlFirewall (c : SophosClient) (group : String) :
    KeepsGroup c group urlFirewall id where
  get_record e := by
    unfold urlFirewall
    dsimp only [SophosClient.request]
    split <;> rfl
  get e e' h := by
    unfold urlFirewall at h
    dsimp only [SophosClient.request] at h
    split at h
    · next hflat =>
      obtain ⟨htag, hnested⟩ := hflat
      have hiter : (Element.new "Response" none [e]).iter "WebFilterURLGroup" = [e] := by
        simp [Element.iter_eq, Element.new, htag, hnested]
      rcases hr : c.readAnswer (.answer 200 (.document (.new "Response" none [e]))) with err | root
      · rw [SophosClient.readRecord, hr] at h
        cases h
      · obtain ⟨_, ⟨⟩, -⟩ := c.readAnswer_ok_iff.mp hr
        rw [SophosClient.readRecord, hr] at h
        change SophosClient.scanRecords _ _ ((Element.new "Response" none [e]).iter _) none = _ at h
        rw [hiter] at h
        exact List.mem_singleton.mp (SophosClient.mem_of_scanRecords h)
    · cases h
  set e sent := by
    refine .inl ⟨rfl, 200, urlConfirmation, rfl, .inl rfl, ?_, ?_, ?_⟩
    · intro e h
      cases h
    · intro e h
      cases h
    · exact ⟨_, rfl, by decide⟩

/-- A domain that is in the group twice, once with a carriage return, and is taken out of it. -/
theorem set_url_in_group_tells_truth_iff_duplicate :
    let c : SophosClient := ⟨"fw", 4444, "admin", "secret"⟩
    let group : Element := .new "WebFilterURLGroup" none [.new "Name" (some "Ads") [],
      .new "URLList" none
        [.new "URL" (some " Example.com\r") [], .new "url" (some "example.com") []]]
    let y := (c.setUrlInGroup "Ads" "example.COM" false).exec urlFirewall group
    (∀ x ∈ y.trace, x.1.isSet = true → ∃ sent, x.1 = c.request (.set "update" sent) ∧
      UrlChange "example.com" group false sent) ∧
    ∀ r, y.result = .ok r → r = true := by
  intro c group y
  have hone : OneUrlList group := by
    unfold OneUrlList
    decide
  have hiff := set_url_in_group_tells_truth_iff (keepsGroup_urlFirewall c "Ads") "example.COM" false
    group hone
  rw [show lower (strip "example.COM") = "example.com" by decide] at hiff
  have hin : HasUrl "example.com" group := by
    refine ⟨_, .tail _ (.head _), by decide, _, .head _, by decide⟩
  have hdropped : UrlChange "example.com" group false
      { group with children := [.new "Name" (some "Ads") []] ++ [] } :=
    .dropped rfl (by decide) (List.filter_eq_nil_iff.mpr (by decide))
  have h := hiff.mpr fun _ _ _ => (hdropped.clean_iff hone).mp (by decide)
  exact ⟨h.sent, fun r hr => (h.returned r hr).mpr (by simp [hin])⟩

/-- A group whose description has a carriage return is sent with a line feed there. -/
theorem group_sent_with_line_feed :
    let c : SophosClient := ⟨"fw", 4444, "admin", "secret"⟩
    let group : Element := .new "WebFilterURLGroup" none [.new "Name" (some "Ads") [],
      .new "Description" (some "a\rb") []]
    let sent : Element := .new "WebFilterURLGroup" none [.new "Name" (some "Ads") [],
      .new "Description" (some "a\nb") [],
      .new "URLlist" none [.new "URL" (some "example.com") []]]
    let y := (c.setUrlInGroup "Ads" "example.com" true).exec urlFirewall group
    KeepsGroup c "Ads" urlFirewall id ∧ OneUrlList group ∧
      (y.trace.map Prod.fst)[1]? = some (c.request (.set "update" sent)) ∧
      ¬ TellsTruth c "Ads" id "example.com" true group y := by
  intro c group sent y
  have hone : OneUrlList group := by
    unfold OneUrlList
    decide
  have htrace : (y.trace.map Prod.fst)[1]? = some (c.request (.set "update" sent)) := by rfl
  refine ⟨keepsGroup_urlFirewall c "Ads", hone, htrace, fun h => ?_⟩
  obtain ⟨x, hx, hset⟩ := List.mem_map.mp (List.mem_of_getElem? htrace)
  obtain ⟨sent', hsent, hc⟩ := h.sent x hx (by rw [hset]; rfl)
  obtain rfl : sent = sent' := by simpa [SophosClient.request] using hset.symm.trans hsent
  have hcreated : UrlChange "example.com" group true { group with
      children := group.children ++ [.new "URLlist" none [.new "URL" (some "example.com") []]] } :=
    .created (by decide)
  have hsame := congrArg (fun e => e.findtext "Description") (hc.unique hone hcreated)
  exact absurd hsame (by decide)

end SophosFw.Client
