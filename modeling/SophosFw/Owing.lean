import SophosFw.CycleRun
import SophosFw.Sources

/-!
An endpoint that owes a fetch is due.

What an endpoint owes is read off a log of the cycles and the invalidations: it owes a fetch
from the start on, after an attempt that failed or that a cycle threw away, and after every
invalidation. The fetch is paid by a cycle that started later, returned, and was not overtaken
by an invalidation.
-/

namespace SophosFw.Coordinator

open SophosFw.PyDict SophosFw.Runs

variable {V σ : Type} {c : SophosCoordinator V σ}

inductive LogEntry (V : Type)
  | started
  | invalidated (keys : List String)
  /-- The running cycle is over: what it tried, and whether it returned data. -/
  | ended (attempts : List (String × Result V)) (returned : Bool)

/-- A coordinator with the log of what happened to it, oldest first. -/
structure Logged (c : SophosCoordinator V σ) where
  sys : Sys c
  log : List (LogEntry V)

namespace Logged

def init (c : SophosCoordinator V σ) (clock : ℚ) : Logged c := ⟨.init c clock, []⟩

/-- What an event that leads from `y` to `y'` is logged as. -/
def entries (y y' : Sys c) : Event V → List (LogEntry V)
  | .tick _ => []
  | .start _ => if y'.running.isSome then [.started] else [.started, .ended [] true]
  | .invalidate keys => [.invalidated keys]
  | .finish attempt =>
    match y.running with
    | none => []
    | some plan =>
      [.ended (y.finishRecord plan attempt).attempts (y.finishRecord plan attempt).returned]

def step (l : Logged c) (e : Event V) : Option (Logged c) :=
  (l.sys.step e).map fun y => ⟨y, l.log ++ entries l.sys y e⟩

lemma step_cases {l l' : Logged c} {e : Event V} (h : l.step e = some l') :
    (∃ now, l.sys.clock ≤ now ∧ l' = ⟨{ l.sys with clock := now }, l.log⟩) ∨
    (∃ restrictTo, c.beginUpdate l.sys.state restrictTo l.sys.clock = none ∧
      l.sys.running = none ∧
      l' = ⟨{ l.sys with
          state := l.sys.state.idleCycle, history := l.sys.history ++ [l.sys.idleRecord] },
        l.log ++ [.started, .ended [] true]⟩) ∨
    (∃ restrictTo plan, c.beginUpdate l.sys.state restrictTo l.sys.clock = some plan ∧
      l' = ⟨{ l.sys with running := some plan }, l.log ++ [.started]⟩) ∨
    (∃ keys, l' = ⟨{ l.sys with state := l.sys.state.invalidate keys },
      l.log ++ [.invalidated keys]⟩) ∨
    (∃ attempt plan, l.sys.running = some plan ∧ l' = ⟨l.sys.finish plan attempt,
      l.log ++ [.ended (c.collect plan attempt).attempts
        (c.endCycle l.sys.state plan attempt l.sys.clock).lastUpdateSuccess]⟩) := by
  obtain ⟨y, hy, rfl⟩ := Option.map_eq_some_iff.mp h
  rcases Sys.step_cases hy with ⟨now, rfl, hn, rfl⟩ | ⟨restrictTo, rfl, hidle, -, hb⟩ |
    ⟨keys, rfl, rfl⟩ | ⟨attempt, plan, rfl, hp, rfl⟩
  · exact .inl ⟨now, hn, by simp [entries]⟩
  · rcases hb with ⟨hb, rfl⟩ | ⟨plan, hb, rfl⟩
    · exact .inr (.inl ⟨restrictTo, hb, hidle, by simp [entries, hidle]⟩)
    · exact .inr (.inr (.inl ⟨restrictTo, plan, hb, by simp [entries]⟩))
  · exact .inr (.inr (.inr (.inl ⟨keys, rfl⟩)))
  · exact .inr (.inr (.inr (.inr ⟨attempt, plan, hp, by simp [entries, hp, Sys.finishRecord]⟩)))

end Logged

/-- From the end of this log on, the endpoint owes a fetch: it was never fetched, its last
attempt failed, the cycle of its last successful fetch raised, or it was invalidated. -/
inductive LeavesOwing (key : String) : List (LogEntry V) → Prop
  | never : LeavesOwing key []
  | failed (log : List (LogEntry V)) {attempts : List (String × Result V)} {r : Result V}
      (returned : Bool) (h : lastAttempt attempts key = some r) (hr : ∀ v, r ≠ .value v) :
      LeavesOwing key (log ++ [.ended attempts returned])
  | raised (log : List (LogEntry V)) {attempts : List (String × Result V)} {v : V}
      (h : lastAttempt attempts key = some (.value v)) :
      LeavesOwing key (log ++ [.ended attempts false])
  | invalidated (log : List (LogEntry V)) {keys : List String} (h : key ∈ keys) :
      LeavesOwing key (log ++ [.invalidated keys])

/-- A cycle that began with the last `started` is still running, and the endpoint was not
invalidated meanwhile. -/
def Undisturbed (key : String) (since : List (LogEntry V)) : Prop :=
  ∃ before between, since = before ++ .started :: between ∧
    ∀ x ∈ between, ∃ keys, x = .invalidated keys ∧ key ∉ keys

/-- A cycle that started in this part of the log fetched the endpoint, returned, and saw no
invalidation of it. -/
def Repaid (key : String) (since : List (LogEntry V)) : Prop :=
  ∃ during attempts after v, since = during ++ .ended attempts true :: after ∧
    Undisturbed key during ∧ lastAttempt attempts key = some (.value v)

lemma Repaid.append {key : String} {since : List (LogEntry V)} (h : Repaid key since)
    (more : List (LogEntry V)) : Repaid key (since ++ more) := by
  obtain ⟨during, attempts, after, v, rfl, hu, hv⟩ := h
  exact ⟨during, attempts, after ++ more, v, by simp, hu, hv⟩

lemma Undisturbed.invalidated {key : String} {since : List (LogEntry V)}
    (h : Undisturbed key since) {keys : List String} (hk : key ∉ keys) :
    Undisturbed key (since ++ [.invalidated keys]) := by
  obtain ⟨before, between, rfl, hb⟩ := h
  refine ⟨before, between ++ [.invalidated keys], by simp, fun x hx => ?_⟩
  rcases List.mem_append.mp hx with hx | hx
  · exact hb x hx
  · obtain rfl := List.mem_singleton.mp hx
    exact ⟨keys, rfl, hk⟩

/-! ### What is due -/

/-- The endpoint is due by its schedule. -/
def Overdue (y : Sys c) (key : String) : Prop :=
  ∀ ep ∈ c.endpoints, ep.key = key → y.state.scheduler.isDue key ep.tier y.clock = true

namespace Overdue

variable {y : Sys c} {key : String}

lemma tick {now : ℚ} (h : Overdue y key) (hn : y.clock ≤ now) :
    Overdue { y with clock := now } key := fun ep hep hk =>
  TierScheduler.isDue_mono (h ep hep hk) hn

lemma invalidate (h : Overdue y key) (keys : List String) :
    Overdue { y with state := y.state.invalidate keys } key := fun ep hep hk =>
  y.state.invalidate_isDue keys (h ep hep hk)

lemma finish {plan : Plan c} {attempt : ℕ → String → Result V} (h : Overdue y key)
    (hl : (c.endCycle y.state plan attempt y.clock).scheduler.last key =
      y.state.scheduler.last key) :
    Overdue (y.finish plan attempt) key := fun ep hep hk => by
  obtain ⟨-, hi, ht⟩ := endCycle_frame y.state plan y.clock attempt
  exact (TierScheduler.isDue_congr ep.tier y.clock hi ht hl).trans (h ep hep hk)

lemma of_last_none (h : y.state.scheduler.last key = none) : Overdue y key := fun ep _ _ => by
  unfold TierScheduler.isDue
  rw [h]

lemma isDue {ep : Endpoint} (h : Overdue y ep.key) (hep : ep ∈ c.endpoints)
    (hen : c.endpointEnabled y.state ep.key = true) : c.isDue y.state y.clock ep = true := by
  unfold SophosCoordinator.isDue
  rw [hen, h ep hep rfl]
  rfl

end Overdue

/-- While a cycle runs, what it planned for is due, and the generations have only advanced. -/
structure PlanInv (y : Sys c) : Prop where
  planned : ∀ plan, y.running = some plan → ∀ ep ∈ plan.due ++ plan.later, Overdue y ep.key
  generation : ∀ plan, y.running = some plan → ∀ key,
    (plan.generation key).getD 0 ≤ y.state.invalidations key

lemma planInv_init (clock : ℚ) : PlanInv (Sys.init c clock) := ⟨nofun, nofun⟩

lemma Overdue.of_planned {y : Sys c} {restrictTo : Option (List String)} {plan : Plan c}
    (hb : c.beginUpdate y.state restrictTo y.clock = some plan) {ep : Endpoint}
    (hep : ep ∈ plan.due ++ plan.later) : Overdue y ep.key := fun ep' hep' hk => by
  obtain ⟨hmem, hdue⟩ := (beginUpdate_mem hb ep).mp hep
  obtain rfl : ep' = ep := List.inj_on_of_nodup_map c.keys_nodup hep' hmem hk
  unfold SophosCoordinator.isDue at hdue
  rw [Bool.and_eq_true] at hdue
  exact hdue.2

namespace Logged

variable {l l' : Logged c} {e : Event V} {key : String}

lemma planInv_step (hi : PlanInv l.sys) (h : l.step e = some l') : PlanInv l'.sys := by
  rcases step_cases h with ⟨now, hn, rfl⟩ | ⟨restrictTo, hb, hidle, rfl⟩ |
    ⟨restrictTo, plan, hb, rfl⟩ | ⟨keys, rfl⟩ | ⟨attempt, plan, hp, rfl⟩
  · exact ⟨fun plan hp ep hep => (hi.planned plan hp ep hep).tick hn, hi.generation⟩
  · constructor <;> intro plan hp <;> rw [show l.sys.running = some plan from hp] at hidle <;>
      cases hidle
  · refine ⟨fun plan' hp ep hep => ?_, fun plan' hp key => ?_⟩ <;>
      obtain rfl := Option.some.inj hp
    · exact Overdue.of_planned hb hep
    · exact (congrArg (fun g => (g key).getD 0) (beginUpdate_some hb).2.1).le
  · refine ⟨fun plan hp ep hep => (hi.planned plan hp ep hep).invalidate keys,
      fun plan hp key => ?_⟩
    dsimp only
    rw [State.invalidations_invalidate]
    exact (hi.generation plan hp key).trans (Nat.le_add_right _ _)
  · exact ⟨nofun, nofun⟩

/-- What a log says is owed is due, and no running cycle will count a fetch for it. -/
structure Owing (key : String) (l : Logged c) : Prop where
  overdue : Overdue l.sys key
  overtaken : ∀ plan, l.sys.running = some plan →
    (plan.generation key).getD 0 < l.sys.state.invalidations key

/-- Nothing has started before the first entry of the log. -/
structure OwingInv (l : Logged c) : Prop where
  plan : PlanInv l.sys
  blank : l.log = [] → l.sys.running = none ∧ ∀ key, l.sys.state.scheduler.last key = none
  owing : ∀ key, LeavesOwing key l.log → Owing key l

lemma owingInv_init (clock : ℚ) : OwingInv (init c clock) where
  plan := planInv_init clock
  blank _ := ⟨rfl, fun _ => rfl⟩
  owing _ _ := ⟨.of_last_none rfl, nofun⟩

lemma leavesOwing_snoc {log : List (LogEntry V)} {x : LogEntry V}
    (h : LeavesOwing key (log ++ [x])) :
    (∃ attempts returned r, x = .ended attempts returned ∧ lastAttempt attempts key = some r ∧
      (returned = true → ∀ v, r ≠ .value v)) ∨
    ∃ keys, x = .invalidated keys ∧ key ∈ keys := by
  generalize hlog : log ++ [x] = log' at h
  cases h with
  | never => simp at hlog
  | @failed _ attempts r returned h hr =>
    obtain ⟨-, hx⟩ := List.append_inj' hlog rfl
    exact .inl ⟨attempts, returned, r, List.singleton_inj.mp hx, h, fun _ => hr⟩
  | @raised _ attempts v h =>
    obtain ⟨-, hx⟩ := List.append_inj' hlog rfl
    exact .inl ⟨attempts, false, .value v, List.singleton_inj.mp hx, h, nofun⟩
  | @invalidated _ keys h =>
    obtain ⟨-, hx⟩ := List.append_inj' hlog rfl
    exact .inr ⟨keys, List.singleton_inj.mp hx, h⟩

lemma OwingInv.step (hi : OwingInv l) (h : l.step e = some l') : OwingInv l' := by
  refine ⟨planInv_step hi.plan h, ?_, ?_⟩ <;>
    rcases step_cases h with ⟨now, hn, rfl⟩ | ⟨restrictTo, hb, hidle, rfl⟩ |
      ⟨restrictTo, plan, hb, rfl⟩ | ⟨keys, rfl⟩ | ⟨attempt, plan, hp, rfl⟩
  · exact hi.blank
  · simp
  · simp
  · simp
  · simp
  · intro key howes
    obtain ⟨hdue, hover⟩ := hi.owing key howes
    exact ⟨hdue.tick hn, hover⟩
  · intro key howes
    have hlog : l.log ++ [.started, .ended [] true] =
        l.log ++ [.started] ++ [.ended [] true] := List.append_cons ..
    rcases leavesOwing_snoc (hlog ▸ howes) with ⟨attempts, returned, r, hx, hr, -⟩ | ⟨keys, hx, -⟩
    · cases hx
      cases hr
    · cases hx
  · intro key howes
    rcases leavesOwing_snoc howes with ⟨attempts, returned, r, hx, -⟩ | ⟨keys, hx, -⟩ <;> cases hx
  · intro key howes
    rcases leavesOwing_snoc howes with ⟨attempts, returned, r, hx, -⟩ | ⟨keys', hx, hk⟩
    · cases hx
    · cases hx
      refine ⟨.of_last_none ((State.invalidate_last ..).trans (if_pos hk)), fun plan hp => ?_⟩
      dsimp only
      rw [State.invalidations_invalidate]
      have hle := hi.plan.generation plan hp key
      have hpos : 0 < keys.count key := List.count_pos_iff.mpr hk
      omega
  · intro key howes
    rcases leavesOwing_snoc howes with ⟨attempts, returned, r, hx, hr, hno⟩ | ⟨keys, hx, -⟩
    · cases hx
      -- it was tried, so it was planned for, and its fetch does not count
      have hmem := collect_attempts plan attempt _ (mem_of_lastAttempt hr)
      obtain ⟨ep, hep, hkey⟩ := List.mem_map.mp hmem
      have hdue : Overdue l.sys key := by
        rw [← show ep.key = key from hkey]
        exact hi.plan.planned plan hp ep hep
      refine ⟨hdue.finish ?_, nofun⟩
      rcases endCycle_counts l.sys.state plan l.sys.clock attempt key with
        ⟨⟨v, hv⟩, hret, -⟩ | ⟨hlast, -⟩
      · rw [hr] at hv
        exact absurd (Option.some.inj hv) (hno hret v)
      · exact hlast
    · cases hx

/-- The fetch is still owed: the endpoint is due, its stamp has not moved, and a cycle that runs
counts no fetch for it unless it started after the debt and was not disturbed. -/
structure Unpaid (key : String) (stamp : Option ℚ) (since : List (LogEntry V)) (l : Logged c) :
    Prop where
  overdue : Overdue l.sys key
  fetchedAt : l.sys.state.fetchedAt key = stamp
  running : ∀ plan, l.sys.running = some plan →
    (plan.generation key).getD 0 < l.sys.state.invalidations key ∨
    (plan.generation key = l.sys.state.generation key ∧ Undisturbed key since)

lemma Owing.unpaid (h : Owing key l) : Unpaid key (l.sys.state.fetchedAt key) [] l :=
  ⟨h.overdue, rfl, fun plan hp => .inl (h.overtaken plan hp)⟩

lemma Unpaid.step {stamp : Option ℚ} {since : List (LogEntry V)} (hi : Unpaid key stamp since l)
    (h : l.step e = some l') :
    ∃ more, l'.log = l.log ++ more ∧
      (¬ Repaid key (since ++ more) → Unpaid key stamp (since ++ more) l') := by
  rcases step_cases h with ⟨now, hn, rfl⟩ | ⟨restrictTo, hb, hidle, rfl⟩ |
    ⟨restrictTo, plan, hb, rfl⟩ | ⟨keys, rfl⟩ | ⟨attempt, plan, hp, rfl⟩
  · refine ⟨[], by simp, fun _ => ?_⟩
    rw [List.append_nil]
    exact ⟨hi.overdue.tick hn, hi.fetchedAt, hi.running⟩
  · refine ⟨_, rfl, fun _ => ⟨hi.overdue, hi.fetchedAt, fun plan hp => ?_⟩⟩
    rw [show l.sys.running = some plan from hp] at hidle
    cases hidle
  · refine ⟨_, rfl, fun _ => ⟨hi.overdue, hi.fetchedAt, fun plan' hp => .inr ?_⟩⟩
    obtain rfl := Option.some.inj hp
    exact ⟨congrFun (beginUpdate_some hb).2.1 key, since, [], rfl, nofun⟩
  · refine ⟨_, rfl, fun _ => ⟨hi.overdue.invalidate keys, ?_, fun plan hp => ?_⟩⟩ <;> dsimp only
    · rw [State.invalidate_fetchedAt]
      exact hi.fetchedAt
    · rw [State.invalidations_invalidate]
      by_cases hk : key ∈ keys
      · have hpos : 0 < keys.count key := List.count_pos_iff.mpr hk
        left
        rcases hi.running plan hp with hlt | ⟨heq, -⟩
        · omega
        · rw [heq]
          exact Nat.lt_add_of_pos_right hpos
      · rcases hi.running plan hp with hlt | ⟨heq, hu⟩
        · exact .inl (hlt.trans_le (Nat.le_add_right _ _))
        · exact .inr ⟨heq.trans (State.invalidate_generation _ hk).symm, hu.invalidated hk⟩
  · refine ⟨_, rfl, fun hno => ?_⟩
    -- the cycle ends: if it counted the fetch, it would have paid
    rcases endCycle_counts l.sys.state plan l.sys.clock attempt key with
      ⟨⟨v, hv⟩, hret, hgen, -⟩ | ⟨hlast, hfetched⟩
    · rcases hi.running plan hp with hlt | ⟨-, hu⟩
      · unfold State.invalidations at hlt
        rw [hgen] at hlt
        exact absurd hlt (lt_irrefl _)
      · refine absurd ⟨since, _, [], v, ?_, hu, hv⟩ hno
        rw [hret]
    · exact ⟨hi.overdue.finish hlast, hfetched.trans hi.fetchedAt, nofun⟩

/-- **A fetch that is owed is due until it is paid.** Take any run to a moment at which the log
leaves the endpoint owing: it was never fetched, its last attempt failed, its last successful
fetch was in a cycle that raised, or it was invalidated. As long as no cycle that started after
this moment has fetched it, returned and seen no invalidation of it, its stamp does not move,
and whenever it is enabled it is due: a cycle that starts then plans for it. -/
theorem due_until_repaid (c : SophosCoordinator V σ) {clock : ℚ} {es es' : List (Event V)}
    {l l' : Logged c} (hrun : Run step (init c clock) es l) {key : String}
    (howes : LeavesOwing key l.log) (hrun' : Run step l es' l') {since : List (LogEntry V)}
    (hlog : l'.log = l.log ++ since) (hno : ¬ Repaid key since) :
    l'.sys.state.fetchedAt key = l.sys.state.fetchedAt key ∧
    ∀ ep ∈ c.endpoints, ep.key = key → c.endpointEnabled l'.sys.state key = true →
      c.isDue l'.sys.state l'.sys.clock ep = true ∧
      ∀ restrictTo, ∃ plan, c.beginUpdate l'.sys.state restrictTo l'.sys.clock = some plan ∧
        ep ∈ plan.due ++ plan.later := by
  have hi : OwingInv l := hrun.invariant (I := fun _ l => OwingInv l) (owingInv_init clock)
    fun _ _ _ _ _ hi hs => hi.step hs
  have hunpaid : ∃ since, l'.log = l.log ++ since ∧ (¬ Repaid key since →
      Unpaid key (l.sys.state.fetchedAt key) since l') := by
    refine hrun'.invariant (I := fun _ l' => ∃ since, l'.log = l.log ++ since ∧
      (¬ Repaid key since → Unpaid key (l.sys.state.fetchedAt key) since l')) ?_ ?_
    · exact ⟨[], (List.append_nil _).symm, fun _ => (hi.owing key howes).unpaid⟩
    · rintro es l₁ e l₂ - ⟨since, hlog, hun⟩ hs
      by_cases hpaid : Repaid key since
      · obtain ⟨y, -, rfl⟩ := Option.map_eq_some_iff.mp hs
        refine ⟨since ++ entries l₁.sys y e, ?_, fun hno => absurd (hpaid.append _) hno⟩
        rw [← List.append_assoc, ← hlog]
      · obtain ⟨more, hmore, hstep⟩ := (hun hpaid).step hs
        refine ⟨since ++ more, ?_, hstep⟩
        rw [hmore, hlog, List.append_assoc]
  obtain ⟨since', hlog', hun⟩ := hunpaid
  obtain rfl : since' = since := List.append_cancel_left (hlog'.symm.trans hlog)
  obtain ⟨hdue, hfetched, -⟩ := hun hno
  refine ⟨hfetched, fun ep hep hkey hen => ?_⟩
  subst hkey
  have hd := hdue.isDue hep hen
  refine ⟨hd, fun restrictTo => ?_⟩
  rcases hb : c.beginUpdate l'.sys.state restrictTo l'.sys.clock with _ | plan
  · have hnone := beginUpdate_none hb
    exact absurd (hnone ▸ List.mem_filter.mpr ⟨hep, hd⟩) List.not_mem_nil
  · exact ⟨plan, rfl, (beginUpdate_mem hb ep).mpr ⟨hep, hd⟩⟩

lemma not_repaid_ended {key : String} (attempts : List (String × Result V)) (returned : Bool) :
    ¬ Repaid key [.ended attempts returned] := by
  rintro ⟨_, _, after, _, h, ⟨before, between, rfl, -⟩, -⟩
  have hlen := congrArg List.length h
  simp only [List.length_cons, List.length_nil, List.length_append] at hlen
  omega

/-- The interfaces are invalidated while the first cycle fetches them. -/
theorem due_until_repaid_overtaken :
    ∃ l l' : Logged (Sources.xmlCoordinator String ⟨"fw", fun _ => none⟩),
      replay step (init _ 0) [.start none, .invalidate ["interfaces"]] = some l ∧
      replay step l [.finish fun _ _ => .value "read", .tick 1] = some l' ∧
      l'.sys.state.fetchedAt "interfaces" = none ∧
      (Sources.xmlCoordinator String ⟨"fw", fun _ => none⟩).isDue l'.sys.state l'.sys.clock
        ⟨"interfaces", .realtime, "poll_xml_interfaces", true⟩ = true := by
  refine ⟨_, _, rfl, rfl, ?_⟩
  have hrun := @run_of_replay _ _ step _ _ [.start none, .invalidate ["interfaces"]]
    (rfl : replay step (init (Sources.xmlCoordinator String ⟨"fw", fun _ => none⟩) 0) _ = some _)
  have h := due_until_repaid _ hrun (.invalidated [.started] (List.mem_singleton_self _))
    (@run_of_replay _ _ step _ _ [.finish fun _ _ => .value "read", .tick 1] rfl) rfl
    (not_repaid_ended _ _)
  exact ⟨h.1, (h.2 _ List.mem_cons_self rfl rfl).1⟩

end Logged

end SophosFw.Coordinator
