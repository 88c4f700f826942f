import LiveAssert.Proofs.Poll.Course
import Mathlib.Data.List.Intervals

namespace LiveAssert

theorem filter_range_eq_range {p : Nat → Bool} {l n : Nat} (hl : l ≤ n)
    (h : ∀ i < n, p i = true ↔ i < l) : (List.range n).filter p = List.range l := by
  have hp : (List.range n).filter p = (List.range n).filter (· < l) := by
    apply List.filter_congr
    intro i hi
    rw [Bool.eq_iff_iff, h i (List.mem_range.1 hi), decide_eq_true_eq]
  rw [hp, ← List.Ico.zero_bot, List.Ico.filter_lt, Nat.min_eq_right hl, List.Ico.zero_bot]

theorem lt_iff_lt_of_le {t : Nat → Nat} {i k n : Nat}
    (hmono : ∀ x y, x ≤ y → y ≤ n → t x ≤ t y) (hbefore : ∀ x < i, t x < k)
    (hafter : i ≤ n → k ≤ t i) (x : Nat) (hx : x ≤ n) : t x < k ↔ x < i := by
  constructor
  · intro hlt
    apply Nat.lt_of_not_le
    intro hix
    have hk := Nat.le_trans (hafter (Nat.le_trans hix hx)) (hmono i x hix hx)
    exact Nat.not_le.2 hlt hk
  · exact hbefore x

namespace Evaluation

variable {e : Evaluation} {fetch : Fetch} {m n k : Nat} {f : Finish}

/-- Poll `n` of the schedule is made if nothing cancels the evaluation: its reply comes back in
time, and no poll before it ends the evaluation. -/
def Makes (e : Evaluation) (fetch : Fetch) (n : Nat) : Prop :=
  e.window.replyTime fetch n ≤ e.window.deadline ∧
    ∀ m < n, e.window.replyTime fetch m < e.window.deadline ∧ e.verdict? fetch m = none

instance : Decidable (e.Makes fetch n) :=
  inferInstanceAs (Decidable (_ ∧ ∀ m < n, _ ∧ _))

/-- The polls of an evaluation that nothing cancels, of which there is at most one at each
millisecond. -/
def polls (e : Evaluation) (fetch : Fetch) : List Poll :=
  ((List.range (e.window.deadline + 1)).filter fun n => e.Makes fetch n).map
    (e.window.pollAt fetch)

def cancelledAt (e : Evaluation) (k : Nat) : Evaluation := { e with cancelAt := some k }

theorem Makes.reaches (h : e.Makes fetch n) : e.window.Reaches fetch n :=
  fun m hm => (h.2 m hm).1

theorem filter_polls (q : Poll → Bool)
    (h : ∀ i, e.Makes fetch i ∧ q (e.window.pollAt fetch i) = true ↔ i < n) :
    (e.polls fetch).filter q = e.window.polls fetch n := by
  have hn : n ≤ e.window.deadline + 1 := by
    cases n with
    | zero => exact Nat.zero_le _
    | succ n => exact Nat.succ_le_succ ((h n).2 (Nat.lt_succ_self n)).1.reaches.le_deadline
  rw [polls, List.filter_map, List.filter_filter, Window.polls,
    filter_range_eq_range hn fun i _ => ?_]
  rw [← h i]
  simp [and_comm]

theorem Course.makes_iff (h : e.Course fetch n f) (hu : e.Uncancelled fetch) :
    e.Makes fetch m ↔ m ≤ n ∧ e.window.replyTime fetch m ≤ e.window.deadline := by
  constructor
  · intro hm
    refine ⟨Nat.le_of_not_lt fun hlt => ?_, hm.1⟩
    obtain ⟨hd, hv⟩ := hm.2 n hlt
    cases h.concludes hu with
    | unheard hd' => exact Nat.lt_asymm hd hd'
    | decided _ hv' => rw [hv] at hv'; nomatch hv'
    | expired hd' _ => exact Nat.ne_of_lt hd hd'
  · intro ⟨hm, hd⟩
    refine ⟨hd, fun i hi => ?_⟩
    have hc := h.continues i (Nat.lt_of_lt_of_le hi hm)
    exact ⟨hc.early, hc.undecided⟩

theorem Continues.cancelledAt (h : e.Continues fetch m)
    (hk : e.window.callTime fetch (m + 1) < k) : (e.cancelledAt k).Continues fetch m where
  early := h.early
  undecided := h.undecided
  quiet := h.quiet
  waits := by
    rw [cancelledBy?_eq_none_iff]
    intro i hi
    obtain rfl := Option.some.inj hi
    exact hk

@[simp] theorem cancelledBy?_cancelledAt {time : Nat} (hk : k ≤ time) :
    (e.cancelledAt k).cancelledBy? time = some k :=
  cancelledBy?_eq_some_iff.2 ⟨rfl, hk⟩

@[simp] theorem cancelledBy?_cancelledAt_eq_none {time : Nat} (hk : time < k) :
    (e.cancelledAt k).cancelledBy? time = none := by
  rw [cancelledBy?_eq_none_iff]
  intro i hi
  obtain rfl := Option.some.inj hi
  exact hk

theorem Course.run_cancelledAt_of_lt (h : e.Course fetch n f) (hu : e.Uncancelled fetch)
    (hk : f.elapsed < k) : (e.cancelledAt k).run fetch = f := by
  have hn : e.window.callTime fetch n ≤ f.elapsed := by
    rw [(h.concludes hu).elapsed]
    exact Nat.le_min.2
      ⟨e.window.callTime_le_replyTime fetch n, e.window.callTime_le_deadline fetch n⟩
  apply Course.run_eq
  constructor
  · intro m hm
    apply (h.continues m hm).cancelledAt
    calc e.window.callTime fetch (m + 1)
      _ ≤ e.window.callTime fetch n := h.reaches.callTime_le_callTime hm
      _ ≤ f.elapsed := hn
      _ < k := hk
  · have hk' := cancelledBy?_cancelledAt_eq_none (e := e) hk
    cases h.concludes hu with
    | unheard hd => exact .unheard hk' hd
    | decided hd hv => exact .decided hk' hd hv
    | expired hd hv => exact .expired hk' hd hv

/-- The poll at which a cancellation is noticed: the first one whose next call would not come
before it, or the last one of the run. -/
theorem exists_poll_cancelledAt (e : Evaluation) (fetch : Fetch) (n k : Nat) :
    ∃ m ≤ n, (m < n → k ≤ e.window.callTime fetch (m + 1)) ∧
      ∀ i < m, e.window.callTime fetch (i + 1) < k := by
  induction n with
  | zero =>
    exact ⟨0, Nat.le_refl 0, fun h => absurd h (Nat.lt_irrefl 0), fun i h => nomatch h⟩
  | succ n ih =>
    obtain ⟨m, hm, hstop, hbefore⟩ := ih
    by_cases hk : m = n ∧ e.window.callTime fetch (n + 1) < k
    · refine ⟨n + 1, Nat.le_refl _, fun h => absurd h (Nat.lt_irrefl _), fun i hi => ?_⟩
      rw [hk.1] at hbefore
      cases Nat.lt_succ_iff_lt_or_eq.1 hi with
      | inl hi => exact hbefore i hi
      | inr hi => rw [hi]; exact hk.2
    · refine ⟨m, Nat.le_succ_of_le hm, fun _ => ?_, hbefore⟩
      cases Nat.lt_or_eq_of_le hm with
      | inl hm => exact hstop hm
      | inr hm => rw [hm]; exact Nat.le_of_not_lt fun h => hk ⟨hm, h⟩

structure Before (e : Evaluation) (fetch : Fetch) (n k i j : Nat) : Prop where
  calls_le : i ≤ n + 1
  replies_le : j ≤ n
  call_lt_iff : ∀ x ≤ n, e.window.callTime fetch x < k ↔ x < i
  reply_lt_iff : ∀ x ≤ n, e.window.replyTime fetch x < k ↔ x < j

theorem before_zero (e : Evaluation) (fetch : Fetch) (n : Nat) : e.Before fetch n 0 0 0 where
  calls_le := Nat.zero_le _
  replies_le := Nat.zero_le _
  call_lt_iff := by simp
  reply_lt_iff := by simp

theorem before_of_le_replyTime (hr : e.window.Reaches fetch n) (hm : m ≤ n)
    (hs : e.window.callTime fetch m < k) (hc : k ≤ e.window.replyTime fetch m) :
    e.Before fetch n k (m + 1) m where
  calls_le := Nat.succ_le_succ hm
  replies_le := hm
  call_lt_iff := by
    apply lt_iff_lt_of_le fun x y hxy hy => (hr.mono hy).callTime_le_callTime hxy
    · intro x hx
      exact Nat.lt_of_le_of_lt ((hr.mono hm).callTime_le_callTime (Nat.le_of_lt_succ hx)) hs
    · intro hmn
      exact Nat.le_trans hc (Nat.le_of_lt (Window.replyTime_lt_callTime_succ (hr m hmn)))
  reply_lt_iff := by
    apply lt_iff_lt_of_le fun x y hxy hy => (hr.mono hy).replyTime_le_replyTime hxy
    · intro x hx
      exact Nat.lt_trans ((hr.mono hm).replyTime_lt_callTime hx) hs
    · intro _
      exact hc

theorem before_of_le_callTime (hr : e.window.Reaches fetch n) (hm : m < n)
    (hc : e.window.replyTime fetch m < k) (hs : k ≤ e.window.callTime fetch (m + 1)) :
    e.Before fetch n k (m + 1) (m + 1) where
  calls_le := Nat.succ_le_succ (Nat.le_of_lt hm)
  replies_le := hm
  call_lt_iff := by
    apply lt_iff_lt_of_le fun x y hxy hy => (hr.mono hy).callTime_le_callTime hxy
    · intro x hx
      calc e.window.callTime fetch x
        _ ≤ e.window.callTime fetch m :=
          (hr.mono (Nat.le_of_lt hm)).callTime_le_callTime (Nat.le_of_lt_succ hx)
        _ ≤ e.window.replyTime fetch m := e.window.callTime_le_replyTime fetch m
        _ < k := hc
    · intro _
      exact hs
  reply_lt_iff := by
    apply lt_iff_lt_of_le fun x y hxy hy => (hr.mono hy).replyTime_le_replyTime hxy
    · intro x hx
      have hxm := (hr.mono (Nat.le_of_lt hm)).replyTime_le_replyTime (Nat.le_of_lt_succ hx)
      exact Nat.lt_of_le_of_lt hxm hc
    · intro _
      exact Nat.le_trans hs (e.window.callTime_le_replyTime fetch (m + 1))

theorem Before.filter_calls {i j : Nat} (hb : e.Before fetch n k i j) (h : e.Course fetch n f)
    (hu : e.Uncancelled fetch) :
    f.progress.calls.reverse.filter (· < k) = (List.range i).map (e.window.callTime fetch) := by
  rw [(h.concludes hu).calls, List.filter_map,
    filter_range_eq_range hb.calls_le fun x hx => ?_]
  rw [Function.comp_apply, decide_eq_true_eq]
  exact hb.call_lt_iff x (Nat.le_of_lt_succ hx)

theorem Before.filter_polls {i j : Nat} (hb : e.Before fetch n k i j) (h : e.Course fetch n f)
    (hu : e.Uncancelled fetch) (hk : k ≤ f.elapsed) :
    (e.polls fetch).filter (·.replied < k) = e.window.polls fetch j := by
  rw [(h.concludes hu).elapsed] at hk
  apply Evaluation.filter_polls
  intro x
  rw [h.makes_iff hu, decide_eq_true_eq]
  constructor
  · intro ⟨⟨hx, _⟩, hlt⟩
    exact (hb.reply_lt_iff x hx).1 hlt
  · intro hlt
    have hx : x ≤ n := Nat.le_of_lt (Nat.lt_of_lt_of_le hlt hb.replies_le)
    have hc := (hb.reply_lt_iff x hx).2 hlt
    have hd := Nat.le_trans hk (Nat.min_le_right ..)
    exact ⟨⟨hx, Nat.le_of_lt (Nat.lt_of_lt_of_le hc hd)⟩, hc⟩

theorem Course.exists_run_cancelledAt (h : e.Course fetch n f) (hu : e.Uncancelled fetch)
    (hk : k ≤ f.elapsed) :
    ∃ i j p, e.Before fetch n k i j ∧ (e.cancelledAt k).run fetch = ⟨.cancelled, p, k⟩ ∧
      p.outcome false k = (e.progress fetch j).outcome false k ∧
      p.calls.reverse = (List.range i).map (e.window.callTime fetch) := by
  obtain ⟨m, hm, hstop, hbefore⟩ := exists_poll_cancelledAt e fetch n k
  have hgoes : ∀ i < m, (e.cancelledAt k).Continues fetch i := fun i hi =>
    (h.continues i (Nat.lt_of_lt_of_le hi hm)).cancelledAt (hbefore i hi)
  rw [(h.concludes hu).elapsed] at hk
  cases Nat.lt_or_ge (e.window.callTime fetch m) k with
  | inl hs =>
    cases Nat.lt_or_ge (min (e.window.replyTime fetch m) e.window.deadline) k with
    | inl hc =>
      -- it comes in the pause after fetch `m`, which is then not the last one
      have hlt : m < n := by
        apply Nat.lt_of_le_of_ne hm
        intro hmn
        rw [hmn] at hc
        exact Nat.not_le.2 hc hk
      have hcont := h.continues m hlt
      rw [Nat.min_eq_left (Nat.le_of_lt hcont.early)] at hc
      have hends := Ends.awaited (cancelledBy?_cancelledAt_eq_none hc) hcont.early
        hcont.undecided hcont.quiet (cancelledBy?_cancelledAt (hstop hlt))
      exact ⟨m + 1, m + 1, _, before_of_le_callTime h.reaches hlt hc (hstop hlt),
        Course.run_eq ⟨hgoes, hends⟩, rfl, progress_calls e fetch (m + 1)⟩
    | inr hc =>
      -- it comes during fetch `m`
      have hends := Ends.interrupted (cancelledBy?_cancelledAt_eq_none hs)
        (cancelledBy?_cancelledAt (e := e) hc)
      refine ⟨m + 1, m, _,
        before_of_le_replyTime h.reaches hm hs (Nat.le_trans hc (Nat.min_le_left _ _)),
        Course.run_eq ⟨hgoes, hends⟩, rfl, ?_⟩
      rw [← progress_calls]
      exact congrArg List.reverse (calls_call_progress e fetch m)
  | inr hs =>
    -- no call comes before it, so it is one from the start
    cases m with
    | succ m => exact absurd (hbefore m (Nat.lt_succ_self m)) (Nat.not_lt.2 hs)
    | zero =>
      have hk0 : k = 0 := Nat.le_zero.1 hs
      rw [hk0] at hgoes ⊢
      exact ⟨0, 0, _, before_zero e fetch n,
        Course.run_eq ⟨hgoes, .barred (cancelledBy?_cancelledAt (Nat.le_refl 0))⟩, rfl, rfl⟩

theorem Uncancelled.run_cancelledAt_of_le (hu : e.Uncancelled fetch)
    (hk : k ≤ ((e.cancelledAt k).run fetch).elapsed) :
    let f := (e.cancelledAt k).run fetch
    f.ending = .cancelled ∧ f.elapsed = k ∧ ∀ time ∈ f.progress.calls.reverse, time < k := by
  obtain ⟨n, hc⟩ := e.exists_course fetch
  cases Nat.lt_or_ge (e.run fetch).elapsed k with
  | inl hlt =>
    rw [hc.run_cancelledAt_of_lt hu hlt] at hk
    exact absurd hlt (Nat.not_lt.2 hk)
  | inr hle =>
    obtain ⟨i, j, p, hb, hrun, _, hcalls⟩ := hc.exists_run_cancelledAt hu hle
    rw [hrun]
    refine ⟨rfl, rfl, fun time ht => ?_⟩
    rw [hcalls] at ht
    obtain ⟨x, hx, rfl⟩ := List.mem_map.1 ht
    have hxi := List.mem_range.1 hx
    have hxn := Nat.le_of_lt_succ (Nat.lt_of_lt_of_le hxi hb.calls_le)
    exact (hb.call_lt_iff x hxn).2 hxi

theorem Course.polls_eq {l : Nat} (h : e.Course fetch n f) (hu : e.Uncancelled fetch)
    (hl : ∀ i, i ≤ n ∧ e.window.replyTime fetch i ≤ e.window.deadline ↔ i < l) :
    e.polls fetch = e.window.polls fetch l := by
  rw [← List.filter_true (e.polls fetch)]
  apply Evaluation.filter_polls
  intro i
  rw [h.makes_iff hu, hl]
  exact and_iff_left rfl

theorem Course.exists_polls_eq (h : e.Course fetch n f) (hu : e.Uncancelled fetch) :
    ∃ l ≤ n + 1, e.polls fetch = e.window.polls fetch l ∧
      f.progress.polls = (e.progress fetch l).polls ∧
      f.progress.lastValue = (e.progress fetch l).lastValue := by
  have hearlier (i : Nat) (hi : i < n) : e.window.replyTime fetch i ≤ e.window.deadline :=
    Nat.le_of_lt (h.reaches i hi)
  have hall (hd : e.window.replyTime fetch n ≤ e.window.deadline) (i : Nat) :
      i ≤ n ∧ e.window.replyTime fetch i ≤ e.window.deadline ↔ i < n + 1 := by
    constructor
    · intro hi
      exact Nat.lt_succ_of_le hi.1
    · intro hi
      cases Nat.lt_succ_iff_lt_or_eq.1 hi with
      | inl hi => exact ⟨Nat.le_of_lt hi, hearlier i hi⟩
      | inr hi => rw [hi]; exact ⟨Nat.le_refl n, hd⟩
  cases h.concludes hu with
  | unheard hd =>
    refine ⟨n, Nat.le_succ n, h.polls_eq hu fun i => ⟨fun hi => ?_, fun hi => ?_⟩, rfl, rfl⟩
    · apply Nat.lt_of_le_of_ne hi.1
      intro hin
      rw [hin] at hi
      exact Nat.not_le.2 hd hi.2
    · exact ⟨Nat.le_of_lt hi, hearlier i hi⟩
  | decided hd _ => exact ⟨n + 1, Nat.le_refl _, h.polls_eq hu (hall hd), rfl, rfl⟩
  | expired hd _ => exact ⟨n + 1, Nat.le_refl _, h.polls_eq hu (hall (Nat.le_of_eq hd)), rfl, rfl⟩

theorem Course.polls_called_isPrefix (h : e.Course fetch n f) (hu : e.Uncancelled fetch) :
    (e.polls fetch).map Poll.called <+: f.progress.calls.reverse := by
  obtain ⟨l, hl, hpolls, _⟩ := h.exists_polls_eq hu
  have hrange : List.range l <+: List.range (n + 1) := by
    rw [← Nat.add_sub_of_le hl, List.range_add]
    exact List.prefix_append ..
  rw [hpolls, (h.concludes hu).calls, Window.polls, List.map_map]
  exact hrange.map _

end Evaluation

def Run.outcome? (run : Run ConditionError) : Option Outcome :=
  match run.result with
  | .ok o => some o
  | .error e => e.outcome?

@[simp] theorem Finish.outcome?_toRun (timeout : Duration) (f : Finish) :
    (f.toRun timeout).outcome? =
      some (f.progress.outcome (f.ending == .satisfied) f.elapsed) := by
  obtain ⟨ending, p, elapsed⟩ := f
  cases ending with
  | satisfied => rfl
  | timedOut => rfl
  | violated => rfl
  | cancelled => rfl

theorem Finish.exists_outcome?_toRun (timeout : Duration) (f : Finish) :
    ∃ satisfied, (f.toRun timeout).outcome? = some (f.progress.outcome satisfied f.elapsed) :=
  ⟨_, f.outcome?_toRun timeout⟩

theorem Finish.result_of_cancelled {f : Finish} (timeout : Duration) (h : f.ending = .cancelled) :
    f.result timeout = .error (.cancelled (f.progress.outcome false f.elapsed)) := by
  rw [result, h]

theorem evaluate_of_le_elapsed {spec : PollSpec} (hv : spec.Valid) {fetch : Fetch}
    (hq : fetch.Quiet) (predicate : Predicate) {k : Nat}
    (hk : k ≤ (evaluate fetch predicate spec (some k)).elapsed) :
    let run := evaluate fetch predicate spec (some k)
    run.elapsed = k ∧ (∀ time ∈ run.calls, time < k) ∧
      ∃ o, run.result = .error (.cancelled o) := by
  obtain ⟨f, hrun, hends⟩ : ∃ f : Finish,
      evaluate fetch predicate spec (some k) = f.toRun spec.timeout ∧
        (k ≤ f.elapsed → f.ending = .cancelled ∧ f.elapsed = k ∧
          ∀ time ∈ f.progress.calls.reverse, time < k) :=
    ⟨_, evaluate_eq_toRun hv fetch predicate (some k),
      (hv.uncancelled predicate hq).run_cancelledAt_of_le⟩
  dsimp only
  rw [hrun] at hk ⊢
  obtain ⟨hending, helapsed, hcalls⟩ := hends hk
  exact ⟨helapsed, hcalls, _, f.result_of_cancelled spec.timeout hending⟩

/-- A cancellation at or before the end of a run leaves of it what comes before the cancellation,
and a later one leaves all of it. -/
theorem evaluate_cancelled {spec : PollSpec} (hv : spec.Valid) (predicate : Predicate)
    {fetch : Fetch} (hq : fetch.Quiet) (k : Nat) :
    let run := evaluate fetch predicate spec none
    let cut := evaluate fetch predicate spec (some k)
    let polls := (hv.evaluation predicate none).polls fetch
    let left := Progress.ofPolls (predicate.under spec.negate)
    (∃ o, run.outcome? = some o ∧ o.elapsed = .ofMillis run.elapsed ∧
      o.polls = (left polls).polls ∧ o.lastValue = (left polls).lastValue ∧
      polls.map Poll.called <+: run.calls) ∧
    (k ≤ run.elapsed →
      cut.elapsed = k ∧
      cut.result = .error (.cancelled ((left (polls.filter (·.replied < k))).outcome false k)) ∧
      cut.calls = run.calls.filter (· < k)) ∧
    (run.elapsed < k → cut = run) := by
  have hu := hv.uncancelled predicate hq
  obtain ⟨n, f, hc, hrun⟩ := hv.exists_course fetch predicate none
  have hcut : evaluate fetch predicate spec (some k) =
      (((hv.evaluation predicate none).cancelledAt k).run fetch).toRun spec.timeout :=
    evaluate_eq_toRun hv fetch predicate (some k)
  dsimp only
  rw [hrun, hcut]
  refine ⟨?_, fun hk => ?_, fun hk => ?_⟩
  · obtain ⟨l, _, hpolls, hcount, hvalue⟩ := hc.exists_polls_eq hu
    obtain ⟨satisfied, ho⟩ := f.exists_outcome?_toRun spec.timeout
    refine ⟨_, ho, rfl, ?_, ?_, hc.polls_called_isPrefix hu⟩
    · rw [hpolls]
      exact hcount
    · rw [hpolls]
      exact hvalue
  · obtain ⟨i, j, p, hb, hcut, ho, hcalls⟩ := hc.exists_run_cancelledAt hu hk
    rw [hcut, hb.filter_polls hc hu hk]
    refine ⟨rfl, congrArg (Except.error ∘ ConditionError.cancelled) ho, ?_⟩
    exact hcalls.trans (hb.filter_calls hc hu).symm
  · rw [hc.run_cancelledAt_of_lt hu hk]

theorem evaluate_cancelled_in_wait :
    let spec : PollSpec := ⟨.eventually, .ofMillis 100, .ofMillis 10, false⟩
    let predicate : Predicate := .plain .boolIs [.bool true]
    let fetch : Fetch := .values (.ofMillis 4) fun n => .bool (n == 3)
    spec.Valid ∧ fetch.Quiet ∧ 20 ≤ (evaluate fetch predicate spec none).elapsed ∧
      (∃ o, (evaluate fetch predicate spec (some 20)).result = .error (.cancelled o) ∧
        o.polls = 2) ∧
      (evaluate fetch predicate spec (some 20)).calls = [0, 14] := by
  intro spec predicate fetch
  let hv : spec.Valid := ⟨by decide, by decide⟩
  have hq : fetch.Quiet := Fetch.quiet_values _ _
  have hk : 20 ≤ (evaluate fetch predicate spec none).elapsed := by decide +kernel
  obtain ⟨_, hcut, _⟩ := evaluate_cancelled hv predicate hq 20
  obtain ⟨_, hresult, hcalls⟩ := hcut hk
  refine ⟨hv, hq, hk, ⟨_, hresult, by decide +kernel⟩, ?_⟩
  rw [hcalls]
  decide +kernel

end LiveAssert
