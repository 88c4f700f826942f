import LiveAssert.Proofs.Poll.Coherence

/-!
A longer window. Where the replies do not depend on the times of their calls, an evaluation under it
repeats the one under the shorter window poll by poll. It can only be late with the last of these,
which the shorter window may have pulled forward to its deadline, and by less than a pause. So what
decides the one decides the other.
-/

namespace LiveAssert

def Fetch.Timeless (fetch : Fetch) : Prop := ∀ n t t', fetch n t = fetch n t'

namespace Window

structure Extends (w' w : Window) : Prop where
  pause : w'.pause = w.pause
  deadline : w.deadline ≤ w'.deadline

variable {w w' : Window} {fetch : Fetch} {n : Nat}

theorem sample_eq_of_timeless (ht : fetch.Timeless) (w w' : Window) (n : Nat) :
    w'.sample fetch n = w.sample fetch n := congrArg Reply.sample (ht n _ _)

theorem delay_eq_of_timeless (ht : fetch.Timeless) (w w' : Window) (n : Nat) :
    (w'.reply fetch n).delay = (w.reply fetch n).delay := congrArg Reply.delay (ht n _ _)

namespace Extends

theorem replyTime_eq (ht : fetch.Timeless) (hn : w'.callTime fetch n = w.callTime fetch n) :
    w'.replyTime fetch n = w.replyTime fetch n := by
  rw [replyTime, replyTime, hn, delay_eq_of_timeless ht w w']

theorem callTime_eq (h : w'.Extends w) (ht : fetch.Timeless) (hr : w.Reaches fetch n)
    (hn : w.callTime fetch n < w.deadline) : w'.callTime fetch n = w.callTime fetch n := by
  induction n with
  | zero => rfl
  | succ n ih =>
    have hbefore := Nat.lt_trans (hr.callTime_lt_callTime (Nat.lt_succ_self n)) hn
    have hreply := replyTime_eq ht (ih (hr.mono (Nat.le_succ n)) hbefore)
    have hdeadline := h.deadline
    rw [callTime_succ, next] at hn ⊢
    rw [callTime_succ, next, hreply, h.pause]
    omega

theorem replyTime_eq_of_lt (h : w'.Extends w) (ht : fetch.Timeless) (hr : w.Reaches fetch n)
    (hn : w.replyTime fetch n < w.deadline) : w'.replyTime fetch n = w.replyTime fetch n :=
  replyTime_eq ht
    (h.callTime_eq ht hr (Nat.lt_of_le_of_lt (w.callTime_le_replyTime fetch n) hn))

/-- Only a call at the deadline of the shorter window comes later under the longer one. -/
theorem callTime_bounds (h : w'.Extends w) (ht : fetch.Timeless) (hr : w.Reaches fetch n) :
    w.callTime fetch n ≤ w'.callTime fetch n ∧
      w'.callTime fetch n < w.callTime fetch n + w.pause := by
  have hpause := w.pause_pos
  cases n with
  | zero => exact ⟨Nat.le_refl 0, Nat.lt_add_of_pos_right hpause⟩
  | succ n =>
    have hn := hr n (Nat.lt_succ_self n)
    have hreply := h.replyTime_eq_of_lt ht (hr.mono (Nat.le_succ n)) hn
    have hdeadline := h.deadline
    rw [callTime_succ, callTime_succ, next, next, hreply, h.pause]
    omega

theorem replyTime_bounds (h : w'.Extends w) (ht : fetch.Timeless) (hr : w.Reaches fetch n) :
    w.replyTime fetch n ≤ w'.replyTime fetch n ∧
      w'.replyTime fetch n < w.replyTime fetch n + w.pause := by
  obtain ⟨hle, hlt⟩ := h.callTime_bounds ht hr
  rw [replyTime, replyTime, delay_eq_of_timeless ht w w']
  omega

theorem reaches (h : w'.Extends w) (ht : fetch.Timeless) (hr : w.Reaches fetch n) :
    w'.Reaches fetch n := by
  intro m hm
  rw [h.replyTime_eq_of_lt ht (hr.mono (Nat.le_of_lt hm)) (hr m hm)]
  exact Nat.lt_of_lt_of_le (hr m hm) h.deadline

theorem completes (h : w'.Extends w) (ht : fetch.Timeless) (hc : w.Completes fetch n) :
    w'.Completes fetch n := by
  refine ⟨?_, h.reaches ht hc.2⟩
  cases Nat.lt_or_eq_of_le (w.callTime_le_deadline fetch n) with
  | inl hlt =>
    rw [replyTime_eq ht (h.callTime_eq ht hc.2 hlt)]
    exact Nat.le_trans hc.1 h.deadline
  | inr heq =>
    -- a call at the deadline is completed only if its reply takes no time
    have hdelay := hc.1
    rw [replyTime, heq] at hdelay
    rw [replyTime, delay_eq_of_timeless ht w w']
    have := w'.callTime_le_deadline fetch n
    omega

end Extends

end Window

namespace Evaluation

variable {e : Evaluation} {fetch : Fetch} {w' : Window} {m n : Nat}

def within (e : Evaluation) (w' : Window) : Evaluation := { e with window := w' }

@[simp] theorem decides_within (ht : fetch.Timeless) :
    (e.within w').Decides fetch n ↔ e.Decides fetch n := by
  rw [Decides, Decides]
  simp only [within, Window.sample_eq_of_timeless ht e.window w']

theorem isLeast_within (h : w'.Extends e.window) (ht : fetch.Timeless)
    (hn : IsLeast {m | e.window.Completes fetch m ∧ e.Decides fetch m} n) :
    IsLeast {m | w'.Completes fetch m ∧ (e.within w').Decides fetch m} n := by
  obtain ⟨⟨hc, hdec⟩, hleast⟩ := hn
  refine ⟨⟨h.completes ht hc, (decides_within ht).2 hdec⟩, fun m hm => ?_⟩
  apply Nat.le_of_not_lt
  intro hlt
  have hle : n ≤ m := hleast ⟨hc.of_le (Nat.le_of_lt hlt), (decides_within ht).1 hm.2⟩
  exact Nat.not_lt.2 hle hlt

@[simp] theorem samples_within (ht : fetch.Timeless) (e : Evaluation) (w' : Window) (n : Nat) :
    (e.within w').samples fetch n = e.samples fetch n := by
  rw [samples, samples]
  apply List.map_congr_left
  intro m _
  exact Window.sample_eq_of_timeless ht e.window w' m

end Evaluation

/-- The outcomes of two runs with the same polls, of which the second ends later by less than a
pause if not at the same time. -/
structure Outcome.Postponed (o o' : Outcome) (pause : Duration) : Prop where
  satisfied : o'.satisfied = o.satisfied
  polls : o'.polls = o.polls
  lastValue : o'.lastValue = o.lastValue
  lastError : o'.lastError = o.lastError
  le_elapsed : o.elapsed.nanos ≤ o'.elapsed.nanos
  elapsed_lt : o'.elapsed.nanos < o.elapsed.nanos + pause.nanos

theorem Progress.Reports.postponed {p p' : Progress} {predicate : Predicate}
    {samples : List Sample} {t t' pause : Nat} (h : p.Reports predicate samples)
    (h' : p'.Reports predicate samples) (ht : t ≤ t' ∧ t' < t + pause) (satisfied : Bool) :
    (p.outcome satisfied t).Postponed (p'.outcome satisfied t') (.ofMillis pause) where
  satisfied := rfl
  polls := h'.polls.trans h.polls.symm
  lastValue := h'.lastValue.trans h.lastValue.symm
  lastError := by simp only [outcome, h'.lastError, h.lastError]
  le_elapsed := Nat.mul_le_mul_right _ ht.1
  elapsed_lt := by
    simp only [outcome, Duration.ofMillis]
    omega

namespace Evaluation

variable {e : Evaluation} {fetch : Fetch} {w' : Window} {m n n' : Nat} {f f' : Finish}

theorem Closes.polls_eq_zero {l : Nat} (h : e.Closes fetch l f)
    (hending : f.ending = e.discipline.decision) :
    e.discipline = .consistently ∧ f.progress.polls = 0 := by
  cases hd : e.discipline with
  | eventually =>
    rw [h.ending_of_eventually hd, hd] at hending
    cases hending
  | consistently =>
    refine ⟨rfl, ?_⟩
    rw [hd] at hending
    cases h with
    | heard =>
      rw [hd] at hending
      cases hending
    | unheard =>
      rw [close, hd, Discipline.expiryUnheard] at hending
      dsimp only at hending
      split at hending
      · cases hending
      · next hpos => exact UInt32.le_zero_iff.1 (UInt32.not_lt.1 hpos)

theorem Course.exists_isLeast (h : e.Course fetch n f) (hu : e.Uncancelled fetch)
    (hending : f.ending = e.discipline.decision)
    (hpolls : e.discipline = .consistently → 0 < f.progress.polls) :
    ∃ m, IsLeast {m | e.window.Completes fetch m ∧ e.Decides fetch m} m := by
  cases h.decides_or_closes hu with
  | inl hn => exact ⟨n, hn.1⟩
  | inr hl =>
    obtain ⟨l, _, _, _, hclose⟩ := hl
    obtain ⟨hd, hzero⟩ := hclose.polls_eq_zero hending
    have hpos := hpolls hd
    rw [hzero] at hpos
    exact absurd hpos (UInt32.lt_irrefl 0)

theorem Course.postponed (hf : e.Course fetch n f) (hf' : (e.within w').Course fetch n' f')
    (hu : e.Uncancelled fetch) (h : w'.Extends e.window) (ht : fetch.Timeless)
    (hending : f.ending = e.discipline.decision)
    (hpolls : e.discipline = .consistently → 0 < f.progress.polls) :
    f'.ending = e.discipline.decision ∧
      ∀ satisfied, (f.progress.outcome satisfied f.elapsed).Postponed
        (f'.progress.outcome satisfied f'.elapsed) (.ofMillis e.window.pause) := by
  -- both courses end at the first completed poll that decides, and the samples agree on which
  obtain ⟨m, hm⟩ := hf.exists_isLeast hu hending hpolls
  have hu' : (e.within w').Uncancelled fetch := ⟨hu.cancelAt_none, hu.quiet⟩
  obtain ⟨_, rfl⟩ := hf.eq_of_isLeast hu hm
  obtain ⟨_, rfl⟩ := hf'.eq_of_isLeast hu' (isLeast_within h ht hm)
  have hreports := (e.within w').progress_reports fetch (m + 1)
  rw [samples_within ht] at hreports
  exact ⟨rfl, (e.progress_reports fetch (m + 1)).postponed hreports
    (h.replyTime_bounds ht hm.1.1.2)⟩

end Evaluation

@[simp] theorem Finish.result_eq_violation_iff {f : Finish} {timeout : Duration} {o : Outcome} :
    f.result timeout = .error (.violation o) ↔
      f.ending = .violated ∧ f.progress.outcome false f.elapsed = o := by
  cases h : f.ending with
  | satisfied => simp [result, h]
  | timedOut => simp [result, h]
  | violated => simp [result, h]
  | cancelled => simp [result, h]

theorem PollSpec.Valid.extends {spec : PollSpec} {timeout : Duration} (hv : spec.Valid)
    (hv' : ({ spec with timeout } : PollSpec).Valid) (hle : spec.timeout.nanos ≤ timeout.nanos) :
    hv'.window.Extends hv.window where
  pause := rfl
  deadline := Nat.div_le_div_right (Nat.add_le_add_right hle _)

/-- What a poll has decided under a timeout, the same poll decides under a longer one: a success
under `eventually`, and under `consistently` a violation that counts any poll. -/
theorem evaluate_of_longer_timeout {spec : PollSpec} (hv : spec.Valid) {timeout : Duration}
    (hle : spec.timeout.nanos ≤ timeout.nanos) (predicate : Predicate) {fetch : Fetch}
    (hq : fetch.Quiet) (ht : fetch.Timeless) :
    let run := evaluate fetch predicate spec none
    let longer := evaluate fetch predicate { spec with timeout } none
    let pause := Duration.ofMillis spec.interval.millisUp
    (spec.discipline = .eventually → ∀ o, run.result = .ok o →
      ∃ o', longer.result = .ok o' ∧ o.Postponed o' pause) ∧
    (spec.discipline = .consistently → ∀ o, run.result = .error (.violation o) → 0 < o.polls →
      ∃ o', longer.result = .error (.violation o') ∧ o.Postponed o' pause) := by
  have hv' : ({ spec with timeout } : PollSpec).Valid :=
    ⟨Nat.lt_of_lt_of_le hv.timeout_pos hle, hv.interval_pos⟩
  obtain ⟨n, f, hf, hrun⟩ := hv.exists_course fetch predicate none
  obtain ⟨n', f', hf', hrun'⟩ := hv'.exists_course fetch predicate none
  have hlater (hending : f.ending = spec.discipline.decision)
      (hpolls : spec.discipline = .consistently → 0 < f.progress.polls) :
      f'.ending = spec.discipline.decision ∧
        ∀ satisfied, (f.progress.outcome satisfied f.elapsed).Postponed
          (f'.progress.outcome satisfied f'.elapsed) (.ofMillis spec.interval.millisUp) :=
    hf.postponed hf' (hv.uncancelled predicate hq) (hv.extends hv' hle) ht hending hpolls
  dsimp only
  rw [hrun, hrun']
  refine ⟨fun hd o ho => ?_, fun hd o ho hpolls => ?_⟩
  · obtain ⟨hending, rfl⟩ := Finish.result_eq_ok_iff.1 ho
    rw [hd] at hlater
    obtain ⟨hending', hpostponed⟩ := hlater hending nofun
    exact ⟨_, f'.result_of_satisfied timeout hending', hpostponed true⟩
  · obtain ⟨hending, rfl⟩ := Finish.result_eq_violation_iff.1 ho
    rw [hd] at hlater
    obtain ⟨hending', hpostponed⟩ := hlater hending fun _ => hpolls
    exact ⟨_, f'.result_of_violated timeout hending', hpostponed false⟩

theorem evaluate_of_longer_timeout_pulled_forward :
    let spec : PollSpec := ⟨.eventually, .ofMillis 25, .ofMillis 10, false⟩
    let predicate : Predicate := .plain .boolIs [.bool true]
    let fetch : Fetch := .values .zero fun n => .bool (n == 3)
    let run := evaluate fetch predicate spec none
    let longer := evaluate fetch predicate { spec with timeout := .ofMillis 100 } none
    spec.Valid ∧ fetch.Quiet ∧ fetch.Timeless ∧
      ∃ o o', run.result = .ok o ∧ longer.result = .ok o' ∧ o.Postponed o' (.ofMillis 10) ∧
        o.elapsed = .ofMillis 25 ∧ o'.elapsed = .ofMillis 30 := by
  intro spec predicate fetch run longer
  have hv : spec.Valid := ⟨by decide, by decide⟩
  have hq : fetch.Quiet := Fetch.quiet_values _ _
  have ht : fetch.Timeless := fun _ _ _ => rfl
  have hle : spec.timeout.nanos ≤ (Duration.ofMillis 100).nanos := by decide
  have hpause : spec.interval.millisUp = 10 := by decide
  have hresult : run.result.toOption.map Outcome.elapsed = some (.ofMillis 25) := by decide +kernel
  have hresult' : longer.result.toOption.map Outcome.elapsed = some (.ofMillis 30) := by
    decide +kernel
  obtain ⟨hok, _⟩ := evaluate_of_longer_timeout hv hle predicate hq ht
  cases ho : run.result with
  | error =>
    rw [ho] at hresult
    nomatch hresult
  | ok o =>
    obtain ⟨o', ho', hpostponed⟩ := hok rfl o ho
    rw [hpause] at hpostponed
    rw [ho] at hresult
    rw [show longer.result = .ok o' from ho'] at hresult'
    exact ⟨hv, hq, ht, o, o', rfl, ho', hpostponed, Option.some.inj hresult,
      Option.some.inj hresult'⟩

end LiveAssert
