import LiveAssert.Proofs.Poll.Grid
import LiveAssert.Proofs.Poll.Rate

/-!
The counter of the polls. It has 32 bits and a window has no bound on its length, so what it holds
is the number of the completed polls modulo `2 ^ 32`. This is the number itself if there are fewer
than `2 ^ 32` pauses in the window. The end of a window over a fetch is decided on the counter: after
a multiple of `2 ^ 32` polls that hold, `consistently` fails as if there had been none.
-/

namespace LiveAssert

@[simp] theorem Duration.millisUp_ofMillis (n : Nat) : (ofMillis n).millisUp = n := by
  simp only [millisUp, ofMillis]
  omega

theorem ofNat_pos_iff {n : Nat} : 0 < UInt32.ofNat n ↔ ¬2 ^ 32 ∣ n := by
  rw [UInt32.lt_iff_toNat_lt, UInt32.toNat_ofNat', Nat.dvd_iff_mod_eq_zero]
  exact Nat.pos_iff_ne_zero

theorem Discipline.expiryUnheard_ofNat (d : Discipline) (n : Nat) :
    d.expiryUnheard (.ofNat n) = match d with
      | .eventually => .timedOut
      | .consistently => if 2 ^ 32 ∣ n then .violated else .satisfied := by
  cases d with
  | eventually => rfl
  | consistently => simp only [expiryUnheard, ofNat_pos_iff, ite_not]

namespace Evaluation

variable {e : Evaluation} {fetch : Fetch} {m n : Nat} {f : Finish}

theorem Ends.ending_of_not_hears (h : e.Ends fetch n f) (hn : ¬e.Hears fetch n)
    (hc : f.ending ≠ .cancelled) :
    f.ending = e.discipline.expiryUnheard (e.progress fetch n).polls := by
  cases h with
  | barred => exact absurd rfl hc
  | interrupted => exact absurd rfl hc
  | unheard => rfl
  | decided hk hd _ => exact absurd ⟨hd, hk⟩ hn
  | expired hk hd _ => exact absurd ⟨Nat.le_of_eq hd, hk⟩ hn
  | withdrawn => exact absurd rfl hc
  | awaited => exact absurd rfl hc

theorem Course.exists_count (h : e.Course fetch n f) (timeout : Duration) :
    ∃ l ≤ n + 1, (∀ m, m ≤ n ∧ e.Hears fetch m ↔ m < l) ∧
      ((f.toRun timeout).CutsOff fetch e.cancelAt → f.ending ≠ .cancelled →
        f.ending = e.discipline.expiryUnheard (.ofNat l)) := by
  by_cases hn : e.Hears fetch n
  · have hl (m : Nat) := h.hears_iff_lt_of_hears (m := m) hn
    have hcalls := h.ends.calls_eq.resolve_left fun hcalls => hcalls.1 hn
    exact ⟨n + 1, Nat.le_refl _, hl, fun hcut => absurd hcut (h.not_cutsOff hl hcalls timeout)⟩
  · refine ⟨n, Nat.le_succ n, fun m => h.hears_iff_lt_of_not_hears hn, fun _ hc => ?_⟩
    rw [← progress_polls e fetch n]
    exact h.ends.ending_of_not_hears hn hc

end Evaluation

/-- The outcome of a run under a valid spec counts its completed polls modulo `2 ^ 32`, and so does
the end of its window over a fetch. -/
theorem evaluate_polls {spec : PollSpec} (hv : spec.Valid) {fetch : Fetch} {predicate : Predicate}
    {cancelAt : Option Nat} {run : Run ConditionError}
    (hrun : run = evaluate fetch predicate spec cancelAt) :
    let deadline := spec.timeout.millisUp
    let pauses := deadline ⌈/⌉ spec.interval.millisUp
    ∃ completed ≤ pauses + 1,
      (∀ i, (∃ sample, run.Hears fetch deadline cancelAt i sample) ↔ i < completed) ∧
      (∃ o, run.outcome? = some o ∧ o.polls.toNat = completed % 2 ^ 32 ∧
        (pauses + 1 < 2 ^ 32 → o.polls.toNat = completed)) ∧
      (run.CutsOff fetch cancelAt → run.ending? ≠ some .cancelled →
        run.ending? = some (match spec.discipline with
          | .eventually => .timedOut
          | .consistently => if 2 ^ 32 ∣ completed then .violated else .satisfied)) := by
  intro deadline pauses
  obtain ⟨n, f, hf, hfinish⟩ := hv.exists_course fetch predicate cancelAt
  obtain ⟨l, hl, hheard, hcut⟩ := hf.exists_count spec.timeout
  have hle : l ≤ pauses + 1 := Nat.le_trans hl (Nat.succ_le_succ hf.reaches.le_ceilDiv)
  have hcount : f.progress.polls.toNat = l % 2 ^ 32 := by
    rw [hf.counter_eq hheard, UInt32.toNat_ofNat']
  rw [hrun, hfinish, f.ending?_toRun]
  refine ⟨l, hle, fun i => ?_, ⟨_, f.outcome?_toRun spec.timeout, hcount, fun hlt => ?_⟩,
    fun hc hne => ?_⟩
  · rw [← hheard i]
    exact hf.exists_hears_iff
  · exact hcount.trans (Nat.mod_eq_of_lt (Nat.lt_of_le_of_lt hle hlt))
  · rw [hcut hc fun h => hne (congrArg some h)]
    exact congrArg some (Discipline.expiryUnheard_ofNat spec.discipline l)

theorem evaluate_polls_of_unheard :
    let spec : PollSpec := ⟨.consistently, .ofMillis 25, .ofMillis 10, false⟩
    let fetch : Fetch := .values (.ofMillis 12) fun _ => .bool true
    let run := evaluate fetch (.plain .boolIs [.bool true]) spec none
    spec.Valid ∧ run.CutsOff fetch none ∧
      (∀ i, (∃ sample, run.Hears fetch spec.timeout.millisUp none i sample) ↔ i < 1) ∧
      (∃ o, run.outcome? = some o ∧ o.polls.toNat = 1) ∧ run.ending? = some .satisfied := by
  intro spec fetch run
  have hv : spec.Valid := ⟨by decide, by decide⟩
  have hcalls : run.calls = [0, 22] := by decide +kernel
  have hcut : run.CutsOff fetch none := by
    have helapsed : run.elapsed = 25 := by decide +kernel
    refine ⟨1, 22, by rw [hcalls]; rfl, .inl ?_⟩
    rw [helapsed]
    decide
  have hpolls : run.outcome?.map Outcome.polls = some 1 := by decide +kernel
  obtain ⟨completed, hle, hheard, ⟨o, ho, _, hexact⟩, hending⟩ :=
    evaluate_polls hv (rfl : run = _)
  rw [ho] at hpolls
  have hcount : o.polls.toNat = completed := hexact (by decide)
  rw [Option.some.inj hpolls] at hcount
  obtain rfl : 1 = completed := hcount
  refine ⟨hv, hcut, hheard, ⟨o, ho, by rw [Option.some.inj hpolls]; rfl⟩, ?_⟩
  rw [hending hcut (by decide +kernel)]
  decide

namespace Window

variable {w : Window} {fetch : Fetch} {delay : Duration} {n : Nat}

theorem replyTime_lt_deadline_iff (h : fetch.Delayed delay) :
    w.replyTime fetch n < w.deadline ↔
      n * (delay.millisUp + w.pause) + delay.millisUp < w.deadline := by
  rw [replyTime_of_delayed h, callTime_of_delayed h]
  omega

theorem completes_iff_of_immediate (h : fetch.Immediate) :
    w.Completes fetch n ↔ ∀ m < n, m * w.pause < w.deadline := by
  have hlt (m : Nat) : w.replyTime fetch m < w.deadline ↔ m * w.pause < w.deadline := by
    rw [replyTime_lt_deadline_iff h, Duration.millisUp_zero, Nat.zero_add, Nat.add_zero]
  have hle : w.replyTime fetch n ≤ w.deadline := by
    rw [replyTime_of_immediate h]
    exact w.callTime_le_deadline fetch n
  simp only [Completes, Reaches, hlt, hle, true_and]

theorem completes_iff_of_delayed (h : fetch.Delayed delay) (hd : 0 < delay.millisUp) :
    w.Completes fetch n ↔
      n * (delay.millisUp + w.pause) + delay.millisUp ≤ w.deadline := by
  have hreply : w.replyTime fetch n ≤ w.deadline ↔
      n * (delay.millisUp + w.pause) + delay.millisUp ≤ w.deadline := by
    rw [replyTime_of_delayed h, callTime_of_delayed h]
    omega
  rw [Completes, hreply, and_iff_left_iff_imp]
  intro hn m hm
  rw [replyTime_lt_deadline_iff h]
  have hmul := Nat.mul_le_mul_right (delay.millisUp + w.pause) (Nat.succ_le_of_lt hm)
  rw [Nat.succ_mul] at hmul
  omega

end Window

namespace Evaluation

variable {e : Evaluation} {fetch : Fetch} {m n : Nat} {f : Finish}

theorem Course.hears_iff_completes (h : e.Course fetch n f) (hu : e.Uncancelled fetch)
    (hopen : ∀ m, ¬e.Decides fetch m) :
    m ≤ n ∧ e.Hears fetch m ↔ e.window.Completes fetch m := by
  have hmakes := h.makes_iff (m := m) hu
  simp only [Makes, verdict?_eq_none_iff, hopen, not_false_iff, and_true] at hmakes
  rw [Hears, hu.cancelledBy?_eq_none, and_iff_left rfl]
  exact hmakes.symm

theorem Course.ending_of_wrapped (h : e.Course fetch n f) (hu : e.Uncancelled fetch)
    (hd : e.discipline = .consistently) (hopen : ∀ m, ¬e.Decides fetch m)
    (hl : ∀ m, e.window.Completes fetch m ↔ m < 2 ^ 32) :
    f.progress.polls = 0 ∧
      f.ending = if e.window.replyTime fetch (2 ^ 32 - 1) = e.window.deadline then .satisfied
        else .violated := by
  obtain ⟨l, _, hl', hclose⟩ := h.closes_of_forall hu fun m _ => hopen m
  have hlast : l = 2 ^ 32 := eq_of_forall_lt_iff fun m => (hl' m).symm.trans (hl m)
  have hzero : f.progress.polls = 0 := by
    rw [hclose.polls, progress_polls, hlast]
    rfl
  refine ⟨hzero, ?_⟩
  cases hclose with
  | @heard i hi =>
    rw [← Nat.eq_sub_of_add_eq hlast, if_pos hi, hd]
    rfl
  | unheard hr =>
    have hearly := hr (2 ^ 32 - 1) (by omega)
    rw [if_neg (Nat.ne_of_lt hearly), close, hd]
    exact if_neg (hzero ▸ UInt32.lt_irrefl 0)

end Evaluation

theorem evaluate_of_wrapped {spec : PollSpec} (hv : spec.Valid)
    (hd : spec.discipline = .consistently) {predicate : Predicate} {fetch : Fetch}
    (hq : fetch.Quiet)
    (haccept : ∀ m, (predicate.under spec.negate).Accepts (hv.window.sample fetch m))
    (hl : ∀ m, hv.window.Completes fetch m ↔ m < 2 ^ 32) :
    let run := evaluate fetch predicate spec none
    (∀ i, (∃ sample, run.Hears fetch spec.timeout.millisUp none i sample) ↔ i < 2 ^ 32) ∧
      ∃ f : Finish, run = f.toRun spec.timeout ∧ f.progress.polls = 0 ∧
        f.ending = if hv.window.replyTime fetch (2 ^ 32 - 1) = hv.window.deadline then .satisfied
          else .violated := by
  have hu := hv.uncancelled predicate hq
  have hopen (m : Nat) : ¬(hv.evaluation predicate none).Decides fetch m := by
    rw [Evaluation.decides_of_consistently hd, not_not]
    exact haccept m
  obtain ⟨n, f, hf, hrun⟩ := hv.exists_course fetch predicate none
  dsimp only
  rw [hrun]
  refine ⟨fun i => ?_, f, rfl, hf.ending_of_wrapped hu hd hopen hl⟩
  exact (hf.exists_hears_iff.trans (hf.hears_iff_completes hu hopen)).trans (hl i)

theorem exists_polls_ne_completed :
    let spec (timeout : Nat) : PollSpec := ⟨.consistently, .ofMillis timeout, .ofMillis 1, false⟩
    let fetch (delay : Nat) : Fetch := .values (.ofMillis delay) fun _ => .bool true
    let run (timeout delay : Nat) :=
      evaluate (fetch delay) (.plain .boolIs [.bool true]) (spec timeout) none
    (spec 4294967295).Valid ∧ (spec 12884901889).Valid ∧
    (∀ i, (∃ sample, (run 4294967295 0).Hears (fetch 0) 4294967295 none i sample) ↔ i < 2 ^ 32) ∧
    (∀ i, (∃ sample, (run 12884901889 2).Hears (fetch 2) 12884901889 none i sample) ↔
      i < 2 ^ 32) ∧
    (∃ o, (run 4294967295 0).result = .ok o ∧ o.polls = 0) ∧
    ∃ o, (run 12884901889 2).result = .error (.violation o) ∧ o.polls = 0 := by
  intro spec fetch run
  have hv : (spec 4294967295).Valid := ⟨by decide, by decide⟩
  have hv' : (spec 12884901889).Valid := ⟨by decide, by decide⟩
  have hq (delay : Nat) : (fetch delay).Quiet := Fetch.quiet_values _ _
  have haccept (w : Window) (delay m : Nat) :
      ((Predicate.plain .boolIs [.bool true]).under false).Accepts (w.sample (fetch delay) m) :=
    ⟨.bool true, rfl, by decide +kernel⟩
  have hdeadline : hv.window.deadline = 4294967295 := Duration.millisUp_ofMillis _
  have hdeadline' : hv'.window.deadline = 12884901889 := Duration.millisUp_ofMillis _
  have hpause : hv.window.pause = 1 := Duration.millisUp_ofMillis 1
  have hpause' : hv'.window.pause = 1 := Duration.millisUp_ofMillis 1
  have hdelay : (Duration.ofMillis 2).millisUp = 2 := Duration.millisUp_ofMillis 2
  have hl (m : Nat) : hv.window.Completes (fetch 0) m ↔ m < 2 ^ 32 := by
    rw [Window.completes_iff_of_immediate fun _ _ => rfl, hdeadline, hpause]
    constructor
    · intro h
      apply Nat.lt_of_not_le
      intro hle
      exact absurd (h 4294967295 (Nat.lt_of_lt_of_le (by decide) hle)) (by decide)
    · intro hm i hi
      omega
  have hl' (m : Nat) : hv'.window.Completes (fetch 2) m ↔ m < 2 ^ 32 := by
    rw [Window.completes_iff_of_delayed (Fetch.delayed_values _ _) (by decide), hdelay, hdeadline',
      hpause']
    omega
  have hlast : hv.window.replyTime (fetch 0) (2 ^ 32 - 1) = hv.window.deadline := by
    rw [Window.replyTime_of_immediate fun _ _ => rfl,
      Window.callTime_of_immediate fun _ _ => rfl, hdeadline, hpause]
    decide
  have hlast' : hv'.window.replyTime (fetch 2) (2 ^ 32 - 1) ≠ hv'.window.deadline := by
    rw [Window.replyTime_of_delayed (Fetch.delayed_values _ _),
      Window.callTime_of_delayed (Fetch.delayed_values _ _), hdelay, hdeadline', hpause']
    decide
  obtain ⟨hheard, f, hrun, hpolls, hending⟩ := evaluate_of_wrapped hv rfl (hq 0) (haccept _ 0) hl
  obtain ⟨hheard', f', hrun', hpolls', hending'⟩ :=
    evaluate_of_wrapped hv' rfl (hq 2) (haccept _ 2) hl'
  rw [if_pos hlast] at hending
  rw [if_neg hlast'] at hending'
  rw [Duration.millisUp_ofMillis] at hheard hheard'
  refine ⟨hv, hv', hheard, hheard', ⟨f.progress.outcome true f.elapsed, ?_, hpolls⟩,
    f'.progress.outcome false f'.elapsed, ?_, hpolls'⟩
  · exact (congrArg Run.result hrun).trans (f.result_of_satisfied _ hending)
  · exact (congrArg Run.result hrun').trans (f'.result_of_violated _ hending')

end LiveAssert
