import LiveAssert.Proofs.Poll.Cancellation

/-!
The disciplines are dual: a condition comes to hold if and only if its negation fails to hold all
the time. One evaluation under each discipline, the second with the negated predicate, call the same
fetches at the same times, and what decides the one decides the other. Only a window in which no
reply has come back fails under both.
-/

namespace LiveAssert

namespace Predicate

def Compares (p : Predicate) (sample : Sample) : Prop :=
  ∃ v matched, sample = .ok (some v) ∧ p.test v = .ok matched

@[simp]
theorem under_not (p : Predicate) (negate : Bool) : p.under (!negate) = (p.under negate).negated := by
  simp [under, negated]

@[simp] theorem compares_under {p : Predicate} {negate : Bool} {sample : Sample} :
    (p.under negate).Compares sample ↔ p.Compares sample := by
  simp only [Compares, test_under]

theorem isNone_failure?_negated {p : Predicate} {sample : Sample} (h : p.Compares sample) :
    (p.negated.failure? sample).isNone = !(p.failure? sample).isNone := by
  obtain ⟨v, matched, rfl, ht⟩ := h
  have hholds : p.holds v = .ok (matched != p.negate) := by rw [holds, ht]; rfl
  have hnegated : p.negated.holds v = .ok !(matched != p.negate) := by
    rw [holds, test_negated, negate_negated, ht]
    exact congrArg Except.ok (Bool.bne_not ..)
  cases hm : matched != p.negate with
  | false => simp [failure?, hholds, hnegated, hm]
  | true => simp [failure?, hholds, hnegated, hm]

end Predicate

def Ending.dual : Ending → Ending
  | .satisfied => .violated
  | .timedOut => .satisfied
  | .violated => .timedOut
  | .cancelled => .cancelled

theorem Discipline.decision?_dual (holds : Bool) :
    consistently.decision? (!holds) = (eventually.decision? holds).map .dual := by
  cases holds with
  | false => rfl
  | true => rfl

structure Progress.Agrees (p q : Progress) : Prop where
  polls : p.polls = q.polls
  lastValue : p.lastValue = q.lastValue
  calls : p.calls = q.calls

namespace Progress.Agrees

variable {p q : Progress}

theorem call (h : p.Agrees q) (time : Nat) : (p.call time).Agrees (q.call time) where
  polls := by simp [h.polls]
  lastValue := by simp [h.lastValue]
  calls := by simp [h.calls]

theorem record (h : p.Agrees q) (predicate predicate' : Predicate) (sample : Sample) :
    (p.record predicate sample).Agrees (q.record predicate' sample) where
  polls := by simp [h.polls]
  lastValue := by
    cases sample with
    | ok v? => simp
    | error e => simp [h.lastValue]
  calls := by simp [h.calls]

theorem giveUp (h : p.Agrees q) : p.giveUp.Agrees q.giveUp where
  polls := by simp [h.polls]
  lastValue := by simp [h.lastValue]
  calls := by simp [h.calls]

end Progress.Agrees

namespace Evaluation

variable {e : Evaluation} {fetch : Fetch} {m n : Nat} {f g : Finish}

def dual (e : Evaluation) : Evaluation :=
  { e with discipline := .consistently, predicate := e.predicate.negated }

@[simp] theorem dual_window (e : Evaluation) : e.dual.window = e.window := rfl

theorem progress_agrees (e : Evaluation) (fetch : Fetch) (n : Nat) :
    (e.progress fetch n).Agrees (e.dual.progress fetch n) := by
  induction n with
  | zero =>
    have hstart (e : Evaluation) : e.progress fetch 0 = .start := rfl
    rw [hstart, hstart]
    exact ⟨rfl, rfl, rfl⟩
  | succ n ih =>
    rw [progress_succ, progress_succ, dual_window]
    exact (ih.call _).record _ _ _

/-- The reply to call `n` of the schedule comes back before the end of the window and before the
evaluation is cancelled. -/
def Hears (e : Evaluation) (fetch : Fetch) (n : Nat) : Prop :=
  e.window.replyTime fetch n ≤ e.window.deadline ∧
    e.cancelledBy? (e.window.replyTime fetch n) = none

theorem Continues.hears (h : e.Continues fetch n) : e.Hears fetch n :=
  ⟨Nat.le_of_lt h.early,
    cancelledBy?_of_le h.waits (Nat.le_of_lt (Window.replyTime_lt_callTime_succ h.early))⟩

theorem not_hears_of_barred {k : Nat} (h : e.cancelledBy? (e.window.callTime fetch n) = some k) :
    ¬e.Hears fetch n := by
  intro hn
  rw [cancelledBy?_of_le hn.2 (e.window.callTime_le_replyTime fetch n)] at h
  nomatch h

theorem not_hears_of_interrupted {k : Nat}
    (h : e.cancelledBy? (min (e.window.replyTime fetch n) e.window.deadline) = some k) :
    ¬e.Hears fetch n := by
  intro hn
  rw [Nat.min_eq_left hn.1, hn.2] at h
  nomatch h

theorem not_hears_of_unheard (h : e.window.deadline < e.window.replyTime fetch n) :
    ¬e.Hears fetch n :=
  fun hn => Nat.not_le.2 h hn.1

theorem Course.hears_iff_lt_of_not_hears (h : e.Course fetch n f) (hn : ¬e.Hears fetch n) :
    m ≤ n ∧ e.Hears fetch m ↔ m < n := by
  constructor
  · rintro ⟨hm, hh⟩
    exact Nat.lt_of_le_of_ne hm fun hmn => hn (hmn ▸ hh)
  · intro hm
    exact ⟨Nat.le_of_lt hm, (h.continues m hm).hears⟩

theorem Course.hears_iff_lt_of_hears (h : e.Course fetch n f) (hn : e.Hears fetch n) :
    m ≤ n ∧ e.Hears fetch m ↔ m < n + 1 := by
  constructor
  · rintro ⟨hm, _⟩
    exact Nat.lt_succ_of_le hm
  · intro hm
    refine ⟨Nat.le_of_lt_succ hm, ?_⟩
    cases Nat.lt_succ_iff_lt_or_eq.1 hm with
    | inl hm => exact (h.continues m hm).hears
    | inr hm => rw [hm]; exact hn

def closeAt (e : Evaluation) (fetch : Fetch) (n : Nat) : Finish :=
  e.close ((e.progress fetch n).call (e.window.callTime fetch n))

section Dual

variable (he : e.discipline = .eventually)
  (hsample : e.Hears fetch n → e.predicate.Compares (e.window.sample fetch n))
include he hsample

theorem verdict?_dual (h : e.Hears fetch n) :
    e.dual.verdict? fetch n = (e.verdict? fetch n).map .dual := by
  rw [verdict?, verdict?, he, ← Discipline.decision?_dual]
  exact congrArg Discipline.consistently.decision? (Predicate.isNone_failure?_negated (hsample h))

theorem Continues.dual (h : e.Continues fetch n) : e.dual.Continues fetch n where
  early := h.early
  undecided := by rw [verdict?_dual he hsample h.hears, h.undecided]; rfl
  quiet := h.quiet
  waits := h.waits

/-- What ends an evaluation at a poll ends its dual at this poll and time. The endings are dual
unless the last reply does not come back before the end of the window. -/
theorem Ends.exists_dual (h : e.Ends fetch n f) :
    ∃ g, e.dual.Ends fetch n g ∧ f.elapsed = g.elapsed ∧ f.progress.Agrees g.progress ∧
      ((e.Hears fetch n ∨ f.ending = .cancelled) ∧ g.ending = f.ending.dual ∨
        ¬e.Hears fetch n ∧ f = e.closeAt fetch n ∧ g = e.dual.closeAt fetch n) := by
  have hp := e.progress_agrees fetch n
  have hp' := e.progress_agrees fetch (n + 1)
  cases h with
  | barred hc => exact ⟨_, .barred hc, rfl, hp, .inl ⟨.inr rfl, rfl⟩⟩
  | interrupted hn hc => exact ⟨_, .interrupted hn hc, rfl, hp.call _, .inl ⟨.inr rfl, rfl⟩⟩
  | unheard hn hd =>
    refine ⟨_, .unheard hn hd, ?_, (hp.call _).giveUp,
      .inr ⟨not_hears_of_unheard hd, rfl, rfl⟩⟩
    rw [close, close, dual_window]
  | decided hn hd hv =>
    have hh : e.Hears fetch n := ⟨hd, hn⟩
    refine ⟨_, .decided hn hd ?_, rfl, hp', .inl ⟨.inl hh, rfl⟩⟩
    rw [verdict?_dual he hsample hh, hv]
    rfl
  | expired hn hd hv =>
    have hh : e.Hears fetch n := ⟨Nat.le_of_eq hd, hn⟩
    refine ⟨_, .expired hn hd ?_, rfl, hp', .inl ⟨.inl hh, ?_⟩⟩
    · rw [verdict?_dual he hsample hh, hv]
      rfl
    · rw [he]
      rfl
  | withdrawn hn hd hv hq =>
    refine ⟨_, .withdrawn hn hd ?_ hq, rfl, hp', .inl ⟨.inr rfl, rfl⟩⟩
    rw [verdict?_dual he hsample ⟨Nat.le_of_lt hd, hn⟩, hv]
    rfl
  | awaited hn hd hv hq hc =>
    refine ⟨_, .awaited hn hd ?_ hq hc, rfl, hp', .inl ⟨.inr rfl, rfl⟩⟩
    rw [verdict?_dual he hsample ⟨Nat.le_of_lt hd, hn⟩, hv]
    rfl

end Dual

theorem ending_closeAt (he : e.discipline = .eventually) :
    (e.closeAt fetch n).ending = .timedOut := by
  rw [closeAt, close, he]
  rfl

@[simp] theorem ending_closeAt_dual_zero (e : Evaluation) (fetch : Fetch) :
    (e.dual.closeAt fetch 0).ending = .violated := rfl

theorem ending_closeAt_dual (hn : 0 < n) (hcount : n < 2 ^ 32) :
    (e.dual.closeAt fetch n).ending = .satisfied := by
  have hpolls : 0 < (e.dual.progress fetch n).polls := by
    rw [progress_polls, UInt32.lt_iff_toNat_lt, UInt32.toNat_ofNat_of_lt' hcount]
    exact hn
  exact if_pos hpolls

theorem Ends.calls_eq (h : e.Ends fetch n f) :
    (¬e.Hears fetch n ∧ f.progress.calls = (e.progress fetch n).calls) ∨
      f.progress.calls = (e.progress fetch (n + 1)).calls := by
  have hcall := calls_call_progress e fetch n
  cases h with
  | barred hc => exact .inl ⟨not_hears_of_barred hc, rfl⟩
  | interrupted => exact .inr hcall
  | unheard => exact .inr hcall
  | decided => exact .inr rfl
  | expired => exact .inr rfl
  | withdrawn => exact .inr rfl
  | awaited => exact .inr rfl

theorem Ends.exists_calls (h : e.Ends fetch n f) :
    ∃ l, n ≤ l ∧ l ≤ n + 1 ∧ (e.Hears fetch n → n < l) ∧
      f.progress.calls.reverse = (List.range l).map (e.window.callTime fetch) := by
  cases h.calls_eq with
  | inl h =>
    exact ⟨n, Nat.le_refl n, Nat.le_succ n, fun hh => absurd hh h.1, by rw [h.2, progress_calls]⟩
  | inr h =>
    exact ⟨n + 1, Nat.le_succ n, Nat.le_refl _, fun _ => Nat.lt_succ_self n,
      by rw [h, progress_calls]⟩

theorem Ends.callTime_eq_of_getElem? {t : Nat} (h : e.Ends fetch n f)
    (ht : f.progress.calls.reverse[m]? = some t) : m ≤ n ∧ e.window.callTime fetch m = t := by
  obtain ⟨l, _, hl, _, hcalls⟩ := h.exists_calls
  rw [hcalls, getElem?_map_range_eq_some_iff] at ht
  exact ⟨Nat.le_of_lt_succ (Nat.lt_of_lt_of_le ht.1 hl), ht.2⟩

end Evaluation

namespace Run

def ending? (run : Run ConditionError) : Option Ending :=
  match run.result with
  | .ok _ => some .satisfied
  | .error (.timeout _ _) => some .timedOut
  | .error (.violation _) => some .violated
  | .error (.cancelled _) => some .cancelled
  | .error (.configuration _) => none

/-- The reply to call `n` of a run has the sample, and it comes back before the end of the window
and before the run is cancelled. -/
def Hears (run : Run ε) (fetch : Fetch) (deadline : Nat) (cancelAt : Option Nat) (n : Nat)
    (sample : Sample) : Prop :=
  ∃ time, run.calls[n]? = some time ∧ (fetch n time).sample = sample ∧
    time + (fetch n time).delay.millisUp ≤ deadline ∧
    ∀ k, cancelAt = some k → time + (fetch n time).delay.millisUp < k

end Run

@[simp] theorem Finish.ending?_toRun (timeout : Duration) (f : Finish) :
    (f.toRun timeout).ending? = some f.ending := by
  obtain ⟨ending, p, elapsed⟩ := f
  cases ending with
  | satisfied => rfl
  | timedOut => rfl
  | violated => rfl
  | cancelled => rfl

namespace Evaluation

variable {e : Evaluation} {fetch : Fetch} {m n : Nat} {f : Finish}

theorem Course.hears_iff (h : e.Course fetch n f) {timeout : Duration} {sample : Sample} :
    (f.toRun timeout).Hears fetch e.window.deadline e.cancelAt m sample ↔
      m ≤ n ∧ e.Hears fetch m ∧ e.window.sample fetch m = sample := by
  obtain ⟨l, hn, hl, hh, hcalls⟩ := h.ends.exists_calls
  have hcall (time : Nat) : (f.toRun timeout).calls[m]? = some time ↔
      m < l ∧ e.window.callTime fetch m = time := by
    rw [Finish.calls_toRun, hcalls, getElem?_map_range_eq_some_iff]
  constructor
  · rintro ⟨time, ht, hs, hd, hk⟩
    obtain ⟨hm, rfl⟩ := (hcall time).1 ht
    exact ⟨Nat.le_of_lt_succ (Nat.lt_of_lt_of_le hm hl), ⟨hd, cancelledBy?_eq_none_iff.2 hk⟩, hs⟩
  · rintro ⟨hm, ⟨hd, hc⟩, hs⟩
    refine ⟨_, (hcall _).2 ⟨?_, rfl⟩, hs, hd, cancelledBy?_eq_none_iff.1 hc⟩
    cases Nat.lt_or_eq_of_le hm with
    | inl hm => exact Nat.lt_of_lt_of_le hm hn
    | inr hm => rw [hm] at hd hc ⊢; exact hh ⟨hd, hc⟩

theorem Course.exists_dual (h : e.Course fetch n f) (he : e.discipline = .eventually)
    (hsample : ∀ m ≤ n, e.Hears fetch m → e.predicate.Compares (e.window.sample fetch m))
    (hcount : ∀ m ≤ n, e.Hears fetch m → m + 1 < 2 ^ 32) :
    ∃ g, e.dual.Course fetch n g ∧ f.elapsed = g.elapsed ∧ f.progress.Agrees g.progress ∧
      ((∃ m ≤ n, e.Hears fetch m) ∨ f.ending = .cancelled → g.ending = f.ending.dual) ∧
      ((∀ m ≤ n, ¬e.Hears fetch m) → f.ending ≠ .cancelled →
        f = e.closeAt fetch 0 ∧ g = e.dual.closeAt fetch 0) := by
  obtain ⟨g, hg, helapsed, hagrees, hending⟩ :=
    h.ends.exists_dual he (hsample n (Nat.le_refl n))
  have hcourse : e.dual.Course fetch n g :=
    ⟨fun m hm => (h.continues m hm).dual he (hsample m (Nat.le_of_lt hm)), hg⟩
  have hearlier (m : Nat) (hm : m < n) : e.Hears fetch m := (h.continues m hm).hears
  refine ⟨g, hcourse, helapsed, hagrees, fun hheard => ?_, fun hnone hc => ?_⟩
  · obtain ⟨_, hdual⟩ | ⟨hn, rfl, rfl⟩ := hending
    · exact hdual
    · -- the window closes during call `n`, so what has been heard is an earlier reply
      obtain ⟨m, hm, hh⟩ | hc := hheard
      · have hpos : 0 < n := by
          cases Nat.lt_or_eq_of_le hm with
          | inl hm => exact Nat.zero_lt_of_lt hm
          | inr hm => exact absurd (hm ▸ hh) hn
        have hn' := hcount (n - 1) (Nat.sub_le n 1) (hearlier _ (Nat.sub_one_lt_of_lt hpos))
        rw [Nat.sub_add_cancel hpos] at hn'
        rw [ending_closeAt he]
        exact ending_closeAt_dual hpos hn'
      · rw [ending_closeAt he] at hc
        nomatch hc
  · have hzero : n = 0 := Nat.eq_zero_of_not_pos fun hn =>
      hnone (n - 1) (Nat.sub_le n 1) (hearlier _ (Nat.sub_one_lt_of_lt hn))
    subst hzero
    obtain ⟨hh | hc', _⟩ | ⟨_, hf, hg⟩ := hending
    · exact absurd hh (hnone 0 (Nat.le_refl 0))
    · exact absurd hc' hc
    · exact ⟨hf, hg⟩

end Evaluation

theorem PollSpec.Valid.evaluation_dual {timeout interval : Duration} {negate : Bool}
    (hv : (⟨.eventually, timeout, interval, negate⟩ : PollSpec).Valid)
    (hv' : (⟨.consistently, timeout, interval, !negate⟩ : PollSpec).Valid)
    (predicate : Predicate) (cancelAt : Option Nat) :
    hv'.evaluation predicate cancelAt = (hv.evaluation predicate cancelAt).dual := by
  rw [evaluation, evaluation, Evaluation.dual, Predicate.under_not]
  rfl

/-- An evaluation under `eventually` and one of the negated condition under `consistently` differ
only in their verdict, which is the dual one, except where the window closes before any reply. -/
theorem evaluate_dual {fetch : Fetch} {predicate : Predicate} {timeout interval : Duration}
    {negate : Bool} {cancelAt : Option Nat} {a b : Run ConditionError}
    (ha : a = evaluate fetch predicate ⟨.eventually, timeout, interval, negate⟩ cancelAt)
    (hb : b = evaluate fetch predicate ⟨.consistently, timeout, interval, !negate⟩ cancelAt)
    (htimeout : 0 < timeout.nanos) (hinterval : 0 < interval.nanos)
    (hsample : ∀ n sample, a.Hears fetch timeout.millisUp cancelAt n sample →
      predicate.Compares sample)
    (hcount : ∀ n sample, a.Hears fetch timeout.millisUp cancelAt n sample → n + 1 < 2 ^ 32) :
    let heard := ∃ n sample, a.Hears fetch timeout.millisUp cancelAt n sample
    ∃ o o', a.outcome? = some o ∧ b.outcome? = some o' ∧
      o.polls = o'.polls ∧ o.elapsed = o'.elapsed ∧ o.lastValue = o'.lastValue ∧
      a.calls = b.calls ∧ a.elapsed = b.elapsed ∧
      (heard ∨ a.ending? = some .cancelled →
        (a.ending? = some .satisfied ↔ b.ending? = some .violated) ∧
        (a.ending? = some .timedOut ↔ b.ending? = some .satisfied) ∧
        (a.ending? = some .cancelled ↔ b.ending? = some .cancelled)) ∧
      (¬heard → a.ending? ≠ some .cancelled →
        a.ending? = some .timedOut ∧ b.ending? = some .violated ∧
          o.lastError = some .pending ∧ o'.lastError = some .pending) := by
  have hv : (⟨.eventually, timeout, interval, negate⟩ : PollSpec).Valid := ⟨htimeout, hinterval⟩
  have hv' : (⟨.consistently, timeout, interval, !negate⟩ : PollSpec).Valid :=
    ⟨htimeout, hinterval⟩
  let e := hv.evaluation predicate cancelAt
  obtain ⟨n, f, hf, hrun⟩ := hv.exists_course fetch predicate cancelAt
  have hhears (m : Nat) (sample : Sample) :
      a.Hears fetch timeout.millisUp cancelAt m sample ↔
        m ≤ n ∧ e.Hears fetch m ∧ e.window.sample fetch m = sample := by
    rw [ha, hrun]
    exact hf.hears_iff
  have hheard (m : Nat) (hm : m ≤ n) (hh : e.Hears fetch m) :
      a.Hears fetch timeout.millisUp cancelAt m (e.window.sample fetch m) :=
    (hhears m _).2 ⟨hm, hh, rfl⟩
  obtain ⟨g, hg, helapsed, hagrees, hdual, hunheard⟩ := hf.exists_dual rfl
    (fun m hm hh => Predicate.compares_under.2 (hsample m _ (hheard m hm hh)))
    (fun m hm hh => hcount m _ (hheard m hm hh))
  have hrun' : b = g.toRun timeout := by
    rw [hb, evaluate_eq_toRun hv', hv.evaluation_dual hv', hg.run_eq]
  have hea : a.ending? = some f.ending := by rw [ha, hrun, f.ending?_toRun]
  have heb : b.ending? = some g.ending := by rw [hrun', g.ending?_toRun]
  refine ⟨_, _, by rw [ha, hrun, f.outcome?_toRun], by rw [hrun', g.outcome?_toRun],
    hagrees.polls, congrArg Duration.ofMillis helapsed, hagrees.lastValue, ?_, ?_, ?_, ?_⟩
  · rw [ha, hrun, hrun']
    exact congrArg List.reverse hagrees.calls
  · rw [ha, hrun, hrun']
    exact helapsed
  · intro hpolled
    have hending : g.ending = f.ending.dual := by
      apply hdual
      obtain ⟨m, sample, hm⟩ | hc := hpolled
      · obtain ⟨hle, hh, _⟩ := (hhears m sample).1 hm
        exact .inl ⟨m, hle, hh⟩
      · exact .inr (Option.some.inj (hea.symm.trans hc))
    rw [hea, heb, hending]
    cases f.ending <;> simp [Ending.dual]
  · intro hnone hc
    rw [hea] at hc ⊢
    obtain ⟨rfl, rfl⟩ := hunheard (fun m hm hh => hnone ⟨m, _, hheard m hm hh⟩)
      (fun hcancelled => hc (congrArg some hcancelled))
    rw [heb, Evaluation.ending_closeAt rfl, Evaluation.ending_closeAt_dual_zero]
    exact ⟨rfl, rfl, rfl, rfl⟩

theorem evaluate_dual_third :
    let predicate : Predicate := .plain .boolIs [.bool true]
    let fetch : Fetch := .values (.ofMillis 4) fun n => .bool (n == 2)
    let a := evaluate fetch predicate ⟨.eventually, .ofMillis 100, .ofMillis 10, false⟩ none
    let b := evaluate fetch predicate ⟨.consistently, .ofMillis 100, .ofMillis 10, true⟩ none
    a.Hears fetch 100 none 0 (.ok (some (.bool false))) ∧
      (∀ n sample, a.Hears fetch 100 none n sample →
        predicate.Compares sample ∧ n + 1 < 2 ^ 32) ∧
      a.ending? = some .satisfied ∧ b.ending? = some .violated ∧ b.calls = [0, 14, 28] := by
  intro predicate fetch a b
  have hcalls : a.calls = [0, 14, 28] := by decide +kernel
  have hfirst : a.Hears fetch 100 none 0 (.ok (some (.bool false))) :=
    ⟨0, by rw [hcalls]; rfl, rfl, by decide, nofun⟩
  have hheard (n : Nat) (sample : Sample) (h : a.Hears fetch 100 none n sample) :
      predicate.Compares sample ∧ n + 1 < 2 ^ 32 := by
    obtain ⟨time, ht, hs, _⟩ := h
    obtain ⟨hn, _⟩ := List.getElem?_eq_some_iff.1 ht
    rw [hcalls] at hn
    exact ⟨⟨.bool (n == 2), _, hs.symm, rfl⟩, Nat.lt_trans (Nat.succ_lt_succ hn) (by decide)⟩
  have hending : a.ending? = some .satisfied := by decide +kernel
  obtain ⟨_, _, _, _, _, _, _, hsame, _, hdual, _⟩ := evaluate_dual (a := a) (b := b) rfl rfl
    (by decide) (by decide) (fun n sample h => (hheard n sample h).1)
    (fun n sample h => (hheard n sample h).2)
  exact ⟨hfirst, hheard, hending, (hdual (.inl ⟨0, _, hfirst⟩)).1.1 hending, hsame ▸ hcalls⟩

end LiveAssert
