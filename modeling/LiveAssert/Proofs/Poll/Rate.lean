import LiveAssert.Proofs.Poll.Coherence
import Mathlib.Algebra.Order.Floor.Div

namespace LiveAssert

namespace Window

variable {w : Window} {fetch : Fetch} {m n : Nat}

theorem replyTime_add_pause_le_or (w : Window) (fetch : Fetch) (n : Nat) :
    w.replyTime fetch n + w.pause ≤ w.callTime fetch (n + 1) ∨
      w.callTime fetch (n + 1) = w.deadline := by
  rw [callTime_succ, next]
  cases min_choice (w.replyTime fetch n + w.pause) w.deadline with
  | inl h => exact .inl (Nat.le_of_eq h.symm)
  | inr h => exact .inr h

theorem mul_pause_le_callTime (hr : w.Reaches fetch n) (hn : w.callTime fetch n < w.deadline) :
    n * w.pause ≤ w.callTime fetch n := by
  induction n with
  | zero => rw [Nat.zero_mul]; exact Nat.zero_le _
  | succ n ih =>
    have hn' := hr.callTime_lt_callTime (Nat.lt_succ_self n)
    cases w.replyTime_add_pause_le_or fetch n with
    | inr h => exact absurd h (Nat.ne_of_lt hn)
    | inl h =>
      calc (n + 1) * w.pause
        _ = n * w.pause + w.pause := Nat.succ_mul n w.pause
        _ ≤ w.callTime fetch n + w.pause :=
          Nat.add_le_add_right (ih (hr.mono (Nat.le_succ n)) (Nat.lt_trans hn' hn)) _
        _ ≤ w.replyTime fetch n + w.pause :=
          Nat.add_le_add_right (w.callTime_le_replyTime fetch n) _
        _ ≤ w.callTime fetch (n + 1) := h

theorem Reaches.le_ceilDiv (h : w.Reaches fetch n) : n ≤ w.deadline ⌈/⌉ w.pause := by
  cases n with
  | zero => exact Nat.zero_le _
  | succ n =>
    have hn := Nat.lt_of_le_of_lt (w.callTime_le_replyTime fetch n) (h n (Nat.lt_succ_self n))
    have hle := mul_pause_le_callTime (h.mono (Nat.le_succ n)) hn
    apply Nat.succ_le_of_lt
    rw [← not_le, ceilDiv_le_iff_le_mul w.pause_pos, Nat.mul_comm, not_le]
    exact Nat.lt_of_le_of_lt hle hn

end Window

namespace Evaluation

variable {e : Evaluation} {fetch : Fetch} {m n k : Nat} {f : Finish}

theorem Ends.callTime_le_elapsed (h : e.Ends fetch n f) :
    e.window.callTime fetch n ≤ f.elapsed := by
  have hle := e.window.callTime_le_replyTime fetch n
  cases h with
  | barred => exact Nat.le_refl _
  | interrupted hn hc =>
    exact Nat.le_of_lt (cancelledBy?_eq_none_iff.1 hn _ (cancelledBy?_eq_some_iff.1 hc).1)
  | unheard => exact e.window.callTime_le_deadline fetch n
  | decided => exact hle
  | expired => exact hle
  | withdrawn => exact hle
  | awaited hn _ _ _ hc =>
    have hk := cancelledBy?_eq_none_iff.1 hn _ (cancelledBy?_eq_some_iff.1 hc).1
    exact Nat.le_trans hle (Nat.le_of_lt hk)

theorem Ends.elapsed_le_deadline (h : e.Ends fetch n f) : f.elapsed ≤ e.window.deadline := by
  cases h with
  | barred => exact e.window.callTime_le_deadline fetch n
  | interrupted _ hc =>
    exact Nat.le_trans (cancelledBy?_eq_some_iff.1 hc).2 (Nat.min_le_right _ _)
  | unheard => exact Nat.le_refl _
  | decided _ hd _ => exact hd
  | expired _ hd _ => exact Nat.le_of_eq hd
  | withdrawn _ hd _ _ => exact Nat.le_of_lt hd
  | awaited _ _ _ _ hc =>
    exact Nat.le_trans (cancelledBy?_eq_some_iff.1 hc).2 (e.window.callTime_le_deadline fetch _)

theorem Ends.replyTime_le_elapsed (h : e.Ends fetch n f) (hn : e.Hears fetch n) :
    e.window.replyTime fetch n ≤ f.elapsed := by
  cases h with
  | barred hc => exact absurd hn (not_hears_of_barred hc)
  | interrupted _ hc => exact absurd hn (not_hears_of_interrupted hc)
  | unheard _ hd => exact absurd hn (not_hears_of_unheard hd)
  | decided => exact Nat.le_refl _
  | expired => exact Nat.le_refl _
  | withdrawn => exact Nat.le_refl _
  | awaited hn _ _ _ hc =>
    exact Nat.le_of_lt (cancelledBy?_eq_none_iff.1 hn _ (cancelledBy?_eq_some_iff.1 hc).1)

theorem Course.replyTime_le_elapsed (h : e.Course fetch n f) (hm : m ≤ n) (hh : e.Hears fetch m) :
    e.window.replyTime fetch m ≤ f.elapsed := by
  cases Nat.lt_or_eq_of_le hm with
  | inl hm =>
    calc e.window.replyTime fetch m
      _ ≤ e.window.callTime fetch n := Nat.le_of_lt (h.reaches.replyTime_lt_callTime hm)
      _ ≤ f.elapsed := h.ends.callTime_le_elapsed
  | inr hm =>
    rw [hm] at hh ⊢
    exact h.ends.replyTime_le_elapsed hh

theorem Ends.calls_eq_or_of_not_hears (h : e.Ends fetch n f) (hn : ¬e.Hears fetch n) :
    f.progress.calls = (e.progress fetch n).calls ∨
      f.progress.calls = (e.progress fetch (n + 1)).calls ∧
        (f.elapsed < e.window.replyTime fetch n ∨
          e.cancelAt = some f.elapsed ∧ f.elapsed = e.window.replyTime fetch n) ∧
        (f.ending = .cancelled ∨ f.elapsed = e.window.deadline) := by
  have hcall := calls_call_progress e fetch n
  cases h with
  | barred => exact .inl rfl
  | interrupted _ hc =>
    obtain ⟨hk, hle⟩ := cancelledBy?_eq_some_iff.1 hc
    have hle := Nat.le_trans hle (Nat.min_le_left _ _)
    refine .inr ⟨hcall, ?_, .inl rfl⟩
    cases Nat.lt_or_eq_of_le hle with
    | inl hlt => exact .inl hlt
    | inr heq => exact .inr ⟨hk, heq⟩
  | unheard _ hd => exact .inr ⟨hcall, .inl hd, .inr rfl⟩
  | decided hc hd _ => exact absurd ⟨hd, hc⟩ hn
  | expired hc hd _ => exact absurd ⟨Nat.le_of_eq hd, hc⟩ hn
  | withdrawn hc hd _ _ => exact absurd ⟨Nat.le_of_lt hd, hc⟩ hn
  | awaited hc hd _ _ _ => exact absurd ⟨Nat.le_of_lt hd, hc⟩ hn

end Evaluation

namespace Run

/-- Call `n` of a run is out at a time, from its call to its reply or the end of the run. -/
def InFlight (run : Run ε) (fetch : Fetch) (n t : Nat) : Prop :=
  ∃ time, run.calls[n]? = some time ∧ time ≤ t ∧ t ≤ time + (fetch n time).delay.millisUp ∧
    t ≤ run.elapsed

/-- The run ends before the reply to one of its calls, or at the time of this reply by a
cancellation from outside, which comes first. -/
def CutsOff (run : Run ε) (fetch : Fetch) (cancelAt : Option Nat) : Prop :=
  ∃ n time, run.calls[n]? = some time ∧
    (run.elapsed < time + (fetch n time).delay.millisUp ∨
      cancelAt = some run.elapsed ∧ run.elapsed = time + (fetch n time).delay.millisUp)

end Run

namespace Evaluation

variable {e : Evaluation} {fetch : Fetch} {m n : Nat} {f : Finish}

theorem Course.replyTime_lt_of_getElem? {s t i j : Nat} (h : e.Course fetch n f) (hij : i < j)
    (hs : f.progress.calls.reverse[i]? = some s) (ht : f.progress.calls.reverse[j]? = some t) :
    s + (fetch i s).delay.millisUp < t := by
  obtain ⟨_, rfl⟩ := h.ends.callTime_eq_of_getElem? hs
  obtain ⟨hj, rfl⟩ := h.ends.callTime_eq_of_getElem? ht
  exact (h.reaches.mono hj).replyTime_lt_callTime hij

theorem Course.eq_of_inFlight {i j t : Nat} {timeout : Duration} (h : e.Course fetch n f)
    (hi : (f.toRun timeout).InFlight fetch i t) (hj : (f.toRun timeout).InFlight fetch j t) :
    i = j := by
  obtain ⟨s, hs, hst, hts, _⟩ := hi
  obtain ⟨s', hs', hst', hts', _⟩ := hj
  obtain hlt | heq | hlt := Nat.lt_trichotomy i j
  · have := h.replyTime_lt_of_getElem? hlt hs hs'
    omega
  · exact heq
  · have := h.replyTime_lt_of_getElem? hlt hs' hs
    omega

theorem Course.pause_le_or_of_getElem? {s t i : Nat} (h : e.Course fetch n f)
    (hs : f.progress.calls.reverse[i]? = some s)
    (ht : f.progress.calls.reverse[i + 1]? = some t) :
    s + (fetch i s).delay.millisUp + e.window.pause ≤ t ∨
      t = e.window.deadline ∧ f.progress.calls.reverse.length = i + 2 := by
  obtain ⟨_, rfl⟩ := h.ends.callTime_eq_of_getElem? hs
  obtain ⟨hi, rfl⟩ := h.ends.callTime_eq_of_getElem? ht
  cases e.window.replyTime_add_pause_le_or fetch i with
  | inl hpause => exact .inl hpause
  | inr hd =>
    refine .inr ⟨hd, ?_⟩
    obtain ⟨l, _, hl, _, hcalls⟩ := h.ends.exists_calls
    obtain ⟨hlt, _⟩ := List.getElem?_eq_some_iff.1 ht
    rw [hcalls, List.length_map, List.length_range] at hlt ⊢
    -- a call after the one at the deadline would come later than it
    apply Nat.le_antisymm _ hlt
    apply Nat.le_of_not_lt
    intro hlt'
    have hlater : i + 2 ≤ n := Nat.le_of_lt_succ (Nat.lt_of_lt_of_le hlt' hl)
    have hlt := (h.reaches.mono hlater).callTime_lt_callTime (Nat.lt_succ_self (i + 1))
    exact Nat.not_lt.2 (e.window.callTime_le_deadline fetch (i + 2)) (hd ▸ hlt)

theorem Course.length_calls_le (h : e.Course fetch n f) :
    f.progress.calls.reverse.length ≤ e.window.deadline ⌈/⌉ e.window.pause + 1 := by
  obtain ⟨l, _, hl, _, hcalls⟩ := h.ends.exists_calls
  rw [hcalls, List.length_map, List.length_range]
  exact Nat.le_trans hl (Nat.succ_le_succ h.reaches.le_ceilDiv)

theorem Course.not_cutsOff {l : Nat} (h : e.Course fetch n f)
    (hl : ∀ m, m ≤ n ∧ e.Hears fetch m ↔ m < l)
    (hcalls : f.progress.calls = (e.progress fetch l).calls) (timeout : Duration) :
    ¬(f.toRun timeout).CutsOff fetch e.cancelAt := by
  rintro ⟨m, time, ht, hcut⟩
  rw [Finish.calls_toRun, hcalls, progress_calls, getElem?_map_range_eq_some_iff] at ht
  obtain ⟨hm, rfl⟩ := ht
  obtain ⟨hmn, hh⟩ := (hl m).2 hm
  obtain hlt | ⟨hk, heq⟩ := hcut
  · exact Nat.not_lt.2 (h.replyTime_le_elapsed hmn hh) hlt
  · exact Nat.ne_of_gt (cancelledBy?_eq_none_iff.1 hh.2 _ hk) heq

theorem Course.exists_hears_iff {timeout : Duration} (h : e.Course fetch n f) :
    (∃ sample, (f.toRun timeout).Hears fetch e.window.deadline e.cancelAt m sample) ↔
      m ≤ n ∧ e.Hears fetch m := by
  constructor
  · rintro ⟨sample, hh⟩
    obtain ⟨hm, hh, _⟩ := h.hears_iff.1 hh
    exact ⟨hm, hh⟩
  · rintro ⟨hm, hh⟩
    exact ⟨_, h.hears_iff.2 ⟨hm, hh, rfl⟩⟩

theorem Course.exists_length_calls (h : e.Course fetch n f) (timeout : Duration) :
    ∃ l, (∀ m, m ≤ n ∧ e.Hears fetch m ↔ m < l) ∧
      ((f.toRun timeout).CutsOff fetch e.cancelAt ∧ f.progress.calls.reverse.length = l + 1 ∧
          (f.ending = .cancelled ∨ f.elapsed = e.window.deadline) ∨
        ¬(f.toRun timeout).CutsOff fetch e.cancelAt ∧ f.progress.calls.reverse.length = l) := by
  have hlength (l : Nat) (hl : f.progress.calls = (e.progress fetch l).calls) :
      f.progress.calls.reverse.length = l := by
    rw [hl, progress_calls, List.length_map, List.length_range]
  by_cases hn : e.Hears fetch n
  · have hl (m : Nat) := h.hears_iff_lt_of_hears (m := m) hn
    have hcalls := h.ends.calls_eq.resolve_left fun hcalls => hcalls.1 hn
    exact ⟨n + 1, hl, .inr ⟨h.not_cutsOff hl hcalls timeout, hlength _ hcalls⟩⟩
  · have hl (m : Nat) := h.hears_iff_lt_of_not_hears (m := m) hn
    refine ⟨n, hl, ?_⟩
    cases h.ends.calls_eq_or_of_not_hears hn with
    | inl hcalls => exact .inr ⟨h.not_cutsOff hl hcalls timeout, hlength n hcalls⟩
    | inr hcut =>
      obtain ⟨hcalls, hout, hend⟩ := hcut
      refine .inl ⟨⟨n, e.window.callTime fetch n, ?_, hout⟩, hlength _ hcalls, hend⟩
      rw [Finish.calls_toRun, hcalls, progress_calls, getElem?_map_range_eq_some_iff]
      exact ⟨Nat.lt_succ_self n, rfl⟩

end Evaluation

/-- A run under a valid spec ends with its window at the latest. It has at most one call out at a
time, and these are a pause apart but for one at the deadline; all but the last are completed polls,
and this is one unless the run ends while it is out. The outcome counts the completed polls. -/
theorem evaluate_rate {spec : PollSpec} (hv : spec.Valid) {fetch : Fetch} {predicate : Predicate}
    {cancelAt : Option Nat} {run : Run ConditionError}
    (hrun : run = evaluate fetch predicate spec cancelAt) :
    let deadline := spec.timeout.millisUp
    let pause := spec.interval.millisUp
    (∃ o, run.outcome? = some o ∧ o.elapsed = .ofMillis run.elapsed) ∧ run.elapsed ≤ deadline ∧
    (∀ i j t, run.InFlight fetch i t → run.InFlight fetch j t → i = j) ∧
    (∀ i s t, run.calls[i]? = some s → run.calls[i + 1]? = some t →
      let back := s + (fetch i s).delay.millisUp
      run.Hears fetch deadline cancelAt i (fetch i s).sample ∧ back < t ∧
        (back + pause ≤ t ∨ t = deadline ∧ run.calls.length = i + 2)) ∧
    run.calls.length ≤ deadline ⌈/⌉ pause + 1 ∧
    ∃ polls, (∀ i, (∃ sample, run.Hears fetch deadline cancelAt i sample) ↔ i < polls) ∧
      (∀ o, run.outcome? = some o → o.polls = .ofNat polls) ∧
      (run.CutsOff fetch cancelAt ∧ run.calls.length = polls + 1 ∧
          (run.ending? = some .cancelled ∨ run.elapsed = deadline) ∨
        ¬run.CutsOff fetch cancelAt ∧ run.calls.length = polls) := by
  intro deadline pause
  obtain ⟨n, f, hf, hfinish⟩ := hv.exists_course fetch predicate cancelAt
  rw [hrun, hfinish, f.ending?_toRun]
  obtain ⟨satisfied, ho⟩ := f.exists_outcome?_toRun spec.timeout
  refine ⟨⟨_, ho, rfl⟩, hf.ends.elapsed_le_deadline, ?_, ?_, hf.length_calls_le, ?_⟩
  · intro i j t
    exact hf.eq_of_inFlight
  · intro i s t hs ht
    refine ⟨?_, hf.replyTime_lt_of_getElem? (Nat.lt_succ_self i) hs ht,
      hf.pause_le_or_of_getElem? hs ht⟩
    obtain ⟨hi, _⟩ := hf.ends.callTime_eq_of_getElem? ht
    obtain ⟨_, rfl⟩ := hf.ends.callTime_eq_of_getElem? hs
    exact hf.hears_iff.2 ⟨Nat.le_of_lt hi, (hf.continues i hi).hears, rfl⟩
  · obtain ⟨l, hl, hlength⟩ := hf.exists_length_calls spec.timeout
    refine ⟨l, fun i => ?_, fun o houtcome => ?_, ?_⟩
    · rw [← hl i]
      exact hf.exists_hears_iff
    · obtain rfl := Option.some.inj (houtcome.symm.trans (f.outcome?_toRun spec.timeout))
      exact hf.counter_eq hl
    · rw [Option.some.injEq]
      exact hlength

theorem evaluate_rate_of_unheard :
    let spec : PollSpec := ⟨.consistently, .ofMicros 24500, .ofMicros 9500, false⟩
    let fetch : Fetch := .values (.ofMillis 12) fun _ => .bool true
    let run := evaluate fetch (.plain .boolIs [.bool true]) spec none
    spec.Valid ∧ run.calls = [0, 22] ∧ run.elapsed = 25 ∧ run.CutsOff fetch none ∧
      (∀ i j t, run.InFlight fetch i t → run.InFlight fetch j t → i = j) ∧
      ∃ polls, (∀ i, (∃ sample, run.Hears fetch spec.timeout.millisUp none i sample) ↔ i < polls) ∧
        run.calls.length = polls + 1 := by
  intro spec fetch run
  have hv : spec.Valid := ⟨by decide, by decide⟩
  have hcalls : run.calls = [0, 22] := by decide +kernel
  have helapsed : run.elapsed = 25 := by decide +kernel
  have hcut : run.CutsOff fetch none := by
    refine ⟨1, 22, by rw [hcalls]; rfl, .inl ?_⟩
    rw [helapsed]
    decide
  obtain ⟨_, _, honce, _, _, polls, hpolls, _, hlength⟩ := evaluate_rate hv (rfl : run = _)
  obtain ⟨_, hlength, _⟩ := hlength.resolve_right fun h => h.1 hcut
  exact ⟨hv, hcalls, helapsed, hcut, honce, polls, hpolls, hlength⟩

end LiveAssert
