import LiveAssert.Proofs.Poll.Schedule
import Mathlib.Data.Nat.Find

/-!
The course of an evaluation. A poll either leaves the evaluation to go on (`Continues`) or ends it
in one of seven ways (`Ends`), and a run goes on at every poll but its last, which ends it.
-/

namespace LiveAssert

def Fetch.Quiet (fetch : Fetch) : Prop := ∀ n time, (fetch n time).cancels = false

def Fetch.values (delay : Duration) (v : Nat → Value) : Fetch :=
  fun n _ => ⟨.ok (some (v n)), delay, false⟩

@[simp] theorem Fetch.quiet_values (delay : Duration) (v : Nat → Value) : (values delay v).Quiet :=
  fun _ _ => rfl

theorem getElem?_map_range_eq_some_iff {f : Nat → α} {m n : Nat} {a : α} :
    ((List.range n).map f)[m]? = some a ↔ m < n ∧ f m = a := by
  rw [List.getElem?_map, Option.map_eq_some_iff]
  constructor
  · rintro ⟨i, hi, rfl⟩
    obtain ⟨hm, rfl⟩ := List.getElem?_eq_some_iff.1 hi
    rw [List.length_range] at hm
    exact ⟨hm, by rw [List.getElem_range]⟩
  · rintro ⟨hm, rfl⟩
    exact ⟨m, List.getElem?_range hm, rfl⟩

structure Poll where
  called : Nat
  replied : Nat
  sample : Sample

namespace Window

def pollAt (w : Window) (fetch : Fetch) (n : Nat) : Poll :=
  ⟨w.callTime fetch n, w.replyTime fetch n, w.sample fetch n⟩

def polls (w : Window) (fetch : Fetch) (n : Nat) : List Poll :=
  (List.range n).map (w.pollAt fetch)

@[simp] theorem polls_succ (w : Window) (fetch : Fetch) (n : Nat) :
    w.polls fetch (n + 1) = w.polls fetch n ++ [w.pollAt fetch n] := by
  simp [polls, List.range_succ]

end Window

namespace Progress

def poll (predicate : Predicate) (p : Progress) (poll : Poll) : Progress :=
  (p.call poll.called).record predicate poll.sample

def ofPolls (predicate : Predicate) (polls : List Poll) : Progress :=
  polls.foldl (poll predicate) .start

end Progress

namespace Evaluation

variable {e : Evaluation} {fetch : Fetch} {m n time time' : Nat} {f : Finish}

theorem poll_of_finished {p : Progress} (h : e.attempt fetch n time p = .finished f) :
    e.poll fetch n time p = f := by
  rw [poll]
  split
  · next hf => rw [h] at hf; injection hf with hf; exact hf.symm
  · next hf => rw [h] at hf; cases hf

theorem poll_of_again {p q : Progress} (h : e.attempt fetch n time p = .again time' q) :
    e.poll fetch n time p = e.poll fetch (n + 1) time' q := by
  rw [poll]
  split
  · next hf => rw [h] at hf; cases hf
  · next hf => rw [h] at hf; injection hf with ht hq; rw [ht, hq]

theorem le_deadline_of_attempt {p q : Progress} (h : e.attempt fetch n time p = .again time' q) :
    time' ≤ e.window.deadline := by
  unfold attempt at h
  split at h
  · nomatch h
  · dsimp only [attend] at h
    split at h
    · nomatch h
    · split at h
      · obtain ⟨_, rfl⟩ := eq_next_of_receive h
        exact e.window.next_le_deadline _
      · nomatch h

@[simp] theorem cancelledBy?_eq_none_iff :
    e.cancelledBy? time = none ↔ ∀ k, e.cancelAt = some k → time < k := by
  cases h : e.cancelAt with
  | none => simp [cancelledBy?, h]
  | some k => simp [cancelledBy?, h]

@[simp] theorem cancelledBy?_eq_some_iff {k : Nat} :
    e.cancelledBy? time = some k ↔ e.cancelAt = some k ∧ k ≤ time := by
  cases h : e.cancelAt with
  | none => simp [cancelledBy?, h]
  | some k =>
    simp only [cancelledBy?, h, Option.filter_eq_some_iff, Option.some.injEq, decide_eq_true_eq]

theorem cancelledBy?_of_le (h : e.cancelledBy? time' = none) (ht : time ≤ time') :
    e.cancelledBy? time = none := by
  rw [cancelledBy?_eq_none_iff] at h ⊢
  intro k hk
  exact Nat.lt_of_le_of_lt ht (h k hk)

def progress (e : Evaluation) (fetch : Fetch) (n : Nat) : Progress :=
  .ofPolls e.predicate (e.window.polls fetch n)

theorem progress_succ (e : Evaluation) (fetch : Fetch) (n : Nat) :
    e.progress fetch (n + 1) =
      ((e.progress fetch n).call (e.window.callTime fetch n)).record e.predicate
        (e.window.sample fetch n) := by
  rw [progress, Window.polls_succ, Progress.ofPolls, List.foldl_append]
  rfl

@[simp] theorem progress_polls (e : Evaluation) (fetch : Fetch) (n : Nat) :
    (e.progress fetch n).polls = .ofNat n := by
  induction n with
  | zero => rfl
  | succ n ih =>
    rw [progress_succ, Progress.polls_record, Progress.polls_call, ih, UInt32.ofNat_add]
    rfl

@[simp] theorem progress_calls (e : Evaluation) (fetch : Fetch) (n : Nat) :
    (e.progress fetch n).calls.reverse = (List.range n).map (e.window.callTime fetch) := by
  induction n with
  | zero => rfl
  | succ n ih =>
    rw [progress_succ]
    simp [List.range_succ, ih]

theorem calls_call_progress (e : Evaluation) (fetch : Fetch) (n : Nat) :
    ((e.progress fetch n).call (e.window.callTime fetch n)).calls =
      (e.progress fetch (n + 1)).calls := by
  rw [progress_succ, Progress.calls_record]

def verdict? (e : Evaluation) (fetch : Fetch) (n : Nat) : Option Ending :=
  e.discipline.decision? (e.predicate.failure? (e.window.sample fetch n)).isNone

structure Continues (e : Evaluation) (fetch : Fetch) (n : Nat) : Prop where
  early : e.window.replyTime fetch n < e.window.deadline
  undecided : e.verdict? fetch n = none
  quiet : (e.window.reply fetch n).cancels = false
  waits : e.cancelledBy? (e.window.callTime fetch (n + 1)) = none

/-- The ways in which poll `n` of the schedule ends the evaluation: it is not begun, the fetch is
cancelled or given up, the sample decides, the window closes with the reply, or the evaluation is
cancelled by the fetch or in the wait after it. -/
inductive Ends (e : Evaluation) (fetch : Fetch) (n : Nat) : Finish → Prop
  | barred : e.cancelledBy? (e.window.callTime fetch n) = some k →
      Ends e fetch n ⟨.cancelled, e.progress fetch n, e.window.callTime fetch n⟩
  | interrupted : e.cancelledBy? (e.window.callTime fetch n) = none →
      e.cancelledBy? (min (e.window.replyTime fetch n) e.window.deadline) = some k →
      Ends e fetch n ⟨.cancelled, (e.progress fetch n).call (e.window.callTime fetch n), k⟩
  | unheard : e.cancelledBy? e.window.deadline = none →
      e.window.deadline < e.window.replyTime fetch n →
      Ends e fetch n (e.close ((e.progress fetch n).call (e.window.callTime fetch n)))
  | decided : e.cancelledBy? (e.window.replyTime fetch n) = none →
      e.window.replyTime fetch n ≤ e.window.deadline → e.verdict? fetch n = some ending →
      Ends e fetch n ⟨ending, e.progress fetch (n + 1), e.window.replyTime fetch n⟩
  | expired : e.cancelledBy? (e.window.replyTime fetch n) = none →
      e.window.replyTime fetch n = e.window.deadline → e.verdict? fetch n = none →
      Ends e fetch n
        ⟨e.discipline.expiry, e.progress fetch (n + 1), e.window.replyTime fetch n⟩
  | withdrawn : e.cancelledBy? (e.window.replyTime fetch n) = none →
      e.window.replyTime fetch n < e.window.deadline → e.verdict? fetch n = none →
      (e.window.reply fetch n).cancels = true →
      Ends e fetch n ⟨.cancelled, e.progress fetch (n + 1), e.window.replyTime fetch n⟩
  | awaited : e.cancelledBy? (e.window.replyTime fetch n) = none →
      e.window.replyTime fetch n < e.window.deadline → e.verdict? fetch n = none →
      (e.window.reply fetch n).cancels = false →
      e.cancelledBy? (e.window.callTime fetch (n + 1)) = some k →
      Ends e fetch n ⟨.cancelled, e.progress fetch (n + 1), k⟩

theorem attempt_eq_attend (h : e.cancelledBy? (e.window.callTime fetch n) = none) :
    e.attempt fetch n (e.window.callTime fetch n) (e.progress fetch n) =
      e.attend (e.window.replyTime fetch n) (e.window.reply fetch n)
        ((e.progress fetch n).call (e.window.callTime fetch n)) := by
  rw [attempt, h]
  rfl

theorem attempt_eq_receive (h : e.cancelledBy? (e.window.replyTime fetch n) = none)
    (hd : e.window.replyTime fetch n ≤ e.window.deadline) :
    e.attempt fetch n (e.window.callTime fetch n) (e.progress fetch n) =
      match e.verdict? fetch n with
      | some ending =>
        .finished ⟨ending, e.progress fetch (n + 1), e.window.replyTime fetch n⟩
      | none =>
        if e.window.deadline ≤ e.window.replyTime fetch n then
          .finished ⟨e.discipline.expiry, e.progress fetch (n + 1), e.window.replyTime fetch n⟩
        else
          e.await (e.window.replyTime fetch n) (e.window.reply fetch n).cancels
            (e.progress fetch (n + 1)) := by
  rw [attempt_eq_attend (cancelledBy?_of_le h (e.window.callTime_le_replyTime fetch n)), attend,
    Nat.min_eq_left hd, h]
  simp only [hd, if_true]
  rw [progress_succ]
  rfl

theorem attempt_of_continues (h : e.Continues fetch n) :
    e.attempt fetch n (e.window.callTime fetch n) (e.progress fetch n) =
      .again (e.window.callTime fetch (n + 1)) (e.progress fetch (n + 1)) := by
  have hlt := Window.replyTime_lt_callTime_succ h.early
  rw [attempt_eq_receive (cancelledBy?_of_le h.waits (Nat.le_of_lt hlt)) (Nat.le_of_lt h.early),
    h.undecided]
  simp only [Nat.not_le.2 h.early, if_false, await, h.quiet]
  rw [← Window.callTime_succ, h.waits]
  rfl

theorem attempt_of_ends (h : e.Ends fetch n f) :
    e.attempt fetch n (e.window.callTime fetch n) (e.progress fetch n) = .finished f := by
  cases h with
  | barred hc =>
    rw [attempt, hc]
  | interrupted hn hc =>
    rw [attempt_eq_attend hn, attend, hc]
  | unheard hn hd =>
    rw [attempt_eq_attend (cancelledBy?_of_le hn (e.window.callTime_le_deadline fetch n)), attend,
      Nat.min_eq_right (Nat.le_of_lt hd), hn]
    simp [Nat.not_le.2 hd]
  | decided hn hd hv =>
    rw [attempt_eq_receive hn hd, hv]
  | expired hn hd hv =>
    rw [attempt_eq_receive hn (Nat.le_of_eq hd), hv]
    simp [hd]
  | withdrawn hn hd hv hq =>
    rw [attempt_eq_receive hn (Nat.le_of_lt hd), hv]
    simp [Nat.not_le.2 hd, await, hq]
  | awaited hn hd hv hq hc =>
    rw [attempt_eq_receive hn (Nat.le_of_lt hd), hv]
    simp only [Nat.not_le.2 hd, if_false, await, hq]
    rw [← Window.callTime_succ, hc]
    rfl

theorem continues_or_ends (e : Evaluation) (fetch : Fetch) (n : Nat) :
    e.Continues fetch n ∨ ∃ f, e.Ends fetch n f := by
  cases hs : e.cancelledBy? (e.window.callTime fetch n) with
  | some k => exact .inr ⟨_, .barred hs⟩
  | none =>
    cases hm : e.cancelledBy? (min (e.window.replyTime fetch n) e.window.deadline) with
    | some k => exact .inr ⟨_, .interrupted hs hm⟩
    | none =>
      by_cases hd : e.window.replyTime fetch n ≤ e.window.deadline
      · rw [Nat.min_eq_left hd] at hm
        cases hv : e.verdict? fetch n with
        | some ending => exact .inr ⟨_, .decided hm hd hv⟩
        | none =>
          cases Nat.lt_or_eq_of_le hd with
          | inr hd => exact .inr ⟨_, .expired hm hd hv⟩
          | inl hd =>
            cases hq : (e.window.reply fetch n).cancels with
            | true => exact .inr ⟨_, .withdrawn hm hd hv hq⟩
            | false =>
              cases hc : e.cancelledBy? (e.window.callTime fetch (n + 1)) with
              | some k => exact .inr ⟨_, .awaited hm hd hv hq hc⟩
              | none => exact .inl ⟨hd, hv, hq, hc⟩
      · rw [Nat.min_eq_right (Nat.le_of_not_le hd)] at hm
        exact .inr ⟨_, .unheard hm (Nat.lt_of_not_le hd)⟩

structure Course (e : Evaluation) (fetch : Fetch) (n : Nat) (f : Finish) : Prop where
  continues : ∀ m < n, e.Continues fetch m
  ends : e.Ends fetch n f

theorem Course.reaches (h : e.Course fetch n f) : e.window.Reaches fetch n :=
  fun m hm => (h.continues m hm).early

theorem poll_of_continues (h : ∀ m < n, e.Continues fetch m) :
    e.run fetch = e.poll fetch n (e.window.callTime fetch n) (e.progress fetch n) := by
  induction n with
  | zero => rfl
  | succ n ih =>
    rw [ih fun m hm => h m (Nat.lt_succ_of_lt hm)]
    exact poll_of_again (attempt_of_continues (h n (Nat.lt_succ_self n)))

theorem Course.run_eq (h : e.Course fetch n f) : e.run fetch = f := by
  rw [poll_of_continues h.continues]
  exact poll_of_finished (attempt_of_ends h.ends)

/-- Every run has a course: the deadline is reached after as many polls as there are milliseconds
before it, if not earlier. -/
theorem exists_course (e : Evaluation) (fetch : Fetch) :
    ∃ n, e.Course fetch n (e.run fetch) := by
  by_cases h : ∀ n, e.Continues fetch n
  · -- there would be more calls than milliseconds in the window
    have hr : e.window.Reaches fetch (e.window.deadline + 1) := fun m _ => (h m).early
    exact absurd hr.le_deadline (Nat.not_succ_le_self _)
  · have hex : ∃ n, ¬e.Continues fetch n := Classical.not_forall.1 h
    obtain ⟨n, hn, hmin⟩ : ∃ n, ¬e.Continues fetch n ∧ ∀ m < n, e.Continues fetch m := by
      classical
      exact ⟨Nat.find hex, Nat.find_spec hex, fun m hm => not_not.1 (Nat.find_min hex hm)⟩
    obtain ⟨f, hf⟩ := (e.continues_or_ends fetch n).resolve_left hn
    have hc : e.Course fetch n f := ⟨hmin, hf⟩
    rw [hc.run_eq]
    exact ⟨n, hc⟩

structure Uncancelled (e : Evaluation) (fetch : Fetch) : Prop where
  cancelAt_none : e.cancelAt = none
  quiet : fetch.Quiet

theorem Uncancelled.cancelledBy?_eq_none (h : e.Uncancelled fetch) (time : Nat) :
    e.cancelledBy? time = none := by
  rw [cancelledBy?_eq_none_iff, h.cancelAt_none]
  intro k hk
  nomatch hk

inductive Concludes (e : Evaluation) (fetch : Fetch) (n : Nat) : Finish → Prop
  | unheard : e.window.deadline < e.window.replyTime fetch n →
      Concludes e fetch n (e.close ((e.progress fetch n).call (e.window.callTime fetch n)))
  | decided : e.window.replyTime fetch n ≤ e.window.deadline → e.verdict? fetch n = some ending →
      Concludes e fetch n ⟨ending, e.progress fetch (n + 1), e.window.replyTime fetch n⟩
  | expired : e.window.replyTime fetch n = e.window.deadline → e.verdict? fetch n = none →
      Concludes e fetch n
        ⟨e.discipline.expiry, e.progress fetch (n + 1), e.window.replyTime fetch n⟩

theorem Course.concludes (h : e.Course fetch n f) (hu : e.Uncancelled fetch) :
    e.Concludes fetch n f := by
  cases h.ends with
  | barred hc => rw [hu.cancelledBy?_eq_none] at hc; nomatch hc
  | interrupted _ hc => rw [hu.cancelledBy?_eq_none] at hc; nomatch hc
  | unheard _ hd => exact .unheard hd
  | decided _ hd hv => exact .decided hd hv
  | expired _ hd hv => exact .expired hd hv
  | withdrawn _ _ _ hq => rw [Window.reply, hu.quiet] at hq; nomatch hq
  | awaited _ _ _ _ hc => rw [hu.cancelledBy?_eq_none] at hc; nomatch hc

theorem Concludes.elapsed (h : e.Concludes fetch n f) :
    f.elapsed = min (e.window.replyTime fetch n) e.window.deadline := by
  cases h with
  | unheard hd => exact (Nat.min_eq_right (Nat.le_of_lt hd)).symm
  | decided hd _ => exact (Nat.min_eq_left hd).symm
  | expired hd _ => exact (Nat.min_eq_left (Nat.le_of_eq hd)).symm

theorem Concludes.calls (h : e.Concludes fetch n f) :
    f.progress.calls.reverse = (List.range (n + 1)).map (e.window.callTime fetch) := by
  rw [← progress_calls]
  cases h with
  | unheard => exact congrArg List.reverse (calls_call_progress e fetch n)
  | decided => rfl
  | expired => rfl

end Evaluation

def Predicate.under (p : Predicate) (negate : Bool) : Predicate :=
  { p with negate := p.negate != negate }

@[simp] theorem Predicate.test_under (p : Predicate) (negate : Bool) (v : Value) :
    (p.under negate).test v = p.test v := by
  cases p
  rfl

@[simp] theorem Predicate.negate_under (p : Predicate) (negate : Bool) :
    (p.under negate).negate = (p.negate != negate) := rfl

def PollSpec.Valid.evaluation {spec : PollSpec} (h : spec.Valid) (predicate : Predicate)
    (cancelAt : Option Nat) : Evaluation :=
  ⟨spec.discipline, predicate.under spec.negate, h.window, cancelAt⟩

def Finish.toRun (timeout : Duration) (f : Finish) : Run ConditionError :=
  ⟨f.result timeout, f.progress.calls.reverse, f.elapsed⟩

@[simp] theorem Finish.calls_toRun (timeout : Duration) (f : Finish) :
    (f.toRun timeout).calls = f.progress.calls.reverse := rfl

theorem evaluate_eq_toRun {spec : PollSpec} (h : spec.Valid) (fetch : Fetch)
    (predicate : Predicate) (cancelAt : Option Nat) :
    evaluate fetch predicate spec cancelAt =
      ((h.evaluation predicate cancelAt).run fetch).toRun spec.timeout := by
  rw [evaluate, PollSpec.window_eq_ok h]
  rfl

theorem exists_evaluate_eq_refused {spec : PollSpec} (h : ¬spec.Valid) (fetch : Fetch)
    (predicate : Predicate) (cancelAt : Option Nat) :
    ∃ fault, evaluate fetch predicate spec cancelAt = .refused (.configuration fault) := by
  obtain ⟨fault, hf⟩ := spec.exists_window_eq_error h
  exact ⟨fault, by rw [evaluate, hf]⟩

theorem PollSpec.Valid.exists_course {spec : PollSpec} (h : spec.Valid) (fetch : Fetch)
    (predicate : Predicate) (cancelAt : Option Nat) :
    ∃ n f, (h.evaluation predicate cancelAt).Course fetch n f ∧
      evaluate fetch predicate spec cancelAt = f.toRun spec.timeout := by
  obtain ⟨n, hc⟩ := (h.evaluation predicate cancelAt).exists_course fetch
  exact ⟨n, _, hc, evaluate_eq_toRun h fetch predicate cancelAt⟩

theorem PollSpec.Valid.uncancelled {spec : PollSpec} {fetch : Fetch} (h : spec.Valid)
    (predicate : Predicate) (hq : fetch.Quiet) :
    (h.evaluation predicate none).Uncancelled fetch := ⟨rfl, hq⟩

end LiveAssert
