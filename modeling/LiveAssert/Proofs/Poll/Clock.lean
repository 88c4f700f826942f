import LiveAssert.Proofs.Poll.Course

/-!
Evaluations on a running clock.

The clock counts nanoseconds, and a wait ends at the first whole millisecond that it reaches. An
evaluation that begins at a whole millisecond of the clock goes on as one in milliseconds of its own
does: all its times are those, counted from there.
-/

namespace LiveAssert

namespace Clock

def milli : Nat := 1000000

def wake (now : Nat) (wait : Duration) : Nat := (now + wait.nanos + 999999) / milli * milli

def place (start time : Nat) : Nat := start + time * milli

variable {start time : Nat} {wait : Duration}

theorem lt_wake {now : Nat} (h : 0 < wait.nanos) : now < wake now wait := by
  simp only [wake, milli]
  omega

theorem le_wake (now : Nat) (wait : Duration) : now ≤ wake now wait := by
  simp only [wake, milli]
  omega

@[simp] theorem place_zero (start : Nat) : place start 0 = start := by
  rw [place, Nat.zero_mul, Nat.add_zero]

@[simp] theorem place_sub (start time : Nat) : place start time - start = time * milli :=
  Nat.add_sub_cancel_left ..

@[simp]
theorem place_le_place {time' : Nat} : place start time ≤ place start time' ↔ time ≤ time' := by
  simp only [place, milli]
  omega

@[simp] theorem place_min (start time time' : Nat) :
    place start (min time time') = min (place start time) (place start time') := by
  simp only [place, milli]
  omega

/-- A wait that begins at a whole millisecond takes its length, rounded up. -/
theorem wake_place (h : milli ∣ start) (time : Nat) (wait : Duration) :
    wake (place start time) wait = place start (time + wait.millisUp) := by
  obtain ⟨s, rfl⟩ := h
  simp only [wake, place, milli, Duration.millisUp]
  omega

end Clock

open Clock

structure Watch where
  discipline : Discipline
  predicate : Predicate
  timeout : Duration
  interval : Duration
  interval_pos : 0 < interval.nanos
  start : Nat
  cancelAt : Option Nat

structure Reading (ε : Type) where
  result : Except ε Outcome
  calls : List Nat
  ended : Nat

namespace Reading

def refused (start : Nat) (e : ε) : Reading ε := ⟨.error e, [], start⟩

def mapError (f : ε → ε') (r : Reading ε) : Reading ε' := { r with result := r.result.mapError f }

end Reading

namespace Watch

variable {w : Watch} {fetch : Fetch} {n now back later close : Nat} {reply : Reply} {cancels : Bool}
  {p q : Progress}

def cancelledBy? (w : Watch) (time : Nat) : Option Nat := w.cancelAt.filter (· ≤ time)

def elapsed (w : Watch) (now : Nat) : Duration := ⟨now - w.start⟩

def remaining (w : Watch) (now : Nat) : Duration := ⟨w.timeout.nanos - (w.elapsed now).nanos⟩

def closing (w : Watch) (now : Nat) : Nat := wake now (w.remaining now)

def next (w : Watch) (back : Nat) : Nat :=
  wake back ⟨min w.interval.nanos (w.remaining back).nanos⟩

def arrival (now : Nat) (delay : Duration) : Nat := if delay.isZero then now else wake now delay

def await (w : Watch) (back : Nat) (cancels : Bool) (p : Progress) : Stage :=
  if cancels then .finished ⟨.cancelled, p, back⟩
  else
    match w.cancelledBy? (w.next back) with
    | some k => .finished ⟨.cancelled, p, k⟩
    | none => .again (w.next back) p

def receive (w : Watch) (back : Nat) (reply : Reply) (p : Progress) : Stage :=
  let p := p.record w.predicate reply.sample
  match w.discipline.decision? p.lastError.isNone with
  | some ending => .finished ⟨ending, p, back⟩
  | none =>
    if w.timeout.nanos ≤ (w.elapsed back).nanos then .finished ⟨w.discipline.expiry, p, back⟩
    else w.await back reply.cancels p

def attend (w : Watch) (close back : Nat) (reply : Reply) (p : Progress) : Stage :=
  match w.cancelledBy? (min back close) with
  | some k => .finished ⟨.cancelled, p, k⟩
  | none =>
    if back ≤ close then w.receive back reply p
    else .finished ⟨w.discipline.expiryUnheard p.polls, p.giveUp, close⟩

def attempt (w : Watch) (fetch : Fetch) (n now : Nat) (p : Progress) : Stage :=
  match w.cancelledBy? now with
  | some _ => .finished ⟨.cancelled, p, now⟩
  | none =>
    let reply := fetch n now
    w.attend (w.closing now) (arrival now reply.delay) reply (p.call now)

theorem le_arrival (now : Nat) (delay : Duration) : now ≤ arrival now delay := by
  unfold arrival
  split
  · exact Nat.le_refl now
  · exact le_wake now delay

theorem lt_next (h : (w.elapsed back).nanos < w.timeout.nanos) : back < w.next back := by
  apply lt_wake
  have hi := w.interval_pos
  simp only [remaining]
  omega

theorem eq_next_of_await (h : w.await back cancels p = .again later q) : later = w.next back := by
  unfold await at h
  split at h
  · nomatch h
  · split at h
    · nomatch h
    · injection h with h; exact h.symm

theorem eq_next_of_receive (h : w.receive back reply p = .again later q) :
    (w.elapsed back).nanos < w.timeout.nanos ∧ later = w.next back := by
  unfold receive at h
  dsimp only at h
  split at h
  · nomatch h
  · split at h
    · nomatch h
    · next hd => exact ⟨Nat.lt_of_not_le hd, eq_next_of_await h⟩

theorem eq_next_of_attend (h : w.attend close back reply p = .again later q) :
    (w.elapsed back).nanos < w.timeout.nanos ∧ later = w.next back := by
  unfold attend at h
  split at h
  · nomatch h
  · split at h
    · exact eq_next_of_receive h
    · nomatch h

theorem lt_of_attempt (h : w.attempt fetch n now p = .again later q) :
    now < later ∧ now < w.start + w.timeout.nanos := by
  unfold attempt at h
  split at h
  · nomatch h
  · obtain ⟨hopen, rfl⟩ := eq_next_of_attend h
    have hle := le_arrival now (fetch n now).delay
    have hlt := lt_next hopen
    simp only [elapsed] at hopen
    omega

def poll (w : Watch) (fetch : Fetch) (n now : Nat) (p : Progress) : Finish :=
  match h : w.attempt fetch n now p with
  | .finished f => f
  | .again next q => w.poll fetch (n + 1) next q
termination_by w.start + w.timeout.nanos - now
decreasing_by
  have := lt_of_attempt h
  omega

theorem poll_of_finished {f : Finish} (h : w.attempt fetch n now p = .finished f) :
    w.poll fetch n now p = f := by
  rw [poll]
  split
  · next hf => rw [h] at hf; injection hf with hf; exact hf.symm
  · next hf => rw [h] at hf; cases hf

theorem poll_of_again (h : w.attempt fetch n now p = .again later q) :
    w.poll fetch n now p = w.poll fetch (n + 1) later q := by
  rw [poll]
  split
  · next hf => rw [h] at hf; cases hf
  · next hf => rw [h] at hf; injection hf with ht hq; rw [ht, hq]

def run (w : Watch) (fetch : Fetch) : Finish := w.poll fetch 0 w.start .start

def result (w : Watch) (f : Finish) : Except ConditionError Outcome :=
  let outcome (satisfied : Bool) : Outcome :=
    { f.progress.outcome satisfied 0 with elapsed := w.elapsed f.elapsed }
  match f.ending with
  | .satisfied => .ok (outcome true)
  | .timedOut => .error (.timeout w.timeout (outcome false))
  | .violated => .error (.violation (outcome false))
  | .cancelled => .error (.cancelled (outcome false))

end Watch

def Watch.read (w : Watch) (f : Finish) : Reading ConditionError :=
  ⟨w.result f, f.progress.calls.reverse, f.elapsed⟩

def evaluateOn (start : Nat) (fetch : Fetch) (predicate : Predicate) (spec : PollSpec)
    (cancelAt : Option Nat) : Reading ConditionError :=
  match validateWindow spec.timeout spec.interval with
  | .error e => .refused start (.configuration e)
  | .ok _ =>
    if h : 0 < spec.interval.nanos then
      let w : Watch :=
        ⟨spec.discipline, predicate.under spec.negate, spec.timeout, spec.interval, h, start,
          cancelAt⟩
      w.read (w.run fetch)
    else .refused start (.configuration .nonPositiveInterval)

def PollSpec.Valid.watch {spec : PollSpec} (h : spec.Valid) (predicate : Predicate) (start : Nat)
    (cancelAt : Option Nat) : Watch :=
  ⟨spec.discipline, predicate.under spec.negate, spec.timeout, spec.interval, h.interval_pos, start,
    cancelAt⟩

theorem evaluateOn_eq_read {spec : PollSpec} (h : spec.Valid) (start : Nat) (fetch : Fetch)
    (predicate : Predicate) (cancelAt : Option Nat) :
    evaluateOn start fetch predicate spec cancelAt =
      (h.watch predicate start cancelAt).read ((h.watch predicate start cancelAt).run fetch) := by
  rw [evaluateOn, PollSpec.validateWindow_eq_ok_iff.2 h]
  exact dif_pos h.interval_pos

theorem evaluateOn_eq_refused {spec : PollSpec} {fault : ConfigError}
    (h : validateWindow spec.timeout spec.interval = .error fault) (start : Nat) (fetch : Fetch)
    (predicate : Predicate) (cancelAt : Option Nat) :
    evaluateOn start fetch predicate spec cancelAt = .refused start (.configuration fault) := by
  rw [evaluateOn, h]

def Progress.onClock (start : Nat) (p : Progress) : Progress :=
  { p with calls := p.calls.map (place start) }

@[simp] theorem Progress.lastError_onClock (start : Nat) (p : Progress) :
    (p.onClock start).lastError = p.lastError := rfl

@[simp] theorem Progress.polls_onClock (start : Nat) (p : Progress) :
    (p.onClock start).polls = p.polls := rfl

def Finish.onClock (start : Nat) (f : Finish) : Finish :=
  ⟨f.ending, f.progress.onClock start, place start f.elapsed⟩

def Stage.onClock (start : Nat) : Stage → Stage
  | .finished f => .finished (f.onClock start)
  | .again time p => .again (place start time) (p.onClock start)

def Run.onClock (start : Nat) (r : Run ε) : Reading ε :=
  ⟨r.result, r.calls.map (place start), place start r.elapsed⟩

@[simp] theorem Run.onClock_refused (start : Nat) (e : ε) :
    (refused e).onClock start = .refused start e := by
  rw [onClock, refused, place_zero]
  rfl

/-- The evaluation is the same in whole milliseconds from a whole millisecond on. -/
structure Watch.Follows (w : Watch) (e : Evaluation) : Prop where
  discipline : w.discipline = e.discipline
  predicate : w.predicate = e.predicate
  deadline : w.timeout.millisUp = e.window.deadline
  pause : w.interval.millisUp = e.window.pause
  cancelAt : w.cancelAt = e.cancelAt.map (place w.start)
  aligned : milli ∣ w.start

namespace Watch

namespace Follows

variable {w : Watch} {e : Evaluation} {fetch clockFetch : Fetch} {n t : Nat} {p : Progress}
  {reply : Reply}

theorem cancelledBy?_place (h : w.Follows e) (t : Nat) :
    w.cancelledBy? (place w.start t) = (e.cancelledBy? t).map (place w.start) := by
  rw [cancelledBy?, h.cancelAt, Evaluation.cancelledBy?]
  cases e.cancelAt with
  | none => rfl
  | some k => simp [Option.filter_some, apply_ite]

theorem expires_iff (h : w.Follows e) (t : Nat) :
    w.timeout.nanos ≤ (w.elapsed (place w.start t)).nanos ↔ e.window.deadline ≤ t := by
  rw [elapsed, place_sub, ← h.deadline, Duration.millisUp_le_iff, milli]

theorem closing_place (h : w.Follows e) (ht : t ≤ e.window.deadline) :
    w.closing (place w.start t) = place w.start e.window.deadline := by
  rw [closing, wake_place h.aligned]
  congr 1
  rw [← h.deadline] at ht ⊢
  simp only [remaining, elapsed, place_sub, milli, Duration.millisUp] at ht ⊢
  omega

theorem next_place (h : w.Follows e) (ht : t ≤ e.window.deadline) :
    w.next (place w.start t) = place w.start (e.window.next t) := by
  rw [next, wake_place h.aligned, Window.next]
  congr 1
  rw [← h.deadline] at ht ⊢
  rw [← h.pause]
  simp only [remaining, elapsed, place_sub, milli, Duration.millisUp] at ht ⊢
  omega

theorem arrival_place (h : w.Follows e) (t : Nat) (delay : Duration) :
    arrival (place w.start t) delay = place w.start (t + delay.millisUp) := by
  rw [arrival]
  split
  · next hz => rw [Duration.isZero_iff.1 hz]; rfl
  · exact wake_place h.aligned t delay

theorem await_place (h : w.Follows e) (ht : t ≤ e.window.deadline) (cancels : Bool)
    (p : Progress) :
    w.await (place w.start t) cancels (p.onClock w.start) =
      (e.await t cancels p).onClock w.start := by
  rw [await, Evaluation.await, h.next_place ht, h.cancelledBy?_place]
  cases cancels with
  | true => rfl
  | false => cases e.cancelledBy? (e.window.next t) <;> rfl

theorem receive_place (h : w.Follows e) (ht : t ≤ e.window.deadline) (reply : Reply)
    (p : Progress) :
    w.receive (place w.start t) reply (p.onClock w.start) =
      (e.receive t reply p).onClock w.start := by
  have hrecord : (p.onClock w.start).record w.predicate reply.sample =
      (p.record e.predicate reply.sample).onClock w.start := by
    rw [h.predicate]
    rfl
  rw [receive, Evaluation.receive]
  simp only [hrecord, h.discipline, Progress.lastError_onClock]
  generalize p.record e.predicate reply.sample = q
  cases e.discipline.decision? q.lastError.isNone with
  | some ending => rfl
  | none =>
    simp only [h.expires_iff, h.await_place ht]
    split <;> rfl

theorem attend_place (h : w.Follows e) (t : Nat) (reply : Reply) (p : Progress) :
    w.attend (place w.start e.window.deadline) (place w.start t) reply (p.onClock w.start) =
      (e.attend t reply p).onClock w.start := by
  rw [attend, Evaluation.attend, ← place_min, h.cancelledBy?_place]
  cases e.cancelledBy? (min t e.window.deadline) with
  | some k => rfl
  | none =>
    simp only [Option.map_none, place_le_place, Progress.polls_onClock, h.discipline]
    split
    · next ht => exact h.receive_place ht reply p
    · rfl

theorem attempt_place (h : w.Follows e) (hf : ∀ n t, clockFetch n (place w.start t) = fetch n t)
    (ht : t ≤ e.window.deadline) (n : Nat) (p : Progress) :
    w.attempt clockFetch n (place w.start t) (p.onClock w.start) =
      (e.attempt fetch n t p).onClock w.start := by
  rw [attempt, Evaluation.attempt, h.cancelledBy?_place, hf, h.closing_place ht]
  cases e.cancelledBy? t with
  | some k => rfl
  | none =>
    dsimp only [Option.map_none]
    rw [h.arrival_place]
    exact h.attend_place _ _ (p.call t)

theorem poll_place (h : w.Follows e) (hf : ∀ n t, clockFetch n (place w.start t) = fetch n t)
    (ht : t ≤ e.window.deadline) (n : Nat) (p : Progress) :
    w.poll clockFetch n (place w.start t) (p.onClock w.start) =
      (e.poll fetch n t p).onClock w.start := by
  -- along the polls in milliseconds, none of which is after the deadline
  induction n, t, p using Evaluation.poll.induct e fetch with
  | case1 n t p f hstage =>
    have hplace := h.attempt_place hf ht n p
    rw [hstage] at hplace
    rw [Evaluation.poll_of_finished hstage]
    exact poll_of_finished hplace
  | case2 n t p next q hstage ih =>
    have hplace := h.attempt_place hf ht n p
    rw [hstage] at hplace
    rw [Evaluation.poll_of_again hstage, ← ih (Evaluation.le_deadline_of_attempt hstage)]
    exact poll_of_again hplace

theorem run_eq (h : w.Follows e) (hf : ∀ n t, clockFetch n (place w.start t) = fetch n t) :
    w.run clockFetch = (e.run fetch).onClock w.start := by
  have hpoll := h.poll_place hf (Nat.zero_le _) 0 .start
  rwa [place_zero] at hpoll

end Follows

@[simp] theorem result_onClock (w : Watch) (f : Finish) :
    w.result (f.onClock w.start) = f.result w.timeout := by
  have helapsed : w.elapsed (place w.start f.elapsed) = .ofMillis f.elapsed := by
    rw [elapsed, place_sub, milli, Duration.ofMillis]
  rw [result, Finish.result, Finish.onClock, helapsed]
  rfl

@[simp] theorem read_onClock (w : Watch) (f : Finish) :
    w.read (f.onClock w.start) = (f.toRun w.timeout).onClock w.start := by
  rw [read, result_onClock]
  simp only [Run.onClock, Finish.toRun, Finish.onClock, Progress.onClock, List.map_reverse]

theorem follows_evaluation {spec : PollSpec} (h : spec.Valid) (predicate : Predicate) {start : Nat}
    (hs : milli ∣ start) (cancelAt : Option Nat) :
    (h.watch predicate start (cancelAt.map (place start))).Follows
      (h.evaluation predicate cancelAt) :=
  ⟨rfl, rfl, rfl, rfl, rfl, hs⟩

end Watch

theorem evaluateOn_eq_onClock {start : Nat} (hs : milli ∣ start) {fetch clockFetch : Fetch}
    (hf : ∀ n t, clockFetch n (place start t) = fetch n t) (predicate : Predicate)
    (spec : PollSpec) (cancelAt : Option Nat) :
    evaluateOn start clockFetch predicate spec (cancelAt.map (place start)) =
      (evaluate fetch predicate spec cancelAt).onClock start := by
  cases hv : validateWindow spec.timeout spec.interval with
  | error fault =>
    rw [evaluateOn_eq_refused hv, evaluate, PollSpec.window_eq_error hv]
    exact (Run.onClock_refused start _).symm
  | ok =>
    have h : spec.Valid := PollSpec.validateWindow_eq_ok_iff.1 hv
    have hrun := (Watch.follows_evaluation h predicate hs cancelAt).run_eq hf
    rw [evaluateOn_eq_read h, evaluate_eq_toRun h, hrun]
    exact Watch.read_onClock _ _

end LiveAssert
