import LiveAssert.Poll.Outcome
import LiveAssert.Predicate

/-!
Polling a live value against a predicate.

A fetch is called at a time and replies after a delay. Under `eventually` the first poll that holds
decides, and the window fails when it closes; under `consistently` the first poll that does not hold
decides, and the window succeeds when it closes. At one instant a cancellation comes first, then
the reply of a fetch, then the end of the window, so a fetch that replies at the deadline still
counts. A fetch that is still out at the deadline is given up: the window then fails, unless it is
one of `consistently` in which every poll so far has held and there was at least one.

Every recursive step of `Evaluation.poll` begins later and not after the deadline.
-/

namespace LiveAssert

inductive Ending
  | satisfied
  | timedOut
  | violated
  | cancelled
deriving DecidableEq

namespace Discipline

def decision? (holds : Bool) : Discipline → Option Ending
  | .eventually => if holds then some .satisfied else none
  | .consistently => if holds then none else some .violated

def expiry : Discipline → Ending
  | .eventually => .timedOut
  | .consistently => .satisfied

/-- What the end of the window decides while a fetch is out. Success takes a poll that held. -/
def expiryUnheard (polls : UInt32) : Discipline → Ending
  | .eventually => .timedOut
  | .consistently => if 0 < polls then .satisfied else .violated

end Discipline

structure Progress where
  polls : UInt32
  lastValue : Option Value
  lastError : Option PollFailure
  calls : List Nat

structure Finish where
  ending : Ending
  progress : Progress
  elapsed : Nat

inductive Stage
  | finished (f : Finish)
  | again (time : Nat) (p : Progress)

/-- What is evaluated: a predicate with a polarity of its own in place, and when the evaluation is
cancelled from outside. -/
structure Evaluation where
  discipline : Discipline
  predicate : Predicate
  window : Window
  cancelAt : Option Nat

/-- Why a sample does not hold, if it does not. A value that is absent or cannot be compared never
holds. -/
def Predicate.failure? (p : Predicate) : Sample → Option PollFailure
  | .error e => some (.fetch e)
  | .ok none => some .missing
  | .ok (some v) =>
    match p.holds v with
    | .error e => some (.mismatch e.message)
    | .ok true => none
    | .ok false => some (.mismatch (p.failureMessage v))

namespace Progress

def start : Progress := ⟨0, none, none, []⟩

def call (p : Progress) (time : Nat) : Progress := { p with calls := time :: p.calls }

def record (p : Progress) (predicate : Predicate) (sample : Sample) : Progress where
  polls := p.polls + 1
  lastValue := match sample with
    | .ok v => v
    | .error _ => p.lastValue
  lastError := predicate.failure? sample
  calls := p.calls

def giveUp (p : Progress) : Progress := { p with lastError := some .pending }

def outcome (p : Progress) (satisfied : Bool) (elapsed : Nat) : Outcome where
  satisfied := satisfied
  lastValue := p.lastValue
  lastError := if satisfied then none else p.lastError
  elapsed := .ofMillis elapsed
  polls := p.polls

variable (p : Progress) (time : Nat) (predicate : Predicate) (sample : Sample)

@[simp] theorem polls_call : (p.call time).polls = p.polls := rfl

@[simp] theorem lastValue_call : (p.call time).lastValue = p.lastValue := rfl

@[simp] theorem calls_call : (p.call time).calls = time :: p.calls := rfl

@[simp] theorem polls_record : (p.record predicate sample).polls = p.polls + 1 := rfl

@[simp] theorem lastValue_record_ok (v? : Option Value) :
    (p.record predicate (.ok v?)).lastValue = v? := rfl

@[simp] theorem lastValue_record_error (e : FetchError) :
    (p.record predicate (.error e)).lastValue = p.lastValue := rfl

@[simp] theorem lastError_record :
    (p.record predicate sample).lastError = predicate.failure? sample := rfl

@[simp] theorem calls_record : (p.record predicate sample).calls = p.calls := rfl

@[simp] theorem polls_giveUp : p.giveUp.polls = p.polls := rfl

@[simp] theorem lastValue_giveUp : p.giveUp.lastValue = p.lastValue := rfl

@[simp] theorem calls_giveUp : p.giveUp.calls = p.calls := rfl

end Progress

namespace Evaluation

def cancelledBy? (e : Evaluation) (time : Nat) : Option Nat := e.cancelAt.filter (· ≤ time)

def close (e : Evaluation) (p : Progress) : Finish :=
  ⟨e.discipline.expiryUnheard p.polls, p.giveUp, e.window.deadline⟩

def await (e : Evaluation) (back : Nat) (cancels : Bool) (p : Progress) : Stage :=
  if cancels then .finished ⟨.cancelled, p, back⟩
  else
    match e.cancelledBy? (e.window.next back) with
    | some k => .finished ⟨.cancelled, p, k⟩
    | none => .again (e.window.next back) p

def receive (e : Evaluation) (back : Nat) (reply : Reply) (p : Progress) : Stage :=
  let p := p.record e.predicate reply.sample
  match e.discipline.decision? p.lastError.isNone with
  | some ending => .finished ⟨ending, p, back⟩
  | none =>
    if e.window.deadline ≤ back then .finished ⟨e.discipline.expiry, p, back⟩
    else e.await back reply.cancels p

def attend (e : Evaluation) (back : Nat) (reply : Reply) (p : Progress) : Stage :=
  match e.cancelledBy? (min back e.window.deadline) with
  | some k => .finished ⟨.cancelled, p, k⟩
  | none => if back ≤ e.window.deadline then e.receive back reply p else .finished (e.close p)

def attempt (e : Evaluation) (fetch : Fetch) (n time : Nat) (p : Progress) : Stage :=
  match e.cancelledBy? time with
  | some _ => .finished ⟨.cancelled, p, time⟩
  | none =>
    let reply := fetch n time
    e.attend (time + reply.delay.millisUp) reply (p.call time)

theorem eq_next_of_await {e : Evaluation} {back next : Nat} {cancels : Bool} {p q : Progress}
    (h : e.await back cancels p = .again next q) : next = e.window.next back := by
  unfold await at h
  split at h
  · nomatch h
  · split at h
    · nomatch h
    · injection h with h; exact h.symm

theorem eq_next_of_receive {e : Evaluation} {back next : Nat} {reply : Reply} {p q : Progress}
    (h : e.receive back reply p = .again next q) :
    back < e.window.deadline ∧ next = e.window.next back := by
  unfold receive at h
  dsimp only at h
  split at h
  · nomatch h
  · split at h
    · nomatch h
    · next hd => exact ⟨Nat.lt_of_not_le hd, eq_next_of_await h⟩

theorem remaining_lt_of_attend {e : Evaluation} {start back next : Nat} {reply : Reply}
    {p q : Progress} (hs : start ≤ back) (h : e.attend back reply p = .again next q) :
    e.window.deadline - next < e.window.deadline - start := by
  unfold attend at h
  split at h
  · nomatch h
  · split at h
    · obtain ⟨hd, rfl⟩ := eq_next_of_receive h
      exact Window.remaining_lt hs hd
    · nomatch h

theorem remaining_lt_of_attempt {e : Evaluation} {fetch : Fetch} {n time next : Nat}
    {p q : Progress} (h : e.attempt fetch n time p = .again next q) :
    e.window.deadline - next < e.window.deadline - time := by
  unfold attempt at h
  split at h
  · nomatch h
  · exact remaining_lt_of_attend (Nat.le_add_right ..) h

def poll (e : Evaluation) (fetch : Fetch) (n time : Nat) (p : Progress) : Finish :=
  match h : e.attempt fetch n time p with
  | .finished f => f
  | .again next q => e.poll fetch (n + 1) next q
termination_by e.window.deadline - time
decreasing_by exact remaining_lt_of_attempt h

def run (e : Evaluation) (fetch : Fetch) : Finish := e.poll fetch 0 0 .start

end Evaluation

structure Run (ε : Type) where
  result : Except ε Outcome
  calls : List Nat
  elapsed : Nat

namespace Run

def refused (e : ε) : Run ε := ⟨.error e, [], 0⟩

def mapError (f : ε → ε') (r : Run ε) : Run ε' := { r with result := r.result.mapError f }

end Run

def Finish.result (timeout : Duration) (f : Finish) : Except ConditionError Outcome :=
  match f.ending with
  | .satisfied => .ok (f.progress.outcome true f.elapsed)
  | .timedOut => .error (.timeout timeout (f.progress.outcome false f.elapsed))
  | .violated => .error (.violation (f.progress.outcome false f.elapsed))
  | .cancelled => .error (.cancelled (f.progress.outcome false f.elapsed))

def evaluate (fetch : Fetch) (predicate : Predicate) (spec : PollSpec) (cancelAt : Option Nat) :
    Run ConditionError :=
  match spec.window with
  | .error e => .refused (.configuration e)
  | .ok window =>
    let predicate := { predicate with negate := predicate.negate != spec.negate }
    let finish := (Evaluation.mk spec.discipline predicate window cancelAt).run fetch
    ⟨finish.result spec.timeout, finish.progress.calls.reverse, finish.elapsed⟩

end LiveAssert
