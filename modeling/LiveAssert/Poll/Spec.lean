import LiveAssert.Poll.Config

namespace LiveAssert

inductive Discipline
  | eventually
  | consistently
deriving DecidableEq

structure PollSpec where
  discipline : Discipline
  timeout : Duration
  interval : Duration
  negate : Bool
deriving DecidableEq

structure Window where
  deadline : Nat
  pause : Nat
  pause_pos : 0 < pause
deriving DecidableEq

namespace Window

def next (w : Window) (time : Nat) : Nat := min (time + w.pause) w.deadline

@[simp] theorem next_le_deadline (w : Window) (time : Nat) : w.next time ≤ w.deadline :=
  Nat.min_le_right _ _

theorem lt_next {w : Window} {time : Nat} (h : time < w.deadline) : time < w.next time := by
  have := w.pause_pos
  simp only [next]
  omega

theorem remaining_lt {w : Window} {start time : Nat} (h : start ≤ time) (ht : time < w.deadline) :
    w.deadline - w.next time < w.deadline - start := by
  have := lt_next ht
  omega

end Window

namespace PollSpec

def window (spec : PollSpec) : Except ConfigError Window :=
  match validateWindow spec.timeout spec.interval with
  | .error e => .error e
  | .ok _ =>
    if h : 0 < spec.interval.millisUp then .ok ⟨spec.timeout.millisUp, spec.interval.millisUp, h⟩
    else .error .nonPositiveInterval

end PollSpec

end LiveAssert
