import LiveAssert.Proofs.Poll.Verdict
import Mathlib.Algebra.Order.Floor.Div

namespace LiveAssert

def Fetch.Immediate (fetch : Fetch) : Prop := ∀ n time, (fetch n time).delay = .zero

def Fetch.Delayed (fetch : Fetch) (delay : Duration) : Prop :=
  ∀ n time, (fetch n time).delay = delay

theorem Fetch.delayed_values (delay : Duration) (v : Nat → Value) :
    (values delay v).Delayed delay := fun _ _ => rfl

theorem Duration.millisUp_zero : zero.millisUp = 0 := rfl

def Fetch.live (sample : Nat → Sample) : Fetch := fun _ time => ⟨sample time, .zero, false⟩

theorem Fetch.quiet_live (sample : Nat → Sample) : (live sample).Quiet := fun _ _ => rfl

theorem Fetch.immediate_live (sample : Nat → Sample) : (live sample).Immediate := fun _ _ => rfl

namespace Window

variable {w : Window} {fetch : Fetch}

theorem replyTime_of_delayed {delay : Duration} (h : fetch.Delayed delay) (n : Nat) :
    w.replyTime fetch n = w.callTime fetch n + delay.millisUp := by
  rw [replyTime, reply, h]

theorem callTime_of_delayed {delay : Duration} (h : fetch.Delayed delay) (n : Nat) :
    w.callTime fetch n = min (n * (delay.millisUp + w.pause)) w.deadline := by
  induction n with
  | zero => simp [callTime]
  | succ n ih =>
    rw [callTime_succ, replyTime_of_delayed h, ih, next, Nat.succ_mul]
    omega

theorem replyTime_of_immediate (h : fetch.Immediate) (n : Nat) :
    w.replyTime fetch n = w.callTime fetch n := replyTime_of_delayed h n

theorem callTime_of_immediate (h : fetch.Immediate) (n : Nat) :
    w.callTime fetch n = min (n * w.pause) w.deadline := by
  rw [callTime_of_delayed h, Duration.millisUp_zero, Nat.zero_add]

theorem callTime_mono_of_immediate (h : fetch.Immediate) {m n : Nat} (hm : m ≤ n) :
    w.callTime fetch m ≤ w.callTime fetch n := by
  rw [callTime_of_immediate h, callTime_of_immediate h]
  exact min_le_min_right _ (Nat.mul_le_mul_right _ hm)

def gridIndex (w : Window) (time : Nat) : Nat := time ⌈/⌉ w.pause

theorem le_callTime_gridIndex (h : fetch.Immediate) {time : Nat} (ht : time ≤ w.deadline) :
    time ≤ w.callTime fetch (w.gridIndex time) := by
  rw [callTime_of_immediate h, gridIndex, Nat.mul_comm]
  exact le_min (le_smul_ceilDiv w.pause_pos) ht

theorem callTime_gridIndex_lt (h : fetch.Immediate) (time : Nat) :
    w.callTime fetch (w.gridIndex time) < time + w.pause := by
  have hp := w.pause_pos
  have hle : (time + w.pause - 1) / w.pause * w.pause ≤ time + w.pause - 1 :=
    Nat.div_mul_le_self _ _
  rw [callTime_of_immediate h, gridIndex, Nat.ceilDiv_eq_add_pred_div]
  omega

end Window

namespace Evaluation

variable {e : Evaluation} {fetch : Fetch} {n k : Nat} {f : Finish}

theorem Course.decided_of_immediate (h : e.Course fetch n f) (hu : e.Uncancelled fetch)
    (hi : fetch.Immediate)
    (hk : ∀ m, e.window.callTime fetch m = e.window.callTime fetch k → e.Decides fetch m) :
    f = ⟨e.discipline.decision, e.progress fetch (n + 1), e.window.callTime fetch n⟩ ∧
      e.window.callTime fetch n ≤ e.window.callTime fetch k := by
  have hn : n ≤ k := by
    apply Nat.le_of_not_lt
    intro hlt
    exact verdict?_eq_none_iff.1 (h.continues k hlt).undecided (hk k rfl)
  have hle := Window.callTime_mono_of_immediate (w := e.window) hi hn
  have hd := e.window.callTime_le_deadline fetch
  have hc := Window.replyTime_of_immediate (w := e.window) hi n
  cases h.concludes hu with
  | unheard hlt =>
    rw [hc] at hlt
    exact absurd (hd n) (Nat.not_le.2 hlt)
  | decided _ hv =>
    rw [(verdict?_eq_some_iff.1 hv).2, hc]
    exact ⟨rfl, hle⟩
  | expired heq hv =>
    -- the last poll is at the deadline, where poll `k` must be, too
    rw [hc] at heq
    have hkd : e.window.callTime fetch n = e.window.callTime fetch k :=
      Nat.le_antisymm hle (by rw [heq]; exact hd k)
    exact absurd (hk n hkd) (verdict?_eq_none_iff.1 hv)

/-- If every poll in the time of a pause decides, the run has been decided by the first point of the
grid in it, when its last call is made. -/
theorem Course.decided_of_lasting (h : e.Course fetch n f) (hu : e.Uncancelled fetch)
    (hi : fetch.Immediate) {time : Nat} (ht : time ≤ e.window.deadline)
    (hl : ∀ m, time ≤ e.window.callTime fetch m →
      e.window.callTime fetch m < time + e.window.pause → e.Decides fetch m) :
    f.ending = e.discipline.decision ∧ f.progress.calls.head? = some f.elapsed ∧
      f.elapsed ≤ e.window.callTime fetch (e.window.gridIndex time) := by
  obtain ⟨hf, hle⟩ := h.decided_of_immediate hu hi (k := e.window.gridIndex time) fun m hm => by
    apply hl m
    · rw [hm]
      exact Window.le_callTime_gridIndex hi ht
    · rw [hm]
      exact Window.callTime_gridIndex_lt hi time
  rw [hf, progress_succ]
  exact ⟨rfl, rfl, hle⟩

end Evaluation

end LiveAssert
