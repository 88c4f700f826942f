import LiveAssert.Poll.Evaluate

namespace LiveAssert

namespace PollSpec

structure Valid (spec : PollSpec) : Prop where
  timeout_pos : 0 < spec.timeout.nanos
  interval_pos : 0 < spec.interval.nanos

@[simp] theorem validateWindow_eq_ok_iff {spec : PollSpec} :
    validateWindow spec.timeout spec.interval = .ok () ↔ spec.Valid := by
  have hvalid : spec.Valid ↔ spec.timeout ≠ .zero ∧ spec.interval ≠ .zero := by
    rw [← Duration.nanos_pos_iff, ← Duration.nanos_pos_iff]
    exact ⟨fun h => ⟨h.timeout_pos, h.interval_pos⟩, fun h => ⟨h.1, h.2⟩⟩
  rw [hvalid, validateWindow]
  simp only [Duration.isZero_iff]
  by_cases ht : spec.timeout = .zero
  · simp [ht]
  · by_cases hi : spec.interval = .zero
    · simp [ht, hi]
    · simp [ht, hi]

def Valid.window {spec : PollSpec} (h : spec.Valid) : Window where
  deadline := spec.timeout.millisUp
  pause := spec.interval.millisUp
  pause_pos := Duration.millisUp_pos.2 h.interval_pos

theorem window_eq_ok {spec : PollSpec} (h : spec.Valid) : spec.window = .ok h.window := by
  have hp := Duration.millisUp_pos.2 h.interval_pos
  simp [window, validateWindow_eq_ok_iff.2 h, hp, Valid.window]

theorem window_eq_error {spec : PollSpec} {fault : ConfigError}
    (h : validateWindow spec.timeout spec.interval = .error fault) :
    spec.window = .error fault := by
  rw [window, h]

theorem exists_window_eq_error {spec : PollSpec} (h : ¬spec.Valid) :
    ∃ fault, spec.window = .error fault := by
  cases hv : validateWindow spec.timeout spec.interval with
  | error fault => exact ⟨fault, window_eq_error hv⟩
  | ok => exact absurd (validateWindow_eq_ok_iff.1 hv) h

end PollSpec

namespace Window

variable {w : Window} {fetch : Fetch} {m n : Nat}

def callTime (w : Window) (fetch : Fetch) : Nat → Nat
  | 0 => 0
  | n + 1 => w.next (w.callTime fetch n + (fetch n (w.callTime fetch n)).delay.millisUp)

def reply (w : Window) (fetch : Fetch) (n : Nat) : Reply := fetch n (w.callTime fetch n)

def replyTime (w : Window) (fetch : Fetch) (n : Nat) : Nat :=
  w.callTime fetch n + (w.reply fetch n).delay.millisUp

def sample (w : Window) (fetch : Fetch) (n : Nat) : Sample := (w.reply fetch n).sample

/-- The window is still open after every reply before the one to call `n`. -/
def Reaches (w : Window) (fetch : Fetch) (n : Nat) : Prop :=
  ∀ m < n, w.replyTime fetch m < w.deadline

/-- Call `n` is made and its reply comes back before the window closes. -/
def Completes (w : Window) (fetch : Fetch) (n : Nat) : Prop :=
  w.replyTime fetch n ≤ w.deadline ∧ w.Reaches fetch n

instance : Decidable (w.Reaches fetch n) := inferInstanceAs (Decidable (∀ m < n, _))

instance : Decidable (w.Completes fetch n) := inferInstanceAs (Decidable (_ ∧ _))

theorem callTime_succ (w : Window) (fetch : Fetch) (n : Nat) :
    w.callTime fetch (n + 1) = w.next (w.replyTime fetch n) := rfl

@[simp] theorem callTime_le_replyTime (w : Window) (fetch : Fetch) (n : Nat) :
    w.callTime fetch n ≤ w.replyTime fetch n := Nat.le_add_right ..

@[simp] theorem callTime_le_deadline (w : Window) (fetch : Fetch) (n : Nat) :
    w.callTime fetch n ≤ w.deadline := by
  cases n with
  | zero => exact Nat.zero_le _
  | succ n => exact w.next_le_deadline _

theorem replyTime_lt_callTime_succ (h : w.replyTime fetch n < w.deadline) :
    w.replyTime fetch n < w.callTime fetch (n + 1) := lt_next h

theorem Reaches.mono (h : w.Reaches fetch n) (hm : m ≤ n) : w.Reaches fetch m :=
  fun i hi => h i (Nat.lt_of_lt_of_le hi hm)

theorem Reaches.replyTime_lt_callTime (h : w.Reaches fetch n) (hm : m < n) :
    w.replyTime fetch m < w.callTime fetch n := by
  induction n with
  | zero => nomatch hm
  | succ n ih =>
    have hn := replyTime_lt_callTime_succ (h n (Nat.lt_succ_self n))
    cases Nat.lt_succ_iff_lt_or_eq.1 hm with
    | inl hm =>
      calc w.replyTime fetch m
        _ < w.callTime fetch n := ih (h.mono (Nat.le_succ n)) hm
        _ ≤ w.replyTime fetch n := w.callTime_le_replyTime fetch n
        _ < w.callTime fetch (n + 1) := hn
    | inr hm => rw [hm]; exact hn

theorem Reaches.callTime_lt_callTime (h : w.Reaches fetch n) (hm : m < n) :
    w.callTime fetch m < w.callTime fetch n :=
  Nat.lt_of_le_of_lt (w.callTime_le_replyTime fetch m) (h.replyTime_lt_callTime hm)

theorem Reaches.callTime_le_callTime (h : w.Reaches fetch n) (hm : m ≤ n) :
    w.callTime fetch m ≤ w.callTime fetch n := by
  cases Nat.lt_or_eq_of_le hm with
  | inl hm => exact Nat.le_of_lt (h.callTime_lt_callTime hm)
  | inr hm => exact Nat.le_of_eq (by rw [hm])

theorem Reaches.replyTime_le_replyTime (h : w.Reaches fetch n) (hm : m ≤ n) :
    w.replyTime fetch m ≤ w.replyTime fetch n := by
  cases Nat.lt_or_eq_of_le hm with
  | inl hm =>
    calc w.replyTime fetch m
      _ ≤ w.callTime fetch n := Nat.le_of_lt (h.replyTime_lt_callTime hm)
      _ ≤ w.replyTime fetch n := w.callTime_le_replyTime fetch n
  | inr hm => exact Nat.le_of_eq (by rw [hm])

theorem Reaches.le_callTime (h : w.Reaches fetch n) : n ≤ w.callTime fetch n := by
  induction n with
  | zero => exact Nat.zero_le _
  | succ n ih =>
    have hn : n ≤ w.callTime fetch n := ih (h.mono (Nat.le_succ n))
    exact Nat.succ_le_of_lt (Nat.lt_of_le_of_lt hn (h.callTime_lt_callTime (Nat.lt_succ_self n)))

theorem Reaches.le_deadline (h : w.Reaches fetch n) : n ≤ w.deadline :=
  Nat.le_trans h.le_callTime (w.callTime_le_deadline fetch n)

theorem Completes.of_le (h : w.Completes fetch n) (hm : m ≤ n) : w.Completes fetch m := by
  cases Nat.lt_or_eq_of_le hm with
  | inl hm => exact ⟨Nat.le_of_lt (h.2 m hm), h.2.mono (Nat.le_of_lt hm)⟩
  | inr hm => rw [hm]; exact h

theorem Reaches.completes (h : w.Reaches fetch n) (hm : m < n) : w.Completes fetch m :=
  ⟨Nat.le_of_lt (h m hm), h.mono (Nat.le_of_lt hm)⟩

end Window

end LiveAssert
