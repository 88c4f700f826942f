import LiveAssert.Proofs.Poll.Course
import Mathlib.Order.Bounds.Basic

namespace LiveAssert

namespace Predicate

/-- The sample is a value that can be compared and compares as the predicate demands. -/
def Accepts (p : Predicate) (sample : Sample) : Prop :=
  ∃ v, sample = .ok (some v) ∧ p.holds v = .ok true

@[simp] theorem failure?_eq_none_iff {p : Predicate} {sample : Sample} :
    p.failure? sample = none ↔ p.Accepts sample := by
  cases sample with
  | error e => simp [failure?, Accepts]
  | ok v? =>
    cases v? with
    | none => simp [failure?, Accepts]
    | some v =>
      cases h : p.holds v with
      | error e => simp [failure?, Accepts, h]
      | ok b => cases b <;> simp [failure?, Accepts, h]

theorem isNone_failure?_iff {p : Predicate} {sample : Sample} :
    (p.failure? sample).isNone = true ↔ p.Accepts sample := by
  rw [Option.isNone_iff_eq_none, failure?_eq_none_iff]

instance (p : Predicate) (sample : Sample) : Decidable (p.Accepts sample) :=
  decidable_of_iff _ isNone_failure?_iff

end Predicate

def Discipline.decision : Discipline → Ending
  | .eventually => .satisfied
  | .consistently => .violated

theorem Finish.result_of_timedOut {f : Finish} (timeout : Duration) (h : f.ending = .timedOut) :
    f.result timeout = .error (.timeout timeout (f.progress.outcome false f.elapsed)) := by
  rw [result, h]

theorem Finish.result_of_violated {f : Finish} (timeout : Duration) (h : f.ending = .violated) :
    f.result timeout = .error (.violation (f.progress.outcome false f.elapsed)) := by
  rw [result, h]

@[simp] theorem Finish.result_eq_ok_iff {f : Finish} {timeout : Duration} {o : Outcome} :
    f.result timeout = .ok o ↔ f.ending = .satisfied ∧ f.progress.outcome true f.elapsed = o := by
  cases h : f.ending with
  | satisfied => simp [result, h]
  | timedOut => simp [result, h]
  | violated => simp [result, h]
  | cancelled => simp [result, h]

theorem Finish.result_of_satisfied {f : Finish} (timeout : Duration) (h : f.ending = .satisfied) :
    f.result timeout = .ok (f.progress.outcome true f.elapsed) :=
  result_eq_ok_iff.2 ⟨h, rfl⟩

namespace Evaluation

variable {e : Evaluation} {fetch : Fetch} {m n : Nat} {f : Finish}

def Decides (e : Evaluation) (fetch : Fetch) (n : Nat) : Prop :=
  match e.discipline with
  | .eventually => e.predicate.Accepts (e.window.sample fetch n)
  | .consistently => ¬e.predicate.Accepts (e.window.sample fetch n)

theorem decides_of_eventually (hd : e.discipline = .eventually) :
    e.Decides fetch n ↔ e.predicate.Accepts (e.window.sample fetch n) := by
  rw [Decides, hd]

theorem decides_of_consistently (hd : e.discipline = .consistently) :
    e.Decides fetch n ↔ ¬e.predicate.Accepts (e.window.sample fetch n) := by
  rw [Decides, hd]

theorem verdict?_cases (e : Evaluation) (fetch : Fetch) (n : Nat) :
    (e.Decides fetch n ∧ e.verdict? fetch n = some e.discipline.decision) ∨
      (¬e.Decides fetch n ∧ e.verdict? fetch n = none) := by
  rw [verdict?, Decides]
  cases e.discipline with
  | eventually =>
    rw [← Predicate.isNone_failure?_iff]
    cases (e.predicate.failure? (e.window.sample fetch n)).isNone with
    | true => exact .inl ⟨rfl, rfl⟩
    | false => exact .inr ⟨Bool.false_ne_true, rfl⟩
  | consistently =>
    rw [← Predicate.isNone_failure?_iff]
    cases (e.predicate.failure? (e.window.sample fetch n)).isNone with
    | true => exact .inr ⟨not_not.2 rfl, rfl⟩
    | false => exact .inl ⟨Bool.false_ne_true, rfl⟩

theorem verdict?_eq_none_iff : e.verdict? fetch n = none ↔ ¬e.Decides fetch n := by
  cases e.verdict?_cases fetch n with
  | inl h => simp [h]
  | inr h => simp [h]

@[simp] theorem verdict?_eq_some_iff {ending : Ending} :
    e.verdict? fetch n = some ending ↔ e.Decides fetch n ∧ ending = e.discipline.decision := by
  cases e.verdict?_cases fetch n with
  | inl h => simp [h, eq_comm]
  | inr h => simp [h]

@[simp] theorem progress_lastError (e : Evaluation) (fetch : Fetch) (n : Nat) :
    (e.progress fetch (n + 1)).lastError = e.predicate.failure? (e.window.sample fetch n) := by
  rw [progress_succ, Progress.lastError_record]

theorem progress_lastValue (h : e.predicate.Accepts (e.window.sample fetch n)) :
    e.window.sample fetch n = .ok (e.progress fetch (n + 1)).lastValue := by
  obtain ⟨v, hv, _⟩ := h
  rw [progress_succ, hv, Progress.lastValue_record_ok]

theorem progress_polls_toNat (e : Evaluation) (fetch : Fetch) (h : n ≤ e.window.deadline + 1)
    (hT : e.window.deadline < 2 ^ 32 - 1) : (e.progress fetch n).polls.toNat = n := by
  have hn : n < 2 ^ 32 := by omega
  rw [progress_polls, UInt32.toNat_ofNat_of_lt' hn]

/-- The end of a window in which `l` polls have been completed and none has decided: it closes with
the reply to the last of them or during one more fetch. -/
inductive Closes (e : Evaluation) (fetch : Fetch) : Nat → Finish → Prop
  | heard : e.window.replyTime fetch i = e.window.deadline →
      Closes e fetch (i + 1) ⟨e.discipline.expiry, e.progress fetch (i + 1), e.window.deadline⟩
  | unheard : e.window.Reaches fetch l →
      Closes e fetch l (e.close ((e.progress fetch l).call (e.window.callTime fetch l)))

theorem Course.completes_iff_of_deadline_lt (h : e.Course fetch n f)
    (hd : e.window.deadline < e.window.replyTime fetch n) :
    e.window.Completes fetch m ↔ m < n := by
  constructor
  · intro hm
    apply Nat.lt_of_not_le
    intro hle
    exact Nat.not_le.2 hd (hm.of_le hle).1
  · exact h.reaches.completes

theorem Course.completes_iff_of_deadline_eq (h : e.Course fetch n f)
    (hd : e.window.replyTime fetch n = e.window.deadline) :
    e.window.Completes fetch m ↔ m < n + 1 := by
  constructor
  · intro hm
    apply Nat.lt_of_not_le
    intro hle
    exact Nat.ne_of_lt (hm.2 n hle) hd
  · intro hm
    have hn : e.window.Completes fetch n := ⟨Nat.le_of_eq hd, h.reaches⟩
    exact hn.of_le (Nat.le_of_lt_succ hm)

theorem Course.decides_or_closes (h : e.Course fetch n f) (hu : e.Uncancelled fetch) :
    (IsLeast {m | e.window.Completes fetch m ∧ e.Decides fetch m} n ∧
      f = ⟨e.discipline.decision, e.progress fetch (n + 1), e.window.replyTime fetch n⟩) ∨
    ∃ l ≤ e.window.deadline + 1, (∀ m, e.window.Completes fetch m ↔ m < l) ∧
      (∀ m, e.window.Completes fetch m → ¬e.Decides fetch m) ∧ e.Closes fetch l f := by
  have hbefore (m : Nat) (hm : m < n) : ¬e.Decides fetch m :=
    verdict?_eq_none_iff.1 (h.continues m hm).undecided
  have hn : n ≤ e.window.deadline := h.reaches.le_deadline
  cases h.concludes hu with
  | unheard hd =>
    have hl (m : Nat) := h.completes_iff_of_deadline_lt (m := m) hd
    exact .inr ⟨n, Nat.le_succ_of_le hn, hl, fun m hm => hbefore m ((hl m).1 hm),
      .unheard h.reaches⟩
  | decided hd hv =>
    obtain ⟨hdec, hending⟩ := verdict?_eq_some_iff.1 hv
    refine .inl ⟨⟨⟨⟨hd, h.reaches⟩, hdec⟩, fun m hm => ?_⟩, by rw [hending]⟩
    apply Nat.le_of_not_lt
    intro hlt
    exact hbefore m hlt hm.2
  | expired hd hv =>
    have hl (m : Nat) := h.completes_iff_of_deadline_eq (m := m) hd
    have hclose : e.Closes fetch (n + 1)
        ⟨e.discipline.expiry, e.progress fetch (n + 1), e.window.replyTime fetch n⟩ := by
      rw [hd]
      exact .heard hd
    refine .inr ⟨n + 1, Nat.succ_le_succ hn, hl, fun m hm => ?_, hclose⟩
    cases Nat.lt_succ_iff_lt_or_eq.1 ((hl m).1 hm) with
    | inl hm => exact hbefore m hm
    | inr hm => rw [hm]; exact verdict?_eq_none_iff.1 hv

theorem Course.getElem?_calls (h : e.Course fetch n f) (hu : e.Uncancelled fetch) {i t : Nat}
    (ht : f.progress.calls.reverse[i]? = some t) : t = e.window.callTime fetch i := by
  rw [(h.concludes hu).calls, getElem?_map_range_eq_some_iff] at ht
  exact ht.2.symm

theorem Course.calls_le (h : e.Course fetch n f) (hu : e.Uncancelled fetch) {t : Nat}
    (ht : t ∈ f.progress.calls.reverse) : t ≤ e.window.replyTime fetch n := by
  rw [(h.concludes hu).calls, List.mem_map] at ht
  obtain ⟨i, hi, hit⟩ := ht
  calc t
    _ = e.window.callTime fetch i := hit.symm
    _ ≤ e.window.callTime fetch n :=
      h.reaches.callTime_le_callTime (Nat.le_of_lt_succ (List.mem_range.1 hi))
    _ ≤ e.window.replyTime fetch n := e.window.callTime_le_replyTime fetch n

theorem Closes.elapsed {l : Nat} (h : e.Closes fetch l f) : f.elapsed = e.window.deadline := by
  cases h with
  | heard => rfl
  | unheard => rfl

theorem Closes.polls {l : Nat} (h : e.Closes fetch l f) :
    f.progress.polls = (e.progress fetch l).polls := by
  cases h with
  | heard => rfl
  | unheard => rfl

theorem Closes.lastValue {l : Nat} (h : e.Closes fetch l f) :
    f.progress.lastValue = (e.progress fetch l).lastValue := by
  cases h with
  | heard => rfl
  | unheard => rfl

theorem Closes.ending_of_eventually {l : Nat} (h : e.Closes fetch l f)
    (hd : e.discipline = .eventually) : f.ending = .timedOut := by
  cases h with
  | heard => rw [hd]; rfl
  | unheard => rw [close, hd]; rfl

theorem Closes.ending_of_consistently {l : Nat} (h : e.Closes fetch (l + 1) f)
    (hd : e.discipline = .consistently) (hl : l ≤ e.window.deadline)
    (hT : e.window.deadline < 2 ^ 32 - 1) : f.ending = .satisfied := by
  have hpos : 0 < (e.progress fetch (l + 1)).polls := by
    rw [UInt32.lt_iff_toNat_lt, e.progress_polls_toNat fetch (Nat.succ_le_succ hl) hT]
    exact Nat.succ_pos l
  cases h with
  | heard => rw [hd]; rfl
  | unheard => rw [close, hd]; exact if_pos hpos

theorem Closes.ending_of_consistently_of_zero (h : e.Closes fetch 0 f)
    (hd : e.discipline = .consistently) : f.ending = .violated := by
  cases h with
  | unheard => rw [close, hd]; rfl

theorem Closes.lastError_of_eq {l : Nat} (h : e.Closes fetch l f)
    (hl : ∀ m, e.window.Completes fetch m ↔ m < l) (hm : e.window.Completes fetch m)
    (hd : e.window.replyTime fetch m = e.window.deadline) :
    f.progress.lastError = e.predicate.failure? (e.window.sample fetch m) := by
  cases h with
  | @heard i hi =>
    have hmi : m = i := by
      apply Nat.le_antisymm (Nat.le_of_lt_succ ((hl m).1 hm))
      apply Nat.le_of_not_lt
      intro hlt
      exact Nat.ne_of_lt (((hl i).2 (Nat.lt_succ_self i)).2 m hlt) hd
    rw [hmi]
    exact progress_lastError e fetch i
  | unheard hr => exact absurd hd (Nat.ne_of_lt (hr m ((hl m).1 hm)))

theorem Closes.lastError_of_ne {l : Nat} (h : e.Closes fetch l f)
    (hl : ∀ m, e.window.Completes fetch m ↔ m < l)
    (hne : ∀ m, e.window.Completes fetch m → e.window.replyTime fetch m ≠ e.window.deadline) :
    f.progress.lastError = some .pending := by
  cases h with
  | @heard i hi => exact absurd hi (hne i ((hl i).2 (Nat.lt_succ_self i)))
  | unheard => rfl

theorem Course.eq_of_isLeast (h : e.Course fetch n f) (hu : e.Uncancelled fetch)
    (hm : IsLeast {m | e.window.Completes fetch m ∧ e.Decides fetch m} m) :
    m = n ∧
      f = ⟨e.discipline.decision, e.progress fetch (m + 1), e.window.replyTime fetch m⟩ := by
  cases h.decides_or_closes hu with
  | inl hn =>
    have hmn : m = n := hm.unique hn.1
    rw [hmn]
    exact ⟨rfl, hn.2⟩
  | inr hl =>
    obtain ⟨l, _, _, hnone, _⟩ := hl
    exact absurd hm.1.2 (hnone m hm.1.1)

theorem Course.closes_of_forall (h : e.Course fetch n f) (hu : e.Uncancelled fetch)
    (hno : ∀ m, e.window.Completes fetch m → ¬e.Decides fetch m) :
    ∃ l ≤ e.window.deadline + 1, (∀ m, e.window.Completes fetch m ↔ m < l) ∧
      e.Closes fetch l f := by
  cases h.decides_or_closes hu with
  | inl hn => exact absurd hn.1.1.2 (hno n hn.1.1.1)
  | inr hl =>
    obtain ⟨l, hle, hl, _, hclose⟩ := hl
    exact ⟨l, hle, hl, hclose⟩

theorem Course.exists_ok_of_isLeast (h : e.Course fetch n f) (hu : e.Uncancelled fetch)
    (hd : e.discipline = .eventually) (hT : e.window.deadline < 2 ^ 32 - 1) (timeout : Duration)
    (hm : IsLeast
      {m | e.window.Completes fetch m ∧ e.predicate.Accepts (e.window.sample fetch m)} m) :
    ∃ o, f.result timeout = .ok o ∧ o.satisfied = true ∧ o.polls.toNat = m + 1 ∧
      o.elapsed = .ofMillis (e.window.replyTime fetch m) ∧
      e.window.sample fetch m = .ok o.lastValue ∧ o.lastError = none := by
  have hle : m + 1 ≤ e.window.deadline + 1 := Nat.succ_le_succ hm.1.1.2.le_deadline
  have haccept := hm.1.2
  simp only [← decides_of_eventually hd] at hm
  obtain ⟨_, hf⟩ := h.eq_of_isLeast hu hm
  have hending : f.ending = .satisfied := by rw [hf, hd]; rfl
  refine ⟨_, f.result_of_satisfied timeout hending, rfl, ?_, ?_, ?_, rfl⟩
  · rw [hf]
    exact e.progress_polls_toNat fetch hle hT
  · rw [hf]
    rfl
  · rw [hf]
    exact progress_lastValue haccept

theorem Course.exists_timeout_of_not_exists (h : e.Course fetch n f) (hu : e.Uncancelled fetch)
    (hd : e.discipline = .eventually) (hT : e.window.deadline < 2 ^ 32 - 1) (timeout : Duration)
    (hno : ¬∃ m, e.window.Completes fetch m ∧ e.predicate.Accepts (e.window.sample fetch m)) :
    ∃ o, f.result timeout = .error (.timeout timeout o) ∧ o.satisfied = false ∧
      o.elapsed = .ofMillis e.window.deadline ∧
      (∀ m, e.window.Completes fetch m ↔ m < o.polls.toNat) ∧
      (∀ m, e.window.Completes fetch m → e.window.replyTime fetch m = e.window.deadline →
        o.lastError = e.predicate.failure? (e.window.sample fetch m)) ∧
      ((∀ m, e.window.Completes fetch m → e.window.replyTime fetch m ≠ e.window.deadline) →
        o.lastError = some .pending) := by
  obtain ⟨l, hle, hl, hclose⟩ := h.closes_of_forall hu fun m hm hdec =>
    hno ⟨m, hm, (decides_of_eventually hd).1 hdec⟩
  have hending := hclose.ending_of_eventually hd
  have hpolls : f.progress.polls.toNat = l := by
    rw [hclose.polls, e.progress_polls_toNat fetch hle hT]
  refine ⟨_, f.result_of_timedOut timeout hending, rfl, ?_, ?_, ?_, ?_⟩
  · exact congrArg Duration.ofMillis hclose.elapsed
  · intro m
    rw [hl m, ← hpolls]
    rfl
  · intro m hm hd
    exact hclose.lastError_of_eq hl hm hd
  · intro hne
    exact hclose.lastError_of_ne hl hne

theorem Course.exists_violation_of_isLeast (h : e.Course fetch n f) (hu : e.Uncancelled fetch)
    (hd : e.discipline = .consistently) (hT : e.window.deadline < 2 ^ 32 - 1) (timeout : Duration)
    (hm : IsLeast
      {m | e.window.Completes fetch m ∧ ¬e.predicate.Accepts (e.window.sample fetch m)} m) :
    ∃ o, f.result timeout = .error (.violation o) ∧ o.polls.toNat = m + 1 ∧
      o.elapsed = .ofMillis (e.window.replyTime fetch m) ∧
      o.lastError = e.predicate.failure? (e.window.sample fetch m) ∧
      f.elapsed = e.window.replyTime fetch m ∧
      ∀ t ∈ f.progress.calls.reverse, t ≤ e.window.replyTime fetch m := by
  have hle : m + 1 ≤ e.window.deadline + 1 := Nat.succ_le_succ hm.1.1.2.le_deadline
  simp only [← decides_of_consistently hd] at hm
  obtain ⟨hmn, hf⟩ := h.eq_of_isLeast hu hm
  have hending : f.ending = .violated := by rw [hf, hd]; rfl
  refine ⟨_, f.result_of_violated timeout hending, ?_, ?_, ?_, ?_, ?_⟩
  · rw [hf]
    exact e.progress_polls_toNat fetch hle hT
  · rw [hf]
    rfl
  · rw [hf]
    exact e.progress_lastError fetch m
  · rw [hf]
  · intro t ht
    rw [hmn]
    exact h.calls_le hu ht

theorem Course.exists_violation_of_forall_not (h : e.Course fetch n f) (hu : e.Uncancelled fetch)
    (hd : e.discipline = .consistently) (timeout : Duration)
    (hno : ∀ m, ¬e.window.Completes fetch m) :
    ∃ o, f.result timeout = .error (.violation o) ∧ o.polls = 0 ∧ o.lastError = some .pending ∧
      o.elapsed = .ofMillis e.window.deadline := by
  obtain ⟨l, hle, hl, hclose⟩ := h.closes_of_forall hu fun m hm => absurd hm (hno m)
  cases l with
  | zero =>
    have hending := hclose.ending_of_consistently_of_zero hd
    refine ⟨_, f.result_of_violated timeout hending, hclose.polls, ?_, ?_⟩
    · exact hclose.lastError_of_ne hl fun m hm => absurd hm (hno m)
    · exact congrArg Duration.ofMillis hclose.elapsed
  | succ l => exact absurd ((hl l).2 (Nat.lt_succ_self l)) (hno l)

theorem Course.exists_closes_of_ok (h : e.Course fetch n f) (hu : e.Uncancelled fetch)
    (hd : e.discipline = .consistently) {timeout : Duration} {o : Outcome}
    (ho : f.result timeout = .ok o) :
    ∃ l ≤ e.window.deadline, (∀ m, e.window.Completes fetch m ↔ m < l + 1) ∧
      (∀ m, e.window.Completes fetch m → e.predicate.Accepts (e.window.sample fetch m)) ∧
      e.Closes fetch (l + 1) f := by
  have hending : f.ending = .satisfied := (Finish.result_eq_ok_iff.1 ho).1
  cases h.decides_or_closes hu with
  | inl hn =>
    rw [hn.2, hd] at hending
    nomatch hending
  | inr hl =>
    obtain ⟨l, hle, hl, hnone, hclose⟩ := hl
    simp only [decides_of_consistently hd, not_not] at hnone
    cases l with
    | zero =>
      rw [hclose.ending_of_consistently_of_zero hd] at hending
      nomatch hending
    | succ l => exact ⟨l, Nat.le_of_succ_le_succ hle, hl, hnone, hclose⟩

theorem Course.exists_ok_iff (h : e.Course fetch n f) (hu : e.Uncancelled fetch)
    (hd : e.discipline = .consistently) (hT : e.window.deadline < 2 ^ 32 - 1) (timeout : Duration) :
    (∃ o, f.result timeout = .ok o) ↔
      (∃ m, e.window.Completes fetch m) ∧
        ∀ m, e.window.Completes fetch m → e.predicate.Accepts (e.window.sample fetch m) := by
  constructor
  · rintro ⟨o, ho⟩
    obtain ⟨l, _, hl, haccept, _⟩ := h.exists_closes_of_ok hu hd ho
    exact ⟨⟨l, (hl l).2 (Nat.lt_succ_self l)⟩, haccept⟩
  · rintro ⟨⟨m, hm⟩, haccept⟩
    obtain ⟨l, hle, hl, hclose⟩ := h.closes_of_forall hu fun m hm hdec =>
      (decides_of_consistently hd).1 hdec (haccept m hm)
    cases l with
    | zero => exact absurd ((hl m).1 hm) (Nat.not_lt_zero m)
    | succ l =>
      have hle' : l ≤ e.window.deadline := Nat.le_of_succ_le_succ hle
      exact ⟨_, f.result_of_satisfied timeout (hclose.ending_of_consistently hd hle' hT)⟩

theorem Course.outcome_of_ok (h : e.Course fetch n f) (hu : e.Uncancelled fetch)
    (hd : e.discipline = .consistently) (hT : e.window.deadline < 2 ^ 32 - 1) {timeout : Duration}
    {o : Outcome} (ho : f.result timeout = .ok o) :
    o.satisfied = true ∧ o.lastError = none ∧ o.elapsed = .ofMillis e.window.deadline ∧
      f.elapsed = e.window.deadline ∧ (∀ m, e.window.Completes fetch m ↔ m < o.polls.toNat) ∧
      ∀ m, IsGreatest {m | e.window.Completes fetch m} m →
        e.window.sample fetch m = .ok o.lastValue := by
  obtain ⟨l, hle, hl, haccept, hclose⟩ := h.exists_closes_of_ok hu hd ho
  have hlast : e.window.Completes fetch l := (hl l).2 (Nat.lt_succ_self l)
  have hpolls : f.progress.polls.toNat = l + 1 := by
    rw [hclose.polls, e.progress_polls_toNat fetch (Nat.succ_le_succ hle) hT]
  rw [← (Finish.result_eq_ok_iff.1 ho).2]
  refine ⟨rfl, rfl, congrArg Duration.ofMillis hclose.elapsed, hclose.elapsed, ?_, ?_⟩
  · intro m
    rw [hl m, ← hpolls]
    rfl
  · intro m hm
    have hml : m = l := Nat.le_antisymm (Nat.le_of_lt_succ ((hl m).1 hm.1)) (hm.2 hlast)
    rw [hml, progress_lastValue (haccept l hlast), ← hclose.lastValue]
    rfl

end Evaluation

/-- Polling under `eventually` succeeds with the first completed poll that is accepted, and fails
at the deadline if there is none. -/
theorem evaluate_eventually {spec : PollSpec} (hv : spec.Valid)
    (hd : spec.discipline = .eventually) (hT : spec.timeout.millisUp < 2 ^ 32 - 1)
    (predicate : Predicate) {fetch : Fetch} (hq : fetch.Quiet) :
    let w := hv.window
    let p := predicate.under spec.negate
    let run := evaluate fetch predicate spec none
    (∀ i t, run.calls[i]? = some t → t = w.callTime fetch i) ∧
    (∀ n, IsLeast {n | w.Completes fetch n ∧ p.Accepts (w.sample fetch n)} n →
      ∃ o, run.result = .ok o ∧ o.satisfied = true ∧ o.polls.toNat = n + 1 ∧
        o.elapsed = .ofMillis (w.replyTime fetch n) ∧ w.sample fetch n = .ok o.lastValue ∧
        o.lastError = none) ∧
    ((¬∃ n, w.Completes fetch n ∧ p.Accepts (w.sample fetch n)) →
      ∃ o, run.result = .error (.timeout spec.timeout o) ∧ o.satisfied = false ∧
        o.elapsed = .ofMillis w.deadline ∧ (∀ n, w.Completes fetch n ↔ n < o.polls.toNat) ∧
        (∀ n, w.Completes fetch n → w.replyTime fetch n = w.deadline →
          o.lastError = p.failure? (w.sample fetch n)) ∧
        ((∀ n, w.Completes fetch n → w.replyTime fetch n ≠ w.deadline) →
          o.lastError = some .pending)) := by
  dsimp only
  have hu := hv.uncancelled predicate hq
  obtain ⟨n, f, hc, hrun⟩ := hv.exists_course fetch predicate none
  rw [hrun]
  refine ⟨?_, ?_, ?_⟩
  · intro i t
    exact hc.getElem?_calls hu
  · intro m hm
    exact hc.exists_ok_of_isLeast hu hd hT spec.timeout hm
  · intro hno
    exact hc.exists_timeout_of_not_exists hu hd hT spec.timeout hno

theorem evaluate_eventually_fourth :
    let spec : PollSpec := ⟨.eventually, .ofMillis 100, .ofMillis 10, false⟩
    let fetch : Fetch := .values (.ofMillis 4) fun n => .bool (n == 3)
    spec.Valid ∧ spec.timeout.millisUp < 2 ^ 32 - 1 ∧ fetch.Quiet ∧
      ∃ o, (evaluate fetch (.plain .boolIs [.bool true]) spec none).result = .ok o ∧
        o.polls.toNat = 4 ∧ o.elapsed = .ofMillis 46 := by
  intro spec fetch
  let hv : spec.Valid := ⟨by decide, by decide⟩
  have hT : spec.timeout.millisUp < 2 ^ 32 - 1 := by decide
  have hq : fetch.Quiet := Fetch.quiet_values _ _
  refine ⟨hv, hT, hq, ?_⟩
  have hbefore : ∀ n < 3, ¬((Predicate.plain .boolIs [.bool true]).under spec.negate).Accepts
      (hv.window.sample fetch n) := by decide +kernel
  have hreply : hv.window.replyTime fetch 3 = 46 := by decide +kernel
  obtain ⟨_, hok, _⟩ := evaluate_eventually hv rfl hT (.plain .boolIs [.bool true]) hq
  obtain ⟨o, hresult, _, hpolls, helapsed, _⟩ := hok 3 ⟨⟨by decide +kernel, by decide +kernel⟩,
    fun n hn => Nat.le_of_not_lt fun hlt => hbefore n hlt hn.2⟩
  exact ⟨o, hresult, hpolls, helapsed.trans (congrArg Duration.ofMillis hreply)⟩

/-- Polling under `consistently` fails with the first completed poll that is not accepted, fails at
the deadline if no poll is completed, and else succeeds at the deadline. -/
theorem evaluate_consistently {spec : PollSpec} (hv : spec.Valid)
    (hd : spec.discipline = .consistently) (hT : spec.timeout.millisUp < 2 ^ 32 - 1)
    (predicate : Predicate) {fetch : Fetch} (hq : fetch.Quiet) :
    let w := hv.window
    let p := predicate.under spec.negate
    let run := evaluate fetch predicate spec none
    (∀ n, IsLeast {n | w.Completes fetch n ∧ ¬p.Accepts (w.sample fetch n)} n →
      ∃ o, run.result = .error (.violation o) ∧ o.polls.toNat = n + 1 ∧
        o.elapsed = .ofMillis (w.replyTime fetch n) ∧
        o.lastError = p.failure? (w.sample fetch n) ∧
        run.elapsed = w.replyTime fetch n ∧ ∀ t ∈ run.calls, t ≤ w.replyTime fetch n) ∧
    ((∀ n, ¬w.Completes fetch n) →
      ∃ o, run.result = .error (.violation o) ∧ o.polls = 0 ∧ o.lastError = some .pending ∧
        o.elapsed = .ofMillis w.deadline) ∧
    ((∃ o, run.result = .ok o) ↔
      (∃ n, w.Completes fetch n) ∧ ∀ n, w.Completes fetch n → p.Accepts (w.sample fetch n)) ∧
    (∀ o, run.result = .ok o →
      o.satisfied = true ∧ o.lastError = none ∧ o.elapsed = .ofMillis w.deadline ∧
        run.elapsed = w.deadline ∧ (∀ n, w.Completes fetch n ↔ n < o.polls.toNat) ∧
        ∀ n, IsGreatest {n | w.Completes fetch n} n → w.sample fetch n = .ok o.lastValue) := by
  dsimp only
  have hu := hv.uncancelled predicate hq
  obtain ⟨n, f, hc, hrun⟩ := hv.exists_course fetch predicate none
  rw [hrun]
  refine ⟨?_, ?_, ?_, ?_⟩
  · intro m hm
    exact hc.exists_violation_of_isLeast hu hd hT spec.timeout hm
  · intro hno
    exact hc.exists_violation_of_forall_not hu hd spec.timeout hno
  · exact hc.exists_ok_iff hu hd hT spec.timeout
  · intro o ho
    exact hc.outcome_of_ok hu hd hT ho

theorem evaluate_consistently_third :
    let spec : PollSpec := ⟨.consistently, .ofMillis 50, .ofMillis 10, false⟩
    let fetch : Fetch := .values (.ofMillis 4) fun n => .bool (n != 2)
    spec.Valid ∧ spec.timeout.millisUp < 2 ^ 32 - 1 ∧ fetch.Quiet ∧
      ∃ o, (evaluate fetch (.plain .boolIs [.bool true]) spec none).result = .error (.violation o) ∧
        o.polls.toNat = 3 ∧ o.elapsed = .ofMillis 32 := by
  intro spec fetch
  let hv : spec.Valid := ⟨by decide, by decide⟩
  have hT : spec.timeout.millisUp < 2 ^ 32 - 1 := by decide
  have hq : fetch.Quiet := Fetch.quiet_values _ _
  refine ⟨hv, hT, hq, ?_⟩
  have hbefore : ∀ n < 2, ((Predicate.plain .boolIs [.bool true]).under spec.negate).Accepts
      (hv.window.sample fetch n) := by decide +kernel
  have hreply : hv.window.replyTime fetch 2 = 32 := by decide +kernel
  obtain ⟨hviolation, _⟩ := evaluate_consistently hv rfl hT (.plain .boolIs [.bool true]) hq
  obtain ⟨o, hresult, hpolls, helapsed, _⟩ := hviolation 2
    ⟨⟨by decide +kernel, by decide +kernel⟩,
      fun n hn => Nat.le_of_not_lt fun hlt => hn.2 (hbefore n hlt)⟩
  exact ⟨o, hresult, hpolls, helapsed.trans (congrArg Duration.ofMillis hreply)⟩

end LiveAssert
