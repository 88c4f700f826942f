import LiveAssert.Proofs.Poll.Duality
import LiveAssert.Proofs.Poll.Verdict

namespace LiveAssert

def lastFound (samples : List Sample) : Option Value :=
  (samples.filterMap Except.toOption).getLast?.join

@[simp] theorem lastFound_concat_ok (samples : List Sample) (v? : Option Value) :
    lastFound (samples ++ [.ok v?]) = v? := by
  rw [lastFound, List.filterMap_append, List.getLast?_append]
  rfl

@[simp] theorem lastFound_concat_error (samples : List Sample) (e : FetchError) :
    lastFound (samples ++ [.error e]) = lastFound samples := by
  have hnone : ([.error e] : List Sample).filterMap Except.toOption = [] := rfl
  rw [lastFound, List.filterMap_append, hnone, List.append_nil, lastFound]

namespace Predicate

/-- A reason why a poll does not hold is about the last value: there is none where it was missing,
and a mismatch names one that compares otherwise than demanded or cannot be compared. -/
def Explains (p : Predicate) (v? : Option Value) : PollFailure → Prop
  | .missing => v? = none
  | .mismatch text =>
    ∃ v, v? = some v ∧
      (p.test v = .ok p.negate ∧ text = p.failureMessage v ∨
        ∃ e, p.test v = .error e ∧ text = e.message)
  | .fetch _ => True
  | .pending => True

@[simp] theorem holds_eq_ok_iff {p : Predicate} {v : Value} {b : Bool} :
    p.holds v = .ok b ↔ p.test v = .ok (b != p.negate) := by
  cases h : p.test v with
  | error e => simp [holds, h, Except.map]
  | ok matched =>
    rw [holds, h]
    cases p.negate <;> cases matched <;> cases b <;> simp [Except.map]

@[simp] theorem holds_eq_error_iff {p : Predicate} {v : Value} {e : MatchError} :
    p.holds v = .error e ↔ p.test v = .error e := by
  cases h : p.test v with
  | error e => simp [holds, h, Except.map]
  | ok matched => simp [holds, h, Except.map]

theorem explains_of_failure? {p : Predicate} {sample : Sample} {reason : PollFailure}
    (h : p.failure? sample = some reason) (samples : List Sample) :
    p.Explains (lastFound (samples ++ [sample])) reason := by
  cases sample with
  | error e =>
    obtain rfl := Option.some.inj h
    trivial
  | ok v? =>
    rw [lastFound_concat_ok]
    cases v? with
    | none =>
      obtain rfl := Option.some.inj h
      exact rfl
    | some v =>
      rw [failure?] at h
      cases hv : p.holds v with
      | error e =>
        rw [hv] at h
        obtain rfl := Option.some.inj h
        exact ⟨v, rfl, .inr ⟨e, holds_eq_error_iff.1 hv, rfl⟩⟩
      | ok b =>
        cases b with
        | true => rw [hv] at h; cases h
        | false =>
          rw [hv] at h
          obtain rfl := Option.some.inj h
          refine ⟨v, rfl, .inl ⟨?_, rfl⟩⟩
          rw [holds_eq_ok_iff.1 hv, Bool.false_bne]

end Predicate

namespace Progress

structure Reports (p : Progress) (predicate : Predicate) (samples : List Sample) : Prop where
  polls : p.polls = .ofNat samples.length
  lastValue : p.lastValue = lastFound samples
  lastError : p.lastError = samples.getLast?.bind predicate.failure?

variable {p : Progress} {predicate : Predicate} {samples : List Sample}

theorem reports_start (predicate : Predicate) : start.Reports predicate [] := ⟨rfl, rfl, rfl⟩

theorem Reports.record (h : p.Reports predicate samples) (time : Nat) (sample : Sample) :
    ((p.call time).record predicate sample).Reports predicate (samples ++ [sample]) where
  polls := by
    rw [List.length_append, UInt32.ofNat_add, ← h.polls]
    rfl
  lastValue := by
    cases sample with
    | ok v? => simp
    | error e => simp [h.lastValue]
  lastError := by simp

end Progress

namespace Evaluation

variable {e : Evaluation} {fetch : Fetch} {m n : Nat} {f : Finish}

def samples (e : Evaluation) (fetch : Fetch) (n : Nat) : List Sample :=
  (List.range n).map (e.window.sample fetch)

@[simp] theorem samples_succ (e : Evaluation) (fetch : Fetch) (n : Nat) :
    e.samples fetch (n + 1) = e.samples fetch n ++ [e.window.sample fetch n] := by
  simp [samples, List.range_succ]

@[simp] theorem length_samples (e : Evaluation) (fetch : Fetch) (n : Nat) :
    (e.samples fetch n).length = n := by
  simp [samples]

theorem progress_reports (e : Evaluation) (fetch : Fetch) (n : Nat) :
    (e.progress fetch n).Reports e.predicate (e.samples fetch n) := by
  induction n with
  | zero => exact Progress.reports_start e.predicate
  | succ n ih =>
    rw [progress_succ, samples_succ]
    exact ih.record _ _

/-- How an evaluation ends once `l` polls are completed, and the reason that it gives: the last poll
holds, or it does not, or the window closes over a fetch, or the evaluation is cancelled with
nothing decided. -/
inductive Leaves (e : Evaluation) (fetch : Fetch) : Nat → Ending → Option PollFailure → Prop
  | held : e.predicate.Accepts (e.window.sample fetch l) → Leaves e fetch (l + 1) .satisfied reason?
  | failed : e.predicate.failure? (e.window.sample fetch l) = some reason →
      ending = .timedOut ∨ ending = .violated → Leaves e fetch (l + 1) ending (some reason)
  | unheard : ending = .timedOut ∨ ending = .violated → Leaves e fetch l ending (some .pending)
  | cancelled : (∀ m < l, e.verdict? fetch m = none) →
      Leaves e fetch l .cancelled (e.progress fetch l).lastError

theorem accepts_iff_of_undecided (h : e.verdict? fetch n = none) :
    e.predicate.Accepts (e.window.sample fetch n) ↔ e.discipline = .consistently := by
  rw [verdict?_eq_none_iff, Decides] at h
  cases hd : e.discipline with
  | eventually =>
    rw [hd] at h
    exact iff_of_false h (by decide)
  | consistently =>
    rw [hd] at h
    exact iff_of_true (not_not.1 h) rfl

theorem leaves_of_decided {ending : Ending} (h : e.verdict? fetch n = some ending) :
    e.Leaves fetch (n + 1) ending (e.progress fetch (n + 1)).lastError := by
  obtain ⟨hdec, rfl⟩ := verdict?_eq_some_iff.1 h
  rw [Decides] at hdec
  rw [progress_lastError]
  cases hd : e.discipline with
  | eventually =>
    rw [hd] at hdec
    exact .held hdec
  | consistently =>
    rw [hd, ← Predicate.failure?_eq_none_iff] at hdec
    obtain ⟨reason, hr⟩ := Option.ne_none_iff_exists'.1 hdec
    rw [hr]
    exact .failed hr (.inr rfl)

theorem leaves_of_expired (h : e.verdict? fetch n = none) :
    e.Leaves fetch (n + 1) e.discipline.expiry (e.progress fetch (n + 1)).lastError := by
  have haccept := accepts_iff_of_undecided h
  rw [progress_lastError]
  cases hd : e.discipline with
  | eventually =>
    have hfail := mt haccept.1 (by rw [hd]; nofun)
    rw [← Predicate.failure?_eq_none_iff] at hfail
    obtain ⟨reason, hr⟩ := Option.ne_none_iff_exists'.1 hfail
    rw [hr]
    exact .failed hr (.inl rfl)
  | consistently => exact .held (haccept.2 hd)

theorem leaves_of_unheard (h : ∀ m < n, e.verdict? fetch m = none) :
    e.Leaves fetch n (e.discipline.expiryUnheard (e.progress fetch n).polls) (some .pending) := by
  cases hd : e.discipline with
  | eventually => exact .unheard (.inl rfl)
  | consistently =>
    rw [Discipline.expiryUnheard]
    split
    · next hpos =>
      cases n with
      | zero => exact absurd hpos (UInt32.lt_irrefl 0)
      | succ n => exact .held ((accepts_iff_of_undecided (h n (Nat.lt_succ_self n))).2 hd)
    · exact .unheard (.inr rfl)

theorem Course.exists_leaves (h : e.Course fetch n f) :
    ∃ l, (∀ m, m ≤ n ∧ e.Hears fetch m ↔ m < l) ∧ f.progress.polls = (e.progress fetch l).polls ∧
      f.progress.lastValue = (e.progress fetch l).lastValue ∧
      e.Leaves fetch l f.ending f.progress.lastError := by
  have hopen (m : Nat) (hm : m < n) : e.verdict? fetch m = none := (h.continues m hm).undecided
  have hopen' (hv : e.verdict? fetch n = none) (m : Nat) (hm : m < n + 1) :
      e.verdict? fetch m = none := by
    cases Nat.lt_succ_iff_lt_or_eq.1 hm with
    | inl hm => exact hopen m hm
    | inr hm => rw [hm]; exact hv
  have hunheard (hn : ¬e.Hears fetch n) (m : Nat) := h.hears_iff_lt_of_not_hears (m := m) hn
  have hheard (hn : e.Hears fetch n) (m : Nat) := h.hears_iff_lt_of_hears (m := m) hn
  cases h.ends with
  | barred hc => exact ⟨n, hunheard (not_hears_of_barred hc), rfl, rfl, .cancelled hopen⟩
  | interrupted _ hc =>
    exact ⟨n, hunheard (not_hears_of_interrupted hc), rfl, rfl, .cancelled hopen⟩
  | unheard _ hd =>
    exact ⟨n, hunheard (not_hears_of_unheard hd), rfl, rfl, leaves_of_unheard hopen⟩
  | decided hn hd hv => exact ⟨n + 1, hheard ⟨hd, hn⟩, rfl, rfl, leaves_of_decided hv⟩
  | expired hn hd hv =>
    exact ⟨n + 1, hheard ⟨Nat.le_of_eq hd, hn⟩, rfl, rfl, leaves_of_expired hv⟩
  | withdrawn hn hd hv _ =>
    exact ⟨n + 1, hheard ⟨Nat.le_of_lt hd, hn⟩, rfl, rfl, .cancelled (hopen' hv)⟩
  | awaited hn hd hv _ _ =>
    exact ⟨n + 1, hheard ⟨Nat.le_of_lt hd, hn⟩, rfl, rfl, .cancelled (hopen' hv)⟩

theorem Course.counter_eq {l : Nat} (h : e.Course fetch n f)
    (hl : ∀ m, m ≤ n ∧ e.Hears fetch m ↔ m < l) : f.progress.polls = .ofNat l := by
  obtain ⟨l', hl', hpolls, _⟩ := h.exists_leaves
  obtain rfl : l = l' := eq_of_forall_lt_iff fun m => (hl m).symm.trans (hl' m)
  rw [hpolls, progress_polls]

end Evaluation

structure Outcome.Coherent (o : Outcome) (discipline : Discipline) (p : Predicate)
    (samples : List Sample) (ending : Ending) : Prop where
  satisfied_iff : o.satisfied = true ↔ ending = .satisfied
  polls : o.polls.toNat = samples.length
  lastValue : o.lastValue = lastFound samples
  holds : ending = .satisfied → 0 < o.polls.toNat ∧ o.lastError = none ∧
    ∃ v, o.lastValue = some v ∧ p.test v = .ok !p.negate
  fails : ending = .timedOut ∨ ending = .violated → o.lastError ≠ none
  cancelled : ending = .cancelled →
    (o.lastError = none ↔ discipline = .consistently ∨ o.polls.toNat = 0)
  explains : ∀ reason, o.lastError = some reason → p.Explains o.lastValue reason

namespace Evaluation

variable {e : Evaluation} {fetch : Fetch} {l n : Nat} {f : Finish} {ending : Ending}
  {reason? : Option PollFailure}

theorem Leaves.exists_accepts (h : e.Leaves fetch l .satisfied reason?) :
    ∃ m, l = m + 1 ∧ e.predicate.Accepts (e.window.sample fetch m) := by
  cases h with
  | held ha => exact ⟨_, rfl, ha⟩
  | failed _ hend => nomatch hend
  | unheard hend => nomatch hend

theorem Leaves.ne_none (h : e.Leaves fetch l ending reason?)
    (hend : ending = .timedOut ∨ ending = .violated) : reason? ≠ none := by
  cases h with
  | held _ => nomatch hend
  | failed _ _ => exact Option.some_ne_none _
  | unheard _ => exact Option.some_ne_none _
  | cancelled _ => nomatch hend

theorem Leaves.eq_none_iff (h : e.Leaves fetch l .cancelled reason?) :
    reason? = none ↔ e.discipline = .consistently ∨ l = 0 := by
  cases h with
  | failed _ hend => nomatch hend
  | unheard hend => nomatch hend
  | cancelled hopen =>
    cases l with
    | zero => exact iff_of_true rfl (.inr rfl)
    | succ m =>
      rw [progress_lastError, Predicate.failure?_eq_none_iff,
        accepts_iff_of_undecided (hopen m (Nat.lt_succ_self m))]
      exact (or_iff_left (Nat.succ_ne_zero m)).symm

theorem Leaves.explains {reason : PollFailure} (h : e.Leaves fetch l ending (some reason))
    (hend : ending ≠ .satisfied) : e.predicate.Explains (lastFound (e.samples fetch l)) reason := by
  generalize hr : some reason = reason? at h
  cases h with
  | held _ => exact absurd rfl hend
  | failed hf _ =>
    rw [← hr] at hf
    rw [samples_succ]
    exact Predicate.explains_of_failure? hf _
  | unheard _ =>
    obtain rfl := Option.some.inj hr
    trivial
  | cancelled _ =>
    cases l with
    | zero => nomatch hr
    | succ m =>
      rw [progress_lastError] at hr
      rw [samples_succ]
      exact Predicate.explains_of_failure? hr.symm _

theorem Leaves.coherent (h : e.Leaves fetch l f.ending f.progress.lastError)
    (hpolls : f.progress.polls = (e.progress fetch l).polls)
    (hvalue : f.progress.lastValue = (e.progress fetch l).lastValue) (hl : l < 2 ^ 32) :
    (f.progress.outcome (f.ending == .satisfied) f.elapsed).Coherent e.discipline e.predicate
      (e.samples fetch l) f.ending := by
  have hcount : f.progress.polls.toNat = l := by
    rw [hpolls, progress_polls, UInt32.toNat_ofNat_of_lt' hl]
  have hlast : f.progress.lastValue = lastFound (e.samples fetch l) :=
    hvalue.trans (e.progress_reports fetch l).lastValue
  have herror (hend : f.ending ≠ .satisfied) :
      (f.progress.outcome (f.ending == .satisfied) f.elapsed).lastError = f.progress.lastError := by
    simp [Progress.outcome, hend]
  constructor
  case satisfied_iff => simp [Progress.outcome]
  case polls => rw [length_samples]; exact hcount
  case lastValue => exact hlast
  case holds =>
    intro hend
    rw [hend] at h
    obtain ⟨m, rfl, v, hv, hholds⟩ := h.exists_accepts
    refine ⟨hcount ▸ Nat.succ_pos m, by simp [Progress.outcome, hend], v, ?_, ?_⟩
    · rw [samples_succ, hv, lastFound_concat_ok] at hlast
      exact hlast
    · rw [Predicate.holds_eq_ok_iff.1 hholds, Bool.true_bne]
  case fails =>
    intro hend
    rw [herror (by rintro hs; rw [hs] at hend; nomatch hend)]
    exact h.ne_none hend
  case cancelled =>
    intro hend
    rw [herror (by rw [hend]; nofun), Progress.outcome, hcount]
    rw [hend] at h
    exact h.eq_none_iff
  case explains =>
    intro reason hr
    have hend : f.ending ≠ .satisfied := by
      intro hs
      simp [Progress.outcome, hs] at hr
    rw [herror hend] at hr
    rw [hr] at h
    have hexplains := h.explains hend
    rw [← hlast] at hexplains
    exact hexplains

end Evaluation

theorem Run.not_hears_refused {fetch : Fetch} {deadline n : Nat} {cancelAt : Option Nat}
    {sample : Sample} (e : ε) : ¬(refused e).Hears fetch deadline cancelAt n sample := by
  rintro ⟨time, ht, _⟩
  nomatch ht

/-- An outcome agrees with the samples of the replies that its run has heard, if they can be counted
in 32 bits. -/
theorem evaluate_coherent {fetch : Fetch} {predicate : Predicate} {spec : PollSpec}
    {cancelAt : Option Nat} {run : Run ConditionError}
    (hrun : run = evaluate fetch predicate spec cancelAt)
    (hcount : ∀ n sample, run.Hears fetch spec.timeout.millisUp cancelAt n sample →
      n + 1 < 2 ^ 32) :
    ∃ samples : List Sample,
      (∀ n sample, samples[n]? = some sample ↔
        run.Hears fetch spec.timeout.millisUp cancelAt n sample) ∧
      (spec.Valid → run.outcome?.isSome) ∧
      ∀ o, run.outcome? = some o → ∃ ending, run.ending? = some ending ∧
        o.Coherent spec.discipline (predicate.under spec.negate) samples ending := by
  by_cases hv : spec.Valid
  · let e := hv.evaluation predicate cancelAt
    obtain ⟨n, f, hf, hfinish⟩ := hv.exists_course fetch predicate cancelAt
    obtain ⟨l, hl, hpolls, hvalue, hleaves⟩ := hf.exists_leaves
    have hheard (m : Nat) (sample : Sample) :
        run.Hears fetch spec.timeout.millisUp cancelAt m sample ↔
          m < l ∧ e.window.sample fetch m = sample := by
      rw [hrun, hfinish]
      exact hf.hears_iff.trans (by rw [← and_assoc, hl m])
    have hlt : l < 2 ^ 32 := by
      cases l with
      | zero => decide
      | succ m => exact hcount m _ ((hheard m _).2 ⟨Nat.lt_succ_self m, rfl⟩)
    refine ⟨e.samples fetch l, fun m sample => ?_, fun _ => ?_, fun o ho => ?_⟩
    · rw [hheard m sample, Evaluation.samples, getElem?_map_range_eq_some_iff]
    · rw [hrun, hfinish, f.outcome?_toRun]
      rfl
    · rw [hrun, hfinish] at ho ⊢
      rw [f.outcome?_toRun] at ho
      obtain rfl := Option.some.inj ho
      exact ⟨f.ending, f.ending?_toRun _, hleaves.coherent hpolls hvalue hlt⟩
  · obtain ⟨fault, hrefused⟩ := exists_evaluate_eq_refused hv fetch predicate cancelAt
    rw [← hrun] at hrefused
    subst hrefused
    refine ⟨[], fun n sample => ?_, fun h => absurd h hv, fun o ho => by nomatch ho⟩
    exact iff_of_false (by simp) (Run.not_hears_refused _)

theorem evaluate_coherent_after_failures :
    let spec : PollSpec := ⟨.eventually, .ofMillis 20, .ofMillis 10, false⟩
    let predicate : Predicate := .plain .boolIs [.bool true]
    let fetch : Fetch := fun n _ =>
      ⟨if n = 0 then .ok (some (.bool false)) else .error (.notFound "pod"), .zero, false⟩
    let run := evaluate fetch predicate spec none
    (∀ n sample, run.Hears fetch spec.timeout.millisUp none n sample → n + 1 < 2 ^ 32) ∧
      ∃ samples o, samples[0]? = some (.ok (some (.bool false))) ∧ run.outcome? = some o ∧
        o.polls = 3 ∧ o.Coherent .eventually (predicate.under false) samples .timedOut := by
  intro spec predicate fetch run
  have hcalls : run.calls = [0, 10, 20] := by decide +kernel
  have hcount (n : Nat) (sample : Sample)
      (h : run.Hears fetch spec.timeout.millisUp none n sample) : n + 1 < 2 ^ 32 := by
    obtain ⟨time, ht, _⟩ := h
    obtain ⟨hn, _⟩ := List.getElem?_eq_some_iff.1 ht
    rw [hcalls] at hn
    exact Nat.lt_trans (Nat.succ_lt_succ hn) (by decide)
  have hending : run.ending? = some .timedOut := by decide +kernel
  have hpolls : run.outcome?.map Outcome.polls = some 3 := by decide +kernel
  obtain ⟨samples, hsamples, _, hcoherent⟩ := evaluate_coherent rfl hcount
  obtain ⟨o, ho, hpolls⟩ := Option.map_eq_some_iff.1 hpolls
  obtain ⟨ending, he, hc⟩ := hcoherent o ho
  obtain rfl := Option.some.inj (hending.symm.trans he)
  refine ⟨hcount, samples, o, (hsamples 0 _).2 ⟨0, ?_, rfl, by decide, nofun⟩, ho, hpolls, hc⟩
  rw [hcalls]
  rfl

end LiveAssert
