import LiveAssert.Proofs.Poll.Cancellation
import LiveAssert.Proofs.Scenario.Operation

/-!
After a cancellation, own or of the parent, nothing is polled in a scenario any more, and all else
goes on. A step that the cancellation finds running ends with it and makes no call from then on.
-/

namespace LiveAssert

namespace Run

def IsRefused (run : Run AssertionError) : Prop :=
  ∃ e, run.result = .error e ∧ e.isCompileTime

def stopped : Run AssertionError :=
  ⟨.error (.cancelled ⟨false, none, none, .zero, 0⟩), [], 0⟩

end Run

namespace Scenario

variable {s : Scenario} {c : Check}

theorem Refuses.isRefused {e : AssertionError} (h : s.Refuses c e) (resolver : Resolver)
    (cancelAt : Option Nat) : (s.check resolver cancelAt c).IsRefused :=
  ⟨e, by rw [h.2]; rfl, h.1⟩

theorem Polls.not_isRefused (h : s.Polls c) (resolver : Resolver) (cancelAt : Option Nat) :
    ¬(s.check resolver cancelAt c).IsRefused := by
  obtain ⟨fetch, p, spec, _, hv, hcheck⟩ := h resolver
  obtain ⟨n, f, hcourse, hrun⟩ := hv.exists_course fetch p cancelAt
  rw [hcheck, hrun]
  rintro ⟨e, he, hcompile⟩
  have hverdict := hcourse.ends.verdict spec.timeout
  change (f.result spec.timeout).mapError .ofCondition = .error e at he
  rw [he] at hverdict
  nomatch hverdict.isCompileTime.symm.trans hcompile

theorem Polls.check_of_cancelAt_zero (h : s.Polls c) (resolver : Resolver) :
    s.check resolver (some 0) c = .stopped := by
  obtain ⟨fetch, p, spec, _, hv, hcheck⟩ := h resolver
  obtain ⟨n, f, hcourse, hrun⟩ := hv.exists_course fetch p (some 0)
  rw [hcheck, hrun, hcourse.eq_of_cancelAt_zero rfl]
  rfl

theorem check_of_le_elapsed {resolver : Resolver} {k : Nat}
    (hk : k ≤ (s.check resolver (some k) c).elapsed) :
    let run := s.check resolver (some k) c
    run.elapsed = k ∧ (∀ time ∈ run.calls, time < k) ∧
      (run.IsRefused ∨ ∃ o, run.result = .error (.cancelled o)) := by
  dsimp only
  cases s.refuses_or_polls c with
  | inl h =>
    obtain ⟨e, he⟩ := h
    refine ⟨?_, ?_, .inl (he.isRefused _ _)⟩
    · rw [he.2] at hk ⊢
      exact (Nat.le_zero.1 hk).symm
    · rw [he.2]
      exact fun _ ht => nomatch ht
  | inr h =>
    obtain ⟨fetch, p, spec, hq, hv, hcheck⟩ := h resolver
    rw [hcheck] at hk ⊢
    obtain ⟨helapsed, hcalls, o, ho⟩ := evaluate_of_le_elapsed hv hq p hk
    refine ⟨helapsed, hcalls, .inr ⟨o, ?_⟩⟩
    rw [Run.mapError, ho]
    rfl

end Scenario

namespace Session

variable {s : Session}

/-- Nothing is polled in the session any more, and what is not polled goes on as under any other
token. -/
structure Halted (s : Session) : Prop where
  cancelled : s.scenario.token.cancelled
  checks : ∀ script script' c t,
    let run := (s.check script c).1
    let other := ((s.under t).check script' c).1
    run.calls = [] ∧ run.elapsed = 0 ∧
      (other.IsRefused ∧ run = other ∨ ¬other.IsRefused ∧ run = .stopped)
  others : ∀ op, ¬op.IsCheck → ∀ t,
    ((s.under t).perform op).1 = (s.perform op).1 ∧
      ∀ t', ((s.under t).perform op).2.under t' = (s.perform op).2.under t'

theorem halted_of_cancelled (h : s.scenario.token.cancelled) : s.Halted where
  cancelled := h
  checks script script' c t := by
    have hrun : (s.check script c).1 = s.scenario.check (s.resolver script) (some 0) c := by
      rw [check_eq, cancelAt, Script.cancelAt, if_pos h]
    dsimp only
    rw [check_under, hrun]
    cases s.scenario.refuses_or_polls c with
    | inl he =>
      obtain ⟨e, he⟩ := he
      have hrefused := he.isRefused (s.resolver script') (script'.cancelAt t)
      rw [he.2] at hrefused ⊢
      rw [he.2]
      exact ⟨rfl, rfl, .inl ⟨hrefused, rfl⟩⟩
    | inr hp =>
      rw [hp.check_of_cancelAt_zero]
      exact ⟨rfl, rfl, .inr ⟨hp.not_isRefused _ _, rfl⟩⟩
  others op hop t := perform_under hop s t

namespace Halted

theorem perform (h : s.Halted) (op : Operation) : (s.perform op).2.Halted :=
  halted_of_cancelled (cancelled_perform h.cancelled op)

theorem performAll (h : s.Halted) (ops : List Operation) : (s.performAll ops).Halted := by
  induction ops generalizing s with
  | nil => exact h
  | cons op ops ih => exact ih (h.perform op)

theorem elapsed_check (h : s.Halted) (script : Script) (c : Check) :
    (s.check script c).1.elapsed = 0 := (h.checks script script c s.scenario.token).2.1

@[simp] theorem documents_perform (h : s.Halted) (op : Operation) :
    (s.perform op).2.documents = op.changes.foldl Change.onDocuments s.documents := by
  cases op with
  | check script c =>
    simp [Session.perform, check_snd, Operation.changes, Script.documents, h.elapsed_check]
  | _ => rfl

@[simp] theorem documents_performAll (h : s.Halted) (ops : List Operation) :
    (s.performAll ops).documents =
      (ops.flatMap Operation.changes).foldl Change.onDocuments s.documents := by
  induction ops generalizing s with
  | nil => rfl
  | cons op ops ih => simp [ih (h.perform op), h.documents_perform]

@[simp]
theorem clock_perform (h : s.Halted) (op : Operation) : (s.perform op).2.clock = s.clock := by
  cases op with
  | check script c => simp [Session.perform, check_snd, h.elapsed_check]
  | _ => rfl

@[simp] theorem clock_performAll (h : s.Halted) (ops : List Operation) :
    (s.performAll ops).clock = s.clock := by
  induction ops generalizing s with
  | nil => rfl
  | cons op ops ih => simp [ih (h.perform op), h.clock_perform]

end Halted

theorem check_of_cancelled_after {script : Script} {c : Check}
    (h : (s.check script c).2.scenario.token.cancelled) :
    let run := (s.check script c).1
    (∀ time, (script.token s.scenario.token time).cancelled ↔ run.elapsed ≤ time) ∧
      (∀ time ∈ run.calls, time < run.elapsed) ∧
      (run.IsRefused ∨ ∃ o, run.result = .error (.cancelled o)) := by
  rw [check_eq] at h ⊢
  obtain ⟨k, hk, hle⟩ := (script.cancelled_token_iff _ _).1 h
  dsimp only at hle ⊢
  rw [cancelAt, hk] at hle ⊢
  obtain ⟨helapsed, hcalls, hresult⟩ := Scenario.check_of_le_elapsed hle
  rw [helapsed]
  refine ⟨fun time => ?_, hcalls, hresult⟩
  simp [script.cancelled_token_iff, hk]

inductive Cancels (s : Session) : Operation → Prop
  | already : s.scenario.token.cancelled → Cancels s op
  | change : c.Stops s.scenario.token → Cancels s (.change c)
  | event {ev : Event} : ev ∈ script → ev.change.Stops s.scenario.token →
      ev.time ≤ (s.check script c).1.elapsed → Cancels s (.check script c)

theorem cancelled_of_cancels {op : Operation} (h : s.Cancels op) :
    (s.perform op).2.scenario.token.cancelled := by
  cases h with
  | already h => exact cancelled_perform h op
  | change h => exact Change.cancelled_onToken_iff.2 (.inr h)
  | @event script c ev hev hstops htime =>
    rw [perform, check_snd, token_after]
    apply (Change.cancelled_foldl_onToken_iff _ _).2
    exact .inr ⟨ev.change, Script.mem_happened_iff.2 ⟨ev, hev, htime, rfl⟩,
      Change.cancelled_onToken_iff.2 (.inr hstops)⟩

/-- Once its token is cancelled, by what operation and at what moment of it ever, a session is
halted for good: registering, queueing and changing documents go on, nothing is read, and no time
passes. -/
theorem halted_after_cancellation (s : Session) (op : Operation) (later : List Operation)
    (h : s.Cancels op) :
    let stopped := (s.perform op).2
    (∀ script c, op = .check script c →
      let run := (s.check script c).1
      (∀ time, (script.token s.scenario.token time).cancelled ↔ run.elapsed ≤ time) ∧
        (∀ time ∈ run.calls, time < run.elapsed) ∧
        (run.IsRefused ∨ ∃ o, run.result = .error (.cancelled o))) ∧
    (stopped.performAll later).Halted ∧
    (stopped.performAll later).clock = stopped.clock ∧
    (stopped.performAll later).documents =
      (later.flatMap Operation.changes).foldl Change.onDocuments stopped.documents ∧
    ∀ t, (stopped.performAll later).scenario.registry =
      ((stopped.under t).performAll later).scenario.registry := by
  have hcancelled := cancelled_of_cancels h
  have hhalted := halted_of_cancelled hcancelled
  refine ⟨?_, hhalted.performAll later, hhalted.clock_performAll later,
    hhalted.documents_performAll later, fun t => ?_⟩
  · rintro script c rfl
    exact check_of_cancelled_after hcancelled
  · rw [registry_performAll, registry_performAll]
    rfl

theorem halted_after_cancellation_of_parent :
    let o : ObjectRef := ⟨"v1", "Pod", "web", none⟩
    let s : Session :=
      .new ⟨Registry.empty.register "web" o, .path, .standard, .default, ⟨true, false⟩⟩
    let c : Check := .step "web's '.ready' should be true"
    let op : Operation := .check [⟨25, .cancelParent⟩] c
    let next := (s.perform op).2.performAll
      [.register "db" o, .change (.set o (.object [("ready", .bool true)]))]
    s.Cancels op ∧ (s.check [⟨25, .cancelParent⟩] c).1.calls = [0, 10, 20] ∧
      next.Halted ∧ (next.check [] c).1 = .stopped ∧ next.clock = 25 ∧
      Documents.get? o next.documents = some (.object [("ready", .bool true)]) ∧
      next.scenario.registry.get? "db" = some o := by
  intro o s c op next
  have hcancels : s.Cancels op :=
    .event (List.mem_singleton_self _) rfl (show 25 ≤ _ by decide +kernel)
  obtain ⟨_, hhalted, hclock, hdocuments, _⟩ := halted_after_cancellation s op
    [.register "db" o, .change (.set o (.object [("ready", .bool true)]))] hcancels
  have hok : ((next.under ⟨true, false⟩).check [] c).1.result.isOk := by decide +kernel
  refine ⟨hcancels, by decide +kernel, hhalted, ?_, hclock.trans (by decide +kernel),
    hdocuments ▸ Documents.get?_set_self .., Registry.get?_register_self ..⟩
  obtain ⟨_, _, ⟨⟨e, he, _⟩, _⟩ | ⟨_, hrun⟩⟩ := hhalted.checks [] [] c ⟨true, false⟩
  · rw [he] at hok
    nomatch hok
  · exact hrun

end Session

end LiveAssert
