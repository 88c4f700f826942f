import LiveAssert.Proofs.Poll.Course
import LiveAssert.Proofs.Step.Parse
import LiveAssert.Session
import Mathlib.Order.WellFounded

/-!
What is wrong with a step before anything is fetched. Each fault is found apart from the others,
and a step is refused for the first of those that it has, without a read and in no time. A step
without faults is polled.
-/

namespace LiveAssert

inductive Discipline.Verdict : Discipline → Except AssertionError Outcome → Prop
  | ok : Verdict d (.ok o)
  | timeout : Verdict .eventually (.error (.timeout timeout o))
  | violation : Verdict .consistently (.error (.violation o))
  | cancelled : Verdict d (.error (.cancelled o))

/-- The place of a fault among those that a step can have at once. -/
def AssertionError.rank : AssertionError → Nat
  | .notAnAssertion _ => 0
  | .configuration (.invalidDuration _ _) => 1
  | .phrase _ => 2
  | .unknownReference _ => 3
  | .configuration .nonPositiveTimeout => 4
  | .configuration .nonPositiveInterval => 5
  | _ => 6

theorem Discipline.Verdict.isCompileTime {d : Discipline} {e : AssertionError}
    (h : d.Verdict (.error e)) : e.isCompileTime = false := by
  cases h with
  | timeout => rfl
  | violation => rfl
  | cancelled => rfl

theorem Evaluation.Ends.verdict {e : Evaluation} {fetch : Fetch} {n : Nat} {f : Finish}
    (h : e.Ends fetch n f) (timeout : Duration) :
    e.discipline.Verdict ((f.result timeout).mapError .ofCondition) := by
  cases h with
  | barred => exact .cancelled
  | interrupted => exact .cancelled
  | withdrawn => exact .cancelled
  | awaited => exact .cancelled
  | expired =>
    cases e.discipline with
    | eventually => exact .timeout
    | consistently => exact .ok
  | unheard =>
    rw [close]
    cases e.discipline with
    | eventually => exact .timeout
    | consistently =>
      rw [Discipline.expiryUnheard]
      split
      · exact .ok
      · exact .violation
  | decided _ _ hv =>
    rw [verdict?] at hv
    generalize (e.predicate.failure? (e.window.sample fetch n)).isNone = holds at hv
    cases hd : e.discipline with
    | eventually =>
      cases holds with
      | false => simp [hd, Discipline.decision?] at hv
      | true =>
        simp only [hd, Discipline.decision?, if_true, Option.some.injEq] at hv
        subst hv
        exact .ok
    | consistently =>
      cases holds with
      | true => simp [hd, Discipline.decision?] at hv
      | false =>
        simp only [hd, Discipline.decision?, Bool.false_eq_true, if_false, Option.some.injEq] at hv
        subst hv
        exact .violation

theorem Evaluation.Course.eq_of_cancelAt_zero {e : Evaluation} {fetch : Fetch} {n : Nat}
    {f : Finish} (h : e.Course fetch n f) (hz : e.cancelAt = some 0) :
    f = ⟨.cancelled, .start, 0⟩ := by
  have hsome (time : Nat) : e.cancelledBy? time = some 0 :=
    cancelledBy?_eq_some_iff.2 ⟨hz, Nat.zero_le time⟩
  have hn : n = 0 := by
    apply Nat.eq_zero_of_not_pos
    intro hpos
    have hwaits := (h.continues 0 hpos).waits
    rw [hsome] at hwaits
    nomatch hwaits
  subst hn
  cases h.ends with
  | barred => rfl
  | interrupted hc => rw [hsome] at hc; nomatch hc
  | unheard hc => rw [hsome] at hc; nomatch hc
  | decided hc => rw [hsome] at hc; nomatch hc
  | expired hc => rw [hsome] at hc; nomatch hc
  | withdrawn hc => rw [hsome] at hc; nomatch hc
  | awaited hc => rw [hsome] at hc; nomatch hc

namespace Scenario

/-- What is wrong with a step, each fault without regard to the others. -/
inductive Faulty (s : Scenario) (text : String) : AssertionError → Prop
  | notAnAssertion : (∀ d : Discipline, ¬d.Matches (Text.trim text.toList)) →
      Faulty s text (.notAnAssertion (String.ofList (Text.trim text.toList)))
  | invalidDuration : AssertionStep.parts? (Text.trim text.toList) = some (d, some stated, a) →
      Duration.read (String.ofList stated) = .error fault →
      Faulty s text (.configuration (.invalidDuration (String.ofList stated) fault))
  | phrase : AssertionStep.parts? (Text.trim text.toList) = some (d, stated, a) →
      s.grammar.compile a.phrase = .error e → Faulty s text (.phrase e)
  | unknownReference : AssertionStep.parts? (Text.trim text.toList) = some (d, stated, a) →
      s.registry.get? a.reference = none → Faulty s text (.unknownReference a.reference)
  | zeroTimeout : AssertionStep.parts? (Text.trim text.toList) = some (d, stated, a) →
      AssertionStep.readTimeout stated = .ok timeout →
      timeout.getD s.config.defaultTimeout = .zero →
      Faulty s text (.configuration .nonPositiveTimeout)
  | zeroInterval : AssertionStep.parts? (Text.trim text.toList) = some (d, stated, a) →
      s.config.interval = .zero → Faulty s text (.configuration .nonPositiveInterval)

variable {s : Scenario} {text : String} {e : AssertionError} {d : Discipline}
  {stated : Option (List Char)} {timeout : Option Duration} {a : Assertion} {p : Predicate}
  {o : ObjectRef} {resolver : Resolver} {cancelAt : Option Nat}

def SoundBelow (s : Scenario) (text : String) (k : Nat) : Prop :=
  ∀ e, s.Faulty text e → k ≤ e.rank

theorem SoundBelow.mono {j k : Nat} (h : s.SoundBelow text k) (hj : j ≤ k) :
    s.SoundBelow text j :=
  fun e he => Nat.le_trans hj (h e he)

theorem SoundBelow.exists_parts (h : s.SoundBelow text 1) :
    ∃ d stated a, AssertionStep.parts? (Text.trim text.toList) = some (d, stated, a) := by
  cases hp : AssertionStep.parts? (Text.trim text.toList) with
  | some parts => exact ⟨_, _, _, rfl⟩
  | none =>
    refine (Nat.not_succ_le_self 0 (h _ (.notAnAssertion fun d hd => ?_))).elim
    obtain ⟨parts, hparts⟩ := Option.isSome_iff_exists.1 (Discipline.isSome_parts?_iff.2 hd)
    rw [AssertionStep.parts?_eq_some_iff.2 ⟨d, hparts⟩] at hp
    nomatch hp

section Compiled

variable {reference path phrase : String} {spec : PollSpec}

theorem assertObject_of_compile_error {e : CompileError} (hc : s.grammar.compile phrase = .error e) :
    s.assertObject resolver cancelAt reference path phrase spec = .refused (.phrase e) := by
  simp only [assertObject, hc]

theorem assertObject_of_get?_none (hc : s.grammar.compile phrase = .ok p)
    (ho : s.registry.get? reference = none) :
    s.assertObject resolver cancelAt reference path phrase spec =
      .refused (.unknownReference reference) := by
  simp only [assertObject, hc, ho]

theorem assertObject_eq_evaluate (hc : s.grammar.compile phrase = .ok p)
    (ho : s.registry.get? reference = some o) :
    s.assertObject resolver cancelAt reference path phrase spec =
      (evaluate (s.fetch resolver o path) p spec cancelAt).mapError .ofCondition := by
  simp only [assertObject, hc, ho]

end Compiled

section Parts

variable (hp : AssertionStep.parts? (Text.trim text.toList) = some (d, stated, a))
include hp

theorem SoundBelow.exists_timeout (h : s.SoundBelow text 2) :
    ∃ timeout, AssertionStep.readTimeout stated = .ok timeout := by
  cases stated with
  | none => exact ⟨none, rfl⟩
  | some stated =>
    cases hr : Duration.read (String.ofList stated) with
    | error fault => exact (Nat.not_succ_le_self 1 (h _ (.invalidDuration hp hr))).elim
    | ok timeout => exact ⟨some timeout, by rw [AssertionStep.readTimeout, readDuration, hr]; rfl⟩

theorem SoundBelow.exists_predicate (h : s.SoundBelow text 3) :
    ∃ p, s.grammar.compile a.phrase = .ok p := by
  cases hc : s.grammar.compile a.phrase with
  | error e => exact (Nat.not_succ_le_self 2 (h _ (.phrase hp hc))).elim
  | ok p => exact ⟨p, rfl⟩

theorem SoundBelow.exists_object (h : s.SoundBelow text 4) :
    ∃ o, s.registry.get? a.reference = some o := by
  cases ho : s.registry.get? a.reference with
  | none => exact (Nat.not_succ_le_self 3 (h _ (.unknownReference hp ho))).elim
  | some o => exact ⟨o, rfl⟩

theorem SoundBelow.timeout_ne_zero (h : s.SoundBelow text 5)
    (ht : AssertionStep.readTimeout stated = .ok timeout) :
    timeout.getD s.config.defaultTimeout ≠ .zero :=
  fun hz => Nat.not_succ_le_self 4 (h _ (.zeroTimeout hp ht hz))

theorem SoundBelow.interval_ne_zero (h : s.SoundBelow text 6) : s.config.interval ≠ .zero :=
  fun hz => Nat.not_succ_le_self 5 (h _ (.zeroInterval hp hz))

theorem runStep_of_readTimeout (ht : AssertionStep.readTimeout stated = .ok timeout) :
    s.runStep resolver cancelAt text =
      s.assertObject resolver cancelAt a.reference a.path a.phrase (s.spec ⟨d, timeout, a⟩) := by
  rw [runStep, AssertionStep.parse_of_parts? hp, ht]
  rfl

theorem runStep_eq_evaluate (ht : AssertionStep.readTimeout stated = .ok timeout)
    (hc : s.grammar.compile a.phrase = .ok p) (ho : s.registry.get? a.reference = some o) :
    s.runStep resolver cancelAt text =
      (evaluate (s.fetch resolver o a.path) p (s.spec ⟨d, timeout, a⟩) cancelAt).mapError
        .ofCondition := by
  rw [runStep_of_readTimeout hp ht, assertObject_eq_evaluate hc ho]

end Parts

theorem runStep_of_faulty (h : s.Faulty text e) (hfirst : s.SoundBelow text e.rank)
    (resolver : Resolver) (cancelAt : Option Nat) :
    s.runStep resolver cancelAt text = .refused e := by
  cases h with
  | notAnAssertion hno =>
    have hp : AssertionStep.parts? (Text.trim text.toList) = none := by
      rw [Option.eq_none_iff_forall_ne_some]
      intro parts hparts
      obtain ⟨d, hd⟩ := AssertionStep.parts?_eq_some_iff.1 hparts
      exact hno d (Discipline.isSome_parts?_iff.1 (Option.isSome_of_eq_some hd))
    rw [runStep, AssertionStep.parse, hp]
    rfl
  | invalidDuration hp hr =>
    rw [runStep, AssertionStep.parse_of_parts? hp, AssertionStep.readTimeout, readDuration, hr]
    rfl
  | phrase hp hc =>
    obtain ⟨timeout, ht⟩ := hfirst.exists_timeout hp
    rw [runStep_of_readTimeout hp ht, assertObject_of_compile_error hc]
  | unknownReference hp ho =>
    obtain ⟨timeout, ht⟩ := (hfirst.mono (show 2 ≤ 3 by decide)).exists_timeout hp
    obtain ⟨p, hc⟩ := hfirst.exists_predicate hp
    rw [runStep_of_readTimeout hp ht, assertObject_of_get?_none hc ho]
  | zeroTimeout hp ht hz =>
    obtain ⟨p, hc⟩ := (hfirst.mono (show 3 ≤ 4 by decide)).exists_predicate hp
    obtain ⟨o, ho⟩ := hfirst.exists_object hp
    rw [runStep_eq_evaluate hp ht hc ho, evaluate, PollSpec.window, spec, hz]
    rfl
  | zeroInterval hp hz =>
    obtain ⟨timeout, ht⟩ := (hfirst.mono (show 2 ≤ 5 by decide)).exists_timeout hp
    obtain ⟨p, hc⟩ := (hfirst.mono (show 3 ≤ 5 by decide)).exists_predicate hp
    obtain ⟨o, ho⟩ := (hfirst.mono (show 4 ≤ 5 by decide)).exists_object hp
    have htimeout := hfirst.timeout_ne_zero hp ht
    rw [runStep_eq_evaluate hp ht hc ho, evaluate, PollSpec.window, spec, hz, validateWindow,
      if_neg (by rwa [Duration.isZero_iff])]
    rfl

theorem exists_course_of_sound (h : s.SoundBelow text 6) (resolver : Resolver)
    (cancelAt : Option Nat) :
    ∃ (step : AssertionStep) (e : Evaluation) (fetch : Fetch) (n : Nat) (f : Finish),
      AssertionStep.parse text = .ok step ∧ e.discipline = step.discipline ∧
        e.cancelAt = cancelAt ∧ e.Course fetch n f ∧
        s.runStep resolver cancelAt text =
          (f.toRun (s.spec step).timeout).mapError .ofCondition := by
  obtain ⟨d, stated, a, hp⟩ := (h.mono (show 1 ≤ 6 by decide)).exists_parts
  obtain ⟨timeout, ht⟩ := (h.mono (show 2 ≤ 6 by decide)).exists_timeout hp
  obtain ⟨p, hc⟩ := (h.mono (show 3 ≤ 6 by decide)).exists_predicate hp
  obtain ⟨o, ho⟩ := (h.mono (show 4 ≤ 6 by decide)).exists_object hp
  have hv : (s.spec ⟨d, timeout, a⟩).Valid := by
    constructor
    · exact Duration.nanos_pos_iff.2 ((h.mono (show 5 ≤ 6 by decide)).timeout_ne_zero hp ht)
    · exact Duration.nanos_pos_iff.2 (h.interval_ne_zero hp)
  obtain ⟨n, f, hcourse, hrun⟩ := hv.exists_course (s.fetch resolver o a.path) p cancelAt
  refine ⟨⟨d, timeout, a⟩, _, _, n, f, AssertionStep.parse_eq_ok_iff.2 ⟨stated, hp, ht⟩, rfl, rfl,
    hcourse, ?_⟩
  rw [runStep_eq_evaluate hp ht hc ho, hrun]

theorem exists_verdict_of_sound (h : s.SoundBelow text 6) (resolver : Resolver)
    (cancelAt : Option Nat) :
    ∃ step, AssertionStep.parse text = .ok step ∧
      step.discipline.Verdict (s.runStep resolver cancelAt text).result ∧
      (cancelAt = some 0 →
        ∃ o, (s.runStep resolver cancelAt text).result = .error (.cancelled o) ∧ o.polls = 0) := by
  obtain ⟨step, e, fetch, n, f, hparse, hd, hcancel, hcourse, hrun⟩ :=
    exists_course_of_sound h resolver cancelAt
  rw [hrun]
  refine ⟨step, hparse, ?_, fun hz => ?_⟩
  · rw [← hd]
    exact hcourse.ends.verdict _
  · rw [hcourse.eq_of_cancelAt_zero (hcancel.trans hz)]
    exact ⟨_, rfl, rfl⟩

theorem exists_first_of_faulty (h : s.Faulty text e) :
    ∃ e', s.Faulty text e' ∧ s.SoundBelow text e'.rank := by
  obtain ⟨e', he', hmin⟩ := (measure AssertionError.rank).wf.has_min {e | s.Faulty text e} ⟨e, h⟩
  exact ⟨e', he', fun e'' he'' => Nat.le_of_not_lt (hmin e'' he'')⟩

theorem isCompileTime_of_faulty (h : s.Faulty text e) : e.isCompileTime := by
  cases h <;> rfl

end Scenario

/-- A step is refused for the first of its faults, and nothing else is known before polling: no
document is read and no time passes then, cancelled or not. A step without faults has one of the
results of polling, which no refusal is. -/
theorem Session.runStep_refused_iff (s : Session) (script : Script) (text : String) :
    let run := (s.runStep script text).1
    let next := (s.runStep script text).2
    (∀ e, run.result = .error e ∧ e.isCompileTime ↔
      s.scenario.Faulty text e ∧ ∀ e', s.scenario.Faulty text e' → e.rank ≤ e'.rank) ∧
    (∀ e, s.scenario.Faulty text e →
      run.calls = [] ∧ run.elapsed = 0 ∧ next.reads = s.reads ∧ next.clock = s.clock ∧
        ∀ resolver cancelAt, s.scenario.runStep resolver cancelAt text = run) ∧
    ((∀ e, ¬s.scenario.Faulty text e) →
      ∃ step, AssertionStep.parse text = .ok step ∧ step.discipline.Verdict run.result ∧
        (s.scenario.token.cancelled → ∃ o, run.result = .error (.cancelled o) ∧ o.polls = 0) ∧
        ∀ e, run.result = .error e → e.isCompileTime = false) := by
  dsimp only [Session.runStep]
  by_cases hf : ∃ e, s.scenario.Faulty text e
  · obtain ⟨e, he⟩ := hf
    obtain ⟨first, hfirst, hsound⟩ := Scenario.exists_first_of_faulty he
    have hrun := Scenario.runStep_of_faulty hfirst hsound
    rw [hrun]
    refine ⟨fun e' => ?_, fun _ _ => ⟨rfl, rfl, rfl, rfl, hrun⟩, fun h => (h e he).elim⟩
    constructor
    · rintro ⟨heq, _⟩
      cases heq
      exact ⟨hfirst, hsound⟩
    · rintro ⟨he', hsound'⟩
      have h := hrun (s.resolver script) (s.cancelAt script)
      rw [Scenario.runStep_of_faulty he' hsound'] at h
      cases h
      exact ⟨rfl, Scenario.isCompileTime_of_faulty he'⟩
  · have hnone (e : AssertionError) : ¬s.scenario.Faulty text e := fun he => hf ⟨e, he⟩
    obtain ⟨step, hparse, hverdict, hcancelled⟩ := Scenario.exists_verdict_of_sound
      (fun e he => (hnone e he).elim) (s.resolver script) (s.cancelAt script)
    generalize s.scenario.runStep (s.resolver script) (s.cancelAt script) text = run at *
    have hlate (e : AssertionError) (he : run.result = .error e) : e.isCompileTime = false :=
      (he ▸ hverdict).isCompileTime
    refine ⟨fun e => ⟨fun h => ?_, fun h => (hnone e h.1).elim⟩, fun e he => (hnone e he).elim,
      fun _ => ⟨step, hparse, hverdict, fun ht => hcancelled ?_, hlate⟩⟩
    · exact absurd h.2 (by rw [hlate e h.1]; exact Bool.false_ne_true)
    · rw [cancelAt, Script.cancelAt, if_pos ht]

theorem Session.runStep_refused_for_reference :
    let s : Session := .new ⟨.empty, .path, .standard, ⟨.ofSeconds 1, .zero⟩, ⟨false, true⟩⟩
    let text := "within 0s, gone's '.x' should equal 1"
    s.scenario.token.cancelled ∧
      s.scenario.Faulty text (.unknownReference "gone") ∧
      s.scenario.Faulty text (.configuration .nonPositiveTimeout) ∧
      s.scenario.Faulty text (.configuration .nonPositiveInterval) ∧
      (s.runStep [] text).1.result = .error (.unknownReference "gone") ∧
      (s.runStep [] text).1.calls = [] := by
  intro s text
  have hp : AssertionStep.parts? (Text.trim text.toList) =
      some (.eventually, some "0s".toList, ⟨"gone", ".x", false, "equal 1"⟩) := by decide +kernel
  have hgone : s.scenario.Faulty text (.unknownReference "gone") := .unknownReference hp rfl
  have hfirst : ∀ e, s.scenario.Faulty text e → 3 ≤ e.rank := by
    intro e he
    cases he with
    | notAnAssertion hno =>
      obtain ⟨d, hd⟩ := AssertionStep.parts?_eq_some_iff.1 hp
      exact (hno d (Discipline.isSome_parts?_iff.1 (Option.isSome_of_eq_some hd))).elim
    | invalidDuration hp' hr =>
      cases hp.symm.trans hp'
      nomatch hr
    | phrase hp' hc =>
      cases hp.symm.trans hp'
      nomatch hc
    | unknownReference => exact Nat.le_refl 3
    | zeroTimeout => decide
    | zeroInterval => decide
  obtain ⟨hresult, hfaulty, _⟩ := runStep_refused_iff s [] text
  exact ⟨rfl, hgone, .zeroTimeout hp rfl rfl, .zeroInterval hp rfl,
    ((hresult _).2 ⟨hgone, hfirst⟩).1, (hfaulty _ hgone).1⟩

end LiveAssert
