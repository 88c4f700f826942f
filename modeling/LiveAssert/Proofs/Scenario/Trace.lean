import LiveAssert.Proofs.Poll.Clock
import LiveAssert.Proofs.Scenario.Convergence

/-!
Steps on a running clock leave no trace: what a step changes is the time, and the reads that are
still to come. Where reads take no time, a step has one result, however many steps are run before
it.
-/

namespace LiveAssert

open Clock (milli place place_zero)

structure Request where
  object : ObjectRef
  path : String
  predicate : Predicate
  spec : PollSpec

namespace Scenario

variable {s : Scenario} {text : String}

def request (s : Scenario) (text : String) : Except AssertionError Request :=
  match AssertionStep.parse text with
  | .error e => .error (.ofStep e)
  | .ok step =>
    match s.grammar.compile step.assertion.phrase with
    | .error e => .error (.phrase e)
    | .ok predicate =>
      match s.registry.get? step.assertion.reference with
      | none => .error (.unknownReference step.assertion.reference)
      | some o => .ok ⟨o, step.assertion.path, predicate, s.spec step⟩

theorem runStep_eq_request (s : Scenario) (resolver : Resolver) (cancelAt : Option Nat)
    (text : String) :
    s.runStep resolver cancelAt text =
      match s.request text with
      | .error e => .refused e
      | .ok r =>
        (evaluate (s.fetch resolver r.object r.path) r.predicate r.spec cancelAt).mapError
          .ofCondition := by
  simp only [runStep, request, assertObject]
  cases AssertionStep.parse text with
  | error e => rfl
  | ok step =>
    dsimp only
    cases s.grammar.compile step.assertion.phrase with
    | error e => rfl
    | ok predicate =>
      dsimp only
      cases s.registry.get? step.assertion.reference <;> rfl

def runStepOn (s : Scenario) (start : Nat) (resolver : Resolver) (cancelAt : Option Nat)
    (text : String) : Reading AssertionError :=
  match s.request text with
  | .error e => .refused start e
  | .ok r =>
    (evaluateOn start (s.fetch resolver r.object r.path) r.predicate r.spec cancelAt).mapError
      .ofCondition

theorem runStepOn_eq_onClock {start : Nat} (hs : milli ∣ start) {resolver clockResolver : Resolver}
    (hr : ∀ n t o, clockResolver n (place start t) o = resolver n t o) (cancelAt : Option Nat)
    (text : String) :
    s.runStepOn start clockResolver (cancelAt.map (place start)) text =
      (s.runStep resolver cancelAt text).onClock start := by
  rw [runStepOn, runStep_eq_request]
  cases s.request text with
  | error e => exact (Run.onClock_refused start e).symm
  | ok r =>
    have hf (n t : Nat) : s.fetch clockResolver r.object r.path n (place start t) =
        s.fetch resolver r.object r.path n t := by
      rw [fetch, fetch, hr]
    dsimp only
    rw [evaluateOn_eq_onClock hs hf]
    rfl

end Scenario

structure TimedSession where
  scenario : Scenario
  documents : Documents
  reads : List Read
  now : Nat

namespace TimedSession

def resolver (s : TimedSession) : Resolver := fun n _ o =>
  let read := s.reads[n]?.getD .immediate
  let document := match read.error with
    | some e => .error e
    | none => s.documents.resolve o
  ⟨document, read.delay⟩

def cancelAt (s : TimedSession) : Option Nat :=
  if s.scenario.token.cancelled then some s.now else none

def after (s : TimedSession) (r : Reading AssertionError) : TimedSession :=
  { s with reads := s.reads.drop r.calls.length, now := r.ended }

def runStep (s : TimedSession) (text : String) : Reading AssertionError × TimedSession :=
  let reading := s.scenario.runStepOn s.now s.resolver s.cancelAt text
  (reading, s.after reading)

def play (s : TimedSession) (texts : List String) : TimedSession :=
  texts.foldl (fun s text => (s.runStep text).2) s

@[simp] theorem play_cons (s : TimedSession) (text : String) (texts : List String) :
    s.play (text :: texts) = (s.runStep text).2.play texts := rfl

end TimedSession

namespace Session

variable {s later : Session} {text : String} {texts : List String}

def play (s : Session) (texts : List String) : Session :=
  texts.foldl (fun s text => (s.runStep [] text).2) s

@[simp] theorem play_cons (s : Session) (text : String) (texts : List String) :
    s.play (text :: texts) = (s.runStep [] text).2.play texts := rfl

def timed (s : Session) : TimedSession := ⟨s.scenario, s.documents, s.reads, s.clock * milli⟩

@[simp] theorem timed_after (s : Session) (run : Run AssertionError) :
    s.timed.after (run.onClock s.timed.now) = (s.after [] run).timed := by
  simp only [TimedSession.after, timed, after, Run.onClock, place, List.length_map, Nat.add_mul]
  rfl

@[simp] theorem timed_cancelAt (s : Session) :
    s.timed.cancelAt = (s.cancelAt []).map (place s.timed.now) := by
  rw [TimedSession.cancelAt, cancelAt, Script.cancelAt, timed]
  cases s.scenario.token.cancelled with
  | false => rfl
  | true => exact congrArg some (place_zero _).symm

@[simp] theorem timed_runStep (s : Session) (text : String) :
    s.timed.runStep text =
      ((s.runStep [] text).1.onClock s.timed.now, (s.runStep [] text).2.timed) := by
  have hreading : (s.timed.runStep text).1 = (s.runStep [] text).1.onClock s.timed.now := by
    rw [TimedSession.runStep, timed_cancelAt]
    exact Scenario.runStepOn_eq_onClock (Nat.dvd_mul_left ..) (fun _ _ _ => rfl) _ text
  apply Prod.ext hreading
  calc (s.timed.runStep text).2
    _ = s.timed.after (s.timed.runStep text).1 := rfl
    _ = s.timed.after ((s.runStep [] text).1.onClock s.timed.now) := by rw [hreading]
    _ = (s.runStep [] text).2.timed := timed_after s (s.runStep [] text).1

@[simp] theorem timed_play (s : Session) (texts : List String) :
    s.timed.play texts = (s.play texts).timed := by
  induction texts generalizing s with
  | nil => rfl
  | cons text texts ih => simp [ih]

theorem exists_timed_eq {t : TimedSession} (h : milli ∣ t.now) : ∃ s : Session, s.timed = t := by
  obtain ⟨clock, hclock⟩ := h
  refine ⟨⟨t.scenario, t.documents, t.reads, clock⟩, ?_⟩
  rw [timed, Nat.mul_comm, ← hclock]

structure Untouched (s later : Session) : Prop where
  scenario : later.scenario = s.scenario
  documents : later.documents = s.documents
  reads : later.reads <:+ s.reads
  clock : s.clock ≤ later.clock

theorem Untouched.trans {s' : Session} (h : s.Untouched s') (h' : s'.Untouched later) :
    s.Untouched later where
  scenario := h'.scenario.trans h.scenario
  documents := h'.documents.trans h.documents
  reads := h'.reads.trans h.reads
  clock := Nat.le_trans h.clock h'.clock

theorem untouched_runStep (s : Session) (text : String) : s.Untouched (s.runStep [] text).2 where
  scenario := rfl
  documents := rfl
  reads := List.drop_suffix ..
  clock := Nat.le_add_right ..

theorem untouched_play (s : Session) (texts : List String) : s.Untouched (s.play texts) := by
  induction texts generalizing s with
  | nil => exact ⟨rfl, rfl, List.suffix_rfl, Nat.le_refl _⟩
  | cons text texts ih => exact (s.untouched_runStep text).trans (ih (s.runStep [] text).2)

theorem Untouched.runStep_eq (h : s.Untouched later) (hi : ∀ r ∈ s.reads, r = .immediate)
    (text : String) : (later.runStep [] text).1 = (s.runStep [] text).1 := by
  have hresolver : later.resolver [] = s.resolver [] := by
    funext n time o
    rw [resolver_of_immediate fun r hr => hi r (h.reads.subset hr), resolver_of_immediate hi,
      h.documents]
  rw [runStep, runStep, hresolver, cancelAt, cancelAt, h.scenario]

end Session

/-- Steps that nothing happens around change neither the scenario nor the documents, and they end at
whole milliseconds. If reads take no time, a step run after them is the step run before them, only
later. The steps of a session are these steps. -/
theorem TimedSession.runStep_after_play (s : TimedSession) (h : milli ∣ s.now)
    (texts : List String) (text : String) :
    let later := s.play texts
    later.scenario = s.scenario ∧ later.documents = s.documents ∧
      milli ∣ later.now ∧ s.now ≤ later.now ∧
      ((∀ r ∈ s.reads, r = .immediate) → ∃ run : Run AssertionError,
        (s.runStep text).1 = run.onClock s.now ∧ (later.runStep text).1 = run.onClock later.now) ∧
      ∀ session : Session, session.timed = s →
        later = (session.play texts).timed ∧
          later.runStep text = (((session.play texts).runStep [] text).1.onClock later.now,
            ((session.play texts).runStep [] text).2.timed) := by
  intro later
  have htie (session : Session) (hsession : session.timed = s) :
      later = (session.play texts).timed := by
    rw [← session.timed_play, hsession]
  obtain ⟨session, hsession⟩ := Session.exists_timed_eq h
  have hu := session.untouched_play texts
  have hlater := htie session hsession
  refine ⟨?_, ?_, ?_, ?_, fun hi => ?_, fun session hsession => ⟨htie session hsession, ?_⟩⟩
  · rw [hlater, ← hsession]
    exact hu.scenario
  · rw [hlater, ← hsession]
    exact hu.documents
  · rw [hlater]
    exact Nat.dvd_mul_left ..
  · rw [hlater, ← hsession]
    exact Nat.mul_le_mul_right _ hu.clock
  · rw [← hsession] at hi ⊢
    refine ⟨(session.runStep [] text).1, by rw [session.timed_runStep], ?_⟩
    rw [hlater, Session.timed_runStep, hu.runStep_eq hi]
  · rw [htie session hsession]
    exact (session.play texts).timed_runStep text

theorem TimedSession.runStep_after_play_false :
    let o : ObjectRef := ⟨"v1", "Pod", "web", none⟩
    let s : TimedSession :=
      ⟨⟨Registry.empty.register "web" o, .path, .standard, ⟨.ofMicros 1500, .ofMicros 500⟩,
        ⟨false, false⟩⟩, [(o, .object [("ready", .bool true)])], [], 7 * milli⟩
    let text := "web's '.ready' should be false"
    let later := s.play [text, "within 700us, web's '.ready' should be false"]
    milli ∣ s.now ∧ (∀ r ∈ s.reads, r = .immediate) ∧ later.now = 10 * milli ∧
      ∃ run : Run AssertionError, (s.runStep text).1 = run.onClock s.now ∧
        (later.runStep text).1 = run.onClock later.now := by
  intro o s text later
  have hs : milli ∣ s.now := Nat.dvd_mul_left ..
  have hreads : ∀ r ∈ s.reads, r = .immediate := fun r hr => nomatch hr
  obtain ⟨_, _, _, _, hrun, _⟩ :=
    s.runStep_after_play hs [text, "within 700us, web's '.ready' should be false"] text
  exact ⟨hs, hreads, by decide +kernel, hrun hreads⟩

example :
    let o : ObjectRef := ⟨"v1", "Pod", "web", none⟩
    let s : TimedSession :=
      ⟨⟨Registry.empty.register "web" o, .path, .standard, ⟨.ofMicros 1500, .ofMicros 500⟩,
        ⟨false, false⟩⟩, [(o, .object [("ready", .bool true)])], [], 7000500⟩
    (s.runStep "web's '.ready' should be false").1.ended - s.now = 1999500 := by
  decide +kernel

end LiveAssert
