import LiveAssert.Proofs.Scenario.Refusal
import LiveAssert.Proofs.Scenario.Script

namespace LiveAssert

inductive Check
  | step (text : String)
  | field (reference path phrase : String) (spec : PollSpec)

inductive Operation
  | register (name : String) (o : ObjectRef)
  | registerManifest (name manifest : String)
  | get (name : String)
  | queue (reads : List Read)
  | change (c : Change)
  | check (script : Script) (c : Check)

inductive Answer
  | done
  | registered (names : Nat)
  | identified (o : Except ManifestError ObjectRef)
  | found (o : Option ObjectRef)
  | checked (run : Run AssertionError)

def Registry.tryManifest (r : Registry) (name manifest : String) :
    Except ManifestError ObjectRef × Registry :=
  match r.registerManifest name manifest with
  | .error e => (.error e, r)
  | .ok (r, o) => (.ok o, r)

namespace Operation

def IsCheck : Operation → Prop
  | .check _ _ => True
  | _ => False

def onRegistry (r : Registry) : Operation → Registry
  | .register name o => r.register name o
  | .registerManifest name manifest => (r.tryManifest name manifest).2
  | _ => r

def changes : Operation → List Change
  | .change c => [c]
  | .check script _ => script.happened 0
  | _ => []

end Operation

namespace Scenario

def check (s : Scenario) (resolver : Resolver) (cancelAt : Option Nat) :
    Check → Run AssertionError
  | .step text => s.runStep resolver cancelAt text
  | .field reference path phrase spec =>
    s.assertObject resolver cancelAt reference path phrase spec

/-- A check that is refused is so whatever there is to read and whenever it is cancelled. -/
def Refuses (s : Scenario) (c : Check) (e : AssertionError) : Prop :=
  e.isCompileTime ∧ ∀ resolver cancelAt, s.check resolver cancelAt c = .refused e

def Polls (s : Scenario) (c : Check) : Prop :=
  ∀ resolver, ∃ (fetch : Fetch) (p : Predicate) (spec : PollSpec), fetch.Quiet ∧ spec.Valid ∧
    ∀ cancelAt, s.check resolver cancelAt c =
      (evaluate fetch p spec cancelAt).mapError .ofCondition

theorem refuses_or_polls_field (s : Scenario) (reference path phrase : String) (spec : PollSpec) :
    (∃ e, s.Refuses (.field reference path phrase spec) e) ∨
      s.Polls (.field reference path phrase spec) := by
  cases hc : s.grammar.compile phrase with
  | error e => exact .inl ⟨.phrase e, rfl, fun _ _ => assertObject_of_compile_error hc⟩
  | ok p =>
    cases ho : s.registry.get? reference with
    | none =>
      exact .inl ⟨.unknownReference reference, rfl, fun _ _ => assertObject_of_get?_none hc ho⟩
    | some o =>
      by_cases hv : spec.Valid
      · exact .inr fun resolver => ⟨s.fetch resolver o path, p, spec, fun _ _ => rfl, hv,
          fun _ => assertObject_eq_evaluate hc ho⟩
      · obtain ⟨fault, hfault⟩ := spec.exists_window_eq_error hv
        refine .inl ⟨.configuration fault, rfl, fun resolver cancelAt => ?_⟩
        rw [check, assertObject_eq_evaluate hc ho, evaluate, hfault]
        rfl

theorem refuses_or_polls (s : Scenario) (c : Check) : (∃ e, s.Refuses c e) ∨ s.Polls c := by
  cases c with
  | field reference path phrase spec => exact s.refuses_or_polls_field reference path phrase spec
  | step text =>
    cases hp : AssertionStep.parse text with
    | error e =>
      refine .inl ⟨.ofStep e, by cases e <;> rfl, fun resolver cancelAt => ?_⟩
      rw [check, runStep, hp]
    | ok step =>
      have heq (resolver : Resolver) (cancelAt : Option Nat) :
          s.check resolver cancelAt (.step text) =
            s.check resolver cancelAt (.field step.assertion.reference step.assertion.path
              step.assertion.phrase (s.spec step)) := by
        rw [check, runStep, hp]
        rfl
      simp only [Refuses, Polls, heq]
      exact s.refuses_or_polls_field ..

end Scenario

namespace Session

def check (s : Session) (script : Script) : Check → Run AssertionError × Session
  | .step text => s.runStep script text
  | .field reference path phrase spec => s.assertObject script reference path phrase spec

def withRegistry (s : Session) (r : Registry) : Session :=
  { s with scenario := { s.scenario with registry := r } }

def under (s : Session) (t : Token) : Session :=
  { s with scenario := { s.scenario with token := t } }

def perform (s : Session) : Operation → Answer × Session
  | .register name o =>
    let r := s.scenario.registry.register name o
    (.registered r.size, s.withRegistry r)
  | .registerManifest name manifest =>
    let read := s.scenario.registry.tryManifest name manifest
    (.identified read.1, s.withRegistry read.2)
  | .get name => (.found (s.scenario.registry.get? name), s)
  | .queue reads => (.done, s.queue reads)
  | .change c => (.done, s.change c)
  | .check script c =>
    let checked := s.check script c
    (.checked checked.1, checked.2)

def performAll (s : Session) (ops : List Operation) : Session :=
  ops.foldl (fun s op => (s.perform op).2) s

@[simp] theorem performAll_cons (s : Session) (op : Operation) (ops : List Operation) :
    s.performAll (op :: ops) = (s.perform op).2.performAll ops := rfl

variable {s : Session}

theorem check_eq (s : Session) (script : Script) (c : Check) :
    s.check script c =
      let run := s.scenario.check (s.resolver script) (s.cancelAt script) c
      (run, s.after script run) := by
  cases c with
  | step => rfl
  | field => rfl

theorem check_snd (s : Session) (script : Script) (c : Check) :
    (s.check script c).2 = s.after script (s.check script c).1 := by
  rw [check_eq]

@[simp] theorem check_under (s : Session) (t : Token) (script : Script) (c : Check) :
    ((s.under t).check script c).1 =
      s.scenario.check (s.resolver script) (script.cancelAt t) c := by
  cases c with
  | step => rfl
  | field => rfl

@[simp] theorem registry_perform (s : Session) (op : Operation) :
    (s.perform op).2.scenario.registry = op.onRegistry s.scenario.registry := by
  cases op with
  | check script c => simp [perform, check_snd, Operation.onRegistry]
  | _ => rfl

@[simp] theorem registry_performAll (s : Session) (ops : List Operation) :
    (s.performAll ops).scenario.registry = ops.foldl Operation.onRegistry s.scenario.registry := by
  induction ops generalizing s with
  | nil => rfl
  | cons op ops ih => simp [ih]

theorem perform_under {op : Operation} (h : ¬op.IsCheck) (s : Session) (t : Token) :
    ((s.under t).perform op).1 = (s.perform op).1 ∧
      ∀ t', ((s.under t).perform op).2.under t' = (s.perform op).2.under t' := by
  cases op with
  | check => exact absurd trivial h
  | _ => exact ⟨rfl, fun _ => rfl⟩

theorem cancelled_perform (h : s.scenario.token.cancelled) (op : Operation) :
    (s.perform op).2.scenario.token.cancelled := by
  cases op with
  | change c => exact Change.cancelled_onToken_iff.2 (.inl h)
  | check script c =>
    rw [perform, check_snd, token_after]
    exact (script.cancelled_token_iff _ _).2 ⟨0, if_pos h, Nat.zero_le _⟩
  | _ => exact h

end Session

end LiveAssert
