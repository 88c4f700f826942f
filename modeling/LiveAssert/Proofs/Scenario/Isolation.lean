import LiveAssert.Proofs.Scenario.Script
import LiveAssert.Session

namespace LiveAssert

open Documents (get?)

namespace Session

/-- The sessions differ at most in the names that they have registered and in the documents of
other objects. -/
structure AgreesOn (o : ObjectRef) (s s' : Session) : Prop where
  extractor : s.scenario.extractor = s'.scenario.extractor
  grammar : s.scenario.grammar = s'.scenario.grammar
  config : s.scenario.config = s'.scenario.config
  token : s.scenario.token = s'.scenario.token
  documents : get? o s.documents = get? o s'.documents
  reads : s.reads = s'.reads
  clock : s.clock = s'.clock

variable {s s' : Session} {script script' : Script} {o : ObjectRef}

namespace AgreesOn

variable (h : s.AgreesOn o s') (hscript : script.AgreesOn o script')
include h hscript

theorem cancelAt_eq : s.cancelAt script = s'.cancelAt script' := by
  rw [cancelAt, cancelAt, h.token, hscript.cancelAt_eq]

theorem resolver_eq (n time : Nat) : s.resolver script n time o = s'.resolver script' n time o := by
  simp only [resolver, Documents.resolve, h.reads, hscript.get?_documents h.documents]

theorem fetch_eq (path : String) :
    s.scenario.fetch (s.resolver script) o path =
      s'.scenario.fetch (s'.resolver script') o path := by
  funext n time
  have hextracted : s.scenario.extracted = s'.scenario.extracted := by
    funext path document
    rw [Scenario.extracted, Scenario.extracted, h.extractor]
  simp only [Scenario.fetch, h.resolver_eq hscript, hextracted]

theorem assertObject_eq {reference : String} (ho : s.scenario.registry.get? reference = some o)
    (ho' : s'.scenario.registry.get? reference = some o) (path phrase : String) (spec : PollSpec) :
    (s.assertObject script reference path phrase spec).1 =
      (s'.assertObject script' reference path phrase spec).1 := by
  simp only [assertObject, Scenario.assertObject, h.grammar, ho, ho', h.cancelAt_eq hscript,
    h.fetch_eq hscript]

theorem after (run : Run AssertionError) : (s.after script run).AgreesOn o (s'.after script' run) where
  extractor := h.extractor
  grammar := h.grammar
  config := h.config
  token := by
    rw [token_after, token_after, h.token]
    exact hscript.token_eq _ _
  documents := hscript.get?_documents h.documents _
  reads := congrArg (List.drop _) h.reads
  clock := congrArg (· + _) h.clock

end AgreesOn

/-- Two sessions that agree on the object which a step names run the step alike: with the same
result, the same calls and the same time taken. They agree on the object afterwards. -/
theorem runStep_of_agreesOn {text : String} (h : s.AgreesOn o s')
    (hscript : script.AgreesOn o script')
    (hname : ∀ step, AssertionStep.parse text = .ok step →
      s.scenario.registry.get? step.assertion.reference = some o ∧
        s'.scenario.registry.get? step.assertion.reference = some o) :
    (s.runStep script text).1 = (s'.runStep script' text).1 ∧
      (s.runStep script text).2.AgreesOn o (s'.runStep script' text).2 := by
  have hrun : (s.runStep script text).1 = (s'.runStep script' text).1 := by
    rw [runStep, runStep, Scenario.runStep, Scenario.runStep]
    cases hp : AssertionStep.parse text with
    | error e => rfl
    | ok step =>
      obtain ⟨ho, ho'⟩ := hname step hp
      have hspec : s.scenario.spec step = s'.scenario.spec step := by
        rw [Scenario.spec, Scenario.spec, h.config]
      dsimp only
      rw [hspec]
      exact h.assertObject_eq hscript ho ho' _ _ _
  refine ⟨hrun, ?_⟩
  change (s.after script (s.runStep script text).1).AgreesOn o
    (s'.after script' (s'.runStep script' text).1)
  rw [hrun]
  exact h.after hscript _

theorem runStep_of_agreesOn_twin :
    let o : ObjectRef := ⟨"v1", "Pod", "web", none⟩
    let twin : ObjectRef := ⟨"v1", "Pod", "web", some ""⟩
    let ready (b : Bool) : Json := .object [("ready", .bool b)]
    let s : Session := ⟨⟨Registry.empty.register "web" o, .path, .standard, .default,
      ⟨false, false⟩⟩, [(o, ready false)], [], 0⟩
    let s' : Session := ⟨⟨(Registry.empty.register "web" o).register "twin" twin, .path, .standard,
      .default, ⟨false, false⟩⟩, [(twin, ready true), (o, ready false)], [], 0⟩
    let script : Script := [⟨15, .set o (ready true)⟩]
    let script' : Script :=
      [⟨5, .remove twin⟩, ⟨10, .set twin (ready true)⟩, ⟨15, .set o (ready true)⟩]
    let text := "web's '.ready' should be true"
    s.AgreesOn o s' ∧ script.AgreesOn o script' ∧
      (∀ step, AssertionStep.parse text = .ok step →
        s.scenario.registry.get? step.assertion.reference = some o ∧
          s'.scenario.registry.get? step.assertion.reference = some o) ∧
      (s.runStep script text).1 = (s'.runStep script' text).1 ∧
      (s.runStep script text).1.calls = [0, 10, 20] ∧
      (s.runStep script text).2.AgreesOn o (s'.runStep script' text).2 := by
  intro o twin ready s s' script script' text
  have h : s.AgreesOn o s' := ⟨rfl, rfl, rfl, rfl, rfl, rfl, rfl⟩
  have hscript : script.AgreesOn o script' := ⟨rfl, rfl⟩
  have hparse : AssertionStep.parse "web's '.ready' should be true" =
      .ok ⟨.eventually, none, ⟨"web", ".ready", false, "be true"⟩⟩ := by rfl
  have hname (step : AssertionStep) (hp : AssertionStep.parse text = .ok step) :
      s.scenario.registry.get? step.assertion.reference = some o ∧
        s'.scenario.registry.get? step.assertion.reference = some o := by
    obtain rfl := Except.ok.inj (hparse.symm.trans hp)
    exact ⟨rfl, rfl⟩
  obtain ⟨hrun, hafter⟩ := runStep_of_agreesOn h hscript hname
  exact ⟨h, hscript, hname, hrun, by decide +kernel, hafter⟩

end Session

end LiveAssert
