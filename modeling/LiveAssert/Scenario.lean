import LiveAssert.Assertion.Evaluate
import LiveAssert.Extractor
import LiveAssert.Inspect
import LiveAssert.Registry
import LiveAssert.Script

/-!
Scenarios: what the assertion steps of one scenario share.

A step is read, its phrase compiled and its reference looked up before anything is fetched. Each
poll fetches the live document and extracts the field; a malformed path counts as a failed fetch.
-/

namespace LiveAssert

structure Resolution where
  document : Except FetchError Json
  delay : Duration

/-- Finds the documents of objects, by the number of the call and its time. -/
abbrev Resolver := Nat → Nat → ObjectRef → Resolution

structure Scenario where
  registry : Registry
  extractor : Extractor
  grammar : Grammar
  config : PollConfig
  token : Token

namespace Scenario

def new (config : PollConfig) (extractor : Extractor) (isChild : Bool) : Scenario :=
  ⟨.empty, extractor, .standard, config, ⟨isChild, false⟩⟩

def extracted (s : Scenario) (path : String) (document : Json) : Sample :=
  (s.extractor.extract document path).mapError fun e => .malformedPath e.message

def fetch (s : Scenario) (resolver : Resolver) (o : ObjectRef) (path : String) : Fetch :=
  fun n time =>
    let resolution := resolver n time o
    ⟨resolution.document.bind (s.extracted path), resolution.delay, false⟩

def assertObject (s : Scenario) (resolver : Resolver) (cancelAt : Option Nat)
    (reference path phrase : String) (spec : PollSpec) : Run AssertionError :=
  match s.grammar.compile phrase with
  | .error e => .refused (.phrase e)
  | .ok predicate =>
    match s.registry.get? reference with
    | none => .refused (.unknownReference reference)
    | some o => (evaluate (s.fetch resolver o path) predicate spec cancelAt).mapError .ofCondition

def spec (s : Scenario) (step : AssertionStep) : PollSpec :=
  ⟨step.discipline, step.timeout.getD s.config.defaultTimeout, s.config.interval,
    step.assertion.negate⟩

def runStep (s : Scenario) (resolver : Resolver) (cancelAt : Option Nat) (text : String) :
    Run AssertionError :=
  match AssertionStep.parse text with
  | .error e => .refused (.ofStep e)
  | .ok step =>
    s.assertObject resolver cancelAt step.assertion.reference step.assertion.path
      step.assertion.phrase (s.spec step)

def inspectObject (o : ObjectRef) : String :=
  Inspect.record "ObjectRef" ["api_version: " ++ Inspect.quoted o.apiVersion,
    "kind: " ++ Inspect.quoted o.kind, "name: " ++ Inspect.quoted o.name,
    "namespace: " ++ Inspect.optional o.ns]

def inspectRegistry (r : Registry) : String :=
  Inspect.record "ObjectRegistry"
    ["objects: " ++ Inspect.table (r.map fun (name, o) => (name, inspectObject o))]

def inspectConfig (c : PollConfig) : String :=
  Inspect.record "PollConfig"
    ["default_timeout: " ++ c.defaultTimeout.text, "interval: " ++ c.interval.text]

def debugText (s : Scenario) : String :=
  Inspect.record "Scenario" ["registry: " ++ inspectRegistry s.registry,
    "grammar: " ++ s.grammar.debugText, "config: " ++ inspectConfig s.config,
    "cancelled: " ++ toString s.token.cancelled, ".."]

end Scenario

end LiveAssert
