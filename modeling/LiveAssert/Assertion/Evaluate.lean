import LiveAssert.Phrase
import LiveAssert.Poll.Evaluate
import LiveAssert.Step

namespace LiveAssert

inductive AssertionError
  | phrase (e : CompileError)
  | configuration (e : ConfigError)
  | timeout (timeout : Duration) (outcome : Outcome)
  | violation (outcome : Outcome)
  | cancelled (outcome : Outcome)
  | unknownReference (name : String)
  | notAnAssertion (text : String)

namespace AssertionError

def message : AssertionError → String
  | .phrase e => e.message
  | .configuration e => "configuration error: " ++ e.message
  | .timeout d o => "timed out after " ++ d.text ++ o.text
  | .violation o => "consistency violated after " ++ o.elapsed.text ++ o.text
  | .cancelled o => "cancelled after " ++ o.elapsed.text ++ o.text
  | .unknownReference name => "no resource called " ++ name ++ " was registered in a previous step"
  | .notAnAssertion text => "not an assertion step: '" ++ text ++ "'"

def outcome? : AssertionError → Option Outcome
  | .timeout _ o => some o
  | .violation o => some o
  | .cancelled o => some o
  | _ => none

def isCompileTime (e : AssertionError) : Bool := e.outcome?.isNone

def ofCondition : ConditionError → AssertionError
  | .configuration e => .configuration e
  | .timeout d o => .timeout d o
  | .violation o => .violation o
  | .cancelled o => .cancelled o

def ofStep : StepError → AssertionError
  | .notAnAssertion text => .notAnAssertion text
  | .invalidDuration e => .configuration e

end AssertionError

namespace Grammar

def evaluate (g : Grammar) (phrase : String) (fetch : Fetch) (spec : PollSpec)
    (cancelAt : Option Nat) : Run AssertionError :=
  match g.compile phrase with
  | .error e => .refused (.phrase e)
  | .ok predicate => (LiveAssert.evaluate fetch predicate spec cancelAt).mapError .ofCondition

end Grammar

end LiveAssert
