import LiveAssert.Poll.Fetch
import LiveAssert.Poll.Spec

namespace LiveAssert

inductive PollFailure
  | fetch (e : FetchError)
  | missing
  | mismatch (text : String)
  | pending
deriving DecidableEq

def PollFailure.message : PollFailure → String
  | .fetch e => e.message
  | .missing => "value not found"
  | .mismatch text => text
  | .pending => "fetch still pending when the window closed"

/-- The record of an evaluation. Polls are counted modulo `2 ^ 32`. -/
structure Outcome where
  satisfied : Bool
  lastValue : Option Value
  lastError : Option PollFailure
  elapsed : Duration
  polls : UInt32

namespace Outcome

def shown (text : Option String) : String := text.getD "<none>"

def text (o : Outcome) : String :=
  "\n├─ Polls: " ++ toString o.polls.toNat
    ++ "\n├─ Elapsed: " ++ o.elapsed.text
    ++ "\n├─ Last value: " ++ shown (o.lastValue.map Value.display)
    ++ "\n└─ Last failure: " ++ shown (o.lastError.map PollFailure.message)

end Outcome

inductive ConditionError
  | configuration (e : ConfigError)
  | timeout (timeout : Duration) (outcome : Outcome)
  | violation (outcome : Outcome)
  | cancelled (outcome : Outcome)

namespace ConditionError

def message : ConditionError → String
  | .configuration e => e.message
  | .timeout d o => "condition not met within " ++ d.text ++ o.text
  | .violation o => "condition stopped holding after " ++ o.elapsed.text ++ o.text
  | .cancelled o => "evaluation cancelled after " ++ o.elapsed.text ++ o.text

def outcome? : ConditionError → Option Outcome
  | .configuration _ => none
  | .timeout _ o => some o
  | .violation o => some o
  | .cancelled o => some o

end ConditionError

end LiveAssert
