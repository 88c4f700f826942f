import LiveAssert.Duration
import LiveAssert.Value

namespace LiveAssert

inductive FetchError
  | notFound (text : String)
  | resolve (text : String)
  | malformedPath (text : String)
deriving DecidableEq

def FetchError.message : FetchError → String
  | .notFound text => "resource not found: " ++ text
  | .resolve text => "failed to fetch resource: " ++ text
  | .malformedPath text => "malformed path: " ++ text

abbrev Sample := Except FetchError (Option Value)

structure Reply where
  sample : Sample
  delay : Duration
  cancels : Bool

/-- The replies to calls, by the number of the call and its time. -/
abbrev Fetch := Nat → Nat → Reply

end LiveAssert
