import LiveAssert.Text.Blank
import LiveAssert.Yaml.Data

namespace LiveAssert

/-- A diagnosis that is not disclosed stands for the reasons of a foreign format. -/
def undisclosed : String := "<reason>"

structure CoercionError where
  literal : String
deriving DecidableEq

def CoercionError.message (e : CoercionError) : String :=
  "invalid literal '" ++ e.literal ++ "': " ++ undisclosed

namespace Literal

def coerce (literal : String) : Except CoercionError Value :=
  match Yaml.Data.read? literal with
  | some d => .ok d.toValue
  | none => .error ⟨literal⟩

def coerceWords (text : String) : Except CoercionError (List Value) :=
  (Text.words text.toList).mapM fun w => coerce (String.ofList w)

end Literal

end LiveAssert
