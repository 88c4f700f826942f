import LiveAssert.Assertion
import LiveAssert.Poll.Spec
import LiveAssert.Text.Digit

/-!
Steps: assertions as they are written in a scenario, such as
`within 30s, foo's '.status.phase' should not equal Failed`.

A step is an assertion that may be preceded by a lead, a duration and a separator. The words of the
lead decide the discipline; an assertion that stands alone is polled under `eventually`. Where
several prefixes of the text are durations, the longest one that leaves an assertion is taken.
-/

namespace LiveAssert

/-- Where a text stands in a stated duration: before its first digit, in a number, or in a unit
that may take some more letters. -/
inductive DurationPart
  | start
  | number
  | unit (room : Nat)
deriving DecidableEq

namespace DurationPart

def isUnitLetter (c : Char) : Bool := c.isLower || c == 'µ'

def next? (c : Char) : DurationPart → Option DurationPart
  | .start => if Text.isDecimalDigit c then some .number else none
  | .number =>
    if Text.isDecimalDigit c then some .number
    else if isUnitLetter c then some (.unit 2)
    else none
  | .unit room =>
    if Text.isDecimalDigit c then some .number
    else
      match room with
      | 0 => none
      | room + 1 => if isUnitLetter c then some (.unit room) else none

def isEnd : DurationPart → Bool
  | .unit _ => true
  | _ => false

def prefixes (part : DurationPart) : List Char → List (List Char × List Char)
  | [] => if part.isEnd then [([], [])] else []
  | c :: s =>
    (match part.next? c with
      | some part => (part.prefixes s).map fun (taken, rest) => (c :: taken, rest)
      | none => [])
    ++ if part.isEnd then [([], c :: s)] else []

end DurationPart

namespace Discipline

def leads : Discipline → List String
  | .eventually => ["in less than ", "in under ", "in no more than ", "at least ", "within ", ""]
  | .consistently => ["for at least ", "for no less than "]

def separators : Discipline → List String
  | .eventually => [", ", ",", " ", ""]
  | .consistently => [", ", " "]

def timed? (d : Discipline) (s : List Char) : Option (List Char × Assertion) :=
  d.leads.findSome? fun lead =>
    (Text.after? lead.toList s).bind fun s =>
      (DurationPart.start.prefixes s).findSome? fun (stated, s) =>
        d.separators.findSome? fun separator =>
          (Text.after? separator.toList s).bind fun s =>
            (Assertion.read? s).map (stated, ·)

end Discipline

structure AssertionStep where
  discipline : Discipline
  timeout : Option Duration
  assertion : Assertion
deriving DecidableEq

inductive StepError
  | notAnAssertion (text : String)
  | invalidDuration (e : ConfigError)
deriving DecidableEq

def StepError.message : StepError → String
  | .notAnAssertion text => "not an assertion step: '" ++ text ++ "'"
  | .invalidDuration e => e.message

namespace AssertionStep

/-- The parts of a text that has the form of a step, with the duration as it is stated. -/
def parts? (s : List Char) : Option (Discipline × Option (List Char) × Assertion) :=
  match Discipline.timed? .consistently s with
  | some (stated, a) => some (.consistently, some stated, a)
  | none =>
    match Discipline.timed? .eventually s with
    | some (stated, a) => some (.eventually, some stated, a)
    | none => (Assertion.read? s).map fun a => (.eventually, none, a)

def readTimeout : Option (List Char) → Except StepError (Option Duration)
  | none => .ok none
  | some stated => ((readDuration (String.ofList stated)).map some).mapError .invalidDuration

def parse (text : String) : Except StepError AssertionStep :=
  let s := Text.trim text.toList
  match parts? s with
  | none => .error (.notAnAssertion (String.ofList s))
  | some (discipline, stated, assertion) =>
    (readTimeout stated).map fun timeout => ⟨discipline, timeout, assertion⟩

end AssertionStep

end LiveAssert
