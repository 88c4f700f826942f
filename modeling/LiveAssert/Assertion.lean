import LiveAssert.Text.Find

namespace LiveAssert

structure Assertion where
  reference : String
  path : String
  negate : Bool
  phrase : String
deriving DecidableEq

namespace Assertion

def isNameEdge (c : Char) : Bool := c.isLower || c.isDigit

def isNameChar (c : Char) : Bool := isNameEdge c || c == '-'

def isName (s : List Char) : Bool :=
  2 ≤ s.length && s.all isNameChar && s.head?.any isNameEdge && s.getLast?.any isNameEdge

/-- The words after `should `: whether they begin with `not `, and the phrase, which is not empty
and has no line break. -/
def polarity? (s : List Char) : Option (Bool × List Char) :=
  if s.isEmpty || s.contains '\n' then none
  else
    match Text.after? "not ".toList s with
    | some (c :: phrase) => some (true, c :: phrase)
    | _ => some (false, s)

def read? (s : List Char) : Option Assertion := do
  let name := s.takeWhile isNameChar
  if isName name then
    let s ← Text.after? "'s '".toList (s.dropWhile isNameChar)
    let s' ← Text.after? "' should ".toList (s.dropWhile (· != '\''))
    let (negate, phrase) ← polarity? s'
    some ⟨String.ofList name, String.ofList (s.takeWhile (· != '\'')), negate, String.ofList phrase⟩
  else none

end Assertion

end LiveAssert
