import LiveAssert.Regex.Reader
import LiveAssert.Regex.Search
import LiveAssert.Regex.Size

namespace LiveAssert

structure Regex where
  source : String
  pattern : Regex.Pattern

namespace Regex

def compile? (source : String) : Option Regex := do
  let (pattern, _) ← (← Expr.read? source.toList).pattern? .default
  if pattern.fits then some ⟨source, pattern⟩ else none

def isMatch (r : Regex) (s : String) : Bool := r.pattern.occursIn s

end Regex

end LiveAssert
