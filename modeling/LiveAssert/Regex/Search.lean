import LiveAssert.Regex.Pattern

namespace LiveAssert.Regex

abbrev Places := List Nat

namespace Places

def merge : Places → Places → Places
  | [], ys => ys
  | x :: xs, [] => x :: xs
  | x :: xs, y :: ys =>
    if x < y then x :: merge xs (y :: ys)
    else if y < x then y :: merge (x :: xs) ys
    else x :: merge xs ys

def without (xs ys : Places) : Places := xs.filter fun x => !ys.contains x

end Places

def before? (text : Array Char) (i : Nat) : Option Char := if i = 0 then none else text[i - 1]?

def isIn (set : CharSet) (c : Option Char) : Bool :=
  match c with
  | some c => set.contains c.toNat
  | none => false

def Condition.holds (text : Array Char) (i : Nat) : Condition → Bool
  | .textStart => i == 0
  | .textEnd => i == text.size
  | .lineStart => i == 0 || before? text i == some '\n'
  | .lineEnd => i == text.size || text[i]? == some '\n'
  | .lineStartCrlf => i == 0 || before? text i == some '\n'
      || (before? text i == some '\r' && text[i]? != some '\n')
  | .lineEndCrlf => i == text.size || text[i]? == some '\r'
      || (text[i]? == some '\n' && before? text i != some '\r')
  | .wordBoundary word => isIn word (before? text i) != isIn word text[i]?
  | .notWordBoundary word => isIn word (before? text i) == isIn word text[i]?
  | .wordStart word => !isIn word (before? text i) && isIn word text[i]?
  | .wordEnd word => isIn word (before? text i) && !isIn word text[i]?
  | .wordStartHalf word => !isIn word (before? text i)
  | .wordEndHalf word => !isIn word text[i]?

/-- The places after exactly so many rounds; a round that changes nothing is the last that
counts. -/
def rounds (step : Places → Places) : Nat → Places → Places
  | 0, xs => xs
  | n + 1, xs =>
    let ys := step xs
    if ys.isEmpty || ys == xs then ys else rounds step n ys

def reach (step : Places → Places) : Nat → (found fresh : Places) → Places
  | 0, found, _ => found
  | n + 1, found, fresh =>
    let news := Places.without (step fresh) found
    if news.isEmpty then found else reach step n (Places.merge found news) news

mutual

def Pattern.ends (text : Array Char) : Pattern → Places → Places
  | .empty, xs => xs
  | .chars set, xs => xs.filterMap fun i => if isIn set text[i]? then some (i + 1) else none
  | .condition c, xs => xs.filter fun i => c.holds text i
  | .repetition min max sub, xs =>
    let least := rounds (sub.ends text) min xs
    let more := match max with
      | some max => max - min
      | none => text.size + 1
    reach (sub.ends text) more least least
  | .capture sub, xs => sub.ends text xs
  | .alternation branches, xs => Pattern.endsAny text branches xs
  | .concat parts, xs => Pattern.endsAll text parts xs

def Pattern.endsAny (text : Array Char) : List Pattern → Places → Places
  | [], _ => []
  | p :: ps, xs => Places.merge (p.ends text xs) (Pattern.endsAny text ps xs)

def Pattern.endsAll (text : Array Char) : List Pattern → Places → Places
  | [], xs => xs
  | p :: ps, xs => Pattern.endsAll text ps (p.ends text xs)

end

def Pattern.occursIn (p : Pattern) (s : String) : Bool :=
  let text := s.toList.toArray
  !(p.ends text (List.range (text.size + 1))).isEmpty

end LiveAssert.Regex
