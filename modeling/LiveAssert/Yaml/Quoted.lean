import LiveAssert.Binary64.Decimal
import LiveAssert.Yaml.Text

namespace LiveAssert.Yaml.Quoted

inductive Quote
  | single
  | double
deriving DecidableEq

def codePoint? (digits : Nat) (s : List Char) : Option (Char × List Char) := do
  let n ← Decimal.readNat? 16 (s.take digits)
  if (s.take digits).length = digits ∧ n ≤ 0x10FFFF ∧ ¬ (0xD800 ≤ n ∧ n ≤ 0xDFFF) then
    some (Char.ofNat n, s.drop digits)
  else none

def escape? : List Char → Option (Char × List Char)
  | '0' :: s => some ('\x00', s)
  | 'a' :: s => some ('\x07', s)
  | 'b' :: s => some ('\x08', s)
  | 't' :: s => some ('\t', s)
  | '\t' :: s => some ('\t', s)
  | 'n' :: s => some ('\n', s)
  | 'v' :: s => some ('\x0b', s)
  | 'f' :: s => some ('\x0c', s)
  | 'r' :: s => some ('\r', s)
  | 'e' :: s => some ('\x1b', s)
  | ' ' :: s => some (' ', s)
  | '"' :: s => some ('"', s)
  | '/' :: s => some ('/', s)
  | '\\' :: s => some ('\\', s)
  | 'N' :: s => some ('\x85', s)
  | '_' :: s => some ('\xa0', s)
  | 'L' :: s => some ('\u2028', s)
  | 'P' :: s => some ('\u2029', s)
  | 'x' :: s => codePoint? 2 s
  | 'u' :: s => codePoint? 4 s
  | 'U' :: s => codePoint? 8 s
  | _ => none

inductive Piece
  | close (rest : List Char)
  | text (cs : List Char) (rest : List Char)

/-- Spacing from here on, contributing what `folded` makes of it. A line that starts after it must
not begin with a document marker. -/
def spacing? (lineStarts : Bool) (folded : List Char → List Char) (s : List Char) : Option Piece :=
  let run := s.takeWhile isSpacing
  let rest := s.dropWhile isSpacing
  if (if run.isEmpty then lineStarts else endsLine run) && atMarker rest then none
  else some (.text (folded run) rest)

def piece? (q : Quote) : List Char → Option Piece
  | [] => none
  | c :: s =>
    if isSpacing c then spacing? false fold (c :: s)
    else match q, c, s with
      | .single, '\'', '\'' :: s => some (.text ['\''] s)
      | .single, '\'', s => some (.close s)
      | .double, '"', s => some (.close s)
      | .double, '\\', s =>
        if !s.isEmpty && atBreak s then spacing? true breaks (takeBreak s).2
        else (escape? s).map fun (c, s) => .text [c] s
      | _, c, s => some (.text [c] s)

def scan (q : Quote) : Nat → List Char → Option (List Char × List Char)
  | 0, _ => none
  | fuel + 1, s =>
    match piece? q s with
    | none => none
    | some (.close rest) => some ([], rest)
    | some (.text cs rest) => (scan q fuel rest).map fun (more, rest) => (cs ++ more, rest)

end LiveAssert.Yaml.Quoted
