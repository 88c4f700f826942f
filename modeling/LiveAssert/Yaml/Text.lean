namespace LiveAssert.Yaml

def isAllowed (c : Char) : Bool :=
  let n := c.toNat
  n == 9 || n == 0xA || n == 0xD || (0x20 ≤ n && n ≤ 0x7E) || n == 0x85
    || (0xA0 ≤ n && n ≤ 0xD7FF) || (0xE000 ≤ n && n ≤ 0xFFFD) || 0x10000 ≤ n

def isBlank (c : Char) : Bool := c == ' ' || c == '\t'

def isBreak (c : Char) : Bool :=
  c == '\r' || c == '\n' || c == '\x85' || c == '\u2028' || c == '\u2029'

def isSpacing (c : Char) : Bool := isBlank c || isBreak c

def isWordChar (c : Char) : Bool := c.isAlphanum || c == '_' || c == '-'

def atSpacing : List Char → Bool
  | [] => true
  | c :: _ => isSpacing c

def atBreak : List Char → Bool
  | [] => true
  | c :: _ => isBreak c

def atMarker : List Char → Bool
  | '-' :: '-' :: '-' :: s => atSpacing s
  | '.' :: '.' :: '.' :: s => atSpacing s
  | _ => false

structure Mark where
  index : Nat
  line : Nat
  column : Nat
deriving DecidableEq

def Mark.after : Mark → List Char → Mark
  | m, [] => m
  | m, '\r' :: '\n' :: s => Mark.after ⟨m.index + 2, m.line + 1, 0⟩ s
  | m, c :: s =>
    if isBreak c then Mark.after ⟨m.index + 1, m.line + 1, 0⟩ s
    else Mark.after ⟨m.index + 1, m.line, m.column + 1⟩ s

/-- The line breaks of a run of spacing, each as it enters a scalar: a paragraph or line separator
as itself, any other as a line feed. -/
def breaks : List Char → List Char
  | [] => []
  | '\r' :: '\n' :: s => '\n' :: breaks s
  | c :: s =>
    if c == '\u2028' || c == '\u2029' then c :: breaks s
    else if isBreak c then '\n' :: breaks s
    else breaks s

def takeBreak : List Char → List Char × List Char
  | '\r' :: '\n' :: s => (['\n'], s)
  | c :: s => if isBreak c then (breaks [c], s) else ([], c :: s)
  | [] => ([], [])

/-- What a run of spacing inside a scalar stands for: itself if it stays on the line, a space for
one line break, and the breaks after the first for several. -/
def fold (run : List Char) : List Char :=
  match breaks run with
  | [] => run
  | ['\n'] => [' ']
  | '\n' :: more => more
  | other => other

def endsLine (run : List Char) : Bool := (run.getLast?.map isBreak).getD false

end LiveAssert.Yaml
