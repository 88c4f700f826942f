import LiveAssert.Yaml.Text

namespace LiveAssert.Yaml.Block

inductive Style
  | literal
  | folded
deriving DecidableEq

inductive Chomp
  | strip
  | clip
  | keep
deriving DecidableEq

structure Header where
  chomp : Chomp
  increment : Option Nat

def chomp? : List Char → Option (Chomp × List Char)
  | '+' :: s => some (.keep, s)
  | '-' :: s => some (.strip, s)
  | _ => none

def increment? : List Char → Option (Nat × List Char)
  | c :: s => if c.isDigit then some (c.toNat - 48, s) else none
  | [] => none

def indicators (s : List Char) : Header × List Char :=
  match chomp? s with
  | some (c, s) =>
    match increment? s with
    | some (n, s) => (⟨c, some n⟩, s)
    | none => (⟨c, none⟩, s)
  | none =>
    match increment? s with
    | some (n, s) =>
      match chomp? s with
      | some (c, s) => (⟨c, some n⟩, s)
      | none => (⟨.clip, some n⟩, s)
    | none => (⟨.clip, none⟩, s)

def dropComment : List Char → List Char
  | '#' :: s => s.dropWhile (!isBreak ·)
  | s => s

def header? (s : List Char) : Option (Header × List Char) :=
  let (h, s) := indicators s
  let s := dropComment (s.dropWhile isBlank)
  if h.increment = some 0 ∨ ¬ atBreak s then none else some (h, (takeBreak s).2)

structure Gap where
  breaks : List Char
  widest : Nat
  column : Nat
  rest : List Char

/-- Skips indentation, up to the known one, and empty lines. A tab must not stand in the
indentation. -/
def gap? (indent : Option Nat) : Nat → Nat → List Char → Option Gap
  | 0, _, _ => none
  | fuel + 1, widest, s =>
    let spaces := s.takeWhile (· == ' ')
    let column := match indent with
      | some n => min n spaces.length
      | none => spaces.length
    let s := s.drop column
    let widest := max widest column
    let open? := match indent with
      | some n => decide (column < n)
      | none => true
    if open? && s.head? == some '\t' then none
    else match s with
      | c :: t =>
        if isBreak c then
          let (b, rest) := takeBreak (c :: t)
          (gap? indent fuel widest rest).map fun g => { g with breaks := b ++ g.breaks }
        else some ⟨[], widest, column, c :: t⟩
      | [] => some ⟨[], widest, column, []⟩

/-- The lines of the scalar: `pending` is the last line break with the empty lines after it, and
`spaced` whether the last line began with a blank. -/
def lines (style : Style) (indent : Nat) :
    Nat → List Char → Bool → Gap → Option (List Char × List Char × List Char × List Char)
  | 0, _, _, _ => none
  | fuel + 1, lead, spaced, gap =>
    match gap.rest with
    | [] => some ([], lead, gap.breaks, [])
    | c :: s =>
      if gap.column = indent then
        let blank := isBlank c
        let joined :=
          if style = .folded ∧ lead = ['\n'] ∧ !spaced ∧ !blank then
            if gap.breaks.isEmpty then [' '] else gap.breaks
          else lead ++ gap.breaks
        let line := (c :: s).takeWhile (!isBreak ·)
        let (lead, rest) := takeBreak ((c :: s).dropWhile (!isBreak ·))
        match gap? (some indent) (rest.length + 1) 0 rest with
        | none => none
        | some gap =>
          (lines style indent fuel lead blank gap).map fun (text, tail) =>
            (joined ++ line ++ text, tail)
      else some ([], lead, gap.breaks, c :: s)

def scan (style : Style) (parent : Option Nat) (s : List Char) :
    Option (List Char × List Char) := do
  let (h, s) ← header? s
  let stated := h.increment.map (· + parent.getD 0)
  let gap ← gap? stated (s.length + 1) 0 s
  let indent := stated.getD (max gap.widest ((parent.map (· + 1)).getD 1))
  let (text, lead, trail, rest) ← lines style indent (s.length + 1) [] false gap
  some (match h.chomp with
    | .strip => (text, rest)
    | .clip => (text ++ lead, rest)
    | .keep => (text ++ lead ++ trail, rest))

end LiveAssert.Yaml.Block
