import LiveAssert.Yaml.Text

namespace LiveAssert.Yaml.Plain

def isFlowIndicator (c : Char) : Bool :=
  c == ',' || c == '[' || c == ']' || c == '\x7b' || c == '\x7d'

structure Place where
  inFlow : Bool
  indent : Nat

/-- A scalar as far as it was read. `brokeLine` says that spacing with a line break follows the
last of its text. -/
structure Result where
  text : List Char
  rest : List Char
  brokeLine : Bool

/-- Whether a tab stands in the indentation of a line in the run: in a line after the first, left
of the least column. -/
def tabIndents (indent : Nat) : Bool → Nat → List Char → Bool
  | _, _, [] => false
  | lineStarted, column, c :: s =>
    if isBreak c then tabIndents indent true 0 s
    else (lineStarted && c == '\t' && column < indent) || tabIndents indent lineStarted (column + 1) s

def endsBefore (inFlow : Bool) : List Char → Bool
  | [] => true
  | c :: s => (c == ':' && atSpacing s) || (inFlow && isFlowIndicator c)

def badColon (inFlow : Bool) : List Char → Bool
  | ':' :: c :: _ => inFlow && (isFlowIndicator c || c == '?')
  | _ => false

def columnAfter (column : Nat) (run : List Char) : Nat := (Mark.after ⟨0, 0, column⟩ run).column

def scan (place : Place) : Nat → Nat → List Char → Option Result
  | 0, _, _ => none
  | _ + 1, _, [] => some ⟨[], [], false⟩
  | fuel + 1, column, c :: s =>
    if isSpacing c then
      let run := (c :: s).takeWhile isSpacing
      let rest := (c :: s).dropWhile isSpacing
      let column := columnAfter column run
      let broke := run.any isBreak
      if tabIndents place.indent false 0 run then none
      else if !place.inFlow && column < place.indent then some ⟨[], rest, broke⟩
      else if column == 0 && atMarker rest then some ⟨[], rest, broke⟩
      else if rest.head? == some '#' then some ⟨[], rest, broke⟩
      else match scan place fuel column rest with
        | none => none
        | some r => if r.text.isEmpty then some { r with brokeLine := broke }
          else some { r with text := fold run ++ r.text }
    else if badColon place.inFlow (c :: s) then none
    else if endsBefore place.inFlow (c :: s) then some ⟨[], c :: s, false⟩
    else (scan place fuel (column + 1) s).map fun r => { r with text := c :: r.text }

end LiveAssert.Yaml.Plain
