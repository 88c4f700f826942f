import LiveAssert.Yaml.Block
import LiveAssert.Yaml.Plain
import LiveAssert.Yaml.Quoted
import LiveAssert.Yaml.Tag

/-!
The tokens of a YAML text.

Blocks are marked by tokens of their own, found from the indentation. A mapping key that has no
`?` is known only when its colon comes, so the place of each possible key is remembered as a
`Candidate`, one for each flow collection that is open, and the key token is put there later. A
candidate lapses when its line ends or after 1024 characters.
-/

namespace LiveAssert.Yaml

inductive Token
  | directive (d : Directive)
  | documentStart
  | documentEnd
  | blockSequenceStart
  | blockMappingStart
  | blockEnd
  | flowSequenceStart
  | flowSequenceEnd
  | flowMappingStart
  | flowMappingEnd
  | blockEntry
  | flowEntry
  | key
  | value
  | alias (name : List Char)
  | anchor (name : List Char)
  | tag (t : Tag)
  | scalar (text : List Char) (plain : Bool)
deriving DecidableEq

namespace Token

/-- A place where a key may have begun: the number of tokens before it, and its position. It is
required when a block mapping can only go on with a key there. -/
structure Candidate where
  required : Bool
  place : Nat
  mark : Mark

/-- How far a text was read: the rest of it and the position there, the tokens so far with the
last one first, the candidate of the block level, those of the open flow collections with the
innermost first, the columns of the open blocks with the innermost first, and whether a key may
begin here. -/
structure State where
  rest : List Char
  mark : Mark
  tokens : List Token
  candidate : Option Candidate
  outer : List (Option Candidate)
  indents : List Nat
  keyAllowed : Bool

namespace State

def start (s : List Char) : State := ⟨s, ⟨0, 0, 0⟩, [], none, [], [], true⟩

def inFlow (st : State) : Bool := !st.outer.isEmpty

def indent? (st : State) : Option Nat := st.indents.head?

def textIndent (st : State) : Nat := (st.indent?.map (· + 1)).getD 0

def goTo (st : State) (rest : List Char) : State :=
  { st with rest, mark := st.mark.after (st.rest.take (st.rest.length - rest.length)) }

def skip (st : State) (n : Nat) : State := st.goTo (st.rest.drop n)

def push (st : State) (t : Token) : State := { st with tokens := t :: st.tokens }

def insert (st : State) (place : Nat) (t : Token) : State :=
  { st with tokens := st.tokens.insertIdx (st.tokens.length - place) t }

def dropCandidate? (st : State) : Option State :=
  match st.candidate with
  | some c => if c.required then none else some { st with candidate := none }
  | none => some st

def saveCandidate? (st : State) : Option State :=
  if st.keyAllowed then
    let required := !st.inFlow && st.indent? == some st.mark.column
    st.dropCandidate?.map fun st =>
      { st with candidate := some ⟨required, st.tokens.length, st.mark⟩ }
  else some st

def lapsed (mark : Mark) (c : Candidate) : Bool :=
  c.mark.line < mark.line || c.mark.index + 1024 < mark.index

def lapse? (mark : Mark) : Option Candidate → Option (Option Candidate)
  | none => some none
  | some c => if lapsed mark c then if c.required then none else some none else some (some c)

def lapseAll? (st : State) : Option State := do
  let candidate ← lapse? st.mark st.candidate
  let outer ← st.outer.mapM (lapse? st.mark)
  some { st with candidate, outer }

def openBlock (st : State) (column place : Nat) (t : Token) : State :=
  if st.inFlow then st
  else if (st.indent?.map (decide <| · < column)).getD true then
    { st.insert place t with indents := column :: st.indents }
  else st

def openHere (st : State) (t : Token) : State := st.openBlock st.mark.column st.tokens.length t

def closeBlocks (column : Option Nat) (st : State) : State :=
  if st.inFlow then st
  else
    let closes (n : Nat) : Bool := (column.map (decide <| · < n)).getD true
    let closed := (st.indents.takeWhile closes).length
    { st with
      tokens := List.replicate closed .blockEnd ++ st.tokens
      indents := st.indents.drop closed }

/-- Skips spaces, comments and line breaks. Tabs are skipped only where no key may begin. A line
break outside of flow collections lets a key begin. -/
def toNextToken (st : State) : Nat → State
  | 0 => st
  | fuel + 1 =>
    let tabs := st.inFlow || !st.keyAllowed
    let s := st.rest.dropWhile fun c => c == ' ' || (tabs && c == '\t')
    let s := if s.head? == some '#' then s.dropWhile (!isBreak ·) else s
    match s with
    | [] => st.goTo []
    | c :: t =>
      if isBreak c then
        let st := st.goTo (takeBreak (c :: t)).2
        toNextToken { st with keyAllowed := st.keyAllowed || !st.inFlow } fuel
      else st.goTo (c :: t)

def closeAll? (st : State) : Option State :=
  (st.closeBlocks none).dropCandidate?.map ({ · with keyAllowed := false })

def directive? (st : State) : Option State := do
  let st ← st.closeAll?
  let (d, rest) ← Directive.read? (st.rest.drop 1)
  some ((st.goTo rest).push (.directive d))

def marker? (st : State) (t : Token) : Option State :=
  st.closeAll?.map fun st => (st.skip 3).push t

def openFlow? (st : State) (t : Token) : Option State :=
  st.saveCandidate?.map fun st =>
    ({ st with candidate := none, outer := st.candidate :: st.outer, keyAllowed := true }.skip 1).push t

def closeFlow? (st : State) (t : Token) : Option State :=
  st.dropCandidate?.map fun st =>
    let st := match st.outer with
      | [] => st
      | c :: cs => { st with candidate := c, outer := cs }
    ({ st with keyAllowed := false }.skip 1).push t

def flowEntry? (st : State) : Option State :=
  st.dropCandidate?.map fun st => ({ st with keyAllowed := true }.skip 1).push .flowEntry

def blockEntry? (st : State) : Option State :=
  if !st.inFlow && !st.keyAllowed then none
  else (st.openHere .blockSequenceStart).dropCandidate?.map fun st =>
    ({ st with keyAllowed := true }.skip 1).push .blockEntry

def key? (st : State) : Option State :=
  if !st.inFlow && !st.keyAllowed then none
  else (st.openHere .blockMappingStart).dropCandidate?.map fun st =>
    ({ st with keyAllowed := !st.inFlow }.skip 1).push .key

def value? (st : State) : Option State :=
  match st.candidate with
  | some c =>
    let st := (st.insert c.place .key).openBlock c.mark.column c.place .blockMappingStart
    some (({ st with candidate := none, keyAllowed := false }.skip 1).push .value)
  | none =>
    if !st.inFlow && !st.keyAllowed then none
    else
      let st := st.openHere .blockMappingStart
      some (({ st with keyAllowed := !st.inFlow }.skip 1).push .value)

def node? (st : State) (read? : State → Option (Token × List Char)) : Option State := do
  let st ← st.saveCandidate?
  let (t, rest) ← read? st
  some (({ st with keyAllowed := false }.goTo rest).push t)

def quoted? (st : State) (q : Quoted.Quote) : Option State :=
  st.node? fun st => (Quoted.scan q (st.rest.length + 1) (st.rest.drop 1)).map fun (text, rest) =>
    (.scalar text false, rest)

def plain? (st : State) : Option State := do
  let st ← st.saveCandidate?
  let r ← Plain.scan ⟨st.inFlow, st.textIndent⟩ (st.rest.length + 1) st.mark.column st.rest
  some (({ st with keyAllowed := r.brokeLine }.goTo r.rest).push (.scalar r.text true))

def block? (st : State) (style : Block.Style) : Option State := do
  let st ← st.dropCandidate?
  let (text, rest) ← Block.scan style st.indent? (st.rest.drop 1)
  some (({ st with keyAllowed := true }.goTo rest).push (.scalar text false))

def isIndicator (c : Char) : Bool :=
  ['-', '?', ':', ',', '[', ']', '\x7b', '\x7d', '#', '&', '*', '!', '|', '>', '\'', '"', '%', '@',
    '\x60'].contains c

def token? (st : State) : Option State :=
  match st.rest with
  | [] => some st
  | c :: s =>
    if st.mark.column == 0 && c == '%' then st.directive?
    else if st.mark.column == 0 && atMarker (c :: s) then
      st.marker? (if c == '-' then .documentStart else .documentEnd)
    else if c == '[' then st.openFlow? .flowSequenceStart
    else if c == '\x7b' then st.openFlow? .flowMappingStart
    else if c == ']' then st.closeFlow? .flowSequenceEnd
    else if c == '\x7d' then st.closeFlow? .flowMappingEnd
    else if c == ',' then st.flowEntry?
    else if c == '-' && atSpacing s then st.blockEntry?
    else if c == '?' && (st.inFlow || atSpacing s) then st.key?
    else if c == ':' && (st.inFlow || atSpacing s) then st.value?
    else if c == '*' then
      st.node? fun _ => (Tag.anchorName? s).map fun (name, rest) => (.alias name, rest)
    else if c == '&' then
      st.node? fun _ => (Tag.anchorName? s).map fun (name, rest) => (.anchor name, rest)
    else if c == '!' then
      st.node? fun st => (Tag.read? st.inFlow (c :: s)).map fun (t, rest) => (.tag t, rest)
    else if c == '|' && !st.inFlow then st.block? .literal
    else if c == '>' && !st.inFlow then st.block? .folded
    else if c == '\'' then st.quoted? .single
    else if c == '"' then st.quoted? .double
    else if !isSpacing c && !isIndicator c || c == '-' || (!st.inFlow && (c == '?' || c == ':')) then
      st.plain?
    else none

def step? (st : State) : Option State :=
  ((st.toNextToken (st.rest.length + 1)).lapseAll?).bind fun st =>
    (st.closeBlocks (some st.mark.column)).token?

def run? (st : State) : Nat → Option (List Token)
  | 0 => none
  | fuel + 1 =>
    match st.rest with
    | [] => st.closeAll?.map (·.tokens.reverse)
    | _ => st.step?.bind (run? · fuel)

end State

/-- A byte order mark may stand before the text, and fills a column of its first line. -/
def start (s : List Char) : State :=
  match s with
  | '\ufeff' :: _ => (State.start s).skip 1
  | _ => State.start s

def read? (s : List Char) : Option (List Token) :=
  if s.all isAllowed then (start s).run? (s.length + 2) else none

end Token

end LiveAssert.Yaml
