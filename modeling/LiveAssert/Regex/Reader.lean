import LiveAssert.Binary64.Decimal
import LiveAssert.Regex.Expr
import LiveAssert.Text.Blank
import LiveAssert.Unicode.Property

namespace LiveAssert.Regex

def dropSpace : (inComment : Bool) → List Char → List Char
  | _, [] => []
  | true, c :: s => dropSpace (c != '\n') s
  | false, c :: s =>
    if Text.isBlank c then dropSpace false s else if c = '#' then dropSpace true s else c :: s

def skip (spaced : Bool) (s : List Char) : List Char := if spaced then dropSpace false s else s

def next (spaced : Bool) (s : List Char) : List Char := skip spaced (s.drop 1)

def peekSpace (spaced : Bool) (s : List Char) : Option Char :=
  if spaced then
    let t := s.dropWhile Text.isBlank
    let t := if t.head? = some '#' then (t.drop 1).dropWhile Text.isBlank else t
    if t.isEmpty then s.head? else t.head?
  else s.head?

inductive Atom
  | literal (l : Literal)
  | perl (c : PerlClass) (negated : Bool)
  | property (q : PropertyQuery) (negated : Bool)
  | anchor (a : Anchor)

def Atom.toExpr : Atom → Expr
  | .literal l => .literal l
  | .perl c n => .perl c n
  | .property q n => .property q n
  | .anchor a => .anchor a

def Atom.toClass? : Atom → Option ClassExpr
  | .literal l => some (.literal l)
  | .perl c n => some (.perl c n)
  | .property q n => some (.property q n)
  | .anchor _ => none

def Atom.literal? : Atom → Option Literal
  | .literal l => some l
  | _ => none

def plain (c : Char) : Literal := ⟨c, false⟩

def scalar? (n : Nat) : Option Char := if n.isValidChar then some (Char.ofNat n) else none

def hexDigits (spaced : Bool) : Nat → List Char → Option (List Char × List Char)
  | 0, s => some ([], s)
  | n + 1, c :: s =>
    if (Decimal.digit? 16 c).isSome then
      (hexDigits spaced n (skip spaced s)).map fun (ds, s) => (c :: ds, s)
    else none
  | _ + 1, [] => none

def bracedDigits (spaced : Bool) : Nat → List Char → Option (List Char × List Char)
  | 0, _ => none
  | _ + 1, [] => none
  | fuel + 1, c :: s =>
    if c = '\x7d' then some ([], skip spaced s)
    else if (Decimal.digit? 16 c).isSome then
      (bracedDigits spaced fuel (skip spaced s)).map fun (ds, s) => (c :: ds, s)
    else none

def hexEscape (spaced : Bool) (digits : Nat) (s : List Char) : Option (Atom × List Char) := do
  match s with
  | '\x7b' :: s =>
    let (ds, s) ← bracedDigits spaced (s.length + 1) (skip spaced s)
    let c ← scalar? (← Decimal.readNat? 16 ds)
    some (.literal (plain c), s)
  | s =>
    let (ds, s) ← hexDigits spaced digits s
    let c ← scalar? (← Decimal.readNat? 16 ds)
    some (.literal ⟨c, digits == 2 && c.toNat < 0x100⟩, s)

def bracedText (spaced : Bool) : Nat → List Char → Option (List Char × List Char)
  | 0, _ => none
  | _ + 1, [] => none
  | fuel + 1, c :: s =>
    if c = '\x7d' then some ([], s)
    else (bracedText spaced fuel (skip spaced s)).map fun (t, s) => (c :: t, s)

def cutAt (separator : List Char) : List Char → Option (List Char × List Char)
  | [] => none
  | c :: s =>
    if separator.isPrefixOf (c :: s) then some ([], (c :: s).drop separator.length)
    else (cutAt separator s).map fun (a, b) => (c :: a, b)

def query (text : List Char) : PropertyQuery × Bool :=
  match cutAt ['!', '='] text with
  | some (name, value) => (.valued name value, true)
  | none =>
    match (cutAt [':'] text).or (cutAt ['='] text) with
    | some (name, value) => (.valued name value, false)
    | none => (.named text, false)

def propertyEscape (spaced negated : Bool) (s : List Char) : Option (Atom × List Char) :=
  match s with
  | [] => none
  | '\x7b' :: s =>
    (bracedText spaced (s.length + 1) (skip spaced s)).map fun (text, s) =>
      let (q, unequal) := query text
      (.property q (negated != unequal), s)
  | c :: s => if c = '\\' then none else some (.property (.named [c]) negated, skip spaced s)

def isMeta (c : Char) : Bool :=
  ['\\', '.', '+', '*', '?', '(', ')', '|', '[', ']', '\x7b', '\x7d', '^', '$', '#', '&', '-',
    '~'].contains c

def isEscapable (c : Char) : Bool :=
  isMeta c || (c.toNat < 0x80 && !c.isAlphanum && c != '<' && c != '>')

def isBoundaryChar (c : Char) : Bool := c.isAlpha || c == '-'

def boundaryName (spaced : Bool) : Nat → List Char → List Char × List Char
  | 0, s => ([], s)
  | _ + 1, [] => ([], [])
  | fuel + 1, c :: s =>
    if isBoundaryChar c then
      let (t, s) := boundaryName spaced fuel (skip spaced s)
      (c :: t, s)
    else ([], c :: s)

/-- A word boundary, after its letter. A name in braces makes it special; braces that do not hold
a name belong to a repetition. -/
def boundaryEscape (spaced : Bool) (s : List Char) : Option (Atom × List Char) :=
  match s with
  | '\x7b' :: t =>
    match skip spaced t with
    | [] => none
    | c :: u =>
      if isBoundaryChar c then
        match boundaryName spaced (u.length + 2) (c :: u) with
        | (name, '\x7d' :: rest) =>
          match String.ofList name with
          | "start" => some (.anchor .wordStart, rest)
          | "end" => some (.anchor .wordEnd, rest)
          | "start-half" => some (.anchor .wordStartHalf, rest)
          | "end-half" => some (.anchor .wordEndHalf, rest)
          | _ => none
        | _ => none
      else some (.anchor .wordBoundary, s)
  | s => some (.anchor .wordBoundary, s)

def escape? (spaced : Bool) (s : List Char) : Option (Atom × List Char) :=
  match s with
  | [] => none
  | 'x' :: s => hexEscape spaced 2 (skip spaced s)
  | 'u' :: s => hexEscape spaced 4 (skip spaced s)
  | 'U' :: s => hexEscape spaced 8 (skip spaced s)
  | 'p' :: s => propertyEscape spaced false (skip spaced s)
  | 'P' :: s => propertyEscape spaced true (skip spaced s)
  | 'd' :: s => some (.perl .digit false, s)
  | 'D' :: s => some (.perl .digit true, s)
  | 's' :: s => some (.perl .space false, s)
  | 'S' :: s => some (.perl .space true, s)
  | 'w' :: s => some (.perl .word false, s)
  | 'W' :: s => some (.perl .word true, s)
  | 'a' :: s => some (.literal (plain '\x07'), s)
  | 'f' :: s => some (.literal (plain '\x0c'), s)
  | 't' :: s => some (.literal (plain '\t'), s)
  | 'n' :: s => some (.literal (plain '\n'), s)
  | 'r' :: s => some (.literal (plain '\r'), s)
  | 'v' :: s => some (.literal (plain '\x0b'), s)
  | 'A' :: s => some (.anchor .textStart, s)
  | 'z' :: s => some (.anchor .textEnd, s)
  | 'b' :: s => boundaryEscape spaced s
  | 'B' :: s => some (.anchor .notWordBoundary, s)
  | '<' :: s => some (.anchor .wordStart, s)
  | '>' :: s => some (.anchor .wordEnd, s)
  | c :: s => if isEscapable c then some (.literal (plain c), s) else none

def asciiClass? (name : List Char) : Option AsciiClass :=
  match String.ofList name with
  | "alnum" => some .alnum
  | "alpha" => some .alpha
  | "ascii" => some .ascii
  | "blank" => some .blank
  | "cntrl" => some .cntrl
  | "digit" => some .digit
  | "graph" => some .graph
  | "lower" => some .lower
  | "print" => some .print
  | "punct" => some .punct
  | "space" => some .space
  | "upper" => some .upper
  | "word" => some .word
  | "xdigit" => some .xdigit
  | _ => none

/-- A named class such as `[:alpha:]`, after its first bracket. What is not of this form is no
named class but an ordinary one. -/
def namedClass? (s : List Char) : Option (ClassExpr × List Char) :=
  match s with
  | ':' :: s =>
    let (negated, s) := match s with
      | '^' :: s => (true, s)
      | s => (false, s)
    match s.dropWhile (· != ':') with
    | ':' :: ']' :: rest => (asciiClass? (s.takeWhile (· != ':'))).map fun c => (.ascii c negated, rest)
    | _ => none
  | _ => none

def classAtom? (spaced : Bool) (s : List Char) : Option (Atom × List Char) :=
  match s with
  | [] => none
  | '\\' :: s => escape? spaced s
  | c :: s => some (.literal (plain c), s)

def classItem? (spaced : Bool) (s : List Char) : Option (ClassExpr × List Char) := do
  let (first, s) ← classAtom? spaced s
  match skip spaced s with
  | [] => none
  | '-' :: t =>
    let follows := peekSpace spaced t
    if follows = some ']' ∨ follows = some '-' then
      first.toClass?.map (·, '-' :: t)
    else
      let (last, s) ← classAtom? spaced (skip spaced t)
      let lo ← first.literal?
      let hi ← last.literal?
      if lo.char ≤ hi.char then some (.range lo hi, s) else none
  | s => first.toClass?.map (·, s)

def leadingDashes (spaced : Bool) : Nat → List Char → Nat × List Char
  | 0, s => (0, s)
  | fuel + 1, '-' :: s =>
    let (n, s) := leadingDashes spaced fuel (skip spaced s)
    (n + 1, s)
  | _ + 1, s => (0, s)

def openClass (spaced : Bool) (s : List Char) : Bool × List ClassExpr × List Char :=
  let s := skip spaced s
  let (negated, s) := match s with
    | '^' :: s => (true, skip spaced s)
    | s => (false, s)
  let (dashes, s) := leadingDashes spaced (s.length + 1) s
  match dashes, s with
  | 0, ']' :: s => (negated, [.literal (plain ']')], skip spaced s)
  | n, s => (negated, List.replicate n (.literal (plain '-')), s)

def unionOf : List ClassExpr → ClassExpr
  | [] => .empty
  | [item] => item
  | items => .union items.reverse

abbrev Pending := Option (SetOperator × ClassExpr)

def applyPending (p : Pending) (right : ClassExpr) : ClassExpr :=
  match p with
  | none => right
  | some (op, left) => .operation op left right

def setOperator? : List Char → Option (SetOperator × List Char)
  | '&' :: '&' :: s => some (.intersection, s)
  | '-' :: '-' :: s => some (.difference, s)
  | '~' :: '~' :: s => some (.symmetricDifference, s)
  | _ => none

def classBody (spaced : Bool) : Nat → Pending → List ClassExpr → List Char →
    Option (ClassExpr × List Char)
  | 0, _, _, _ => none
  | fuel + 1, pending, items, s =>
    match skip spaced s with
    | [] => none
    | '[' :: s =>
      match namedClass? s with
      | some (item, s) => classBody spaced fuel pending (item :: items) s
      | none =>
        let (negated, inner, s) := openClass spaced s
        match classBody spaced fuel none inner s with
        | some (set, s) => classBody spaced fuel pending (.bracketed negated set :: items) s
        | none => none
    | ']' :: s => some (applyPending pending (unionOf items), s)
    | s =>
      match setOperator? s with
      | some (op, s) =>
        classBody spaced fuel (some (op, applyPending pending (unionOf items))) [] s
      | none =>
        match classItem? spaced s with
        | some (item, s) => classBody spaced fuel pending (item :: items) s
        | none => none

def class? (spaced : Bool) (s : List Char) : Option (Expr × List Char) :=
  let (negated, inner, s) := openClass spaced s
  (classBody spaced (s.length + 1) none inner s).map fun (set, s) => (.bracketed negated set, s)

def flag? : Char → Option Flag
  | 'i' => some .caseInsensitive
  | 'm' => some .multiLine
  | 's' => some .dotAll
  | 'U' => some .swapGreed
  | 'u' => some .unicode
  | 'R' => some .crlf
  | 'x' => some .ignoreSpace
  | _ => none

/-- Flags up to a colon or a closing parenthesis, which stays. No flag may be repeated, and one
dash at most clears those after it. -/
def flags? (negated : Bool) (seen : FlagChanges) : List Char → Option (FlagChanges × List Char)
  | [] => none
  | c :: s =>
    if c = ':' ∨ c = ')' then some (seen.reverse, c :: s)
    else if c = '-' then
      if negated ∨ s.head? = some ':' ∨ s.head? = some ')' then none else flags? true seen s
    else match flag? c with
      | none => none
      | some f => if seen.any (·.1 == f) then none else flags? negated ((f, !negated) :: seen) s

def spacedBy (changes : FlagChanges) (spaced : Bool) : Bool :=
  (changes.lookup .ignoreSpace).getD spaced

def isNameStart (c : Char) : Bool :=
  c == '_' || if c.toNat < 0x80 then c.isAlpha
    else ((Unicode.binaryProperty? "alphabetic").getD []).contains c.toNat

def isNameChar (c : Char) : Bool :=
  isNameStart c || c == '.' || c == '[' || c == ']' || c.isDigit
    || (0x80 ≤ c.toNat && (Unicode.categories ["Nd", "Nl", "No"]).contains c.toNat)

def groupName? (s : List Char) : Option (List Char × List Char) :=
  let name := s.takeWhile (· != '>')
  match name, s.dropWhile (· != '>') with
  | c :: cs, _ :: rest => if isNameStart c && cs.all isNameChar then some (name, rest) else none
  | _, _ => none

inductive Opening
  | changes (changes : FlagChanges)
  | capture (name : Option (List Char))
  | group (changes : FlagChanges)

def flagGroup? (s : List Char) : Option (Opening × List Char) :=
  match flags? false [] s with
  | some (changes, ')' :: s) => if changes.isEmpty then none else some (.changes changes, s)
  | some (changes, ':' :: s) => some (.group changes, s)
  | _ => none

def opening? (spaced : Bool) (s : List Char) : Option (Opening × List Char) :=
  match skip spaced s with
  | '?' :: '=' :: _ => none
  | '?' :: '!' :: _ => none
  | '?' :: '<' :: '=' :: _ => none
  | '?' :: '<' :: '!' :: _ => none
  | '?' :: 'P' :: '<' :: s => (groupName? s).map fun (name, s) => (.capture (some name), s)
  | '?' :: '<' :: s => (groupName? s).map fun (name, s) => (.capture (some name), s)
  | '?' :: s => flagGroup? s
  | s => some (.capture none, s)

/-- A count; white space around it is allowed. The outer option is empty if it does not fit. -/
def count? (spaced : Bool) (s : List Char) : Option (Option Nat × List Char) :=
  let rec digits : Nat → List Char → List Char × List Char
    | 0, s => ([], s)
    | fuel + 1, c :: s =>
      if c.isDigit then
        let (ds, s) := digits fuel (skip spaced s)
        (c :: ds, s)
      else ([], c :: s)
    | _ + 1, [] => ([], [])
  let (ds, s) := digits (s.length + 1) (s.dropWhile Text.isBlank)
  let s := skip spaced (s.dropWhile Text.isBlank)
  if ds.isEmpty then some (none, s)
  else
    let n := Decimal.ofDigits 10 ds
    if n < 2 ^ 32 then some (some n, s) else none

def bounds? (spaced : Bool) (s : List Char) : Option (Nat × Option Nat × List Char) := do
  let (least, s) ← count? spaced (skip spaced s)
  match s with
  | ',' :: s =>
    match skip spaced s with
    | [] => none
    | '\x7d' :: s => least.map fun n => (n, none, s)
    | s =>
      let (most, s) ← count? spaced s
      match least, most, s with
      | some n, some m, '\x7d' :: s => if n ≤ m then some (n, some m, s) else none
      | _, _, _ => none
  | '\x7d' :: s => least.map fun n => (n, some n, s)
  | _ => none

def dropLazy : List Char → List Char
  | '?' :: s => s
  | s => s

def isRepeatable : Expr → Bool
  | .empty => false
  | .setFlags _ => false
  | _ => true

def repeatLast? (min : Nat) (max : Option Nat) : List Expr → Option (List Expr)
  | [] => none
  | e :: parts => if isRepeatable e then some (.repetition min max e :: parts) else none

def concatOf : List Expr → Expr
  | [] => .empty
  | [e] => e
  | parts => .concat parts.reverse

def alternationOf (branches : List Expr) (last : Expr) : Expr :=
  if branches.isEmpty then last else .alternation (last :: branches).reverse

structure Frame where
  spaced : Bool
  names : List (List Char)
  parts : List Expr
  branches : List Expr

def Frame.result (f : Frame) : Expr := alternationOf f.branches (concatOf f.parts)

def Frame.push (f : Frame) (e : Expr) : Frame := { f with parts := e :: f.parts }

def body : Nat → Frame → List Char → Option (Expr × List (List Char) × List Char)
  | 0, _, _ => none
  | fuel + 1, f, s =>
    match skip f.spaced s with
    | [] => some (f.result, f.names, [])
    | ')' :: s => some (f.result, f.names, ')' :: s)
    | '|' :: s => body fuel { f with parts := [], branches := concatOf f.parts :: f.branches } s
    | '(' :: s =>
      match opening? f.spaced s with
      | none => none
      | some (.changes changes, s) =>
        body fuel { f.push (.setFlags changes) with spaced := spacedBy changes f.spaced } s
      | some (.capture name, s) =>
        if name.any f.names.contains then none
        else
          match body fuel ⟨f.spaced, name.toList ++ f.names, [], []⟩ s with
          | some (e, names, ')' :: s) => body fuel { f.push (.capture e) with names } s
          | _ => none
      | some (.group changes, s) =>
        match body fuel ⟨spacedBy changes f.spaced, f.names, [], []⟩ s with
        | some (e, names, ')' :: s) => body fuel { f.push (.group changes e) with names } s
        | _ => none
    | '[' :: s =>
      match class? f.spaced s with
      | some (e, s) => body fuel (f.push e) s
      | none => none
    | '?' :: s => (repeatLast? 0 (some 1) f.parts).bind fun parts => body fuel { f with parts } (dropLazy s)
    | '*' :: s => (repeatLast? 0 none f.parts).bind fun parts => body fuel { f with parts } (dropLazy s)
    | '+' :: s => (repeatLast? 1 none f.parts).bind fun parts => body fuel { f with parts } (dropLazy s)
    | '\x7b' :: s =>
      match bounds? f.spaced s with
      | some (min, max, s) =>
        (repeatLast? min max f.parts).bind fun parts =>
          body fuel { f with parts } (dropLazy (skip f.spaced s))
      | none => none
    | '\\' :: s =>
      match escape? f.spaced s with
      | some (a, s) => body fuel (f.push a.toExpr) s
      | none => none
    | '.' :: s => body fuel (f.push .dot) s
    | '^' :: s => body fuel (f.push (.anchor .lineStart)) s
    | '$' :: s => body fuel (f.push (.anchor .lineEnd)) s
    | c :: s => body fuel (f.push (.literal (plain c))) s

def depthLimit : Nat := 250

def Expr.read? (s : List Char) : Option Expr :=
  match body (s.length + 1) ⟨false, [], [], []⟩ s with
  | some (e, _, []) => if e.depth ≤ depthLimit then some e else none
  | _ => none

end LiveAssert.Regex
