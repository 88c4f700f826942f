import LiveAssert.Regex.Expr
import LiveAssert.Text.Blank
import LiveAssert.Unicode.Folding
import LiveAssert.Unicode.Property

namespace LiveAssert.Regex

inductive Condition
  | textStart
  | textEnd
  | lineStart
  | lineEnd
  | lineStartCrlf
  | lineEndCrlf
  | wordBoundary (word : CharSet)
  | notWordBoundary (word : CharSet)
  | wordStart (word : CharSet)
  | wordEnd (word : CharSet)
  | wordStartHalf (word : CharSet)
  | wordEndHalf (word : CharSet)

inductive Pattern
  | empty
  | chars (set : CharSet)
  | condition (c : Condition)
  | repetition (min : Nat) (max : Option Nat) (sub : Pattern)
  | capture (sub : Pattern)
  | alternation (branches : List Pattern)
  | concat (parts : List Pattern)

structure Flags where
  caseInsensitive : Bool
  multiLine : Bool
  dotAll : Bool
  unicode : Bool
  crlf : Bool

namespace Flags

def default : Flags := ⟨false, false, false, true, false⟩

def set (f : Flags) : Flag × Bool → Flags
  | (.caseInsensitive, b) => { f with caseInsensitive := b }
  | (.multiLine, b) => { f with multiLine := b }
  | (.dotAll, b) => { f with dotAll := b }
  | (.unicode, b) => { f with unicode := b }
  | (.crlf, b) => { f with crlf := b }
  | (.swapGreed, _) => f
  | (.ignoreSpace, _) => f

def apply (f : Flags) (changes : FlagChanges) : Flags := changes.foldl set f

end Flags

def asciiRanges : AsciiClass → CharSet
  | .alnum => [(0x30, 0x39), (0x41, 0x5A), (0x61, 0x7A)]
  | .alpha => [(0x41, 0x5A), (0x61, 0x7A)]
  | .ascii => [(0, 0x7F)]
  | .blank => [(0x09, 0x09), (0x20, 0x20)]
  | .cntrl => [(0, 0x1F), (0x7F, 0x7F)]
  | .digit => [(0x30, 0x39)]
  | .graph => [(0x21, 0x7E)]
  | .lower => [(0x61, 0x7A)]
  | .print => [(0x20, 0x7E)]
  | .punct => [(0x21, 0x2F), (0x3A, 0x40), (0x5B, 0x60), (0x7B, 0x7E)]
  | .space => [(0x09, 0x0D), (0x20, 0x20)]
  | .upper => [(0x41, 0x5A)]
  | .word => [(0x30, 0x39), (0x41, 0x5A), (0x5F, 0x5F), (0x61, 0x7A)]
  | .xdigit => [(0x30, 0x39), (0x41, 0x46), (0x61, 0x66)]

def closeAscii (set : CharSet) : CharSet :=
  let other (one another : Nat × Nat) : CharSet :=
    (set.inter [one]).map fun (lo, hi) => (lo + another.1 - one.1, hi + another.1 - one.1)
  CharSet.ofRanges (set ++ other (0x41, 0x5A) (0x61, 0x7A) ++ other (0x61, 0x7A) (0x41, 0x5A))

def closeCase (f : Flags) (set : CharSet) : CharSet :=
  if f.caseInsensitive then
    if f.unicode then Unicode.closeUnderCase set else closeAscii set
  else set

def admit? (f : Flags) (set : CharSet) : Option CharSet :=
  if f.unicode || set.isAscii then some set else none

def negateIf (negated : Bool) (set : CharSet) : CharSet := if negated then set.compl else set

def finish? (f : Flags) (negated : Bool) (set : CharSet) : Option CharSet :=
  admit? f (negateIf negated (closeCase f set))

def perlSet (f : Flags) : PerlClass → CharSet
  | .digit => if f.unicode then Unicode.category "Nd" else asciiRanges .digit
  | .space => if f.unicode then (Unicode.binaryProperty? "whitespace").getD [] else asciiRanges .space
  | .word => if f.unicode then Unicode.wordChars else asciiRanges .word

def perl? (f : Flags) (c : PerlClass) (negated : Bool) : Option CharSet :=
  admit? f (negateIf negated (perlSet f c))

def property? (f : Flags) (q : PropertyQuery) (negated : Bool) : Option CharSet :=
  if f.unicode then
    (match q with
      | .named name => Unicode.named? name
      | .valued name value => Unicode.valued? name value).bind (finish? f negated)
  else none

def classLiteral? (f : Flags) (l : Literal) : Option Char :=
  if f.unicode || l.char.toNat < 0x80 then some l.char else none

def combine (op : SetOperator) (a b : CharSet) : CharSet :=
  match op with
  | .intersection => a.inter b
  | .difference => a.diff b
  | .symmetricDifference => a.symmDiff b

mutual

def classSet? (f : Flags) : ClassExpr → Option CharSet
  | .empty => some []
  | .literal l => (classLiteral? f l).map CharSet.single
  | .range lo hi =>
    (classLiteral? f lo).bind fun a => (classLiteral? f hi).map fun b => [(a.toNat, b.toNat)]
  | .ascii c negated => finish? f negated (asciiRanges c)
  | .perl c negated => perl? f c negated
  | .property q negated => property? f q negated
  | .bracketed negated set => (classSet? f set).bind (finish? f negated)
  | .union items => (classSets? f items).map CharSet.ofRanges
  | .operation op left right =>
    (classSet? f left).bind fun a => (classSet? f right).map fun b =>
      combine op (closeCase f a) (closeCase f b)

def classSets? (f : Flags) : List ClassExpr → Option (List (Nat × Nat))
  | [] => some []
  | c :: cs => (classSet? f c).bind fun set => (classSets? f cs).map (set ++ ·)

end

/-- The characters that a literal matches. A byte beyond ASCII is part of a character only. -/
def literal? (f : Flags) (l : Literal) : Option CharSet :=
  if !f.unicode && l.isByte && 0x80 ≤ l.char.toNat then none
  else some (closeCase f (.single l.char))

def dot? (f : Flags) : Option CharSet :=
  if !f.unicode then none
  else if f.dotAll then some .full
  else if f.crlf then some (CharSet.compl [(0x0A, 0x0A), (0x0D, 0x0D)])
  else some (CharSet.compl [(0x0A, 0x0A)])

def conditionOf (f : Flags) : Anchor → Condition
  | .lineStart => if f.multiLine then if f.crlf then .lineStartCrlf else .lineStart else .textStart
  | .lineEnd => if f.multiLine then if f.crlf then .lineEndCrlf else .lineEnd else .textEnd
  | .textStart => .textStart
  | .textEnd => .textEnd
  | .wordBoundary => .wordBoundary (perlSet f .word)
  | .notWordBoundary => .notWordBoundary (perlSet f .word)
  | .wordStart => .wordStart (perlSet f .word)
  | .wordEnd => .wordEnd (perlSet f .word)
  | .wordStartHalf => .wordStartHalf (perlSet f .word)
  | .wordEndHalf => .wordEndHalf (perlSet f .word)

mutual

def Pattern.isWidthless : Pattern → Bool
  | .empty => true
  | .chars _ => false
  | .condition _ => true
  | .repetition _ max sub => max == some 0 || sub.isWidthless
  | .capture sub => sub.isWidthless
  | .alternation branches => Pattern.allWidthless branches
  | .concat parts => Pattern.allWidthless parts

def Pattern.allWidthless : List Pattern → Bool
  | [] => true
  | p :: ps => p.isWidthless && Pattern.allWidthless ps

end

def repeated (min : Nat) (max : Option Nat) (sub : Pattern) : Pattern :=
  let (min, max) := if sub.isWidthless then (Nat.min min 1, some ((max.map (Nat.min 1)).getD 1))
    else (min, max)
  if max = some 0 then .empty
  else if min = 1 ∧ max = some 1 then sub
  else .repetition min max sub

mutual

def Expr.pattern? (f : Flags) : Expr → Option (Pattern × Flags)
  | .empty => some (.empty, f)
  | .setFlags changes => some (.empty, f.apply changes)
  | .literal l => (literal? f l).map fun set => (.chars set, f)
  | .dot => (dot? f).map fun set => (.chars set, f)
  | .anchor a => some (.condition (conditionOf f a), f)
  | .perl c negated => (perl? f c negated).map fun set => (.chars set, f)
  | .property q negated => (property? f q negated).map fun set => (.chars set, f)
  | .bracketed negated set =>
    ((classSet? f set).bind (finish? f negated)).map fun set => (.chars set, f)
  | .repetition min max sub => (sub.pattern? f).map fun (p, f) => (repeated min max p, f)
  | .capture sub => (sub.pattern? f).map fun (p, _) => (.capture p, f)
  | .group changes sub => (sub.pattern? (f.apply changes)).map fun (p, _) => (p, f)
  | .alternation branches => (patterns? f branches).map fun (ps, f) => (.alternation ps, f)
  | .concat parts => (patterns? f parts).map fun (ps, f) => (.concat ps, f)

def patterns? (f : Flags) : List Expr → Option (List Pattern × Flags)
  | [] => some ([], f)
  | e :: es =>
    match e.pattern? f with
    | none => none
    | some (p, f) => (patterns? f es).map fun (ps, f) => (p :: ps, f)

end

end LiveAssert.Regex
