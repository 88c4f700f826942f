namespace LiveAssert.Regex

/-- The switches of an expression: case is ignored, `^` and `$` look at lines, the dot takes line
breaks too, repetition prefers little, classes are those of Unicode, lines may end in a carriage
return, and white space in the expression is skipped. -/
inductive Flag
  | caseInsensitive
  | multiLine
  | dotAll
  | swapGreed
  | unicode
  | crlf
  | ignoreSpace
deriving DecidableEq

abbrev FlagChanges := List (Flag × Bool)

inductive PerlClass
  | digit
  | space
  | word
deriving DecidableEq

inductive AsciiClass
  | alnum
  | alpha
  | ascii
  | blank
  | cntrl
  | digit
  | graph
  | lower
  | print
  | punct
  | space
  | upper
  | word
  | xdigit
deriving DecidableEq

inductive SetOperator
  | intersection
  | difference
  | symmetricDifference
deriving DecidableEq

inductive PropertyQuery
  | named (name : List Char)
  | valued (name value : List Char)
deriving DecidableEq

/-- A literal character. With two hexadecimal digits it may mean a byte. -/
structure Literal where
  char : Char
  isByte : Bool
deriving DecidableEq

inductive ClassExpr
  | empty
  | literal (l : Literal)
  | range (first last : Literal)
  | ascii (c : AsciiClass) (negated : Bool)
  | perl (c : PerlClass) (negated : Bool)
  | property (q : PropertyQuery) (negated : Bool)
  | bracketed (negated : Bool) (set : ClassExpr)
  | union (items : List ClassExpr)
  | operation (op : SetOperator) (left right : ClassExpr)

inductive Anchor
  | lineStart
  | lineEnd
  | textStart
  | textEnd
  | wordBoundary
  | notWordBoundary
  | wordStart
  | wordEnd
  | wordStartHalf
  | wordEndHalf
deriving DecidableEq

inductive Expr
  | empty
  | setFlags (changes : FlagChanges)
  | literal (l : Literal)
  | dot
  | anchor (a : Anchor)
  | perl (c : PerlClass) (negated : Bool)
  | property (q : PropertyQuery) (negated : Bool)
  | bracketed (negated : Bool) (set : ClassExpr)
  | repetition (min : Nat) (max : Option Nat) (sub : Expr)
  | capture (sub : Expr)
  | group (changes : FlagChanges) (sub : Expr)
  | alternation (branches : List Expr)
  | concat (parts : List Expr)

def ClassExpr.depth : ClassExpr → Nat
  | .bracketed _ set => set.depth + 1
  | .union items => depths items + 1
  | .operation _ l r => max l.depth r.depth + 1
  | _ => 0
where
  depths : List ClassExpr → Nat
    | [] => 0
    | c :: cs => max c.depth (depths cs)

def Expr.depth : Expr → Nat
  | .bracketed _ set => set.depth + 1
  | .repetition _ _ sub => sub.depth + 1
  | .capture sub => sub.depth + 1
  | .group _ sub => sub.depth + 1
  | .alternation branches => depths branches + 1
  | .concat parts => depths parts + 1
  | _ => 0
where
  depths : List Expr → Nat
    | [] => 0
    | t :: ts => max t.depth (depths ts)

end LiveAssert.Regex
