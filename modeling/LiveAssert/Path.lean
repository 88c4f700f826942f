import LiveAssert.Text.Blank
import LiveAssert.Binary64.Decimal
import LiveAssert.Value

/-!
Paths into documents.

A path is a list of segments: a field, a position in an array, where negative ones count from the
end, or a wildcard for every child. It is written with dots and brackets, after an optional `$`
and inside optional braces. With a wildcard in it a path finds the sequence of everything it
reaches; without one it finds a single value or nothing.
-/

namespace LiveAssert

inductive Segment
  | field (name : String)
  | index (i : Int)
  | wildcard
deriving DecidableEq

abbrev Path := List Segment

inductive PathFault
  | unclosedBrace
  | unclosedBracket
  | emptyField
  | unexpected (c : Char)
  | unterminatedKey
  | invalidIndex (text : String)
deriving DecidableEq

def PathFault.message : PathFault → String
  | .unclosedBrace => "unclosed '\x7b'"
  | .unclosedBracket => "unclosed '['"
  | .emptyField => "empty field name"
  | .unexpected c => "unexpected '" ++ c.toString ++ "', segments start with '.' or '['"
  | .unterminatedKey => "unterminated quoted key"
  | .invalidIndex text => "invalid index '" ++ text ++ "'"

structure MalformedPath where
  path : String
  reason : String
deriving DecidableEq

def MalformedPath.message (e : MalformedPath) : String :=
  "malformed path '" ++ e.path ++ "': " ++ e.reason

namespace Path

def fieldName : List Char → List Char × List Char
  | [] => ([], [])
  | '\\' :: c :: s =>
    let (name, rest) := fieldName s
    (c :: name, rest)
  | c :: s =>
    if c = '.' ∨ c = '[' then ([], c :: s)
    else
      let (name, rest) := fieldName s
      (c :: name, rest)

def quotedKey (quote : Char) (s : List Char) : Except PathFault Segment :=
  match s.reverse with
  | c :: key => if c = quote then .ok (.field (String.ofList key.reverse)) else .error .unterminatedKey
  | [] => .error .unterminatedKey

def index? (s : List Char) : Option Int :=
  (Decimal.readInt? s).filter fun n => -2 ^ 63 ≤ n ∧ n < 2 ^ 63

def bracket (s : List Char) : Except PathFault Segment :=
  match s with
  | ['*'] => .ok .wildcard
  | '\'' :: key => quotedKey '\'' key
  | '"' :: key => quotedKey '"' key
  | s =>
    match index? s with
    | some i => .ok (.index i)
    | none => .error (.invalidIndex (String.ofList s))

/-- The segments of a text; `first` says that no segment stands before it. A dot alone selects
the whole document. -/
def segments : Nat → Bool → List Char → Except PathFault Path
  | 0, _, _ => .ok []
  | _ + 1, _, [] => .ok []
  | fuel + 1, _, '.' :: '*' :: s => do return .wildcard :: (← segments fuel false s)
  | fuel + 1, first, '.' :: s =>
    let (name, rest) := fieldName s
    if name.isEmpty then if first && rest.isEmpty then .ok [] else .error .emptyField
    else do return .field (String.ofList name) :: (← segments fuel false rest)
  | fuel + 1, _, '[' :: s =>
    if s.contains ']' then do
      let segment ← bracket (Text.trim (s.takeWhile (· != ']')))
      return segment :: (← segments fuel false ((s.dropWhile (· != ']')).drop 1))
    else .error .unclosedBracket
  | _ + 1, _, c :: _ => .error (.unexpected c)

def insideBraces (s : List Char) : Except PathFault (List Char) :=
  match s with
  | '\x7b' :: s => if s.getLast? = some '\x7d' then .ok s.dropLast else .error .unclosedBrace
  | s => .ok s

def dropRoot : List Char → List Char
  | '$' :: s => s
  | s => s

def parseChars (s : List Char) : Except PathFault Path := do
  let s ← insideBraces (Text.trim s)
  let s := dropRoot s
  segments (s.length + 1) true s

def parse (text : String) : Except MalformedPath Path :=
  (parseChars text.toList).mapError fun fault => ⟨text, fault.message⟩

def position? (length : Nat) (i : Int) : Option Nat :=
  let n := if i < 0 then (length : Int) + i else i
  if 0 ≤ n then some n.toNat else none

def children : Segment → Json → List Json
  | .field name, .object members => (Fields.get? name members).toList
  | .index i, .array items => ((position? items.length i).bind (items[·]?)).toList
  | .wildcard, .array items => items
  | .wildcard, .object members => members.map (·.2)
  | _, _ => []

def reach (path : Path) (document : Json) : List Json :=
  path.foldl (fun nodes segment => nodes.flatMap (children segment)) [document]

def select (path : Path) (document : Json) : Option Value :=
  let nodes := path.reach document
  if path.contains .wildcard then some (.sequence (nodes.map .ofJson))
  else nodes.head?.map .ofJson

def extract (document : Json) (text : String) : Except MalformedPath (Option Value) :=
  (parse text).map fun path => path.select document

end Path

end LiveAssert
