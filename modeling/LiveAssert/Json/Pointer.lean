import LiveAssert.Binary64.Decimal
import LiveAssert.Json.Basic

namespace LiveAssert.Json

def pointerTokens : List Char → List Char × List (List Char)
  | [] => ([], [])
  | c :: s =>
    let (token, rest) := pointerTokens s
    if c = '/' then ([], token :: rest) else (c :: token, rest)

def unescapeToken : List Char → List Char
  | '~' :: '0' :: s => '~' :: unescapeToken s
  | '~' :: '1' :: s => '/' :: unescapeToken s
  | c :: s => c :: unescapeToken s
  | [] => []

def tokenIndex? (token : List Char) : Option Nat :=
  match token with
  | '0' :: _ :: _ => none
  | _ => if token.all Decimal.isDigit then Decimal.readNat? 10 token else none

def child? (token : List Char) : Json → Option Json
  | .object members => Fields.get? (String.ofList token) members
  | .array items => (tokenIndex? token).bind (items[·]?)
  | _ => none

/-- The value that a pointer names; the empty pointer names the whole. A text that is neither
empty nor begins with a slash is no pointer and names nothing. -/
def pointer? (j : Json) (pointer : List Char) : Option Json :=
  match pointer with
  | [] => some j
  | '/' :: s =>
    let (token, rest) := pointerTokens s
    (token :: rest).foldlM (fun node token => child? (unescapeToken token) node) j
  | _ => none

end LiveAssert.Json
