import LiveAssert.Binary64.Basic
import LiveAssert.Fields

namespace LiveAssert

inductive Json
  | null
  | bool (b : Bool)
  | integer (n : Int)
  | float (x : Binary64)
  | string (s : String)
  | array (items : List Json)
  | object (members : List (String × Json))

namespace Json

def empty : Json := .object []

mutual

def sorted : Json → Json
  | .array items => .array (sortedItems items)
  | .object members => .object (Fields.ofList (sortedMembers members))
  | other => other

def sortedItems : List Json → List Json
  | [] => []
  | item :: items => item.sorted :: sortedItems items

def sortedMembers : List (String × Json) → List (String × Json)
  | [] => []
  | (name, value) :: members => (name, value.sorted) :: sortedMembers members

end

def string? : Json → Option String
  | .string s => some s
  | _ => none

def bool? : Json → Option Bool
  | .bool b => some b
  | _ => none

def array? : Json → Option (List Json)
  | .array items => some items
  | _ => none

def object? : Json → Option (List (String × Json))
  | .object members => some members
  | _ => none

def nat? : Json → Option Nat
  | .integer n => if 0 ≤ n then some n.toNat else none
  | _ => none

def member? (name : String) : Json → Option Json
  | .object members => Fields.get? name members
  | _ => none

end Json

end LiveAssert
