import LiveAssert.Json.Basic
import LiveAssert.Yaml.Scalar
import LiveAssert.Yaml.Tree

namespace LiveAssert.Yaml.Document

def ofScalar : Scalar → Json
  | .null => .null
  | .bool b => .bool b
  | .integer n => .integer n
  | .float x => if x.isFinite then .float x else .null
  | .string s => .string (String.ofList s)

def isUntagged (tag : Option (List Char)) : Bool := !(tag.map Scalar.isLocal).getD false

mutual

def ofTree? : Tree → Option Json
  | .scalar tag text plain =>
    if isUntagged tag then (Scalar.resolve? tag text plain).map ofScalar else none
  | .sequence tag items => if isUntagged tag then (ofItems? items).map .array else none
  | .mapping tag entries =>
    if isUntagged tag then (ofEntries? entries).map fun ms => .object (Fields.ofList ms) else none

def ofItems? : List Tree → Option (List Json)
  | [] => some []
  | t :: ts =>
    match ofTree? t with
    | none => none
    | some j => (ofItems? ts).map (j :: ·)

def ofEntries? : List (Tree × Tree) → Option (List (String × Json))
  | [] => some []
  | (.scalar _ text _, v) :: es =>
    match ofTree? v with
    | none => none
    | some j => (ofEntries? es).map ((String.ofList text, j) :: ·)
  | _ => none

end

def read? (s : String) : Option Json := do
  match ← Tree.read? s.toList with
  | none => some .null
  | some tree => ofTree? tree

end LiveAssert.Yaml.Document
