import LiveAssert.Value
import LiveAssert.Yaml.Scalar
import LiveAssert.Yaml.Tree

/-!
The typed data of a YAML document.

Keys may be any data, and no two keys of one mapping may be equal. A local tag is kept beside the
data it stands on; inside it, and inside the keys of a mapping that bears it, tags say nothing.
`Data.toValue` forgets the local tags and turns every key into a text.
-/

namespace LiveAssert.Yaml

inductive Data
  | null
  | bool (b : Bool)
  | integer (n : Int)
  | float (x : Binary64)
  | string (s : String)
  | sequence (items : List Data)
  | mapping (entries : List (Data × Data))
  | tagged (tag : List Char) (d : Data)

namespace Data

mutual

/-- Equality of keys: an integer never equals a double, all NaNs are equal, and the order of
entries does not matter. -/
def eq : Data → Data → Bool
  | .null, .null => true
  | .bool a, .bool b => a == b
  | .integer m, .integer n => m == n
  | .float x, .float y => x.eq y || (x.isNaN && y.isNaN)
  | .string s, .string t => s == t
  | .sequence xs, .sequence ys => eqItems xs ys
  | .mapping es, .mapping fs => es.length == fs.length && inEntries es fs
  | .tagged t d, .tagged u e => t == u && d.eq e
  | _, _ => false

def eqItems : List Data → List Data → Bool
  | [], [] => true
  | x :: xs, y :: ys => x.eq y && eqItems xs ys
  | _, _ => false

def inEntries : List (Data × Data) → List (Data × Data) → Bool
  | [], _ => true
  | (k, v) :: es, fs => fs.any (fun f => k.eq f.1 && v.eq f.2) && inEntries es fs

end

def distinctKeys : List (Data × Data) → Bool
  | [] => true
  | (k, _) :: es => !es.any (fun e => k.eq e.1) && distinctKeys es

def ofScalar : Scalar → Data
  | .null => .null
  | .bool b => .bool b
  | .integer n => .integer n
  | .float x => .float x
  | .string s => .string (String.ofList s)

def withTag (tag : Option (List Char)) (d : Data) : Data :=
  match tag with
  | some ['!'] => .tagged ['!'] d
  | some ('!' :: name) => .tagged name d
  | _ => d

def isTagged (tag : Option (List Char)) : Bool := (tag.map Scalar.isLocal).getD false

mutual

def ofTree? (silent : Bool) : Tree → Option Data
  | .scalar tag text plain =>
    if silent || isTagged tag then
      (Scalar.resolve? none text plain).map fun scalar =>
        withTag (if silent then none else tag) (ofScalar scalar)
    else (Scalar.resolve? tag text plain).map ofScalar
  | .sequence tag items =>
    (ofItems? items).map fun items => withTag (if silent then none else tag) (.sequence items)
  | .mapping tag entries =>
    (ofEntries? (silent || isTagged tag) entries).bind fun entries =>
      if distinctKeys entries then some (withTag (if silent then none else tag) (.mapping entries))
      else none

def ofItems? : List Tree → Option (List Data)
  | [] => some []
  | t :: ts =>
    match ofTree? false t with
    | none => none
    | some d => (ofItems? ts).map (d :: ·)

def ofEntries? (silentKeys : Bool) : List (Tree × Tree) → Option (List (Data × Data))
  | [] => some []
  | (k, v) :: es =>
    match ofTree? silentKeys k, ofTree? false v with
    | some k, some v => (ofEntries? silentKeys es).map ((k, v) :: ·)
    | _, _ => none

end

mutual

/-- The value of data. A key that is no string is shown as the value it denotes; of entries whose
keys come to the same text the last is kept. -/
def toValue : Data → Value
  | .null => .null
  | .bool b => .bool b
  | .integer n => .number (.ofInt n)
  | .float x => .number x
  | .string s => .string s
  | .sequence items => .sequence (toItems items)
  | .mapping entries => .mapping (Fields.ofList (toEntries entries))
  | .tagged _ d => d.toValue

def toItems : List Data → List Value
  | [] => []
  | d :: ds => d.toValue :: toItems ds

def toEntries : List (Data × Data) → List (String × Value)
  | [] => []
  | (.string k, v) :: es => (k, v.toValue) :: toEntries es
  | (k, v) :: es => (k.toValue.display, v.toValue) :: toEntries es

end

def read? (s : String) : Option Data := do
  match ← Tree.read? s.toList with
  | none => some .null
  | some tree => ofTree? false tree

end Data

end LiveAssert.Yaml
