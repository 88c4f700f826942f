import LiveAssert.Binary64.Decimal

namespace LiveAssert.Yaml

inductive Scalar
  | null
  | bool (b : Bool)
  | integer (n : Int)
  | float (x : Binary64)
  | string (text : List Char)
deriving DecidableEq

namespace Scalar

def isNull (s : List Char) : Bool := ["null", "Null", "NULL", "~"].contains (String.ofList s)

def bool? (s : List Char) : Option Bool :=
  if ["true", "True", "TRUE"].contains (String.ofList s) then some true
  else if ["false", "False", "FALSE"].contains (String.ofList s) then some false
  else none

def dropSign : List Char → List Char
  | '+' :: s => s
  | '-' :: s => s
  | s => s

def isPadded (s : List Char) : Bool :=
  match dropSign s with
  | '0' :: c :: s => (c :: s).all Char.isDigit
  | _ => false

def base? : List Char → Option (Nat × List Char)
  | '0' :: 'x' :: s => some (16, s)
  | '0' :: 'o' :: s => some (8, s)
  | '0' :: 'b' :: s => some (2, s)
  | _ => none

def magnitude? (bound : Nat) (s : List Char) : Option Nat :=
  let based? := (base? s).bind fun (base, digits) => Decimal.readNat? base digits
  let plain? := if isPadded s then none else Decimal.readNat? 10 s
  (based?.filter (· ≤ bound)).or (plain?.filter (· ≤ bound))

def natural? (bound : Nat) : List Char → Option Int
  | '+' :: s => (magnitude? bound s).map Int.ofNat
  | s => (magnitude? bound s).map Int.ofNat

def negative? (bound : Nat) : List Char → Option Int
  | '-' :: s => (magnitude? bound s).map fun n => -(n : Int)
  | _ => none

def integer? (bits : Nat) (s : List Char) : Option Int :=
  (natural? (2 ^ bits - 1) s).or (negative? (2 ^ (bits - 1)) s)

def special? (s : List Char) : Option Binary64 :=
  if [".inf", ".Inf", ".INF", "+.inf", "+.Inf", "+.INF"].contains (String.ofList s) then
    some .posInf
  else if ["-.inf", "-.Inf", "-.INF"].contains (String.ofList s) then some .negInf
  else if [".nan", ".NaN", ".NAN"].contains (String.ofList s) then some .nan
  else none

def float? (s : List Char) : Option Binary64 :=
  (special? s).or ((Binary64.read? s).filter (·.isFinite))

/-- An integer within 64 bits, as a scalar; the outer option is empty if it needs more. -/
def ofInteger? (s : List Char) : Option (Option Scalar) :=
  match integer? 64 s with
  | some n => some (some (.integer n))
  | none => if (integer? 128 s).isSome then none else some none

def ofPlain? (s : List Char) : Option Scalar :=
  if s.isEmpty || isNull s then some .null
  else match bool? s with
    | some b => some (.bool b)
    | none =>
      match ofInteger? s with
      | none => none
      | some (some n) => some n
      | some none =>
        match if isPadded s then none else float? s with
        | some x => some (.float x)
        | none => some (.string s)

def coreTag (name : String) : List Char := "tag:yaml.org,2002:".toList ++ name.toList

def isLocal (tag : List Char) : Bool := tag.head? == some '!'

/-- What a scalar with a tag denotes. Four tags demand their type, also of quoted text; any other
makes the scalar a string. -/
def ofTagged? (tag text : List Char) : Option Scalar :=
  if tag = coreTag "bool" then (bool? text).map .bool
  else if tag = coreTag "int" then (integer? 64 text).map .integer
  else if tag = coreTag "float" then (float? text).map .float
  else if tag = coreTag "null" then if isNull text then some .null else none
  else some (.string text)

def resolve? (tag : Option (List Char)) (text : List Char) (plain : Bool) : Option Scalar :=
  match tag with
  | some tag => ofTagged? tag text
  | none => if plain then ofPlain? text else some (.string text)

end Scalar

end LiveAssert.Yaml
