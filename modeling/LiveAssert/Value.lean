import LiveAssert.Json.Writer

/-!
Typed values: what assertions compare.

Equality is structural, except that numbers are compared as numbers: the two zeros are equal and
a NaN equals nothing, so a value that holds a NaN does not equal itself. A value is shown as the
compact JSON text of `toJson`, in which whole numbers below `9.0e15` have no fraction.
-/

namespace LiveAssert

inductive Value
  | null
  | bool (b : Bool)
  | number (x : Binary64)
  | string (s : String)
  | sequence (items : List Value)
  | mapping (entries : List (String × Value))

namespace Value

mutual

def eq : Value → Value → Bool
  | .null, .null => true
  | .bool a, .bool b => a == b
  | .number x, .number y => x.eq y
  | .string s, .string t => s == t
  | .sequence xs, .sequence ys => eqItems xs ys
  | .mapping es, .mapping fs => eqEntries es fs
  | _, _ => false

def eqItems : List Value → List Value → Bool
  | [], [] => true
  | x :: xs, y :: ys => x.eq y && eqItems xs ys
  | _, _ => false

def eqEntries : List (String × Value) → List (String × Value) → Bool
  | [], [] => true
  | (k, x) :: es, (l, y) :: fs => k == l && (x.eq y && eqEntries es fs)
  | _, _ => false

end

instance : BEq Value := ⟨eq⟩

def typeName : Value → String
  | .null => "null"
  | .bool _ => "bool"
  | .number _ => "number"
  | .string _ => "string"
  | .sequence _ => "sequence"
  | .mapping _ => "mapping"

def length? : Value → Option Nat
  | .string s => some s.length
  | .sequence items => some items.length
  | .mapping entries => some entries.length
  | _ => none

def wholeBound : Nat := 9000000000000000

def numberToJson (x : Binary64) : Json :=
  match x.toInt? with
  | some n =>
    if n.natAbs < wholeBound then .integer n else .float x
  | none => if x.isFinite then .float x else .null

mutual

def toJson : Value → Json
  | .null => .null
  | .bool b => .bool b
  | .number x => numberToJson x
  | .string s => .string s
  | .sequence items => .array (itemsToJson items)
  | .mapping entries => .object (entriesToJson entries)

def itemsToJson : List Value → List Json
  | [] => []
  | x :: xs => x.toJson :: itemsToJson xs

def entriesToJson : List (String × Value) → List (String × Json)
  | [] => []
  | (k, x) :: es => (k, x.toJson) :: entriesToJson es

end

mutual

def ofJson : Json → Value
  | .null => .null
  | .bool b => .bool b
  | .integer n => .number (.ofInt n)
  | .float x => .number x
  | .string s => .string s
  | .array items => .sequence (ofJsonItems items)
  | .object members => .mapping (ofJsonMembers members)

def ofJsonItems : List Json → List Value
  | [] => []
  | j :: js => ofJson j :: ofJsonItems js

def ofJsonMembers : List (String × Json) → List (String × Value)
  | [] => []
  | (k, j) :: ms => (k, ofJson j) :: ofJsonMembers ms

end

def display (v : Value) : String := v.toJson.text

/-- The text that substring tests look at: a string itself, any other value as it is shown. -/
def asText : Value → String
  | .string s => s
  | v => v.display

end Value

end LiveAssert
