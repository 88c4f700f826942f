import LiveAssert.Binary64.Shortest
import LiveAssert.Json.Basic

namespace LiveAssert.Json

def hexDigit (n : Nat) : Char := Nat.digitChar n

def escape (c : Char) : List Char :=
  match c with
  | '"' => ['\\', '"']
  | '\\' => ['\\', '\\']
  | '\x08' => ['\\', 'b']
  | '\t' => ['\\', 't']
  | '\n' => ['\\', 'n']
  | '\x0c' => ['\\', 'f']
  | '\r' => ['\\', 'r']
  | c =>
    if c.toNat < 0x20 then
      ['\\', 'u', '0', '0', hexDigit (c.toNat / 16), hexDigit (c.toNat % 16)]
    else [c]

def writeString (s : String) : List Char := '"' :: (s.toList.flatMap escape ++ ['"'])

def writeInt (n : Int) : List Char :=
  if n < 0 then '-' :: Nat.toDigits 10 n.natAbs else Nat.toDigits 10 n.natAbs

/-- How doubles are written: the least and the first excessive decimal exponent of plain
notation. Above and below it stands an exponent, with its sign also when it is positive. -/
structure FloatStyle where
  plainFrom : Int
  plainBelow : Int

def floatStyle : FloatStyle := ⟨-5, 16⟩

def writePlain (digits : List Char) (place : Int) : List Char :=
  if place ≤ 0 then '0' :: '.' :: (List.replicate (-place).toNat '0' ++ digits)
  else if digits.length ≤ place then
    digits ++ List.replicate (place.toNat - digits.length) '0' ++ ['.', '0']
  else digits.take place.toNat ++ '.' :: digits.drop place.toNat

def writeScientific (digits : List Char) (exponent : Int) : List Char :=
  let mantissa := match digits with
    | [] => []
    | [d] => [d]
    | d :: ds => d :: '.' :: ds
  mantissa ++ 'e' :: (if 0 ≤ exponent then '+' :: writeInt exponent else writeInt exponent)

def writeFloat (x : Binary64) : List Char :=
  let sign := if x.negative then ['-'] else []
  if x.magnitude.val = 0 then sign ++ ['0', '.', '0']
  else
    let (significand, e) := Binary64.shortest x.magnitude
    let digits := Nat.toDigits 10 significand
    let exponent := e + digits.length - 1
    sign ++ if floatStyle.plainFrom ≤ exponent ∧ exponent < floatStyle.plainBelow then
      writePlain digits (exponent + 1)
    else writeScientific digits exponent

mutual

def write : Json → List Char
  | .null => ['n', 'u', 'l', 'l']
  | .bool true => ['t', 'r', 'u', 'e']
  | .bool false => ['f', 'a', 'l', 's', 'e']
  | .integer n => writeInt n
  | .float x => if x.isFinite then writeFloat x else ['n', 'u', 'l', 'l']
  | .string s => writeString s
  | .array items => '[' :: (writeItems items ++ [']'])
  | .object members => '{' :: (writeMembers members ++ ['}'])

def writeItems : List Json → List Char
  | [] => []
  | [item] => item.write
  | item :: items => item.write ++ ',' :: writeItems items

def writeMembers : List (String × Json) → List Char
  | [] => []
  | [(name, value)] => writeString name ++ ':' :: value.write
  | (name, value) :: members => writeString name ++ ':' :: (value.write ++ ',' :: writeMembers members)

end

def text (j : Json) : String := String.ofList j.write

end LiveAssert.Json
