import LiveAssert.Binary64.Decimal
import LiveAssert.Json.Basic

namespace LiveAssert.Json

def depthLimit : Nat := 127

def isSpace (c : Char) : Bool := c == ' ' || c == '\t' || c == '\n' || c == '\r'

def skipSpace (s : List Char) : List Char := s.dropWhile isSpace

def readHex4 : List Char → Option (Nat × List Char)
  | a :: b :: c :: d :: s => (Decimal.readNat? 16 [a, b, c, d]).map (·, s)
  | _ => none

def readUnicode (s : List Char) : Option (Char × List Char) := do
  let (n, s) ← readHex4 s
  if 0xDC00 ≤ n ∧ n < 0xE000 then none
  else if 0xD800 ≤ n ∧ n < 0xDC00 then
    match s with
    | '\\' :: 'u' :: s =>
      let (m, s) ← readHex4 s
      if 0xDC00 ≤ m ∧ m < 0xE000 then
        some (Char.ofNat (0x10000 + (n - 0xD800) * 0x400 + (m - 0xDC00)), s)
      else none
    | _ => none
  else some (Char.ofNat n, s)

def readEscape : List Char → Option (Char × List Char)
  | '"' :: s => some ('"', s)
  | '\\' :: s => some ('\\', s)
  | '/' :: s => some ('/', s)
  | 'b' :: s => some ('\x08', s)
  | 'f' :: s => some ('\x0c', s)
  | 'n' :: s => some ('\n', s)
  | 'r' :: s => some ('\r', s)
  | 't' :: s => some ('\t', s)
  | 'u' :: s => readUnicode s
  | _ => none

def readString : Nat → List Char → Option (List Char × List Char)
  | 0, _ => none
  | _ + 1, [] => none
  | _ + 1, '"' :: s => some ([], s)
  | fuel + 1, '\\' :: s => do
    let (c, s) ← readEscape s
    let (cs, s) ← readString fuel s
    some (c :: cs, s)
  | fuel + 1, c :: s =>
    if c.toNat < 0x20 then none
    else (readString fuel s).map fun (cs, s) => (c :: cs, s)

def wholePart? (s : List Char) : Option (List Char × List Char) :=
  let whole := s.takeWhile Decimal.isDigit
  let rest := s.dropWhile Decimal.isDigit
  match whole with
  | [] => none
  | '0' :: _ :: _ => none
  | _ => some (whole, rest)

def fractionPart? : List Char → Option (List Char × List Char)
  | '.' :: s =>
    let digits := s.takeWhile Decimal.isDigit
    if digits.isEmpty then none else some ('.' :: digits, s.dropWhile Decimal.isDigit)
  | s => some ([], s)

def exponentPart? : List Char → Option (List Char × List Char)
  | c :: s =>
    if c = 'e' ∨ c = 'E' then
      let (sign, s) := match s with
        | '+' :: s => (['+'], s)
        | '-' :: s => (['-'], s)
        | s => ([], s)
      let digits := s.takeWhile Decimal.isDigit
      if digits.isEmpty then none
      else some ('e' :: (sign ++ digits), s.dropWhile Decimal.isDigit)
    else some ([], c :: s)
  | [] => some ([], [])

/-- An integer that fits 64 bits, with or without a sign; minus zero is none. -/
def ofWhole? (negative : Bool) (n : Nat) : Option Json :=
  if negative then if 0 < n ∧ n ≤ 2 ^ 63 then some (.integer (-n)) else none
  else if n < 2 ^ 64 then some (.integer n) else none

def readFloat? (s : List Char) : Option Json :=
  (Binary64.read? s).bind fun x => if x.isFinite then some (.float x) else none

def readNumber (negative : Bool) (s : List Char) : Option (Json × List Char) := do
  let (whole, s) ← wholePart? s
  let (fraction, s) ← fractionPart? s
  let (exponent, s) ← exponentPart? s
  let sign := if negative then ['-'] else []
  let float? := readFloat? (sign ++ whole ++ fraction ++ exponent)
  let number? :=
    if fraction.isEmpty && exponent.isEmpty then
      (ofWhole? negative (Decimal.ofDigits 10 whole)).or float?
    else float?
  number?.map (·, s)

def dropWord (word : List Char) (s : List Char) : Option (List Char) :=
  if word.isPrefixOf s then some (s.drop word.length) else none

mutual

def readValue : Nat → Nat → List Char → Option (Json × List Char)
  | 0, _, _ => none
  | fuel + 1, depth, s =>
    match skipSpace s with
    | [] => none
    | '"' :: s => (readString (s.length + 1) s).map fun (cs, s) => (.string (String.ofList cs), s)
    | '-' :: s => readNumber true s
    | '[' :: s =>
      match depth with
      | 0 => none
      | depth + 1 =>
        match skipSpace s with
        | ']' :: s => some (.array [], s)
        | s => (readItems fuel depth s).map fun (items, s) => (.array items, s)
    | '{' :: s =>
      match depth with
      | 0 => none
      | depth + 1 =>
        match skipSpace s with
        | '}' :: s => some (.object [], s)
        | s => (readMembers fuel depth s).map fun (members, s) => (.object members, s)
    | 'n' :: s => (dropWord ['u', 'l', 'l'] s).map (.null, ·)
    | 't' :: s => (dropWord ['r', 'u', 'e'] s).map (.bool true, ·)
    | 'f' :: s => (dropWord ['a', 'l', 's', 'e'] s).map (.bool false, ·)
    | s => readNumber false s

def readItems : Nat → Nat → List Char → Option (List Json × List Char)
  | 0, _, _ => none
  | fuel + 1, depth, s => do
    let (item, s) ← readValue fuel depth s
    match skipSpace s with
    | ',' :: s => (readItems fuel depth s).map fun (items, s) => (item :: items, s)
    | ']' :: s => some ([item], s)
    | _ => none

def readMembers : Nat → Nat → List Char → Option (List (String × Json) × List Char)
  | 0, _, _ => none
  | fuel + 1, depth, s =>
    match skipSpace s with
    | '"' :: s => do
      let (name, s) ← readString (s.length + 1) s
      match skipSpace s with
      | ':' :: s =>
        let (value, s) ← readValue fuel depth s
        let member := (String.ofList name, value)
        match skipSpace s with
        | ',' :: s => (readMembers fuel depth s).map fun (members, s) => (member :: members, s)
        | '}' :: s => some ([member], s)
        | _ => none
      | _ => none
    | _ => none

end

def readUnsorted? (s : List Char) : Option Json :=
  match readValue (2 * s.length + 2) depthLimit s with
  | some (j, rest) => if (skipSpace rest).isEmpty then some j else none
  | none => none

def read? (s : String) : Option Json := (readUnsorted? s.toList).map sorted

end LiveAssert.Json
