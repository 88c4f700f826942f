import LiveAssert.Unicode.Property

namespace LiveAssert.Inspect

def isExtending (c : Char) : Bool := ((Unicode.binaryProperty? "graphemeextend").getD []).contains c.toNat

def isHidden (c : Char) : Bool :=
  c ≠ ' ' && ((Unicode.categories ["Cc", "Cf", "Co", "Zl", "Zp", "Zs"]).contains c.toNat ||
    Unicode.unassigned.contains c.toNat)

def escape (c : Char) : List Char :=
  match c with
  | '\x00' => ['\\', '0']
  | '\t' => ['\\', 't']
  | '\n' => ['\\', 'n']
  | '\r' => ['\\', 'r']
  | '"' => ['\\', '"']
  | '\\' => ['\\', '\\']
  | c =>
    if 0x20 ≤ c.toNat ∧ c.toNat < 0x7F then [c]
    else if isExtending c || isHidden c then
      ['\\', 'u', '\x7b'] ++ Nat.toDigits 16 c.toNat ++ ['\x7d']
    else [c]

def quoted (s : String) : String := String.ofList ('"' :: (s.toList.flatMap escape ++ ['"']))

def optional : Option String → String
  | some s => "Some(" ++ quoted s ++ ")"
  | none => "None"

def record (name : String) (fields : List String) : String :=
  name ++ " \x7b " ++ ", ".intercalate fields ++ " \x7d"

def table (rows : List (String × String)) : String :=
  "\x7b" ++ ", ".intercalate (rows.map fun (key, value) => quoted key ++ ": " ++ value) ++ "\x7d"

end LiveAssert.Inspect
