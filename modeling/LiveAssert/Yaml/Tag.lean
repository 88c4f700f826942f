import LiveAssert.Binary64.Decimal
import LiveAssert.Yaml.Text

namespace LiveAssert.Yaml

/-- A tag as it is written; a tag in full, and the lone `!`, have an empty handle. -/
structure Tag where
  handle : List Char
  suffix : List Char
deriving DecidableEq

inductive Directive
  | version (major minor : Nat)
  | shorthand (handle meaning : List Char)
deriving DecidableEq

namespace Tag

def anchorName? (s : List Char) : Option (List Char × List Char) :=
  let name := s.takeWhile isWordChar
  let rest := s.dropWhile isWordChar
  let ends := match rest with
    | [] => true
    | c :: _ => isSpacing c || ['?', ':', ',', ']', '\x7d', '%', '@', '\x60'].contains c
  if !name.isEmpty && ends then some (name, rest) else none

def isUriChar (whole : Bool) (c : Char) : Bool :=
  isWordChar c
    || [';', '/', '?', ':', '@', '&', '=', '+', '$', '.', '!', '~', '*', '\'', '(', ')'].contains c
    || (whole && [',', '[', ']'].contains c)

def octet? : List Char → Option (Nat × List Char)
  | '%' :: a :: b :: s => (Decimal.readNat? 16 [a, b]).map (·, s)
  | _ => none

def lead? (n : Nat) : Option (Nat × Nat) :=
  if n < 0x80 then some (0, n)
  else if 0xC0 ≤ n ∧ n < 0xE0 then some (1, n - 0xC0)
  else if 0xE0 ≤ n ∧ n < 0xF0 then some (2, n - 0xE0)
  else if 0xF0 ≤ n ∧ n < 0xF8 then some (3, n - 0xF0)
  else none

def trail? : Nat → Nat → List Char → Option (Nat × List Char)
  | 0, n, s => some (n, s)
  | k + 1, n, s =>
    match octet? s with
    | some (m, s) => if 0x80 ≤ m ∧ m < 0xC0 then trail? k (n * 64 + (m - 0x80)) s else none
    | none => none

def escaped? (s : List Char) : Option (Char × List Char) := do
  let (n, s) ← octet? s
  let (more, n) ← lead? n
  let (n, s) ← trail? more n s
  some (if n.isValidChar then Char.ofNat n else '\ufffd', s)

def uri? (whole : Bool) : Nat → List Char → Option (List Char × List Char)
  | 0, _ => none
  | _ + 1, [] => some ([], [])
  | fuel + 1, c :: s =>
    if c = '%' then
      match escaped? (c :: s) with
      | some (d, s) => (uri? whole fuel s).map fun (t, s) => (d :: t, s)
      | none => none
    else if isUriChar whole c then (uri? whole fuel s).map fun (t, s) => (c :: t, s)
    else some ([], c :: s)

def handle? : List Char → Option (List Char × List Char)
  | '!' :: s =>
    let word := s.takeWhile isWordChar
    match s.dropWhile isWordChar with
    | '!' :: s => some ('!' :: (word ++ ['!']), s)
    | s => some ('!' :: word, s)
  | _ => none

def verbatim? (s : List Char) : Option (Tag × List Char) :=
  match uri? true (s.length + 1) s with
  | some (suffix, '>' :: s) => if suffix.isEmpty then none else some (⟨[], suffix⟩, s)
  | _ => none

/-- A tag by its handle. Text after the mark that does not end in another mark belongs to the
suffix. -/
def short? (s : List Char) : Option (Tag × List Char) := do
  let (handle, s) ← handle? s
  let (more, s) ← uri? false (s.length + 1) s
  if 1 < handle.length ∧ handle.getLast? = some '!' then
    if more.isEmpty then none else some (⟨handle, more⟩, s)
  else
    let suffix := handle.drop 1 ++ more
    some (if suffix.isEmpty then ⟨[], ['!']⟩ else ⟨['!'], suffix⟩, s)

def read? (inFlow : Bool) (s : List Char) : Option (Tag × List Char) := do
  let (tag, s) ← match s with
    | '!' :: '<' :: s => verbatim? s
    | s => short? s
  if atSpacing s || (inFlow && s.head? == some ',') then some (tag, s) else none

end Tag

namespace Directive

def number? (s : List Char) : Option (Nat × List Char) :=
  let digits := s.takeWhile Char.isDigit
  if 0 < digits.length ∧ digits.length ≤ 9 then
    some (Decimal.ofDigits 10 digits, s.dropWhile Char.isDigit)
  else none

def version? (s : List Char) : Option (Directive × List Char) := do
  let (major, s) ← number? (s.dropWhile isBlank)
  match s with
  | '.' :: s => (number? s).map fun (minor, s) => (.version major minor, s)
  | _ => none

def tag? (s : List Char) : Option (Directive × List Char) := do
  let (handle, s) ← Tag.handle? (s.dropWhile isBlank)
  if 1 < handle.length ∧ handle.getLast? ≠ some '!' then none
  else if (s.head?.map isBlank).getD false then
    let s := s.dropWhile isBlank
    let (meaning, s) ← Tag.uri? true (s.length + 1) s
    if !meaning.isEmpty && atSpacing s then some (.shorthand handle meaning, s) else none
  else none

def read? (s : List Char) : Option (Directive × List Char) := do
  let name := s.takeWhile isWordChar
  let s := s.dropWhile isWordChar
  let (directive, s) ←
    if !atSpacing s then none
    else if name = "YAML".toList then version? s
    else if name = "TAG".toList then tag? s
    else none
  let s := s.dropWhile isBlank
  let s := if s.head? = some '#' then s.dropWhile (!isBreak ·) else s
  if atBreak s then some (directive, (takeBreak s).2) else none

end Directive

end LiveAssert.Yaml
