import LiveAssert.Duration
import LiveAssert.Text.Blank

namespace LiveAssert

inductive DurationFault
  | empty
  | numberExpected (offset : Nat)
  | invalidCharacter (offset : Nat)
  | unitNeeded (n : Nat)
  | unknownUnit (name : String)
  | notRepresentable
deriving DecidableEq

namespace DurationFault

def message : DurationFault → String
  | .empty => "empty duration"
  | .numberExpected n => s!"expected number at {n}"
  | .invalidCharacter n => s!"invalid character at {n}"
  | .unitNeeded n => s!"time unit needed, for example {n}sec or {n}ms"
  | .unknownUnit u => "unknown time unit \"" ++ u ++ "\", supported units: ns, us/µs, ms, sec, min, " ++
    "hours, days, weeks, months, years (and few variations)"
  | .notRepresentable => "number is too large or cannot be represented without a lack of precision " ++
    "(values below 1ns are not supported)"

end DurationFault

namespace Duration

/-- A unit: so many seconds, or so many nanoseconds. The size of a fraction's unit of a second or
a minute is counted in nanoseconds. -/
structure TimeUnit where
  seconds : Nat
  nanos : Nat
  fractionInNanos : Nat
deriving DecidableEq

def TimeUnit.short (nanos : Nat) : TimeUnit := ⟨0, nanos, nanos⟩

def TimeUnit.long (seconds : Nat) : TimeUnit := ⟨seconds, 0, 0⟩

def unitNames : List (List String × TimeUnit) := [
  (["nanos", "nsec", "ns"], ⟨0, 1, 0⟩),
  (["usec", "us", "µs"], .short 1000),
  (["millis", "msec", "ms"], .short 1000000),
  (["seconds", "second", "secs", "sec", "s"], ⟨1, 0, 1000000000⟩),
  (["minutes", "minute", "min", "mins", "m"], ⟨60, 0, 60000000000⟩),
  (["hours", "hour", "hr", "hrs", "h"], .long 3600),
  (["days", "day", "d"], .long 86400),
  (["weeks", "week", "wk", "wks", "w"], .long 604800),
  (["months", "month", "M"], .long 2630016),
  (["years", "year", "yrs", "yr", "y"], .long 31557600)]

def unit? (name : String) : Option TimeUnit :=
  (unitNames.find? (·.1.contains name)).map (·.2)

structure Fraction where
  numerator : Nat
  denominator : Nat
deriving DecidableEq

abbrev Reading := Except DurationFault

def fit (n : Nat) : Reading Nat := if n < 2 ^ 64 then .ok n else .error .notRepresentable

def exactPart (n size denominator : Nat) : Reading Nat := do
  let product ← fit (n * size)
  if product % denominator = 0 then .ok (product / denominator) else .error .notRepresentable

def add (d : Duration) (seconds nanos : Nat) : Reading Duration := do
  let nanos ← fit (d.nanos % 1000000000 + nanos)
  let seconds ← fit (seconds + nanos / 1000000000)
  let seconds ← fit (d.nanos / 1000000000 + seconds)
  .ok ⟨seconds * 1000000000 + nanos % 1000000000⟩

def addUnits (d : Duration) (n : Nat) (fraction : Option Fraction) (name : List Char) :
    Reading Duration :=
  match unit? (String.ofList name) with
  | none => .error (if name.isEmpty then .unitNeeded n else .unknownUnit (String.ofList name))
  | some u => do
    let d ← d.add (← fit (n * u.seconds)) (← fit (n * u.nanos))
    match fraction with
    | none => .ok d
    | some f =>
      if 0 < u.fractionInNanos then
        d.add 0 (← exactPart f.numerator u.fractionInNanos f.denominator)
      else if 0 < u.seconds then
        d.add (← exactPart f.numerator u.seconds f.denominator) 0
      else .error .notRepresentable

def isUnitChar (c : Char) : Bool := c.isAlpha || c == 'µ'

def digitValue (c : Char) : Nat := c.toNat - 48

def firstDigit (offset : Nat) : Nat → List Char → Reading (Option (Nat × Nat × List Char))
  | _, [] => .ok none
  | here, c :: s =>
    if c.isDigit then .ok (some (digitValue c, here + c.utf8Size, s))
    else if Text.isBlank c then firstDigit offset (here + c.utf8Size) s
    else .error (.numberExpected offset)

structure Number where
  value : Nat
  fraction : Option Fraction
  rest : List Char
  offset : Nat

/-- The digits after a point; `last` is where the last digit or blank ended. -/
def readFraction (numerator denominator last here : Nat) :
    List Char → Reading (Fraction × List Char × Nat)
  | [] =>
    if denominator = 1 then .error (.invalidCharacter last)
    else .ok (⟨numerator, denominator⟩, [], here)
  | c :: s => do
    if c.isDigit then
      let denominator ← fit (denominator * 10)
      let numerator ← fit (numerator * 10 + digitValue c)
      readFraction numerator denominator (here + c.utf8Size) (here + c.utf8Size) s
    else if Text.isBlank c then
      readFraction numerator denominator (here + c.utf8Size) (here + c.utf8Size) s
    else if isUnitChar c ∧ denominator ≠ 1 then .ok (⟨numerator, denominator⟩, c :: s, here)
    else .error (.invalidCharacter last)

def readNumber (n here : Nat) : List Char → Reading Number
  | [] => .ok ⟨n, none, [], here⟩
  | c :: s => do
    if c.isDigit then readNumber (← fit (n * 10 + digitValue c)) (here + c.utf8Size) s
    else if Text.isBlank c then readNumber n (here + c.utf8Size) s
    else if isUnitChar c then .ok ⟨n, none, c :: s, here⟩
    else if c = '.' then
      let (f, rest, offset) ← readFraction 0 1 here (here + 1) s
      .ok ⟨n, some f, rest, offset⟩
    else .error (.invalidCharacter here)

def readName (here : Nat) : List Char → Reading (List Char × List Char × Nat)
  | [] => .ok ([], [], here)
  | c :: s => do
    if isUnitChar c then
      let (name, rest, offset) ← readName (here + c.utf8Size) s
      .ok (c :: name, rest, offset)
    else if c.isDigit || Text.isBlank c then .ok ([], c :: s, here)
    else .error (.invalidCharacter here)

def readUnits : Nat → Duration → Nat → Nat → List Char → Reading Duration
  | 0, _, _, _, _ => .error .notRepresentable
  | fuel + 1, d, n, here, s => do
    let number ← readNumber n here s
    let (name, rest, here) ← readName number.offset number.rest
    let d ← d.addUnits number.value number.fraction name
    let (here, rest) := match rest with
      | c :: s => if Text.isBlank c then (here + c.utf8Size, s) else (here, c :: s)
      | [] => (here, [])
    match ← firstDigit here here rest with
    | none => .ok d
    | some (n, here, rest) => readUnits fuel d n here rest

def read (text : String) : Reading Duration := do
  let s := Text.trim text.toList
  if s.isEmpty then .error .empty
  else if s = ['0'] then .ok .zero
  else match ← firstDigit 0 0 s with
    | none => .error .empty
    | some (n, here, rest) => readUnits (rest.length + 1) .zero n here rest

end Duration

end LiveAssert
