namespace LiveAssert

-- powers of integers are the computable ones of the core library under any imports
attribute [instance (high), default_instance (high + 1)] instPowNat

structure Duration where
  nanos : Nat
deriving DecidableEq, Ord

namespace Duration

def zero : Duration := ⟨0⟩

def ofMicros (n : Nat) : Duration := ⟨n * 1000⟩

def ofMillis (n : Nat) : Duration := ⟨n * 1000000⟩

def ofSeconds (n : Nat) : Duration := ⟨n * 1000000000⟩

def isZero (d : Duration) : Bool := d.nanos == 0

@[simp] theorem isZero_iff {d : Duration} : d.isZero ↔ d = .zero := by
  cases d
  simp [isZero, zero]

@[simp] theorem nanos_pos_iff {d : Duration} : 0 < d.nanos ↔ d ≠ .zero := by
  cases d
  simp [zero, Nat.pos_iff_ne_zero]

def millisUp (d : Duration) : Nat := (d.nanos + 999999) / 1000000

theorem millisUp_le_iff {d : Duration} {n : Nat} : d.millisUp ≤ n ↔ d.nanos ≤ n * 1000000 := by
  simp only [millisUp]
  omega

@[simp] theorem millisUp_pos {d : Duration} : 0 < d.millisUp ↔ 0 < d.nanos := by
  rw [← Nat.not_le, millisUp_le_iff, Nat.zero_mul, Nat.not_le]

def fraction (digits n : Nat) : List Char :=
  let ds := Nat.toDigits 10 n
  let padded := List.replicate (digits - ds.length) '0' ++ ds
  match (padded.reverse.dropWhile (· == '0')).reverse with
  | [] => []
  | cs => '.' :: cs

def inUnit (digits : Nat) (name : String) (n : Nat) : String :=
  let cs := Nat.toDigits 10 (n / 10 ^ digits)
  String.ofList (if n % 10 ^ digits = 0 then cs else cs ++ fraction digits (n % 10 ^ digits)) ++ name

def text (d : Duration) : String :=
  if 1000000000 ≤ d.nanos then inUnit 9 "s" d.nanos
  else if 1000000 ≤ d.nanos then inUnit 6 "ms" d.nanos
  else if 1000 ≤ d.nanos then inUnit 3 "µs" d.nanos
  else inUnit 0 "ns" d.nanos

end Duration

end LiveAssert
