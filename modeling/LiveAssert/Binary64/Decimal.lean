import LiveAssert.Binary64.Basic

namespace LiveAssert

structure Decimal where
  negative : Bool
  significand : Nat
  exponent : Int
deriving DecidableEq

namespace Decimal

def digit? (base : Nat) (c : Char) : Option Nat :=
  let value? :=
    if '0' ≤ c ∧ c ≤ '9' then some (c.toNat - 48)
    else if 'a' ≤ c ∧ c ≤ 'f' then some (c.toNat - 87)
    else if 'A' ≤ c ∧ c ≤ 'F' then some (c.toNat - 55)
    else none
  value?.filter (· < base)

def ofDigits (base : Nat) (s : List Char) : Nat :=
  s.foldl (fun n c => n * base + (digit? base c).getD 0) 0

def readNat? (base : Nat) (s : List Char) : Option Nat :=
  if !s.isEmpty && s.all (fun c => (digit? base c).isSome) then some (ofDigits base s) else none

theorem digit?_of_isDigit {c : Char} (h : c.isDigit) : digit? 10 c = some (c.toNat - 48) := by
  simp only [Char.isDigit, Bool.and_eq_true, decide_eq_true_eq] at h
  have hle : '0' ≤ c ∧ c ≤ '9' := h
  have hlt : c.toNat - 48 < 10 := by
    have h9 : c.toNat ≤ 57 := h.2
    omega
  rw [digit?, if_pos hle]
  exact Option.filter_eq_some_iff.2 ⟨rfl, by simpa using hlt⟩

theorem ofDigits_of_isDigit {s : List Char} (h : ∀ c ∈ s, c.isDigit) :
    ofDigits 10 s = Nat.ofDigitChars 10 s 0 := by
  have hfrom (n : Nat) : s.foldl (fun n c => n * 10 + (digit? 10 c).getD 0) n =
      Nat.ofDigitChars 10 s n := by
    induction s generalizing n with
    | nil => rfl
    | cons c s ih =>
      rw [List.foldl_cons, Nat.ofDigitChars_cons, digit?_of_isDigit (h c List.mem_cons_self),
        Nat.mul_comm n 10]
      exact ih (fun c' hc' => h c' (List.mem_cons_of_mem c hc')) _
  exact hfrom 0

theorem readNat?_of_isDigit {s : List Char} (hne : s ≠ []) (h : ∀ c ∈ s, c.isDigit) :
    readNat? 10 s = some (Nat.ofDigitChars 10 s 0) := by
  have hall : s.all (fun c => (digit? 10 c).isSome) = true := by
    rw [List.all_eq_true]
    intro c hc
    rw [digit?_of_isDigit (h c hc)]
    rfl
  have hempty : s.isEmpty = false := by simpa using hne
  rw [readNat?, hempty, hall, ofDigits_of_isDigit h]
  rfl

def readSign : List Char → Bool × List Char
  | '-' :: s => (true, s)
  | '+' :: s => (false, s)
  | s => (false, s)

def readInt? (s : List Char) : Option Int :=
  match readSign s with
  | (negative, digits) =>
    (readNat? 10 digits).map fun n => if negative then -(n : Int) else n

def readExponent? : List Char → Option Int
  | [] => some 0
  | c :: s => if c = 'e' ∨ c = 'E' then readInt? s else none

def isDigit (c : Char) : Bool := c.isDigit

def splitFraction : List Char → List Char × List Char
  | '.' :: s => (s.takeWhile isDigit, s.dropWhile isDigit)
  | s => ([], s)

/-- Reads decimal notation. At least one digit must stand before the exponent; the point may come
first or last among them. -/
def read? (s : List Char) : Option Decimal :=
  let (negative, s) := readSign s
  let whole := s.takeWhile isDigit
  let (fraction, rest) := splitFraction (s.dropWhile isDigit)
  if whole.isEmpty && fraction.isEmpty then none
  else (readExponent? rest).map fun e =>
    ⟨negative, ofDigits 10 (whole ++ fraction), e - fraction.length⟩

def digitCount (n : Nat) : Nat := if n = 0 then 0 else (Nat.toDigits 10 n).length

/-- The double nearest to a decimal number. Numbers beyond all doubles are told by the place of
their first digit, so that no enormous power of ten is computed. -/
def toBinary64 (d : Decimal) : Binary64 :=
  let place := d.exponent + digitCount d.significand
  if d.significand = 0 ∨ place < -400 then ⟨d.negative, Binary64.zero.magnitude⟩
  else if 400 < place then ⟨d.negative, Binary64.infinity⟩
  else if 0 ≤ d.exponent then
    .ofRatio d.negative (d.significand * 10 ^ d.exponent.toNat) 1
  else .ofRatio d.negative d.significand (10 ^ (-d.exponent).toNat)

end Decimal

def Binary64.read? (s : List Char) : Option Binary64 := (Decimal.read? s).map Decimal.toBinary64

end LiveAssert
