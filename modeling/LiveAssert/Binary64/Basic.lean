/-!
Double-precision numbers as data.

A number is its sign and the 63 bits below the sign, read as a natural number. That reading is
monotone: it counts the non-negative numbers from zero upwards, so comparing two numbers is
comparing integers, and rounding is choosing an index. All finite numbers are whole multiples of
the smallest positive one, `2 ^ (-1074)`; `units` is that multiple.
-/

namespace LiveAssert

-- powers of integers are the computable ones of the core library under any imports
attribute [instance (high), default_instance (high + 1)] instPowNat

/-- A double-precision number. Its magnitude is finite below `infinity`, infinite at it, and not
a number above it. -/
structure Binary64 where
  negative : Bool
  magnitude : Fin (2 ^ 63)
deriving DecidableEq

namespace Binary64

def infinity : Fin (2 ^ 63) := 0x7ff0000000000000

def zero : Binary64 := ⟨false, 0⟩

def posInf : Binary64 := ⟨false, infinity⟩

def negInf : Binary64 := ⟨true, infinity⟩

def nan : Binary64 := ⟨false, 0x7ff8000000000000⟩

def isNaN (x : Binary64) : Bool := infinity < x.magnitude

def isFinite (x : Binary64) : Bool := x.magnitude < infinity

def rank (x : Binary64) : Int := if x.negative then -x.magnitude.val else x.magnitude.val

def eq (x y : Binary64) : Bool := !x.isNaN && !y.isNaN && x.rank == y.rank

def lt (x y : Binary64) : Bool := !x.isNaN && !y.isNaN && decide (x.rank < y.rank)

def le (x y : Binary64) : Bool := !x.isNaN && !y.isNaN && decide (x.rank ≤ y.rank)

def abs (x : Binary64) : Binary64 := { x with negative := false }

def neg (x : Binary64) : Binary64 := { x with negative := !x.negative }

def lastPlace (magnitude : Nat) : Nat := magnitude / 2 ^ 52 - 1

def units (magnitude : Nat) : Nat :=
  (magnitude - lastPlace magnitude * 2 ^ 52) * 2 ^ lastPlace magnitude

/-- The whole number nearest to `num / den`; of two, the even one. -/
def roundEven (num den : Nat) : Nat :=
  let q := num / den
  let r := num % den
  if 2 * r < den then q else if den < 2 * r then q + 1 else q + q % 2

/-- The magnitude nearest to `num / den` units; ties go to the even one, and what is too large
becomes infinite. -/
def roundUnits (num den : Nat) : Nat :=
  let place := (num / den).log2 - 52
  min infinity.val (place * 2 ^ 52 + roundEven num (den * 2 ^ place))

theorem roundUnits_lt (num den : Nat) : roundUnits num den < 2 ^ 63 :=
  Nat.lt_of_le_of_lt (Nat.min_le_left _ _) (by decide)

def ofUnits (negative : Bool) (num den : Nat) : Binary64 :=
  ⟨negative, ⟨roundUnits num den, roundUnits_lt num den⟩⟩

def ofRatio (negative : Bool) (num den : Nat) : Binary64 :=
  ofUnits negative (num * 2 ^ 1074) den

def ofInt (n : Int) : Binary64 := ofRatio (decide (n < 0)) n.natAbs 1

def ofNat (n : Nat) : Binary64 := ofInt n

def signedUnits (x : Binary64) : Int :=
  if x.negative then -(units x.magnitude) else units x.magnitude

def sub (x y : Binary64) : Binary64 :=
  if x.isNaN || y.isNaN then nan
  else if x.isFinite && y.isFinite then
    let d := x.signedUnits - y.signedUnits
    ofUnits (decide (d < 0)) d.natAbs 1
  else if y.isFinite then x
  else if x.isFinite || x.negative != y.negative then y.neg
  else nan

def toInt? (x : Binary64) : Option Int :=
  if x.isFinite && x.signedUnits % 2 ^ 1074 == 0 then some (x.signedUnits / 2 ^ 1074) else none

def toBits (x : Binary64) : Nat := (if x.negative then 2 ^ 63 else 0) + x.magnitude

theorem eq_comm (x y : Binary64) : x.eq y = y.eq x := by
  simp only [eq, Bool.and_comm x.isNaN.not]
  congr 1
  exact Bool.beq_comm

theorem eq_trans {x y z : Binary64} (hxy : x.eq y) (hyz : y.eq z) : x.eq z := by
  simp_all [eq]

@[simp] theorem eq_self_iff (x : Binary64) : x.eq x ↔ ¬ x.isNaN := by simp [eq]

theorem le_iff_lt_or_eq (x y : Binary64) : x.le y ↔ x.lt y ∨ x.eq y := by
  simp only [le, lt, eq, Bool.and_eq_true, decide_eq_true_eq, beq_iff_eq]
  constructor
  · rintro ⟨h, hle⟩
    rcases Int.lt_or_eq_of_le hle with hlt | heq
    · exact .inl ⟨h, hlt⟩
    · exact .inr ⟨h, heq⟩
  · rintro (⟨h, hlt⟩ | ⟨h, heq⟩)
    · exact ⟨h, by omega⟩
    · exact ⟨h, by omega⟩

end Binary64

end LiveAssert
