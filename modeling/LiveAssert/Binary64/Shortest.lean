import LiveAssert.Binary64.Decimal

/-!
The shortest decimal that reads back.

The reals that round to a double form an interval around it, whose ends belong to it exactly when
the double's own last bit is zero. For one digit, then two, and so on, the two neighbours of the
double on that decimal grid are tried; the first grid with a neighbour in the interval wins, of
two neighbours the nearer, and of two equally near the one with the even last digit.
-/

namespace LiveAssert.Binary64

structure Rounding where
  value : Nat
  low : Nat
  high : Nat
  closed : Bool

def rounding (magnitude : Nat) : Rounding :=
  let place := lastPlace magnitude
  let value := 4 * units magnitude
  let below := if 0 < place ∧ magnitude % 2 ^ 52 = 0 then 2 ^ place else 2 * 2 ^ place
  { value, low := value - below, high := value + 2 * 2 ^ place, closed := magnitude % 2 = 0 }

def Rounding.admits (i : Rounding) (digits num den : Nat) : Bool :=
  let x := digits * num
  if i.closed then decide (i.low * den ≤ x) && decide (x ≤ i.high * den)
  else decide (i.low * den < x) && decide (x < i.high * den)

/-- The nearest of the value's two neighbours on the grid of multiples of `num / den`, if one of
them lies in the interval. -/
def Rounding.nearest? (i : Rounding) (num den : Nat) : Option Nat :=
  let down := i.value * den / num
  let up := down + 1
  match i.admits down num den, i.admits up num den with
  | false, false => none
  | true, false => some down
  | false, true => some up
  | true, true =>
    let below := i.value * den - down * num
    let above := up * num - i.value * den
    if below < above ∨ (below = above ∧ down % 2 = 0) then some down else some up

def powerOfTen (e : Int) : Nat × Nat :=
  if 0 ≤ e then (10 ^ e.toNat * 2 ^ 1076, 1) else (2 ^ 1076, 10 ^ (-e).toNat)

def Rounding.atLeastPower (i : Rounding) (e : Int) : Bool :=
  let (num, den) := powerOfTen e
  decide (num ≤ i.value * den)

def Rounding.firstPlace (i : Rounding) : Int :=
  let guess := ((i.value.log2 : Int) - 1076) * 30103 / 100000
  if i.atLeastPower (guess + 1) then guess + 1
  else if i.atLeastPower guess then guess
  else guess - 1

def stripZeros : Nat → Nat → Int → Nat × Int
  | 0, d, e => (d, e)
  | fuel + 1, d, e => if 0 < d ∧ d % 10 = 0 then stripZeros fuel (d / 10) (e + 1) else (d, e)

/-- The fewest digits, with their exponent, that read back as a positive finite magnitude. -/
def shortest (magnitude : Nat) : Nat × Int :=
  let i := rounding magnitude
  let first := i.firstPlace
  let hit? := (List.range 17).findSome? fun (n : Nat) =>
    let e := first - n
    let (num, den) := powerOfTen e
    (i.nearest? num den).map (·, e)
  match hit? with
  | some (d, e) => stripZeros 18 d e
  | none => (0, 0)

end LiveAssert.Binary64
