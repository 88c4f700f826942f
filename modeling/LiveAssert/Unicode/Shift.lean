namespace LiveAssert.Unicode

/-- Every `step`th code point of a range moves by `offset`. -/
structure Shift where
  first : Nat
  last : Nat
  step : Nat
  offset : Int

def Shift.covers (s : Shift) (c : Nat) : Bool :=
  s.first ≤ c && c ≤ s.last && (c - s.first) % s.step == 0

def applyShifts (shifts : List Shift) (c : Nat) : Nat :=
  match shifts.find? (·.covers c) with
  | some s => (c + s.offset).toNat
  | none => c

def Shift.pairs (s : Shift) : List (Nat × Nat) :=
  (List.range ((s.last - s.first) / s.step + 1)).map fun i =>
    let c := s.first + i * s.step
    (c, (c + s.offset).toNat)

end LiveAssert.Unicode
