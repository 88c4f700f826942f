import LiveAssert.Binary64.Decimal
import LiveAssert.Text.Blank

namespace LiveAssert

abbrev CharSet := List (Nat × Nat)

namespace CharSet

def lastCode : Nat := 0x10FFFF

def contains (set : CharSet) (c : Nat) : Bool := set.any fun (lo, hi) => lo ≤ c && c ≤ hi

def single (c : Char) : CharSet := [(c.toNat, c.toNat)]

def full : CharSet := [(0, lastCode)]

/-- Joins a range with those that follow it, sorted by their beginnings, where they touch. -/
def join (lo hi : Nat) : List (Nat × Nat) → CharSet
  | [] => [(lo, hi)]
  | (lo', hi') :: rest =>
    if lo' ≤ hi + 1 then join lo (max hi hi') rest else (lo, hi) :: join lo' hi' rest

def ofRanges (ranges : List (Nat × Nat)) : CharSet :=
  match (ranges.filter fun (lo, hi) => lo ≤ hi).mergeSort fun a b => a.1 ≤ b.1 with
  | [] => []
  | (lo, hi) :: rest => join lo hi rest

def gaps (start : Nat) : CharSet → CharSet
  | [] => if start ≤ lastCode then [(start, lastCode)] else []
  | (lo, hi) :: rest => if start < lo then (start, lo - 1) :: gaps (hi + 1) rest else gaps (hi + 1) rest

def compl (set : CharSet) : CharSet := gaps 0 set

def union (a b : CharSet) : CharSet := ofRanges (a ++ b)

def inter (a b : CharSet) : CharSet :=
  ofRanges (a.flatMap fun (lo, hi) => b.filterMap fun (lo', hi') =>
    if max lo lo' ≤ min hi hi' then some (max lo lo', min hi hi') else none)

def diff (a b : CharSet) : CharSet := inter a (compl b)

def symmDiff (a b : CharSet) : CharSet := diff (union a b) (inter a b)

def isAscii (set : CharSet) : Bool := set.all fun (_, hi) => hi < 0x80

def readRange? (s : List Char) : Option (Nat × Nat) :=
  let lo := s.takeWhile (· != '-')
  match s.dropWhile (· != '-') with
  | [] => (Decimal.readNat? 16 lo).map fun n => (n, n)
  | _ :: hi => (Decimal.readNat? 16 lo).bind fun n => (Decimal.readNat? 16 hi).map (n, ·)

def read (text : String) : CharSet :=
  (Text.words text.toList).filterMap readRange?

end CharSet

end LiveAssert
