import LiveAssert.Regex.Pattern

/-!
The size of a pattern as a byte automaton, in memory.

An automaton may take up to ten mebibytes, in either reading direction. A state takes 32 bytes, a
branch of a choice four more and a labelled edge eight. A set of characters beyond ASCII reads
UTF-8: forwards by the least automaton that accepts the encodings of its characters, backwards by
a tree that shares the leading bytes.
-/

namespace LiveAssert.Regex

inductive Direction
  | forward
  | backward
deriving DecidableEq

namespace Size

def limit : Nat := 10 * 2 ^ 20

def state : Nat := 32

def edge : Nat := 8

def branch : Nat := 4

def encode (c : Nat) : List Nat :=
  if c < 0x80 then [c]
  else if c < 0x800 then [0xC0 + c / 0x40, 0x80 + c % 0x40]
  else if c < 0x10000 then [0xE0 + c / 0x1000, 0x80 + c / 0x40 % 0x40, 0x80 + c % 0x40]
  else [0xF0 + c / 0x40000, 0x80 + c / 0x1000 % 0x40, 0x80 + c / 0x40 % 0x40, 0x80 + c % 0x40]

/-- A range whose encodings are all the choices of one byte from each of some ranges. -/
abbrev ByteRanges := List (Nat × Nat)

/-- Where a range has to be cut so that both parts are closer to such a range. -/
def cut? (lo hi : Nat) : Option Nat :=
  let atLength := [0x7F, 0x7FF, 0xFFFF].find? fun m => lo ≤ m && m < hi
  let atBlock := [0x40, 0x1000, 0x40000].findSome? fun m =>
    if lo / m = hi / m ∨ hi < 0x80 then none
    else if lo % m ≠ 0 then some (lo / m * m + m - 1)
    else if hi % m ≠ m - 1 then some (hi / m * m - 1)
    else none
  atLength.or atBlock

def encodings : Nat → Nat → Nat → List ByteRanges
  | 0, _, _ => []
  | fuel + 1, lo, hi =>
    match cut? lo hi with
    | some m => encodings fuel lo m ++ encodings fuel (m + 1) hi
    | none => [(encode lo).zip (encode hi)]

def withoutSurrogates (lo hi : Nat) : List (Nat × Nat) :=
  [(lo, min hi 0xD7FF), (max lo 0xE000, hi)].filter fun (lo, hi) => lo ≤ hi

def setEncodings (set : CharSet) : List ByteRanges :=
  set.flatMap fun (lo, hi) => (withoutSurrogates lo hi).flatMap fun (lo, hi) => encodings 32 lo hi

def byHead : List ByteRanges → List ((Nat × Nat) × List ByteRanges)
  | [] => []
  | [] :: rest => byHead rest
  | (r :: tail) :: rest =>
    match byHead rest with
    | (r', tails) :: more => if r = r' then (r, tail :: tails) :: more else (r, [tail]) :: (r', tails) :: more
    | [] => [(r, [tail])]

abbrev Node := List ((Nat × Nat) × Nat)

def build : Nat → List ByteRanges → Array Node → Nat × Array Node
  | 0, _, nodes => (0, nodes)
  | fuel + 1, encodings, nodes =>
    let heads := byHead encodings
    if heads.isEmpty then (0, nodes)
    else
      let (node, nodes) := heads.foldl (fun (node, nodes) (r, tails) =>
        let (n, nodes) := build fuel tails nodes
        ((r, n) :: node, nodes)) ([], nodes)
      match nodes.findIdx? (· == node) with
      | some i => (i + 1, nodes)
      | none => (nodes.size + 1, nodes.push node)

def shared : ByteRanges → ByteRanges → Nat
  | a :: as, b :: bs => if a = b then shared as bs + 1 else 0
  | _, _ => 0

def beginnings (last : ByteRanges) : List ByteRanges → Nat
  | [] => 0
  | e :: es => e.length - shared last e + beginnings e es

def setSize (d : Direction) (set : CharSet) : Nat :=
  match set with
  | [] => state
  | [(lo, hi)] => if lo = hi then state * (encode lo).length else rangesSize
  | _ => rangesSize
where
  rangesSize : Nat :=
    if set.isAscii then 2 * state + edge * set.length
    else
      let es := setEncodings set
      match d with
      | .forward =>
        let nodes := (build 5 es #[]).2
        nodes.foldl (fun n node => n + state + edge * node.length) state
      | .backward => 2 * state + branch * es.length + state * beginnings [] es

def repetitionSize (min : Nat) (max : Option Nat) (sub : Nat) : Nat :=
  match max with
  | none => if min = 0 then sub + state + 2 * branch else min * sub + state + 2 * branch
  | some max =>
    if min = max then min * sub
    else max * sub + state + (max - min) * (state + 2 * branch)

end Size

mutual

def Pattern.size (d : Direction) : Pattern → Nat
  | .empty => Size.state
  | .chars set => Size.setSize d set
  | .condition _ => Size.state
  | .repetition min max sub => Size.repetitionSize min max (sub.size d)
  | .capture sub => sub.size d + if d = .forward then 2 * Size.state else 0
  | .alternation branches => Pattern.sizes d branches + 2 * Size.state + Size.branch * branches.length
  | .concat parts => Pattern.sizes d parts

def Pattern.sizes (d : Direction) : List Pattern → Nat
  | [] => 0
  | p :: ps => p.size d + Pattern.sizes d ps

end

def Size.frame : Nat := 6 * Size.state

def Pattern.fits (p : Pattern) : Bool :=
  p.size .forward + Size.frame ≤ Size.limit && p.size .backward + Size.frame ≤ Size.limit

end LiveAssert.Regex
