import LiveAssert.Comparator
import LiveAssert.Regex
import LiveAssert.Text.Find
import LiveAssert.Value

/-!
Predicates: compiled comparisons, and how they judge a value.

The `test` of a value is a yes, a no, or impossible, whatever the polarity of the predicate;
`holds` takes the polarity into account. Predicates are compared by comparator, operands and
polarity: the compiled expression and the literal text follow from the phrase they came from.
-/

namespace LiveAssert

structure Predicate where
  kind : Comparator
  operands : List Value
  negate : Bool
  regex : Option Regex
  literal : Option String

structure MatchError where
  comparator : String
  expected : String
  actual : String
  value : String
deriving DecidableEq

def MatchError.message (e : MatchError) : String :=
  "'" ++ e.comparator ++ "' expects " ++ e.expected ++ ", got " ++ e.actual ++ " " ++ e.value

namespace Predicate

def plain (kind : Comparator) (operands : List Value) : Predicate :=
  ⟨kind, operands, false, none, none⟩

def negated (p : Predicate) : Predicate := { p with negate := !p.negate }

def eq (p q : Predicate) : Bool :=
  p.kind == q.kind && Value.eqItems p.operands q.operands && p.negate == q.negate

instance : BEq Predicate := ⟨eq⟩

def operand (p : Predicate) : Value := p.operands.head?.getD .null

/-- How far apart numbers may be for `~`: `1e-8`. -/
def tolerance : Binary64 := .ofRatio false 1 100000000

def compareNumbers (op : NumericOp) (actual expected : Binary64) : Bool :=
  match op with
  | .eq => actual.eq expected
  | .notEq => !actual.eq expected
  | .lt => actual.lt expected
  | .le => actual.le expected
  | .gt => expected.lt actual
  | .ge => expected.le actual
  | .approx => (actual.sub expected).abs.le tolerance

def removeFirst? (x : Value) : List Value → Option (List Value)
  | [] => none
  | y :: ys => if y == x then some ys else (removeFirst? x ys).map (y :: ·)

def consistsOf : List Value → List Value → Bool
  | [], expected => expected.isEmpty
  | item :: items, expected =>
    match removeFirst? item expected with
    | some rest => consistsOf items rest
    | none => false

def mismatch (p : Predicate) (expected : String) (candidate : Value) : MatchError :=
  ⟨p.kind.text, expected, candidate.typeName, candidate.display⟩

/-- Whether the value compares as the predicate says, without regard to polarity. -/
def test (p : Predicate) (candidate : Value) : Except MatchError Bool :=
  match p.kind, candidate with
  | .equal, v => .ok (v == p.operand)
  | .elementOf, v => .ok (p.operands.any (· == v))
  | .consistOf, .sequence items => .ok (consistsOf items p.operands)
  | .consistOf, v => .error (p.mismatch "a sequence" v)
  | .numeric op, v =>
    match v, p.operand with
    | .number actual, .number expected => .ok (compareNumbers op actual expected)
    | v, _ => .error (p.mismatch "a number" v)
  | .boolIs, .bool b => .ok (Value.bool b == p.operand)
  | .boolIs, v => .error (p.mismatch "a bool" v)
  | .contains, .string s =>
    .ok (Text.occurs (p.literal.getD p.operand.asText).toList s.toList)
  | .contains, .sequence items => .ok (items.any (· == p.operand))
  | .contains, v => .error (p.mismatch "a string or sequence" v)
  | .hasPrefix, .string s => .ok (p.operand.asText.toList.isPrefixOf s.toList)
  | .hasPrefix, v => .error (p.mismatch "a string" v)
  | .hasSuffix, .string s => .ok (p.operand.asText.toList.isSuffixOf s.toList)
  | .hasSuffix, v => .error (p.mismatch "a string" v)
  | .matchesRegex, v =>
    match v, p.regex with
    | .string s, some r => .ok (r.isMatch s)
    | v, _ => .error (p.mismatch "a string" v)
  | .hasLength, v =>
    match v.length?, p.operand with
    | some n, .number expected => .ok ((Binary64.ofNat n).eq expected)
    | _, _ => .error (p.mismatch "a string, sequence or mapping" v)

def holds (p : Predicate) (candidate : Value) : Except MatchError Bool :=
  (p.test candidate).map (· != p.negate)

def expectation (p : Predicate) : Value :=
  match p.kind with
  | .elementOf => .sequence p.operands
  | .consistOf => .sequence p.operands
  | _ => p.operand

def failureMessage (p : Predicate) (candidate : Value) : String :=
  "Expected\n    <" ++ candidate.typeName ++ ">: " ++ candidate.display ++ "\n"
    ++ (if p.negate then "not to" else "to") ++ " " ++ p.kind.text ++ "\n    <"
    ++ p.expectation.typeName ++ ">: " ++ p.expectation.display

@[simp] theorem test_negated (p : Predicate) (v : Value) : p.negated.test v = p.test v := by
  cases p
  rfl

@[simp] theorem negate_negated (p : Predicate) : p.negated.negate = !p.negate := rfl

end Predicate

end LiveAssert
