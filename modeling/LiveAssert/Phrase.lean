import LiveAssert.Inspect
import LiveAssert.Literal
import LiveAssert.Predicate
import LiveAssert.Text.Digit

/-!
Phrases: the words of an assertion after `should`, and the predicates they stand for.

A phrase has one of ten forms, each with a fixed beginning and a slot for text without line
breaks. `Form.parse?` recognises one form, `Phrase.compile` turns the recognised phrase into a
predicate, and `compile` tries the forms in order.
-/

namespace LiveAssert

inductive CompileError
  | unrecognised (phrase : String)
  | invalidRegex (pattern : String)
  | invalidOperand (phrase operand : String)
  | coercion (e : CoercionError)
deriving DecidableEq

def CompileError.message : CompileError → String
  | .unrecognised phrase => "unrecognised assertion: '" ++ phrase ++ "'"
  | .invalidRegex pattern => "invalid regex '" ++ pattern ++ "': " ++ undisclosed
  | .invalidOperand phrase operand => "invalid operand '" ++ operand ++ "' in '" ++ phrase ++ "'"
  | .coercion e => e.message

inductive Phrase
  | equal (literal : List Char)
  | elementOf (words : List Char)
  | consistOf (words : List Char)
  | numeric (symbol : String) (number : List Char)
  | bool (b : Bool)
  | contain (literal : List Char)
  | hasPrefix (text : List Char)
  | hasSuffix (text : List Char)
  | regex (pattern : List Char)
  | length (digits : List Char)
deriving DecidableEq

inductive Form
  | equal
  | elementOf
  | consistOf
  | numeric
  | bool
  | contain
  | hasPrefix
  | hasSuffix
  | regex
  | length
deriving DecidableEq

namespace Form

def name : Form → String
  | .equal => "equal"
  | .elementOf => "element-of"
  | .consistOf => "consist-of"
  | .numeric => "numeric"
  | .bool => "bool"
  | .contain => "contain"
  | .hasPrefix => "prefix"
  | .hasSuffix => "suffix"
  | .regex => "regex"
  | .length => "length"

def all : List Form :=
  [.equal, .elementOf, .consistOf, .numeric, .bool, .contain, .hasPrefix, .hasSuffix, .regex, .length]

def slot? (start : String) (s : List Char) : Option (List Char) :=
  (Text.after? start.toList s).filter fun rest => !rest.contains '\n'

def filledSlot? (start : String) (s : List Char) : Option (List Char) :=
  (slot? start s).filter fun rest => !rest.isEmpty

def isDigits (s : List Char) : Bool := !s.isEmpty && s.all Text.isDecimalDigit

def isNumber (s : List Char) : Bool :=
  let s := match s with
    | '-' :: s => s
    | s => s
  let whole := s.takeWhile Text.isDecimalDigit
  !whole.isEmpty && match s.dropWhile Text.isDecimalDigit with
    | [] => true
    | '.' :: fraction => isDigits fraction
    | _ => false

/-- The operators of the numeric form, each one before those that it begins with. -/
def operators : List String := ["==", "!=", "<=", ">=", "=", "<", ">", "~"]

def comparison? (s : List Char) : Option Phrase :=
  operators.findSome? fun symbol =>
    match Text.after? symbol.toList s with
    | some (' ' :: number) => if isNumber number then some (.numeric symbol number) else none
    | _ => none

def dropBe (s : List Char) : List Char := (Text.after? "be ".toList s).getD s

def parse? (s : List Char) : Form → Option Phrase
  | .equal => (slot? "equal " s).map .equal
  | .elementOf => (filledSlot? "be an element of " s).map .elementOf
  | .consistOf => (filledSlot? "consist of " s).map .consistOf
  | .numeric => comparison? (dropBe s)
  | .bool =>
    if s = "be true".toList then some (.bool true)
    else if s = "be false".toList then some (.bool false)
    else none
  | .contain => (filledSlot? "contain " s).map .contain
  | .hasPrefix => (filledSlot? "have prefix " s).map .hasPrefix
  | .hasSuffix => (filledSlot? "have suffix " s).map .hasSuffix
  | .regex => (filledSlot? "match regex " s).map .regex
  | .length => ((slot? "have length " s).filter isDigits).map .length

end Form

namespace Phrase

def coerced (r : Except CoercionError α) : Except CompileError α := r.mapError .coercion

def number? (s : List Char) : Option Binary64 := Binary64.read? s

def length? (s : List Char) : Option Nat := (Decimal.readNat? 10 s).filter (· < 2 ^ 32)

/-- The predicate of a recognised phrase; `whole` is the phrase as it is written. -/
def compile (whole : String) : Phrase → Except CompileError Predicate
  | .equal s => do return .plain .equal [← coerced (Literal.coerce (String.ofList s))]
  | .elementOf s => do return .plain .elementOf (← coerced (Literal.coerceWords (String.ofList s)))
  | .consistOf s => do return .plain .consistOf (← coerced (Literal.coerceWords (String.ofList s)))
  | .numeric symbol s =>
    match NumericOp.parse? symbol with
    | none => .error (.invalidOperand whole symbol)
    | some op =>
      match number? s with
      | some x => .ok (.plain (.numeric op) [.number x])
      | none => .error (.invalidOperand whole (String.ofList s))
  | .bool b => .ok (.plain .boolIs [.bool b])
  | .contain s => do
    let v ← coerced (Literal.coerce (String.ofList s))
    return { Predicate.plain .contains [v] with literal := some (String.ofList s) }
  | .hasPrefix s => .ok (.plain .hasPrefix [.string (String.ofList s)])
  | .hasSuffix s => .ok (.plain .hasSuffix [.string (String.ofList s)])
  | .regex s =>
    match Regex.compile? (String.ofList s) with
    | some r =>
      .ok { Predicate.plain .matchesRegex [.string (String.ofList s)] with regex := some r }
    | none => .error (.invalidRegex (String.ofList s))
  | .length s =>
    match length? s with
    | some n => .ok (.plain .hasLength [.number (.ofNat n)])
    | none => .error (.invalidOperand whole (String.ofList s))

theorem exists_of_bind_eq_ok {x : Except ε α} {f : α → Except ε β} {b : β}
    (h : x >>= f = .ok b) : ∃ a, x = .ok a ∧ f a = .ok b := by
  cases x with
  | error e => nomatch h
  | ok a => exact ⟨a, rfl, h⟩

theorem negate_of_compile {whole : String} {p : Phrase} {q : Predicate}
    (h : p.compile whole = .ok q) : q.negate = false := by
  cases p with
  | equal s => obtain ⟨v, _, h⟩ := exists_of_bind_eq_ok h; cases h; rfl
  | elementOf s => obtain ⟨vs, _, h⟩ := exists_of_bind_eq_ok h; cases h; rfl
  | consistOf s => obtain ⟨vs, _, h⟩ := exists_of_bind_eq_ok h; cases h; rfl
  | numeric symbol s =>
    simp only [compile] at h
    split at h
    · nomatch h
    · split at h
      · cases h; rfl
      · nomatch h
  | bool b => cases h; rfl
  | contain s => obtain ⟨v, _, h⟩ := exists_of_bind_eq_ok h; cases h; rfl
  | hasPrefix s => cases h; rfl
  | hasSuffix s => cases h; rfl
  | regex s =>
    simp only [compile] at h
    split at h
    · cases h; rfl
    · nomatch h
  | length s =>
    simp only [compile] at h
    split at h
    · cases h; rfl
    · nomatch h

end Phrase

/-- A grammar is a list of forms; the first one that recognises a phrase decides. -/
abbrev Grammar := List Form

namespace Grammar

def standard : Grammar := Form.all

def debugText (g : Grammar) : String :=
  Inspect.record "Grammar"
    ["patterns: [" ++ ", ".intercalate (g.map fun f => Inspect.quoted f.name) ++ "]"]

def parse? (g : Grammar) (phrase : String) : Option Phrase :=
  g.findSome? (Form.parse? phrase.toList)

def compile (g : Grammar) (phrase : String) : Except CompileError Predicate :=
  match g.parse? phrase with
  | some p => p.compile phrase
  | none => .error (.unrecognised phrase)

theorem negate_of_compile {g : Grammar} {phrase : String} {p : Predicate}
    (h : g.compile phrase = .ok p) : p.negate = false := by
  rw [compile] at h
  split at h
  · exact Phrase.negate_of_compile h
  · nomatch h

end Grammar

end LiveAssert
