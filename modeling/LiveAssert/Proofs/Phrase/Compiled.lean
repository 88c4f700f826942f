import LiveAssert.Phrase

namespace LiveAssert

def Comparator.form : Comparator → Form
  | equal => .equal
  | elementOf => .elementOf
  | consistOf => .consistOf
  | numeric _ => .numeric
  | boolIs => .bool
  | contains => .contain
  | hasPrefix => .hasPrefix
  | hasSuffix => .hasSuffix
  | matchesRegex => .regex
  | hasLength => .length

namespace Phrase

def form : Phrase → Form
  | equal _ => .equal
  | elementOf _ => .elementOf
  | consistOf _ => .consistOf
  | numeric _ _ => .numeric
  | bool _ => .bool
  | contain _ => .contain
  | hasPrefix _ => .hasPrefix
  | hasSuffix _ => .hasSuffix
  | regex _ => .regex
  | length _ => .length

variable {whole symbol : String} {s : List Char} {p : Phrase} {q : Predicate}

theorem compile_numeric_eq_ok_iff : compile whole (.numeric symbol s) = .ok q ↔
    ∃ op x, NumericOp.parse? symbol = some op ∧ number? s = some x ∧
      q = .plain (.numeric op) [.number x] := by
  rw [compile]
  cases NumericOp.parse? symbol with
  | none => simp
  | some op =>
    cases number? s with
    | none => simp
    | some x => simp [eq_comm]

theorem form_of_compile (h : p.compile whole = .ok q) : p.form = q.kind.form := by
  cases p with
  | equal s => obtain ⟨_, _, h⟩ := exists_of_bind_eq_ok h; cases h; rfl
  | elementOf s => obtain ⟨_, _, h⟩ := exists_of_bind_eq_ok h; cases h; rfl
  | consistOf s => obtain ⟨_, _, h⟩ := exists_of_bind_eq_ok h; cases h; rfl
  | contain s => obtain ⟨_, _, h⟩ := exists_of_bind_eq_ok h; cases h; rfl
  | bool b => cases h; rfl
  | hasPrefix s => cases h; rfl
  | hasSuffix s => cases h; rfl
  | numeric symbol s => obtain ⟨_, _, _, _, rfl⟩ := compile_numeric_eq_ok_iff.1 h; rfl
  | regex s => rw [compile] at h; split at h <;> cases h; rfl
  | length s => rw [compile] at h; split at h <;> cases h; rfl

end Phrase

namespace Predicate

inductive Compiled : Predicate → Prop
  | equal (v : Value) : Compiled (.plain .equal [v])
  | elementOf (vs : List Value) : Compiled (.plain .elementOf vs)
  | consistOf (vs : List Value) : Compiled (.plain .consistOf vs)
  | numeric (op : NumericOp) (x : Binary64) : Compiled (.plain (.numeric op) [.number x])
  | boolIs (b : Bool) : Compiled (.plain .boolIs [.bool b])
  | contains (v : Value) (literal : String) :
      Compiled { plain .contains [v] with literal := some literal }
  | hasPrefix (s : String) : Compiled (.plain .hasPrefix [.string s])
  | hasSuffix (s : String) : Compiled (.plain .hasSuffix [.string s])
  | matchesRegex : Regex.compile? source = some r →
      Compiled { plain .matchesRegex [.string source] with regex := some r }
  | hasLength : n < 2 ^ 32 → Compiled (.plain .hasLength [.number (.ofNat n)])

end Predicate

theorem Phrase.compiled_of_compile {whole : String} {p : Phrase} {q : Predicate}
    (h : p.compile whole = .ok q) : q.Compiled := by
  cases p with
  | numeric symbol s =>
    obtain ⟨op, x, _, _, rfl⟩ := compile_numeric_eq_ok_iff.1 h
    exact .numeric op x
  | equal s => obtain ⟨v, _, h⟩ := exists_of_bind_eq_ok h; cases h; exact .equal v
  | elementOf s => obtain ⟨vs, _, h⟩ := exists_of_bind_eq_ok h; cases h; exact .elementOf vs
  | consistOf s => obtain ⟨vs, _, h⟩ := exists_of_bind_eq_ok h; cases h; exact .consistOf vs
  | bool b => cases h; exact .boolIs b
  | contain s => obtain ⟨v, _, h⟩ := exists_of_bind_eq_ok h; cases h; exact .contains v _
  | hasPrefix s => cases h; exact .hasPrefix _
  | hasSuffix s => cases h; exact .hasSuffix _
  | regex s =>
    simp only [compile] at h
    cases hr : Regex.compile? (String.ofList s) with
    | none => rw [hr] at h; cases h
    | some r => rw [hr] at h; cases h; exact .matchesRegex hr
  | length s =>
    simp only [compile] at h
    cases hn : length? s with
    | none => rw [hn] at h; cases h
    | some n =>
      rw [hn] at h
      cases h
      rw [length?, Option.filter_eq_some_iff] at hn
      exact .hasLength (of_decide_eq_true hn.2)

namespace Grammar

variable {g : Grammar} {phrase : String} {p : Predicate}

theorem exists_parse?_of_compile (h : g.compile phrase = .ok p) :
    ∃ r, g.parse? phrase = some r ∧ r.compile phrase = .ok p := by
  rw [compile] at h
  cases hr : g.parse? phrase with
  | none => rw [hr] at h; cases h
  | some r => rw [hr] at h; exact ⟨r, rfl, h⟩

theorem compiled_of_compile (h : g.compile phrase = .ok p) : p.Compiled := by
  obtain ⟨r, _, hr⟩ := exists_parse?_of_compile h
  exact Phrase.compiled_of_compile hr

end Grammar

end LiveAssert
