import LiveAssert.Proofs.Phrase.Compiled
import LiveAssert.Proofs.Value.Whole

namespace LiveAssert

namespace Comparator

def types : Comparator → List String
  | .equal => ["null", "bool", "number", "string", "sequence", "mapping"]
  | .elementOf => ["null", "bool", "number", "string", "sequence", "mapping"]
  | .consistOf => ["sequence"]
  | .numeric _ => ["number"]
  | .boolIs => ["bool"]
  | .contains => ["string", "sequence"]
  | .hasPrefix => ["string"]
  | .hasSuffix => ["string"]
  | .matchesRegex => ["string"]
  | .hasLength => ["string", "sequence", "mapping"]

inductive Operand : Comparator → Value → Prop
  | equal : Operand .equal v
  | numeric : Operand (.numeric op) (.number x)
  | boolIs : Operand .boolIs (.bool b)
  | contains : Operand .contains v
  | hasPrefix : Operand .hasPrefix (.string s)
  | hasSuffix : Operand .hasSuffix (.string s)
  | matchesRegex : Operand .matchesRegex (.string s)
  | hasLength {n : Nat} : x.toInt? = some (n : Int) → n < 2 ^ 32 → Operand .hasLength (.number x)

end Comparator

namespace Predicate

/-- What a test relies on besides the type of the value. -/
structure Usable (p : Predicate) : Prop where
  regex : p.regex.isSome ↔ p.kind = .matchesRegex
  literal : p.literal.isSome ↔ p.kind = .contains
  operand : p.kind ≠ .elementOf → p.kind ≠ .consistOf →
    ∃ v, p.operands = [v] ∧ p.kind.Operand v

variable {p : Predicate} {kind : Comparator} {operands : List Value}

theorem usable_plain (hr : kind ≠ .matchesRegex) (hl : kind ≠ .contains)
    (ho : kind ≠ .elementOf → kind ≠ .consistOf → ∃ v, operands = [v] ∧ kind.Operand v) :
    (plain kind operands).Usable :=
  ⟨by simp [plain, hr], by simp [plain, hl], ho⟩

theorem Compiled.usable (h : p.Compiled) : p.Usable := by
  cases h with
  | equal => exact usable_plain nofun nofun fun _ _ => ⟨_, rfl, .equal⟩
  | elementOf => exact usable_plain nofun nofun fun h => absurd rfl h
  | consistOf => exact usable_plain nofun nofun fun _ h => absurd rfl h
  | numeric => exact usable_plain nofun nofun fun _ _ => ⟨_, rfl, .numeric⟩
  | boolIs => exact usable_plain nofun nofun fun _ _ => ⟨_, rfl, .boolIs⟩
  | contains => exact ⟨by simp [plain], by simp [plain], fun _ _ => ⟨_, rfl, .contains⟩⟩
  | hasPrefix => exact usable_plain nofun nofun fun _ _ => ⟨_, rfl, .hasPrefix⟩
  | hasSuffix => exact usable_plain nofun nofun fun _ _ => ⟨_, rfl, .hasSuffix⟩
  | matchesRegex => exact ⟨by simp [plain], by simp [plain], fun _ _ => ⟨_, rfl, .matchesRegex⟩⟩
  | @hasLength n hn =>
    have hint : (Binary64.ofNat n).toInt? = some (n : Int) := Binary64.toInt?_ofInt (by omega)
    exact usable_plain nofun nofun fun _ _ => ⟨_, rfl, .hasLength hint hn⟩

theorem Usable.operand_eq (h : p.Usable) (he : p.kind ≠ .elementOf) (hc : p.kind ≠ .consistOf) :
    p.kind.Operand p.operand := by
  obtain ⟨v, hv, ho⟩ := h.operand he hc
  rwa [Predicate.operand, hv]

theorem Usable.test_error_iff (h : p.Usable) (c : Value) :
    (∃ e, p.test c = .error e) ↔ c.typeName ∉ p.kind.types := by
  have ho := h.operand_eq
  have hr := h.regex
  simp only [test]
  cases hk : p.kind with
  | numeric op =>
    rw [hk] at ho
    generalize p.operand = v at ho ⊢
    cases ho (by simp) (by simp) with
    | numeric => cases c <;> simp [Comparator.types, Value.typeName]
  | matchesRegex =>
    rw [hk] at hr
    obtain ⟨r, hr⟩ := Option.isSome_iff_exists.1 (hr.2 rfl)
    rw [hr]
    cases c <;> simp [Comparator.types, Value.typeName]
  | hasLength =>
    rw [hk] at ho
    generalize p.operand = v at ho ⊢
    cases ho (by simp) (by simp) with
    | hasLength => cases c <;> simp [Comparator.types, Value.typeName, Value.length?]
  | _ => cases c <;> simp [Comparator.types, Value.typeName]

end Predicate

namespace Grammar

/-- A phrase that compiles states a condition that is not negated and that a value can fail to be
tested for only by its type. Negating the condition changes nothing about that. -/
theorem usable_of_compile {g : Grammar} {phrase : String} {p : Predicate}
    (h : g.compile phrase = .ok p) :
    p.negate = false ∧ p.Usable ∧
      ∀ c, ((∃ e, p.test c = .error e) ↔ c.typeName ∉ p.kind.types) ∧
        ∀ e, p.test c = .error e ↔ p.negated.test c = .error e := by
  have hu : p.Usable := (compiled_of_compile h).usable
  refine ⟨negate_of_compile h, hu, fun c => ⟨hu.test_error_iff c, fun e => ?_⟩⟩
  rw [Predicate.test_negated]

theorem usable_of_compile_length :
    let p := Predicate.plain .hasLength [.number (.ofNat 7)]
    standard.compile "have length 007" = .ok p ∧
      (∃ e, p.test (.bool true) = .error e ∧ p.negated.test (.bool true) = .error e) ∧
      ¬∃ e, p.test (.mapping []) = .error e := by
  intro p
  have hp : standard.compile "have length 007" = .ok p := rfl
  obtain ⟨_, _, htest⟩ := usable_of_compile hp
  obtain ⟨hbool, hnegated⟩ := htest (.bool true)
  obtain ⟨hmapping, _⟩ := htest (.mapping [])
  refine ⟨hp, ?_, fun h => hmapping.1 h (by decide)⟩
  obtain ⟨e, he⟩ := hbool.2 (by decide)
  exact ⟨e, he, (hnegated e).1 he⟩

end Grammar

end LiveAssert
