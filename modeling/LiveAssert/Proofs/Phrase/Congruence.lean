import LiveAssert.Proofs.Phrase.Forms
import LiveAssert.Proofs.Value.Equality

namespace LiveAssert

theorem Text.isInfix_iff_occurs {part s : List Char} : part <:+: s ↔ occurs part s := by
  induction s with
  | nil => simp [occurs]
  | cons c s ih => simp [occurs, ih, List.infix_cons_iff]

theorem Text.occurs_antisymm {s t : List Char} (h : occurs s t) (h' : occurs t s) : s = t :=
  (isInfix_iff_occurs.2 h).eq_of_length_le (isInfix_iff_occurs.2 h').length_le

namespace Predicate

open Value (eqItems)

variable {xs ys : List Value}

theorem any_congr (h : eqItems xs ys) (v : Value) : xs.any (· == v) = ys.any (· == v) := by
  induction xs generalizing ys with
  | nil =>
    cases ys with
    | nil => rfl
    | cons y ys => nomatch h
  | cons x xs ih =>
    cases ys with
    | nil => nomatch h
    | cons y ys =>
      simp only [eqItems, Bool.and_eq_true] at h
      simp only [List.any_cons, Value.beq_congr_left h.1, ih h.2]

theorem removeFirst?_congr (h : eqItems xs ys) (v : Value) :
    (removeFirst? v xs = none ∧ removeFirst? v ys = none) ∨
      ∃ xs' ys', removeFirst? v xs = some xs' ∧ removeFirst? v ys = some ys' ∧
        eqItems xs' ys' := by
  induction xs generalizing ys with
  | nil =>
    cases ys with
    | nil => exact .inl ⟨rfl, rfl⟩
    | cons y ys => nomatch h
  | cons x xs ih =>
    cases ys with
    | nil => nomatch h
    | cons y ys =>
      simp only [eqItems, Bool.and_eq_true] at h
      simp only [removeFirst?, Value.beq_congr_left h.1]
      split
      · exact .inr ⟨xs, ys, rfl, rfl, h.2⟩
      · cases ih h.2 with
        | inl hn => simp [hn]
        | inr hs =>
          obtain ⟨xs', ys', hx, hy, hr⟩ := hs
          simp [hx, hy, eqItems, h.1, hr]

theorem consistsOf_congr (h : eqItems xs ys) (items : List Value) :
    consistsOf items xs = consistsOf items ys := by
  induction items generalizing xs ys with
  | nil => cases xs <;> cases ys <;> simp_all [eqItems, consistsOf]
  | cons v items ih =>
    cases removeFirst?_congr h v with
    | inl hn => simp only [consistsOf, hn.1, hn.2]
    | inr hs =>
      obtain ⟨xs', ys', hx, hy, hr⟩ := hs
      simp only [consistsOf, hx, hy, ih hr]

theorem compareNumbers_congr (op : NumericOp) (a : Binary64) {x y : Binary64} (h : x.eq y) :
    compareNumbers op a x = compareNumbers op a y := by
  apply Binary64.congr_of_eq (compareNumbers op a) _ h
  intro b c
  cases op <;> simp [compareNumbers, Binary64.eq, Binary64.lt, Binary64.le, Binary64.sub]

variable {p q : Predicate}

theorem kind_eq_of_eq (h : p.eq q) : p.kind = q.kind := by
  simp_all [eq]

theorem operands_eq_of_eq (h : p.eq q) : eqItems p.operands q.operands := by
  simp_all [eq]

theorem operand_eq_of_eq (h : p.eq q) : p.operand.eq q.operand := by
  have ho := operands_eq_of_eq h
  rw [operand, operand]
  cases hx : p.operands <;> cases hy : q.operands <;> simp_all [eqItems, Value.eq]

theorem mismatch_congr (h : p.eq q) (expected : String) (v : Value) :
    p.mismatch expected v = q.mismatch expected v := by
  rw [mismatch, mismatch, kind_eq_of_eq h]

/-- Of what equality does not look at, a test reads the expression, and the literal text when it is
to be found in a string. -/
theorem test_congr (h : p.eq q) (hregex : p.regex = q.regex) (v : Value)
    (hliteral : p.kind = .contains → (∃ s, v = .string s) → p.literal = q.literal) :
    p.test v = q.test v := by
  have ho := operand_eq_of_eq h
  have hm := mismatch_congr h
  have hk := kind_eq_of_eq h
  simp only [test, ← hk, ← hm]
  cases hp : p.kind with
  | equal => simp only [Value.beq_congr_right v ho]
  | elementOf => simp only [any_congr (operands_eq_of_eq h)]
  | consistOf =>
    cases v with
    | sequence items => simp only [consistsOf_congr (operands_eq_of_eq h)]
    | _ => rfl
  | numeric op =>
    cases v with
    | number a =>
      obtain heq | ⟨x, y, hx, hy, hxy⟩ | ⟨_, _, hx, hy, _⟩ | ⟨_, _, hx, hy, _⟩ := Value.eq_cases ho
      · rw [heq]
      · simp only [hx, hy, compareNumbers_congr op a hxy]
      · rw [hx, hy]
      · rw [hx, hy]
    | _ => rfl
  | boolIs =>
    cases v with
    | bool b => simp only [Value.beq_congr_right (.bool b) ho]
    | _ => rfl
  | contains =>
    cases v with
    | string s => simp only [hliteral hp ⟨s, rfl⟩, Value.asText_congr ho]
    | sequence items => simp only [Value.beq_congr_right _ ho]
    | _ => rfl
  | hasPrefix =>
    cases v with
    | string s => simp only [Value.asText_congr ho]
    | _ => rfl
  | hasSuffix =>
    cases v with
    | string s => simp only [Value.asText_congr ho]
    | _ => rfl
  | matchesRegex => rw [hregex]
  | hasLength =>
    dsimp only
    cases v.length? with
    | none => rfl
    | some n =>
      obtain heq | ⟨x, y, hx, hy, hxy⟩ | ⟨_, _, hx, hy, _⟩ | ⟨_, _, hx, hy, _⟩ := Value.eq_cases ho
      · rw [heq]
      · simp only [hx, hy]
        exact congrArg Except.ok (compareNumbers_congr .eq (.ofNat n) hxy)
      · rw [hx, hy]
      · rw [hx, hy]

theorem Compiled.regex_eq (h : p.Compiled) :
    p.regex = if p.kind = .matchesRegex then Regex.compile? p.operand.asText else none := by
  cases h with
  | matchesRegex hr => exact hr.symm
  | _ => rfl

theorem Compiled.regex_congr (hp : p.Compiled) (hq : q.Compiled) (h : p.eq q) :
    p.regex = q.regex := by
  rw [hp.regex_eq, hq.regex_eq, kind_eq_of_eq h, Value.asText_congr (operand_eq_of_eq h)]

theorem test_string_of_contains {l : String} (hk : p.kind = .contains) (hl : p.literal = some l)
    (s : String) : p.test (.string s) = .ok (Text.occurs l.toList s.toList) := by
  simp only [test, hk, hl, Option.getD_some]

theorem exists_test_string_ne (hp : p.kind = .contains) (hq : q.kind = .contains) {l m : String}
    (hl : p.literal = some l) (hm : q.literal = some m) (hlm : l ≠ m) :
    ∃ s, p.test (.string s) ≠ q.test (.string s) := by
  simp only [test_string_of_contains hp hl, test_string_of_contains hq hm]
  cases h : Text.occurs m.toList l.toList with
  | false => exact ⟨l, by simp [Text.occurs_self, h]⟩
  | true =>
    refine ⟨m, ?_⟩
    rw [Text.occurs_self]
    intro heq
    exact hlm (String.toList_inj.1 (Text.occurs_antisymm (Except.ok.inj heq) h))

end Predicate

namespace Grammar

theorem exists_text_of_contains {g : Grammar} {phrase : String} {p : Predicate}
    (h : g.compile phrase = .ok p) (hk : p.kind = .contains) :
    ∃ text, phrase = "contain " ++ text ∧ p.literal = some text := by
  obtain ⟨r, hr, hp⟩ := exists_parse?_of_compile h
  obtain ⟨f, _, hf⟩ := List.exists_of_findSome?_eq_some hr
  have hform := Phrase.form_of_compile hp
  rw [hk] at hform
  cases r with
  | contain s =>
    obtain rfl : .contain = f := Form.form_of_parse? hf
    obtain ⟨_, hs, ⟨⟩⟩ := Option.map_eq_some_iff.1 hf
    obtain ⟨hs, _⟩ := Form.filledSlot?_eq_some_iff.1 hs
    obtain ⟨v, _, ⟨⟩⟩ := Phrase.exists_of_bind_eq_ok hp
    exact ⟨String.ofList s, String.toList_inj.1 (hs.trans (by simp)), rfl⟩
  | _ => nomatch hform

/-- Predicates that are equal and come from phrases answer alike, unless they are to find different
texts in a string: `contain` looks for the text behind it as it is written, and two different texts
are told apart by some string. -/
theorem test_eq_of_beq {g h : Grammar} {phrase phrase' : String} {p q : Predicate}
    (hp : g.compile phrase = .ok p) (hq : h.compile phrase' = .ok q) (heq : p == q) :
    (∀ v, (p.kind = .contains → phrase = phrase' ∨ ∀ s, v ≠ .string s) → p.test v = q.test v) ∧
    (p.kind = .contains → ∃ text text',
      phrase = "contain " ++ text ∧ p.literal = some text ∧
      phrase' = "contain " ++ text' ∧ q.literal = some text' ∧
      (∀ s, p.test (.string s) = .ok (Text.occurs text.toList s.toList)) ∧
      (∀ s, q.test (.string s) = .ok (Text.occurs text'.toList s.toList)) ∧
      (text ≠ text' → ∃ s, p.test (.string s) ≠ q.test (.string s))) := by
  have hpc := compiled_of_compile hp
  have hqc := compiled_of_compile hq
  have hk' (hk : p.kind = .contains) : q.kind = .contains :=
    (Predicate.kind_eq_of_eq heq).symm.trans hk
  constructor
  · intro v hv
    apply Predicate.test_congr heq (hpc.regex_congr hqc heq) v
    rintro hk ⟨s, hs⟩
    obtain ⟨text, htext, hl⟩ := exists_text_of_contains hp hk
    obtain ⟨text', htext', hm⟩ := exists_text_of_contains hq (hk' hk)
    have hphrase : phrase = phrase' := (hv hk).resolve_right fun hn => hn s hs
    rw [htext, htext', String.append_right_inj] at hphrase
    rw [hl, hm, hphrase]
  · intro hk
    obtain ⟨text, htext, hl⟩ := exists_text_of_contains hp hk
    obtain ⟨text', htext', hm⟩ := exists_text_of_contains hq (hk' hk)
    exact ⟨text, text', htext, hl, htext', hm, Predicate.test_string_of_contains hk hl,
      Predicate.test_string_of_contains (hk' hk) hm,
      Predicate.exists_test_string_ne hk (hk' hk) hl hm⟩

theorem test_eq_of_beq_null :
    ∃ p q, standard.compile "contain ~" = .ok p ∧ standard.compile "contain null" = .ok q ∧
      (p == q) = true ∧ p.test (.sequence [.null]) = q.test (.sequence [.null]) ∧
      ∃ s, p.test (.string s) ≠ q.test (.string s) := by
  let p : Predicate := { Predicate.plain .contains [.null] with literal := some "~" }
  let q : Predicate := { Predicate.plain .contains [.null] with literal := some "null" }
  have hp : standard.compile "contain ~" = .ok p := rfl
  have hq : standard.compile "contain null" = .ok q := rfl
  have heq : p == q := rfl
  obtain ⟨hsame, hcontain⟩ := test_eq_of_beq hp hq heq
  obtain ⟨text, text', _, hl, _, hm, _, _, hne⟩ := hcontain rfl
  obtain rfl : "~" = text := Option.some.inj hl
  obtain rfl : "null" = text' := Option.some.inj hm
  exact ⟨p, q, hp, hq, heq, hsame _ fun _ => .inr fun _ => nofun, hne (by decide)⟩

theorem exists_beq_and_test_ne :
    ∃ p q v, standard.compile "contain ~" = .ok p ∧ standard.compile "contain null" = .ok q ∧
      (p == q) = true ∧ p.test v = .ok true ∧ q.test v = .ok false :=
  ⟨_, _, .string "a~b", rfl, rfl, rfl, rfl, rfl⟩

end Grammar

end LiveAssert
