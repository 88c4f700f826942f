import LiveAssert.Proofs.Phrase.Congruence
import LiveAssert.Proofs.Phrase.Forms
import LiveAssert.Proofs.Yaml.Line

/-!
One literal under `equal` and under `contain`.

`equal` compares with the string that the literal denotes, `contain` looks for the literal as it is
written. A string is no longer than a literal that denotes it, so it contains the literal only if
it is the literal.
-/

namespace LiveAssert

theorem Text.occurs_eq_beq {part s : String} (h : s.length ≤ part.length) :
    occurs part.toList s.toList = (s == part) := by
  rw [Bool.eq_iff_iff, beq_iff_eq]
  constructor
  · intro ho
    have heq := (isInfix_iff_occurs.2 ho).eq_of_length_le h
    exact (String.toList_inj.1 heq).symm
  · rintro rfl
    exact occurs_self s.toList

namespace Grammar

variable {x s : String}

theorem parse?_equal (hx : '\n' ∉ x.toList) :
    standard.parse? ("equal " ++ x) = some (.equal x.toList) := by
  rw [parse?_eq_some_iff mem_standard]
  refine ⟨.equal, ?_⟩
  rw [Form.parse?, Form.slot?_eq_some_iff.2 ⟨String.toList_append, hx⟩]
  rfl

theorem parse?_contain (hx : '\n' ∉ x.toList) (hne : x.toList ≠ []) :
    standard.parse? ("contain " ++ x) = some (.contain x.toList) := by
  rw [parse?_eq_some_iff mem_standard]
  refine ⟨.contain, ?_⟩
  rw [Form.parse?, Form.filledSlot?_eq_some_iff.2 ⟨String.toList_append, hx, hne⟩]
  rfl

theorem compile_equal (hx : '\n' ∉ x.toList) :
    standard.compile ("equal " ++ x) =
      (Phrase.coerced (Literal.coerce x)).map fun v => .plain .equal [v] := by
  rw [compile, parse?_equal hx]
  simp only [Phrase.compile, String.ofList_toList]
  cases Literal.coerce x <;> rfl

theorem coerce_of_equal {p : Predicate} (hx : '\n' ∉ x.toList)
    (hp : standard.compile ("equal " ++ x) = .ok p) (hs : p.test (.string s) = .ok true) :
    Literal.coerce x = .ok (.string s) := by
  rw [compile_equal hx] at hp
  cases hv : Literal.coerce x with
  | error e => rw [hv] at hp; nomatch hp
  | ok v =>
    rw [hv] at hp
    cases hp
    have hbeq : (Value.string s == v) = true := Except.ok.inj hs
    rw [Value.eq_of_string_beq hbeq]

theorem compile_contain {v : Value} (hx : '\n' ∉ x.toList) (hne : x.toList ≠ [])
    (hv : Literal.coerce x = .ok v) :
    standard.compile ("contain " ++ x) =
      .ok { Predicate.plain .contains [v] with literal := some x } := by
  rw [compile, parse?_contain hx hne]
  simp only [Phrase.compile, String.ofList_toList, hv]
  rfl

/-- A literal that denotes a string makes a predicate under `contain` too, but there it is looked
for as it is written: it is found in the string only if the two are the same text. They are if the
literal is plain text on one line. -/
theorem exists_contain_of_equal {p : Predicate} (hx : '\n' ∉ x.toList)
    (hp : standard.compile ("equal " ++ x) = .ok p) (hs : p.test (.string s) = .ok true) :
    ∃ q, standard.compile ("contain " ++ x) = .ok q ∧ q.test (.string s) = .ok (s == x) ∧
      (Yaml.Plain.isLine x.toList → s = x) := by
  have hv := coerce_of_equal hx hp hs
  have hne : x.toList ≠ [] := by
    intro hnil
    rw [String.toList_eq_nil_iff.1 hnil] at hv
    nomatch hv
  refine ⟨_, compile_contain hx hne hv, ?_, fun hline => Literal.eq_of_coerce_of_isLine hline hv⟩
  rw [Predicate.test_string_of_contains rfl rfl,
    Text.occurs_eq_beq (Literal.length_le_of_coerce hv)]

theorem exists_contain_of_equal_plain :
    let x := "it's 10:30 - done"
    Yaml.Plain.isLine x.toList ∧ ∃ p q, standard.compile ("equal " ++ x) = .ok p ∧
      p.test (.string x) = .ok true ∧ standard.compile ("contain " ++ x) = .ok q ∧
      q.test (.string x) = .ok true := by
  intro x
  let p : Predicate := .plain .equal [.string x]
  have hx : Yaml.Plain.isLine x.toList := by decide
  have hplain : Yaml.Scalar.ofPlain? x.toList = some (.string x.toList) := by decide +kernel
  have hv : Literal.coerce x = .ok (.string x) := by
    rw [Literal.coerce_of_isLine hx (by decide) hplain, Yaml.Data.ofScalar, String.ofList_toList]
    rfl
  have hnewline : '\n' ∉ x.toList := by decide
  have hp : standard.compile ("equal " ++ x) = .ok p := by rw [compile_equal hnewline, hv]; rfl
  have hs : p.test (.string x) = .ok true := rfl
  obtain ⟨q, hq, ht, hline⟩ := exists_contain_of_equal hnewline hp hs
  rw [beq_iff_eq.2 (hline hx)] at ht
  exact ⟨hx, p, q, hp, hs, hq, ht⟩

theorem exists_equal_and_not_contain :
    ∃ p q, standard.compile "equal \"foo\"" = .ok p ∧ standard.compile "contain \"foo\"" = .ok q ∧
      p.test (.string "foo") = .ok true ∧ q.test (.string "foo") = .ok false :=
  ⟨_, _, rfl, rfl, rfl, rfl⟩

end Grammar

end LiveAssert
