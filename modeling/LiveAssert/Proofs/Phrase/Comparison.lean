import LiveAssert.Proofs.Phrase.Rejected
import LiveAssert.Proofs.Phrase.Verbatim
import LiveAssert.Proofs.Value.Exact
import LiveAssert.Proofs.Yaml.Inclusion

namespace LiveAssert

namespace Predicate

theorem tolerance_lt_one : tolerance.magnitude.val < 1023 * 2 ^ 52 := by decide +kernel

section Integers

variable {a b : Int} (ha : a.natAbs ≤ 2 ^ 53) (hb : b.natAbs ≤ 2 ^ 53)

include ha hb

theorem abs_sub_ofInt : ((Binary64.ofInt a).sub (.ofInt b)).abs =
    .ofUnits false ((a - b).natAbs * 2 ^ 1074) 1 := by
  obtain ⟨hfinite, hunits⟩ := Binary64.exact_ofInt ha
  obtain ⟨hfinite', hunits'⟩ := Binary64.exact_ofInt hb
  have hdifference : ((Binary64.ofInt a).signedUnits - (Binary64.ofInt b).signedUnits).natAbs =
      (a - b).natAbs * 2 ^ 1074 := by
    rw [hunits, hunits', ← Int.sub_mul, Binary64.natAbs_mul_two_pow]
  rw [Binary64.sub, Binary64.isNaN_ofInt, Binary64.isNaN_ofInt, hfinite, hfinite', ← hdifference]
  rfl

/-- Integers that differ do so by more than the tolerance, even where the difference is rounded. -/
theorem approx_ofInt_iff : ((Binary64.ofInt a).sub (.ofInt b)).abs.le tolerance ↔ a = b := by
  have htolerance : tolerance.isNaN = false := Binary64.isNaN_ofUnits ..
  rw [abs_sub_ofInt ha hb,
    Binary64.le_iff_magnitude_le (Binary64.isNaN_ofUnits ..) htolerance rfl rfl]
  constructor
  · intro hle
    by_contra hne
    have hpos : 0 < (a - b).natAbs := by omega
    have hone := Binary64.le_roundUnits (k := 1074) hpos (by decide) (by decide)
    exact Nat.not_lt_of_le (Nat.le_trans hone hle) tolerance_lt_one
  · rintro rfl
    generalize 2 ^ 1074 = d
    rw [Int.sub_self, Int.natAbs_zero, Nat.zero_mul]
    exact Nat.zero_le _

end Integers

end Predicate

def NumericOp.compareInts : NumericOp → Int → Int → Bool
  | .eq, a, b => a = b
  | .notEq, a, b => a ≠ b
  | .lt, a, b => a < b
  | .le, a, b => a ≤ b
  | .gt, a, b => a > b
  | .ge, a, b => a ≥ b
  | .approx, a, b => a = b

theorem Predicate.compareNumbers_ofInt {a b : Int} (ha : a.natAbs ≤ 2 ^ 53)
    (hb : b.natAbs ≤ 2 ^ 53) (op : NumericOp) :
    compareNumbers op (.ofInt a) (.ofInt b) = op.compareInts a b := by
  have heq := Binary64.ofInt_eq_ofInt_iff ha hb
  rw [Bool.eq_iff_iff]
  cases op with
  | eq => simpa [compareNumbers, NumericOp.compareInts] using heq
  | notEq => simpa [compareNumbers, NumericOp.compareInts] using not_congr heq
  | lt => simpa [compareNumbers, NumericOp.compareInts] using Binary64.ofInt_lt_ofInt_iff ha hb
  | le => simpa [compareNumbers, NumericOp.compareInts] using Binary64.ofInt_le_ofInt_iff ha hb
  | gt => simpa [compareNumbers, NumericOp.compareInts] using Binary64.ofInt_lt_ofInt_iff hb ha
  | ge => simpa [compareNumbers, NumericOp.compareInts] using Binary64.ofInt_le_ofInt_iff hb ha
  | approx => simpa [compareNumbers, NumericOp.compareInts] using approx_ofInt_iff ha hb

example : Predicate.compareNumbers .eq (.ofInt (2 ^ 53 + 1)) (.ofInt (2 ^ 53)) = true := by
  decide +kernel

section

variable {n : Int}

theorem Phrase.number?_toString (h : n.natAbs ≤ 2 ^ 53) :
    number? (toString n).toList = some (.ofInt n) := by
  rw [Json.toList_toString]
  exact Binary64.read?_writeInt h

theorem Literal.coerce_toString (h : n.natAbs < 2 ^ 63) :
    coerce (toString n) = .ok (.number (.ofInt n)) := by
  have htext : (Json.integer n).text = toString n := by
    rw [← String.toList_inj, Json.toList_toString, Json.text, String.toList_ofList]
    rfl
  rw [← htext]
  exact (Json.Portable.integer n h).coerce_text (Nat.zero_le _)

end

namespace Grammar

variable {symbol : String} {op : NumericOp} {n : Int}

theorem compile_operator (hs : symbol ∈ Form.operators) (hop : NumericOp.parse? symbol = some op)
    (hn : n.natAbs ≤ 2 ^ 53) :
    standard.compile ("be " ++ symbol ++ " " ++ toString n) =
      .ok (.plain (.numeric op) [.number (.ofInt n)]) := by
  have hparse : standard.parse? ("be " ++ symbol ++ " " ++ toString n) =
      some (.numeric symbol (toString n).toList) := by
    refine (parse?_eq_some_iff mem_standard).2 ⟨.numeric, Form.parse?_numeric_eq_some_iff.2 ?_⟩
    refine ⟨"be ", by decide, symbol, hs, (toString n).toList, ?_, ?_, rfl⟩
    · simp [String.toList_append]
    · rw [Json.toList_toString]
      exact Json.isSigned_writeInt n
  rw [compile, hparse]
  exact Phrase.compile_numeric_eq_ok_iff.2 ⟨op, _, hop, Phrase.number?_toString hn, rfl⟩

theorem compile_equal_toString (hn : n.natAbs ≤ 2 ^ 53) :
    standard.compile ("equal " ++ toString n) = .ok (.plain .equal [.number (.ofInt n)]) := by
  have hlarge : n.natAbs < 2 ^ 63 := Nat.lt_of_le_of_lt hn (by decide)
  have hline : '\n' ∉ (toString n).toList := by
    rw [Json.toList_toString]
    exact fun hmem => absurd ((Json.word_writeInt n).of_mem _ hmem) (by decide)
  rw [compile_equal hline, Literal.coerce_toString hlarge]
  rfl

/-- Comparisons of integers of magnitude up to `2 ^ 53` are those of the integers: `equal` and every
operator judge the number `a` of a document as they should for the decimal text of `b`. That text
denotes the same double as a literal and behind an operator. -/
theorem compare_integers {a b : Int} (ha : a.natAbs ≤ 2 ^ 53) (hb : b.natAbs ≤ 2 ^ 53) :
    (∃ x, Literal.coerce (toString b) = .ok (.number x) ∧
      Phrase.number? (toString b).toList = some x) ∧
    (∃ p, standard.compile ("equal " ++ toString b) = .ok p ∧
      p.test (.ofJson (.integer a)) = .ok (decide (a = b))) ∧
    ∀ symbol judgement, (symbol, judgement) ∈
        [("==", decide (a = b)), ("=", decide (a = b)), ("~", decide (a = b)),
          ("!=", decide (a ≠ b)), ("<", decide (a < b)), ("<=", decide (a ≤ b)),
          (">", decide (a > b)), (">=", decide (a ≥ b))] →
      ∃ p, standard.compile ("be " ++ symbol ++ " " ++ toString b) = .ok p ∧
        p.test (.ofJson (.integer a)) = .ok judgement := by
  have hlarge : b.natAbs < 2 ^ 63 := Nat.lt_of_le_of_lt hb (by decide)
  have hoperator (symbol : String) (op : NumericOp) (hs : symbol ∈ Form.operators)
      (hop : NumericOp.parse? symbol = some op) :
      ∃ p, standard.compile ("be " ++ symbol ++ " " ++ toString b) = .ok p ∧
        p.test (.ofJson (.integer a)) = .ok (op.compareInts a b) :=
    ⟨_, compile_operator hs hop hb, congrArg Except.ok (Predicate.compareNumbers_ofInt ha hb op)⟩
  refine ⟨⟨_, Literal.coerce_toString hlarge, Phrase.number?_toString hb⟩, ?_, ?_⟩
  · refine ⟨_, compile_equal_toString hb, congrArg Except.ok ?_⟩
    exact Bool.eq_iff_iff.2 ((Binary64.ofInt_eq_ofInt_iff ha hb).trans decide_eq_true_iff.symm)
  · intro symbol judgement hmem
    simp only [List.mem_cons, List.not_mem_nil, or_false, Prod.mk.injEq] at hmem
    obtain ⟨rfl, rfl⟩ | ⟨rfl, rfl⟩ | ⟨rfl, rfl⟩ | ⟨rfl, rfl⟩ | ⟨rfl, rfl⟩ | ⟨rfl, rfl⟩ | ⟨rfl, rfl⟩ |
      ⟨rfl, rfl⟩ := hmem
    · exact hoperator "==" .eq (by decide) rfl
    · exact hoperator "=" .eq (by decide) rfl
    · exact hoperator "~" .approx (by decide) rfl
    · exact hoperator "!=" .notEq (by decide) rfl
    · exact hoperator "<" .lt (by decide) rfl
    · exact hoperator "<=" .le (by decide) rfl
    · exact hoperator ">" .gt (by decide) rfl
    · exact hoperator ">=" .ge (by decide) rfl

theorem compare_integers_largest :
    ∃ p, standard.compile ("be ~ " ++ toString (-9007199254740991 : Int)) = .ok p ∧
      p.test (.ofJson (.integer (-9007199254740992))) = .ok false := by
  obtain ⟨_, _, hoperators⟩ := compare_integers (a := -9007199254740992) (b := -9007199254740991)
    (by decide) (by decide)
  obtain ⟨p, hp, htest⟩ := hoperators "~" false (by decide)
  exact ⟨p, hp, htest⟩

end Grammar

end LiveAssert
