import LiveAssert.Binary64.Basic

namespace LiveAssert.Binary64

variable {n : Nat} {place significand : Nat}

theorem roundEven_mul (q : Nat) {den : Nat} (h : 0 < den) : roundEven (q * den) den = q := by
  simp [roundEven, Nat.mul_div_cancel q h, h]

theorem roundUnits_mul (hlow : 2 ^ 52 ≤ significand) (hhigh : significand < 2 ^ 53)
    (hplace : place ≤ 2045) :
    roundUnits (significand * 2 ^ place) 1 = place * 2 ^ 52 + significand := by
  have hpos : 0 < 2 ^ place := Nat.two_pow_pos place
  have hne : significand * 2 ^ place ≠ 0 := Nat.mul_ne_zero (by omega) (by omega)
  have hlog : (significand * 2 ^ place).log2 = 52 + place := by
    rw [Nat.log2_eq_iff hne]
    constructor
    · rw [Nat.pow_add]
      exact Nat.mul_le_mul_right _ hlow
    · rw [show 52 + place + 1 = 53 + place by omega, Nat.pow_add]
      exact Nat.mul_lt_mul_of_pos_right hhigh hpos
  have hinf : infinity.val = 2047 * 2 ^ 52 := rfl
  rw [roundUnits, Nat.div_one, hlog, Nat.one_mul, show 52 + place - 52 = place by omega,
    roundEven_mul _ hpos, hinf, Nat.min_eq_right]
  omega

theorem units_add (hlow : 2 ^ 52 ≤ significand) (hhigh : significand < 2 ^ 53) :
    units (place * 2 ^ 52 + significand) = significand * 2 ^ place := by
  have hplace : lastPlace (place * 2 ^ 52 + significand) = place := by
    rw [lastPlace]
    omega
  rw [units, hplace, Nat.add_sub_cancel_left]

theorem exists_significand {k : Nat} (hpos : 0 < n) (h : n ≤ 2 ^ 53) (hk : 52 ≤ k) :
    ∃ significand place, 2 ^ 52 ≤ significand ∧ significand < 2 ^ 53 ∧ place ≤ k + 1 ∧
      n * 2 ^ k = significand * 2 ^ place := by
  have hne : n ≠ 0 := Nat.ne_of_gt hpos
  cases Nat.lt_or_eq_of_le h with
  | inr h =>
    refine ⟨2 ^ 52, k + 1, Nat.le_refl _, by omega, Nat.le_refl _, ?_⟩
    rw [h, ← Nat.pow_add, ← Nat.pow_add, show 52 + (k + 1) = 53 + k by omega]
  | inl h =>
    have hlog : n.log2 < 53 := (Nat.log2_lt hne).2 h
    have hsplit : 2 ^ 52 = 2 ^ n.log2 * 2 ^ (52 - n.log2) := by
      rw [← Nat.pow_add, show n.log2 + (52 - n.log2) = 52 by omega]
    refine ⟨n * 2 ^ (52 - n.log2), n.log2 + (k - 52), ?_, ?_, by omega, ?_⟩
    · rw [hsplit]
      exact Nat.mul_le_mul_right _ (Nat.log2_self_le hne)
    · rw [show 53 = n.log2 + 1 + (52 - n.log2) by omega, Nat.pow_add]
      exact Nat.mul_lt_mul_of_pos_right Nat.lt_log2_self (Nat.two_pow_pos _)
    · rw [Nat.mul_assoc, ← Nat.pow_add, show 52 - n.log2 + (n.log2 + (k - 52)) = k by omega]

theorem units_roundUnits {k : Nat} (h : n ≤ 2 ^ 53) (hk : 52 ≤ k) (hk' : k ≤ 2044) :
    units (roundUnits (n * 2 ^ k) 1) = n * 2 ^ k ∧ roundUnits (n * 2 ^ k) 1 < infinity.val := by
  cases Nat.eq_zero_or_pos n with
  | inl hn =>
    rw [hn, Nat.zero_mul]
    exact ⟨rfl, by decide⟩
  | inr hpos =>
    obtain ⟨significand, place, hlow, hhigh, hplace, heq⟩ := exists_significand hpos h hk
    have hplace : place ≤ 2045 := by omega
    have hinf : infinity.val = 2047 * 2 ^ 52 := rfl
    rw [heq, roundUnits_mul hlow hhigh hplace, units_add hlow hhigh, hinf]
    exact ⟨rfl, by omega⟩

theorem signedUnits_ofUnits {num : Nat} {negative : Bool}
    (h : units (roundUnits num 1) = num) :
    signedUnits (ofUnits negative num 1) = if negative then -(num : Int) else num := by
  rw [signedUnits, ofUnits]
  simp only [h]

/-- A whole number of magnitude up to `2 ^ 53` is finite as a double, and its units are those of the
number itself. -/
theorem exact_ofInt {n : Int} (h : n.natAbs ≤ 2 ^ 53) :
    (ofInt n).isFinite = true ∧ (ofInt n).signedUnits = n * 2 ^ 1074 := by
  have hk : 52 ≤ 1074 ∧ 1074 ≤ 2044 := by decide
  have hofInt : ofInt n = ofUnits (decide (n < 0)) (n.natAbs * 2 ^ 1074) 1 := rfl
  rw [hofInt]
  generalize 1074 = k at hk ⊢
  obtain ⟨hunits, hinf⟩ := units_roundUnits h hk.1 hk.2
  refine ⟨decide_eq_true hinf, ?_⟩
  rw [signedUnits_ofUnits hunits, Int.natCast_mul, Int.natCast_pow]
  by_cases hn : n < 0
  · rw [if_pos (decide_eq_true hn), Int.ofNat_natAbs_of_nonpos (Int.le_of_lt hn), Int.neg_mul,
      Int.neg_neg]
    rfl
  · rw [if_neg (by simpa using hn), Int.natAbs_of_nonneg (Int.not_lt.1 hn)]
    rfl

theorem two_pow_ne_zero (k : Nat) : (2 : Int) ^ k ≠ 0 := Int.pow_ne_zero (by decide)

theorem toInt?_ofInt {n : Int} (h : n.natAbs ≤ 2 ^ 53) : (ofInt n).toInt? = some n := by
  obtain ⟨hfinite, hsigned⟩ := exact_ofInt h
  rw [toInt?, hfinite, hsigned, Int.mul_emod_left, Int.mul_ediv_cancel _ (two_pow_ne_zero 1074)]
  rfl

end LiveAssert.Binary64
