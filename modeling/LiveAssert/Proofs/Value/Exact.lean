import LiveAssert.Proofs.Value.Equality
import LiveAssert.Proofs.Value.Whole
import Mathlib.Order.Monotone.Basic

namespace LiveAssert.Binary64

variable {x y : Binary64} {a b n : Int}

theorem units_lt_units_succ (m : Nat) : units m < units (m + 1) := by
  by_cases hplace : lastPlace (m + 1) = lastPlace m
  · rw [units, units, hplace]
    apply Nat.mul_lt_mul_of_pos_right _ (Nat.two_pow_pos _)
    rw [lastPlace]
    omega
  · -- The significand is all ones here, and becomes a power of two at the next place.
    obtain ⟨place, hm⟩ : ∃ place, m + 1 = (place + 2) * 2 ^ 52 := by
      refine ⟨m / 2 ^ 52 - 1, ?_⟩
      simp only [lastPlace] at hplace
      omega
    have hlow : lastPlace m = place := by rw [lastPlace]; omega
    have hhigh : lastPlace (m + 1) = place + 1 := by rw [lastPlace]; omega
    have hpow : 2 ^ (place + 1) = 2 * 2 ^ place := Nat.pow_succ'
    rw [units, units, hlow, hhigh, hpow, ← Nat.mul_assoc]
    apply Nat.mul_lt_mul_of_pos_right _ (Nat.two_pow_pos place)
    omega

theorem units_strictMono : StrictMono units := strictMono_nat_of_lt_succ units_lt_units_succ

theorem units_zero : units 0 = 0 := by simp [units, lastPlace]

theorem rank_lt_rank_iff : x.rank < y.rank ↔ x.signedUnits < y.signedUnits := by
  obtain ⟨a, m⟩ := x
  obtain ⟨b, n⟩ := y
  have hlt : m.val < n.val ↔ units m < units n := units_strictMono.lt_iff_lt.symm
  have hgt : n.val < m.val ↔ units n < units m := units_strictMono.lt_iff_lt.symm
  have hm : 0 < m.val ↔ 0 < units m := by rw [← units_zero, units_strictMono.lt_iff_lt, units_zero]
  have hn : 0 < n.val ↔ 0 < units n := by rw [← units_zero, units_strictMono.lt_iff_lt, units_zero]
  cases a <;> cases b <;> simp only [rank, signedUnits] <;> simp <;> omega

theorem rank_eq_rank_iff : x.rank = y.rank ↔ x.signedUnits = y.signedUnits := by
  have hlt : x.rank < y.rank ↔ x.signedUnits < y.signedUnits := rank_lt_rank_iff
  have hgt : y.rank < x.rank ↔ y.signedUnits < x.signedUnits := rank_lt_rank_iff
  omega

theorem isNaN_of_isFinite (h : x.isFinite) : x.isNaN = false := by
  simp only [isFinite, isNaN, decide_eq_true_eq, decide_eq_false_iff_not] at h ⊢
  exact fun hnan => Nat.lt_asymm h hnan

theorem le_iff_magnitude_le (hx : x.isNaN = false) (hy : y.isNaN = false)
    (hx' : x.negative = false) (hy' : y.negative = false) :
    x.le y ↔ x.magnitude.val ≤ y.magnitude.val := by
  simp [le, rank, hx, hy, hx', hy']

@[simp] theorem isNaN_ofInt (n : Int) : isNaN (ofInt n) = false := isNaN_ofUnits ..

/-- A double that is a whole number of magnitude up to `2 ^ 53` equals the double of it. -/
theorem eq_ofInt_of_toInt? (h : x.toInt? = some n) (hn : n.natAbs ≤ 2 ^ 53) : (ofInt n).eq x := by
  simp only [toInt?, Option.ite_none_right_eq_some, Bool.and_eq_true, beq_iff_eq] at h
  obtain ⟨⟨hfinite, hmod⟩, hdiv⟩ := h
  have hunits : (ofInt n).signedUnits = x.signedUnits := by
    rw [(exact_ofInt hn).2, ← Option.some.inj hdiv]
    exact Int.ediv_mul_cancel (Int.dvd_of_emod_eq_zero hmod)
  simp [eq, isNaN_of_isFinite hfinite, rank_eq_rank_iff.2 hunits]

theorem div_le_roundEven (num den : Nat) : num / den ≤ roundEven num den := by
  simp only [roundEven]
  split <;> [skip; split] <;> omega

/-- Rounding does not go below a power of two, which is the magnitude of a double. -/
theorem le_roundUnits {m k : Nat} (hm : 0 < m) (hk : 52 ≤ k) (hk' : k < 2098) :
    (k - 51) * 2 ^ 52 ≤ roundUnits (m * 2 ^ k) 1 := by
  have hpow : 2 ^ k ≤ m * 2 ^ k := Nat.le_mul_of_pos_left _ hm
  have hne : m * 2 ^ k ≠ 0 := Nat.ne_of_gt (Nat.lt_of_lt_of_le (Nat.two_pow_pos k) hpow)
  have hlog : k ≤ (m * 2 ^ k).log2 := (Nat.le_log2 hne).2 hpow
  generalize m * 2 ^ k = num at hne hlog
  have hquotient : 2 ^ 52 ≤ num / (1 * 2 ^ (num.log2 - 52)) := by
    rw [Nat.one_mul, Nat.le_div_iff_mul_le (Nat.two_pow_pos _), ← Nat.pow_add,
      Nat.add_sub_cancel' (Nat.le_trans hk hlog)]
    exact Nat.log2_self_le hne
  have hround := Nat.le_trans hquotient (div_le_roundEven num (1 * 2 ^ (num.log2 - 52)))
  have hinf : infinity.val = 2047 * 2 ^ 52 := rfl
  rw [roundUnits, Nat.div_one, Nat.le_min, hinf]
  omega

@[simp] theorem natAbs_mul_two_pow (n : Int) (k : Nat) : (n * 2 ^ k).natAbs = n.natAbs * 2 ^ k := by
  rw [Int.natAbs_mul, Int.natAbs_pow]
  rfl

section Integers

variable (ha : a.natAbs ≤ 2 ^ 53) (hb : b.natAbs ≤ 2 ^ 53)

include ha hb

theorem rank_ofInt_lt_iff : (ofInt a).rank < (ofInt b).rank ↔ a < b := by
  rw [rank_lt_rank_iff, (exact_ofInt ha).2, (exact_ofInt hb).2]
  exact Int.mul_lt_mul_right (Int.pow_pos (by decide))

theorem rank_ofInt_eq_iff : (ofInt a).rank = (ofInt b).rank ↔ a = b := by
  have hlt := rank_ofInt_lt_iff ha hb
  have hgt := rank_ofInt_lt_iff hb ha
  omega

theorem ofInt_eq_ofInt_iff : (ofInt a).eq (ofInt b) ↔ a = b := by
  simp [eq, rank_ofInt_eq_iff ha hb]

theorem ofInt_lt_ofInt_iff : (ofInt a).lt (ofInt b) ↔ a < b := by
  simp [lt, rank_ofInt_lt_iff ha hb]

theorem ofInt_le_ofInt_iff : (ofInt a).le (ofInt b) ↔ a ≤ b := by
  rw [le_iff_lt_or_eq, ofInt_lt_ofInt_iff ha hb, ofInt_eq_ofInt_iff ha hb]
  omega

end Integers

end LiveAssert.Binary64
