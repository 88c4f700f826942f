import LiveAssert.Json.Writer
import LiveAssert.Proofs.Path.Spelling
import LiveAssert.Proofs.Phrase.Forms
import LiveAssert.Yaml.Scalar

namespace LiveAssert

theorem isDigit_toDigits (n : Nat) : ∀ c ∈ Nat.toDigits 10 n, c.isDigit := fun _ hc =>
  Nat.isDigit_of_mem_toDigits (by decide) (by decide) hc

theorem head?_toDigits {n : Nat} (h : 0 < n) : (Nat.toDigits 10 n).head? ≠ some '0' := by
  induction n using Nat.strongRecOn with
  | ind n ih =>
    rw [Nat.toDigits_eq_if (by decide)]
    split
    · simpa using Nat.ne_of_gt h
    · have hpos : 0 < n / 10 := by omega
      have hhead := ih (n / 10) (by omega) hpos
      obtain ⟨c, s, hs⟩ := List.exists_cons_of_ne_nil (Nat.toDigits_ne_nil (b := 10) (n := n / 10))
      rwa [hs] at hhead ⊢

namespace Decimal

@[simp] theorem ofDigits_toDigits (n : Nat) : ofDigits 10 (Nat.toDigits 10 n) = n := by
  rw [ofDigits_of_isDigit (isDigit_toDigits n), Nat.ofDigitChars_toDigits (by decide) (by decide)]

theorem read?_of_readSign {s : List Char} {negative : Bool} {n : Nat}
    (h : readSign s = (negative, Nat.toDigits 10 n)) : read? s = some ⟨negative, n, 0⟩ := by
  obtain ⟨htake, hdrop⟩ := Text.span_append (p := isDigit) (s := []) (isDigit_toDigits n) nofun
  rw [List.append_nil] at htake hdrop
  simp [read?, h, htake, hdrop, splitFraction, readExponent?, Nat.toDigits_ne_nil]

theorem digitCount_le {n k : Nat} (hk : 0 < k) (h : n < 10 ^ k) : digitCount n ≤ k := by
  rw [digitCount]
  split
  · exact Nat.zero_le k
  · exact (Nat.length_toDigits_le_iff (by decide) hk).2 h

theorem toBinary64_whole {negative : Bool} {n : Nat} (h : n ≤ 2 ^ 53) (hn : n ≠ 0) :
    toBinary64 ⟨negative, n, 0⟩ = .ofRatio negative n 1 := by
  have hcount : digitCount n ≤ 16 := digitCount_le (by decide) (Nat.lt_of_le_of_lt h (by decide))
  simp only [toBinary64]
  rw [if_neg (by omega), if_neg (by omega), if_pos (Int.le_refl 0), Int.toNat_zero, Nat.pow_zero,
    Nat.mul_one]

end Decimal

namespace Json

variable {n : Int}

@[simp] theorem writeInt_natCast (n : Nat) : writeInt n = Nat.toDigits 10 n := by
  rw [writeInt, if_neg (by omega), Int.natAbs_natCast]

theorem writeInt_neg {n : Nat} (h : 0 < n) : writeInt (-(n : Int)) = '-' :: Nat.toDigits 10 n := by
  rw [writeInt, if_pos (by omega), Int.natAbs_neg, Int.natAbs_natCast]

theorem int_cases (n : Int) : (∃ m : Nat, n = m) ∨ ∃ m : Nat, 0 < m ∧ n = -(m : Int) := by
  cases n with
  | ofNat m => exact .inl ⟨m, rfl⟩
  | negSucc m => exact .inr ⟨m + 1, Nat.succ_pos m, rfl⟩

theorem toList_toString (n : Int) : (toString n).toList = writeInt n := by
  rw [Int.toString_eq_repr, Int.repr_eq_if]
  obtain ⟨m, rfl⟩ | ⟨m, hm, rfl⟩ := int_cases n
  · rw [writeInt_natCast, if_pos (by omega), Nat.toList_repr, Int.toNat_natCast]
  · rw [writeInt_neg hm, if_neg (by omega), String.toList_append, Nat.toList_repr, Int.neg_neg,
      Int.toNat_natCast]
    rfl

theorem writeInt_ne_nil (n : Int) : writeInt n ≠ [] := by
  rw [writeInt]
  split
  · exact List.cons_ne_nil _ _
  · exact Nat.toDigits_ne_nil

theorem numeral_writeInt (n : Int) : Numeral n (writeInt n) := by
  obtain ⟨m, rfl⟩ | ⟨m, hm, rfl⟩ := int_cases n
  · rw [writeInt_natCast]
    exact .plain 0 m
  · rw [writeInt_neg hm]
    exact .minus 0 m hm

theorem isSigned_writeInt (n : Int) : Form.IsSigned (writeInt n) := by
  have hdigits (m : Nat) : Form.IsUnsigned (Nat.toDigits 10 m) :=
    .whole ⟨Nat.toDigits_ne_nil, fun c hc =>
      Text.isDecimalDigit_of_isDigit (isDigit_toDigits m c hc)⟩
  obtain ⟨m, rfl⟩ | ⟨m, hm, rfl⟩ := int_cases n
  · rw [writeInt_natCast]
    exact .plain (hdigits m)
  · rw [writeInt_neg hm]
    exact .minus (hdigits m)

end Json

open Json (writeInt writeInt_natCast writeInt_neg int_cases)

theorem Binary64.read?_writeInt {n : Int} (h : n.natAbs ≤ 2 ^ 53) :
    read? (writeInt n) = some (ofInt n) := by
  obtain ⟨m, rfl⟩ | ⟨m, hm, rfl⟩ := int_cases n
  · have hsign : Decimal.readSign (Nat.toDigits 10 m) = (false, Nat.toDigits 10 m) :=
      Decimal.readSign_paddedDigits 0 m
    rw [writeInt_natCast, read?, Decimal.read?_of_readSign hsign]
    cases Nat.eq_zero_or_pos m with
    | inl h0 =>
      rw [h0]
      decide +kernel
    | inr hpos =>
      rw [Int.natAbs_natCast] at h
      rw [Option.map_some, Decimal.toBinary64_whole h (Nat.ne_of_gt hpos), ofInt,
        decide_eq_false (by omega), Int.natAbs_natCast]
  · rw [Int.natAbs_neg, Int.natAbs_natCast] at h
    rw [writeInt_neg hm, read?, Decimal.read?_of_readSign rfl, Option.map_some,
      Decimal.toBinary64_whole h (Nat.ne_of_gt hm), ofInt, decide_eq_true (by omega),
      Int.natAbs_neg, Int.natAbs_natCast]

namespace Yaml.Scalar

variable {s : List Char} {n bound : Nat}

theorem base?_of_isDigit (h : ∀ c ∈ s, c.isDigit) : base? s = none := by
  fun_cases base? s with
  | case1 s => exact absurd (h 'x' (by simp)) (by decide)
  | case2 s => exact absurd (h 'o' (by simp)) (by decide)
  | case3 s => exact absurd (h 'b' (by simp)) (by decide)
  | case4 => rfl

theorem dropSign_of_isDigit (h : ∀ c ∈ s, c.isDigit) : dropSign s = s := by
  fun_cases dropSign s with
  | case1 s => exact absurd (h '+' (by simp)) (by decide)
  | case2 s => exact absurd (h '-' (by simp)) (by decide)
  | case3 => rfl

@[simp] theorem isPadded_toDigits (n : Nat) : isPadded (Nat.toDigits 10 n) = false := by
  rw [isPadded, dropSign_of_isDigit (isDigit_toDigits n)]
  split
  · next c s hs =>
    cases Nat.eq_zero_or_pos n with
    | inl h => rw [h] at hs; nomatch hs
    | inr h => exact absurd (congrArg List.head? hs) (head?_toDigits h)
  · rfl

theorem magnitude?_toDigits (h : n ≤ bound) : magnitude? bound (Nat.toDigits 10 n) = some n := by
  have hread : Decimal.readNat? 10 (Nat.toDigits 10 n) = some n := Decimal.readNat?_paddedDigits 0 n
  rw [magnitude?, base?_of_isDigit (isDigit_toDigits n), isPadded_toDigits, hread]
  simp [h]

@[simp] theorem magnitude?_minus (s : List Char) : magnitude? bound ('-' :: s) = none := by
  have hsign : Decimal.readNat? 10 ('-' :: s) = none := by simp [Decimal.readNat?, Decimal.digit?]
  simp [magnitude?, base?, hsign]

theorem natural?_toDigits (h : n ≤ bound) :
    natural? bound (Nat.toDigits 10 n) = some (n : Int) := by
  rw [natural?, magnitude?_toDigits h]
  · rfl
  · intro s hs
    exact absurd (isDigit_toDigits n '+' (hs ▸ List.mem_cons_self)) (by decide)

theorem integer?_writeInt {n : Int} (h : n.natAbs < 2 ^ 63) :
    integer? 64 (writeInt n) = some n := by
  obtain ⟨m, rfl⟩ | ⟨m, hm, rfl⟩ := int_cases n
  · rw [writeInt_natCast, integer?, natural?_toDigits (by omega)]
    rfl
  · have hnatural : natural? (2 ^ 64 - 1) ('-' :: Nat.toDigits 10 m) = none := by
      simp [natural?]
    rw [writeInt_neg hm, integer?, hnatural, negative?, magnitude?_toDigits (by omega)]
    rfl

def names : List String :=
  ["null", "Null", "NULL", "~", "true", "True", "TRUE", "false", "False", "FALSE"]

theorem ofPlain?_writeInt {n : Int} (h : n.natAbs < 2 ^ 63) :
    ofPlain? (writeInt n) = some (.integer n) := by
  have hnames : names.all fun name => name.toList.any fun c =>
      !(c.isDigit || c == '+' || c == '-') := by decide
  have hne : String.ofList (writeInt n) ∉ names := by
    intro hname
    obtain ⟨c, hc, hnot⟩ := List.any_eq_true.1 (List.all_eq_true.1 hnames _ hname)
    rw [String.toList_ofList] at hc
    have hsome := (Json.numeral_writeInt n).of_mem c hc
    simp_all
  simp only [names, List.mem_cons, List.not_mem_nil, not_or] at hne
  simp [ofPlain?, Json.writeInt_ne_nil, isNull, bool?, hne, ofInteger?, integer?_writeInt h]

end Yaml.Scalar

end LiveAssert
