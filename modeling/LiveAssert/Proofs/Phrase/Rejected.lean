import LiveAssert.Proofs.Phrase.Forms

namespace LiveAssert

namespace Text

def IsAscii (c : Char) : Prop := c.toNat < 128

instance (c : Char) : Decidable (IsAscii c) := inferInstanceAs (Decidable (_ < _))

theorem isAscii_of_isDigit {c : Char} (h : c.isDigit) : IsAscii c := by
  have h9 : c.toNat ≤ 57 := of_decide_eq_true (Bool.and_eq_true_iff.1 h).2
  exact Nat.lt_of_le_of_lt h9 (by decide)

theorem isDigit_of_isAscii {c : Char} (h : isDecimalDigit c) (ha : IsAscii c) : c.isDigit :=
  forall_isDecimalDigit (fun c => IsAscii c → c.isDigit) (by decide +kernel) h ha

def HasForeignDigit (s : List Char) : Prop := ∃ c ∈ s, isDecimalDigit c ∧ ¬IsAscii c

theorem isAscii_of_isDecimalDigit {s : List Char} {c : Char} (hf : ¬HasForeignDigit s)
    (hc : c ∈ s) (h : isDecimalDigit c) : IsAscii c :=
  Decidable.byContradiction fun ha => hf ⟨c, hc, h, ha⟩

end Text

open Text (isDecimalDigit IsAscii HasForeignDigit)

namespace Form

variable {s : List Char}

theorem IsUnsigned.isDecimalDigit_or (h : IsUnsigned s) : ∀ c ∈ s, isDecimalDigit c ∨ c = '.' := by
  cases h with
  | whole hd => exact fun c hc => .inl (hd.2 c hc)
  | fraction hd hp =>
    simp only [List.forall_mem_append, List.forall_mem_cons]
    exact ⟨fun c hc => .inl (hd.2 c hc), .inr trivial, fun c hc => .inl (hp.2 c hc)⟩

theorem IsSigned.isDecimalDigit_or (h : IsSigned s) :
    ∀ c ∈ s, isDecimalDigit c ∨ c = '.' ∨ c = '-' := by
  cases h with
  | plain h => exact fun c hc => (h.isDecimalDigit_or c hc).imp_right .inl
  | minus h =>
    rw [List.forall_mem_cons]
    exact ⟨.inr (.inr rfl), fun c hc => (h.isDecimalDigit_or c hc).imp_right .inl⟩

theorem IsSigned.isAscii (h : IsSigned s) (hf : ¬HasForeignDigit s) : ∀ c ∈ s, IsAscii c := by
  intro c hc
  obtain hd | rfl | rfl := h.isDecimalDigit_or c hc
  · exact Text.isAscii_of_isDecimalDigit hf hc hd
  · decide
  · decide

end Form

open Form (IsUnsigned IsSigned)

namespace Decimal

variable {s : List Char}

theorem isDigit_of_isSome_digit? {c : Char} (h : (digit? 10 c).isSome) : c.isDigit := by
  obtain ⟨n, hn⟩ := Option.isSome_iff_exists.1 h
  rw [digit?, Option.filter_eq_some_iff, decide_eq_true_iff] at hn
  obtain ⟨hn, hlt⟩ := hn
  split at hn
  · next hc => exact Bool.and_eq_true_iff.2 ⟨decide_eq_true hc.1, decide_eq_true hc.2⟩
  · split at hn
    · next hc =>
      have ha : 97 ≤ c.toNat := hc.1
      cases hn
      omega
    · split at hn
      · next hc =>
        have ha : 65 ≤ c.toNat := hc.1
        cases hn
        omega
      · cases hn

theorem isDigit_of_readNat? {n : Nat} (h : readNat? 10 s = some n) : ∀ c ∈ s, c.isDigit := by
  intro c hc
  rw [readNat?] at h
  split at h
  · next hs =>
    simp only [Bool.and_eq_true, List.all_eq_true] at hs
    exact isDigit_of_isSome_digit? (hs.2 c hc)
  · cases h

theorem isAscii_of_readSign (h : ∀ c ∈ (readSign s).2, IsAscii c) : ∀ c ∈ s, IsAscii c := by
  unfold readSign at h
  split at h
  · exact List.forall_mem_cons.2 ⟨by decide, h⟩
  · exact List.forall_mem_cons.2 ⟨by decide, h⟩
  · exact h

theorem isAscii_of_readInt? {n : Int} (h : readInt? s = some n) : ∀ c ∈ s, IsAscii c := by
  rw [readInt?] at h
  split at h
  next negative digits hs =>
  obtain ⟨_, hm, _⟩ := Option.map_eq_some_iff.1 h
  obtain ⟨m, hm, _⟩ := Option.bind_eq_some_iff.1 hm
  apply isAscii_of_readSign
  rw [hs]
  exact fun c hc => Text.isAscii_of_isDigit (isDigit_of_readNat? hm c hc)

theorem isAscii_of_readExponent? {e : Int} (h : readExponent? s = some e) :
    ∀ c ∈ s, IsAscii c := by
  cases s with
  | nil => nofun
  | cons c s =>
    rw [readExponent?] at h
    split at h
    · next hc =>
      refine List.forall_mem_cons.2 ⟨?_, isAscii_of_readInt? h⟩
      obtain rfl | rfl := hc
      · decide
      · decide
    · nomatch h

theorem isAscii_of_dropWhile (h : ∀ c ∈ s.dropWhile isDigit, IsAscii c) : ∀ c ∈ s, IsAscii c := by
  intro c hc
  rw [← List.takeWhile_append_dropWhile (p := isDigit) (l := s), List.mem_append] at hc
  cases hc with
  | inl hc => exact Text.isAscii_of_isDigit (List.all_eq_true.1 List.all_takeWhile c hc)
  | inr hc => exact h c hc

theorem isAscii_of_splitFraction (h : ∀ c ∈ (splitFraction s).2, IsAscii c) :
    ∀ c ∈ s, IsAscii c := by
  unfold splitFraction at h
  split at h
  · exact List.forall_mem_cons.2 ⟨by decide, isAscii_of_dropWhile h⟩
  · exact h

theorem isAscii_of_read? {d : Decimal} (h : read? s = some d) : ∀ c ∈ s, IsAscii c := by
  rw [read?] at h
  split at h
  next negative t ht =>
  dsimp only at h
  split at h
  · nomatch h
  · obtain ⟨e, he, _⟩ := Option.map_eq_some_iff.1 h
    apply isAscii_of_readSign
    rw [ht]
    exact isAscii_of_dropWhile (isAscii_of_splitFraction (isAscii_of_readExponent? he))

theorem readSign_of_isUnsigned (h : IsUnsigned s) : readSign s = (false, s) := by
  obtain ⟨c, t, rfl, hc⟩ := h.exists_cons
  unfold readSign
  split
  · next heq => cases heq; nomatch hc
  · next heq => cases heq; nomatch hc
  · rfl

theorem isSome_read?_of_isUnsigned {t : List Char} {negative : Bool}
    (hs : readSign s = (negative, t)) (ht : IsUnsigned t) (ha : ∀ c ∈ t, IsAscii c) :
    (read? s).isSome := by
  rw [read?, hs]
  dsimp only
  cases ht with
  | whole hd =>
    obtain ⟨htake, hdrop⟩ := Text.span_append (s := []) (p := isDigit)
      (fun c hc => Text.isDigit_of_isAscii (hd.2 c hc) (ha c hc)) nofun
    rw [List.append_nil] at htake hdrop
    simp [htake, hdrop, hd.1, splitFraction, readExponent?]
  | @fraction digits places hd hp =>
    simp only [List.forall_mem_append, List.forall_mem_cons] at ha
    obtain ⟨htake, hdrop⟩ := Text.span_append (s := '.' :: places) (p := isDigit)
      (fun c hc => Text.isDigit_of_isAscii (hd.2 c hc) (ha.1 c hc)) (by rintro _ ⟨⟩; rfl)
    obtain ⟨_, hplaces⟩ := Text.span_append (s := []) (p := isDigit)
      (fun c hc => Text.isDigit_of_isAscii (hp.2 c hc) (ha.2.2 c hc)) nofun
    rw [List.append_nil] at hplaces
    simp [htake, hdrop, hd.1, splitFraction, hplaces, readExponent?]

theorem isSome_read?_of_isSigned (h : IsSigned s) (ha : ∀ c ∈ s, IsAscii c) :
    (read? s).isSome := by
  cases h with
  | plain h => exact isSome_read?_of_isUnsigned (readSign_of_isUnsigned h) h ha
  | minus h =>
    exact isSome_read?_of_isUnsigned rfl h fun c hc => ha c (List.mem_cons_of_mem _ hc)

end Decimal

namespace Phrase

variable {s : List Char} {p : Phrase} {whole phrase operand : String}

theorem number?_eq_none_iff (h : IsSigned s) : number? s = none ↔ HasForeignDigit s := by
  rw [number?, Binary64.read?, Option.map_eq_none_iff]
  constructor
  · intro hnone
    apply Classical.byContradiction
    intro hf
    have hsome := Decimal.isSome_read?_of_isSigned h (h.isAscii hf)
    rw [hnone] at hsome
    nomatch hsome
  · rintro ⟨c, hc, _, ha⟩
    rw [Option.eq_none_iff_forall_ne_some]
    exact fun d hd => ha (Decimal.isAscii_of_read? hd c hc)

theorem length?_eq_none_iff (h : IsNumber s) : length? s = none ↔
    HasForeignDigit s ∨ (∀ c ∈ s, c.isDigit) ∧ 4294967295 < Nat.ofDigitChars 10 s 0 := by
  rw [length?]
  by_cases hf : HasForeignDigit s
  · have hnone : Decimal.readNat? 10 s = none := by
      obtain ⟨c, hc, _, ha⟩ := hf
      rw [Option.eq_none_iff_forall_ne_some]
      exact fun n hn => ha (Text.isAscii_of_isDigit (Decimal.isDigit_of_readNat? hn c hc))
    simp [hnone, hf]
  · have hd : ∀ c ∈ s, c.isDigit := fun c hc =>
      Text.isDigit_of_isAscii (h.2 c hc) (Text.isAscii_of_isDecimalDigit hf hc (h.2 c hc))
    rw [Decimal.readNat?_of_isDigit h.1 hd, Option.filter_some, ite_eq_right_iff]
    simp only [reduceCtorEq, imp_false, decide_eq_true_iff, hf, false_or]
    exact ⟨fun hlt => ⟨hd, by omega⟩, fun hlt => by omega⟩

inductive Refuses : Phrase → List Char → Prop
  | operator : NumericOp.parse? symbol = none → Refuses (.numeric symbol number) symbol.toList
  | number : NumericOp.parse? symbol = some op → number? number = none →
      Refuses (.numeric symbol number) number
  | length : length? digits = none → Refuses (.length digits) digits

theorem coerced_ne_invalidOperand {r : Except CoercionError α} {f : α → Predicate}
    {text operand : String} :
    (do return f (← coerced r)) ≠ Except.error (CompileError.invalidOperand text operand) := by
  cases r <;> exact nofun

theorem compile_eq_invalidOperand_iff : p.compile whole = .error (.invalidOperand phrase operand) ↔
    phrase = whole ∧ p.Refuses operand.toList := by
  constructor
  · intro h
    cases p with
    | numeric symbol s =>
      rw [compile] at h
      split at h
      · next hop => cases h; exact ⟨rfl, .operator hop⟩
      · next op hop =>
        split at h
        · cases h
        · next hs => cases h; rw [String.toList_ofList]; exact ⟨rfl, .number hop hs⟩
    | length s =>
      rw [compile] at h
      split at h
      · cases h
      · next hs => cases h; rw [String.toList_ofList]; exact ⟨rfl, .length hs⟩
    | regex s => rw [compile] at h; split at h <;> cases h
    | equal | elementOf | consistOf | contain => exact absurd h coerced_ne_invalidOperand
    | bool | hasPrefix | hasSuffix => cases h
  · rintro ⟨rfl, h⟩
    generalize hs : operand.toList = s at h
    have ho : operand = String.ofList s := by rw [← hs, String.ofList_toList]
    cases h with
    | operator hop => rw [compile, hop, ho, String.ofList_toList]
    | number hop hs => rw [compile, hop, ho]; simp only [hs]
    | length hs => rw [compile, hs, ho]

end Phrase

namespace Form

inductive Rejects : List Char → List Char → Prop
  | number : be ∈ ["", "be "] → symbol ∈ ["=", "==", "!=", "<", "<=", ">", ">=", "~"] →
      IsSigned number → HasForeignDigit number →
      Rejects (be.toList ++ (symbol.toList ++ ' ' :: number)) number
  | foreignLength : IsNumber digits → HasForeignDigit digits →
      Rejects ("have length ".toList ++ digits) digits
  | largeLength : IsNumber digits → (∀ c ∈ digits, c.isDigit) →
      4294967295 < Nat.ofDigitChars 10 digits 0 → Rejects ("have length ".toList ++ digits) digits

variable {f : Form} {s text : List Char} {phrase : Phrase}

theorem exists_op_of_mem_operators {symbol : String} (h : symbol ∈ operators) :
    ∃ op, NumericOp.parse? symbol = some op := by
  have hall : ∀ symbol ∈ operators, (NumericOp.parse? symbol).isSome := by decide
  exact Option.isSome_iff_exists.1 (hall _ h)

theorem rejects_iff : Rejects s text ↔ ∃ p : Phrase, p.form.parse? s = some p ∧ p.Refuses text := by
  constructor
  · intro h
    cases h with
    | number hbe hmem hs hf =>
      have hmem := mem_operators_iff.2 hmem
      obtain ⟨op, hop⟩ := exists_op_of_mem_operators hmem
      exact ⟨.numeric _ _, parse?_numeric_eq_some_iff.2 ⟨_, hbe, _, hmem, _, rfl, hs, rfl⟩,
        .number hop ((Phrase.number?_eq_none_iff hs).2 hf)⟩
    | foreignLength hd hf =>
      exact ⟨.length _, parse?_length_eq_some_iff.2 ⟨_, rfl, hd, rfl⟩,
        .length ((Phrase.length?_eq_none_iff hd).2 (.inl hf))⟩
    | largeLength hd hall hlt =>
      exact ⟨.length _, parse?_length_eq_some_iff.2 ⟨_, rfl, hd, rfl⟩,
        .length ((Phrase.length?_eq_none_iff hd).2 (.inr ⟨hall, hlt⟩))⟩
  · rintro ⟨p, hp, href⟩
    cases href with
    | operator hnone =>
      obtain ⟨_, _, _, hmem, _, _, _, ⟨⟩⟩ := parse?_numeric_eq_some_iff.1 hp
      obtain ⟨op, hop⟩ := exists_op_of_mem_operators hmem
      nomatch hnone.symm.trans hop
    | number _ hnone =>
      obtain ⟨be, hbe, symbol, hmem, number, rfl, hs, ⟨⟩⟩ := parse?_numeric_eq_some_iff.1 hp
      exact .number hbe (mem_operators_iff.1 hmem) hs ((Phrase.number?_eq_none_iff hs).1 hnone)
    | length hnone =>
      obtain ⟨digits, rfl, hd, ⟨⟩⟩ := parse?_length_eq_some_iff.1 hp
      obtain hf | ⟨hall, hlt⟩ := (Phrase.length?_eq_none_iff hd).1 hnone
      · exact .foreignLength hd hf
      · exact .largeLength hd hall hlt

end Form

namespace Grammar

variable {phrase whole operand symbol : String} {p : Phrase} {number : List Char}

theorem parse?_standard_eq_some_iff :
    standard.parse? phrase = some p ↔ p.form.parse? phrase.toList = some p := by
  rw [parse?_eq_some_iff mem_standard]
  exact ⟨fun ⟨_, hf⟩ => Form.form_of_parse? hf ▸ hf, fun h => ⟨_, h⟩⟩

theorem compile_eq_invalidOperand_iff :
    standard.compile phrase = .error (.invalidOperand whole operand) ↔
      whole = phrase ∧ Form.Rejects phrase.toList operand.toList := by
  simp only [Form.rejects_iff, ← parse?_standard_eq_some_iff, compile]
  cases standard.parse? phrase with
  | none => simp
  | some p => simp [Phrase.compile_eq_invalidOperand_iff]

theorem exists_compile_eq_ok (h : Form.Matches .numeric phrase.toList)
    (ha : ∀ c ∈ phrase.toList, IsAscii c) : ∃ p, standard.compile phrase = .ok p := by
  obtain ⟨p, hp⟩ := Option.isSome_iff_exists.1 (Form.isSome_numeric_iff.2 h)
  have hparse := (parse?_eq_some_iff mem_standard).2 ⟨_, hp⟩
  obtain ⟨be, _, symbol, hmem, number, hs, hnumber, rfl⟩ := Form.parse?_numeric_eq_some_iff.1 hp
  rw [hs] at ha
  simp only [List.forall_mem_append, List.forall_mem_cons] at ha
  have hsome : Phrase.number? number ≠ none := by
    rw [ne_eq, Phrase.number?_eq_none_iff hnumber]
    exact fun ⟨c, hc, _, hf⟩ => hf (ha.2.2.2 c hc)
  obtain ⟨x, hx⟩ := Option.ne_none_iff_exists'.1 hsome
  obtain ⟨op, hop⟩ := Form.exists_op_of_mem_operators hmem
  refine ⟨.plain (.numeric op) [.number x], ?_⟩
  rw [compile, hparse]
  exact Phrase.compile_numeric_eq_ok_iff.2 ⟨op, x, hop, hx, rfl⟩

/-- The operator of a recognised phrase is known, so it is never what is at fault. -/
theorem exists_op_of_parse? (h : standard.parse? phrase = some (.numeric symbol number)) :
    (∃ be ∈ ["", "be "], phrase.toList = be.toList ++ (symbol.toList ++ ' ' :: number)) ∧
      ∃ op, NumericOp.parse? symbol = some op := by
  obtain ⟨be, hbe, _, hmem, _, hs, _, ⟨⟩⟩ :=
    Form.parse?_numeric_eq_some_iff.1 (parse?_standard_eq_some_iff.1 h)
  exact ⟨⟨be, hbe, hs⟩, Form.exists_op_of_mem_operators hmem⟩

/-- An operand is invalid if and only if it is a number or a length with a digit that is not ASCII,
or a length that does not fit into 32 bits. No operator is unknown, and no number is too long. -/
theorem invalidOperand_iff_rejects (phrase : String) :
    (∀ whole operand, standard.compile phrase = .error (.invalidOperand whole operand) ↔
      whole = phrase ∧ Form.Rejects phrase.toList operand.toList) ∧
    (Form.Matches .numeric phrase.toList → (∀ c ∈ phrase.toList, IsAscii c) →
      ∃ p, standard.compile phrase = .ok p) ∧
    (∀ symbol number, standard.parse? phrase = some (.numeric symbol number) →
      (∃ be ∈ ["", "be "], phrase.toList = be.toList ++ (symbol.toList ++ ' ' :: number)) ∧
        ∃ op, NumericOp.parse? symbol = some op) :=
  ⟨fun _ _ => compile_eq_invalidOperand_iff, exists_compile_eq_ok, fun _ _ => exists_op_of_parse?⟩

theorem invalidOperand_iff_rejects_digits :
    standard.compile "be >= 1.٣" = .error (.invalidOperand "be >= 1.٣" "1.٣") ∧
      standard.compile "have length 04294967296" =
        .error (.invalidOperand "have length 04294967296" "04294967296") ∧
      ∃ p, standard.compile "~ -0012.50" = .ok p := by
  obtain ⟨hforeign, _, _⟩ := invalidOperand_iff_rejects "be >= 1.٣"
  obtain ⟨hlarge, _, _⟩ := invalidOperand_iff_rejects "have length 04294967296"
  obtain ⟨_, hcompile, _⟩ := invalidOperand_iff_rejects "~ -0012.50"
  refine ⟨(hforeign _ _).2 ⟨rfl, ?_⟩, (hlarge _ _).2 ⟨rfl, ?_⟩, hcompile ?_ ?_⟩
  · have hnumber : Form.IsSigned "1.٣".toList := Form.isNumber_iff.1 (by decide)
    have hbe : "be " ∈ ["", "be "] := by decide
    have hop : ">=" ∈ ["=", "==", "!=", "<", "<=", ">", ">=", "~"] := by decide
    exact .number hbe hop hnumber ⟨'٣', by decide, by decide, by decide⟩
  · have hdigits : IsNumber "04294967296".toList := Form.isDigits_iff.1 (by decide)
    exact .largeLength hdigits (List.all_eq_true.1 (by decide)) (by decide)
  · exact Form.isSome_numeric_iff.1 (by decide)
  · have hascii : "~ -0012.50".toList.all (fun c => decide (IsAscii c)) := by decide
    exact fun c hc => of_decide_eq_true (List.all_eq_true.1 hascii c hc)

end Grammar

end LiveAssert
