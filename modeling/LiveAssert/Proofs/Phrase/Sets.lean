import LiveAssert.Proofs.Phrase.Pairing
import LiveAssert.Proofs.Phrase.Rejected
import LiveAssert.Proofs.Phrase.Repeated
import LiveAssert.Proofs.Phrase.Verbatim
import LiveAssert.Proofs.Step.Parse
import LiveAssert.Proofs.Text.Words

namespace LiveAssert

theorem exists_of_forall₂ {R : α → β → Prop} {xs : List α} {ys : List β}
    (h : List.Forall₂ R xs ys) : ∀ x ∈ xs, ∃ y ∈ ys, R x y := by
  induction h with
  | nil => nofun
  | cons hxy _ ih =>
    refine List.forall_mem_cons.2 ⟨⟨_, List.mem_cons_self, hxy⟩, fun x hx => ?_⟩
    obtain ⟨y, hy, hxy⟩ := ih x hx
    exact ⟨y, List.mem_cons_of_mem _ hy, hxy⟩

theorem exists_forall₂ {R : α → β → Prop} {xs : List α} (h : ∀ x ∈ xs, ∃ y, R x y) :
    ∃ ys, List.Forall₂ R xs ys := by
  induction xs with
  | nil => exact ⟨[], .nil⟩
  | cons x xs ih =>
    obtain ⟨⟨y, hy⟩, hxs⟩ := List.forall_mem_cons.1 h
    obtain ⟨ys, hys⟩ := ih hxs
    exact ⟨y :: ys, .cons hy hys⟩

theorem mapM_eq_ok_iff {f : α → Except ε β} {xs : List α} {ys : List β} :
    xs.mapM f = .ok ys ↔ List.Forall₂ (fun x y => f x = .ok y) xs ys := by
  induction xs generalizing ys with
  | nil => cases ys <;> simp [pure, Except.pure]
  | cons x xs ih =>
    rw [List.mapM_cons, List.forall₂_cons_left_iff]
    cases hx : f x with
    | error e => simp [bind, Except.bind]
    | ok y =>
      cases hxs : xs.mapM f with
      | error e => simp [bind, Except.bind, ← ih, hxs]
      | ok ys' => simp [bind, Except.bind, pure, Except.pure, ← ih, hxs, eq_comm]

namespace Value

variable {x y : Value} {xs ys : List Value}

theorem Pairs.exists_left (h : Pairs xs ys) (hx : x ∈ xs) : ∃ y ∈ ys, x == y := by
  obtain ⟨zs, hzs, hp⟩ := h
  obtain ⟨z, hz, hxz⟩ := exists_of_forall₂ hzs x hx
  exact ⟨z, hp.mem_iff.1 hz, hxz⟩

theorem Pairs.exists_right (h : Pairs xs ys) (hy : y ∈ ys) : ∃ x ∈ xs, x == y := by
  obtain ⟨zs, hzs, hp⟩ := h
  exact exists_of_forall₂ hzs.flip y (hp.mem_iff.2 hy)

theorem Pairs.length_eq (h : Pairs xs ys) : xs.length = ys.length := by
  obtain ⟨zs, hzs, hp⟩ := h
  rw [hzs.length_eq, hp.length_eq]

end Value

theorem Literal.coerceWords_eq_ok_iff {text : String} {vs : List Value} :
    coerceWords text = .ok vs ↔ ∃ words : List String,
      Text.Spaced (words.map String.toList) text.toList ∧
        List.Forall₂ (coerce · = .ok ·) words vs := by
  rw [coerceWords, mapM_eq_ok_iff]
  constructor
  · intro h
    refine ⟨(Text.words text.toList).map String.ofList, ?_, List.forall₂_map_left_iff.2 h⟩
    rw [List.map_map, ← Text.words_eq_iff]
    simp
  · rintro ⟨words, hs, h⟩
    rw [hs.words_eq, List.forall₂_map_left_iff]
    simpa using h

theorem Predicate.test_of_elementOf {p : Predicate} (h : p.kind = .elementOf) (c : Value) :
    p.test c = .ok (p.operands.any (· == c)) := by
  simp only [test, h]

inductive Comparator.Lists : Comparator → (List Char → Phrase) → Prop
  | elementOf : Lists .elementOf .elementOf
  | consistOf : Lists .consistOf .consistOf

namespace Comparator.Lists

variable {kind : Comparator} {make : List Char → Phrase} {whole phrase : String} {s : List Char}
  {r : Phrase} {p : Predicate}

theorem exists_iff : (∃ make, kind.Lists make) ↔ kind = .elementOf ∨ kind = .consistOf := by
  constructor
  · rintro ⟨_, h⟩
    cases h with
    | elementOf => exact .inl rfl
    | consistOf => exact .inr rfl
  · rintro (rfl | rfl)
    · exact ⟨_, .elementOf⟩
    · exact ⟨_, .consistOf⟩

theorem parse?_eq_some_iff (h : kind.Lists make) :
    Grammar.standard.parse? phrase = some (make s) ↔
      phrase.toList = (kind.text ++ " ").toList ++ s ∧ '\n' ∉ s ∧ s ≠ [] := by
  rw [Grammar.parse?_standard_eq_some_iff, ← Form.filledSlot?_eq_some_iff]
  cases h with
  | elementOf => simp [Phrase.form, Form.parse?, text]
  | consistOf => simp [Phrase.form, Form.parse?, text]

theorem compile_eq (h : kind.Lists make) : (make s).compile whole =
    (Phrase.coerced (Literal.coerceWords (String.ofList s))).map (.plain kind) := by
  cases h with
  | elementOf => rw [Phrase.compile]; cases Literal.coerceWords (String.ofList s) <;> rfl
  | consistOf => rw [Phrase.compile]; cases Literal.coerceWords (String.ofList s) <;> rfl

theorem compile_eq_ok_iff (h : kind.Lists make) : (make s).compile whole = .ok p ↔
    ∃ vs, Literal.coerceWords (String.ofList s) = .ok vs ∧ p = .plain kind vs := by
  rw [h.compile_eq]
  cases Literal.coerceWords (String.ofList s) with
  | error e => exact ⟨nofun, nofun⟩
  | ok vs =>
    constructor
    · rintro ⟨⟩
      exact ⟨vs, rfl, rfl⟩
    · rintro ⟨_, ⟨⟩, rfl⟩
      rfl

theorem eq_make_of_compile (h : kind.Lists make) (hp : r.compile whole = .ok p)
    (hk : p.kind = kind) : ∃ s, r = make s := by
  have hform := Phrase.form_of_compile hp
  rw [hk] at hform
  cases h with
  | elementOf =>
    cases r with
    | elementOf s => exact ⟨s, rfl⟩
    | _ => nomatch hform
  | consistOf =>
    cases r with
    | consistOf s => exact ⟨s, rfl⟩
    | _ => nomatch hform

end Comparator.Lists

namespace Grammar

variable {g : Grammar} {phrase text : String} {kind : Comparator} {make : List Char → Phrase}
  {p : Predicate} {c : Value}

theorem compile_standard_of_compile (h : g.compile phrase = .ok p) :
    standard.compile phrase = .ok p := by
  obtain ⟨r, hr, hp⟩ := exists_parse?_of_compile h
  obtain ⟨f, _, hf⟩ := List.exists_of_findSome?_eq_some hr
  rw [compile, (parse?_eq_some_iff mem_standard).2 ⟨f, hf⟩]
  exact hp

theorem compile_lists_iff (h : kind.Lists make) :
    standard.compile phrase = .ok p ∧ p.kind = kind ↔
      ∃ text vs, phrase = kind.text ++ " " ++ text ∧ '\n' ∉ text.toList ∧ text ≠ "" ∧
        Literal.coerceWords text = .ok vs ∧ p = .plain kind vs := by
  constructor
  · rintro ⟨hp, hk⟩
    obtain ⟨r, hr, hp⟩ := exists_parse?_of_compile hp
    obtain ⟨s, rfl⟩ := h.eq_make_of_compile hp hk
    obtain ⟨hphrase, hline, hne⟩ := h.parse?_eq_some_iff.1 hr
    obtain ⟨vs, hvs, rfl⟩ := h.compile_eq_ok_iff.1 hp
    refine ⟨String.ofList s, vs, ?_, ?_, ?_, hvs, rfl⟩
    · exact String.toList_inj.1 (hphrase.trans (by simp))
    · rwa [String.toList_ofList]
    · simpa using hne
  · rintro ⟨text, vs, rfl, hline, hne, hvs, rfl⟩
    have hparse := h.parse?_eq_some_iff.2 ⟨String.toList_append, hline, by simpa using hne⟩
    refine ⟨?_, rfl⟩
    rw [compile, hparse]
    exact h.compile_eq_ok_iff.2 ⟨vs, by rwa [String.ofList_toList], rfl⟩

def Accepts (phrase : String) (c : Value) : Prop :=
  ∃ p, standard.compile phrase = .ok p ∧ p.test c = .ok true

theorem accepts_equal_iff {x : String} {v : Value} (hx : '\n' ∉ x.toList)
    (hv : Literal.coerce x = .ok v) : Accepts ("equal " ++ x) c ↔ c == v := by
  rw [Accepts, compile_equal hx, hv]
  constructor
  · rintro ⟨_, ⟨⟩, h⟩
    exact Except.ok.inj h
  · exact fun h => ⟨_, rfl, congrArg Except.ok h⟩

theorem accepts_contain_of_mem {x : String} {v item : Value} {items : List Value}
    (hx : '\n' ∉ x.toList) (hne : x.toList ≠ []) (hv : Literal.coerce x = .ok v)
    (hitem : item ∈ items) (heq : item == v) : Accepts ("contain " ++ x) (.sequence items) :=
  ⟨_, compile_contain hx hne hv, congrArg Except.ok (List.any_eq_true.2 ⟨item, hitem, heq⟩)⟩

theorem compile_length {n : Nat} (hn : n ≤ 4294967295) :
    standard.compile ("have length " ++ toString n) =
      .ok (.plain .hasLength [.number (.ofNat n)]) := by
  have hdigits : ∀ d ∈ Nat.toDigits 10 n, d.isDigit := fun d hd =>
    Nat.isDigit_of_mem_toDigits (by decide) (by decide) hd
  have hnumber : IsNumber (Nat.toDigits 10 n) :=
    ⟨Nat.toDigits_ne_nil, fun d hd => Text.isDecimalDigit_of_isDigit (hdigits d hd)⟩
  have hparse : standard.parse? ("have length " ++ toString n) =
      some (.length (Nat.toDigits 10 n)) := by
    rw [parse?_standard_eq_some_iff]
    refine Form.parse?_length_eq_some_iff.2 ⟨_, ?_, hnumber, rfl⟩
    rw [String.toList_append, Nat.toString_eq_repr, Nat.toList_repr]
  have hlength : Phrase.length? (Nat.toDigits 10 n) = some n := by
    rw [Phrase.length?, Decimal.readNat?_of_isDigit Nat.toDigits_ne_nil hdigits,
      Nat.ofDigitChars_toDigits (by decide) (by decide), Option.filter_some,
      if_pos (by simpa using Nat.lt_succ_of_le hn)]
  rw [compile, hparse]
  simp only [Phrase.compile, hlength]

theorem accepts_length {items : List Value} (h : items.length ≤ 4294967295) :
    Accepts ("have length " ++ toString items.length) (.sequence items) := by
  refine ⟨_, compile_length h, congrArg Except.ok ?_⟩
  have hnumber : ¬Value.HasNaN (.number (.ofNat items.length)) := by simp
  exact (Value.eq_self_iff _).2 hnumber

section Words

variable {words : List String} {vs items : List Value}

theorem any_beq_iff_accepts (hvs : List.Forall₂ (Literal.coerce · = .ok ·) words vs)
    (hline : ∀ w ∈ words, '\n' ∉ w.toList) :
    vs.any (· == c) ↔ ∃ w ∈ words, Accepts ("equal " ++ w) c := by
  rw [List.any_eq_true]
  constructor
  · rintro ⟨v, hv, hcv⟩
    obtain ⟨w, hw, hwv⟩ := exists_of_forall₂ hvs.flip v hv
    exact ⟨w, hw, (accepts_equal_iff (hline w hw) hwv).2 (Value.beq_symm hcv)⟩
  · rintro ⟨w, hw, hcw⟩
    obtain ⟨v, hv, hwv⟩ := exists_of_forall₂ hvs w hw
    exact ⟨v, hv, Value.beq_symm ((accepts_equal_iff (hline w hw) hwv).1 hcw)⟩

theorem accepts_contain_of_pairs (hvs : List.Forall₂ (Literal.coerce · = .ok ·) words vs)
    (hline : ∀ w ∈ words, '\n' ∉ w.toList) (hne : ∀ w ∈ words, w.toList ≠ [])
    (h : Value.Pairs items vs) : ∀ w ∈ words, Accepts ("contain " ++ w) (.sequence items) := by
  intro w hw
  obtain ⟨v, hv, hwv⟩ := exists_of_forall₂ hvs w hw
  obtain ⟨item, hitem, heq⟩ := h.exists_right hv
  exact accepts_contain_of_mem (hline w hw) (hne w hw) hwv hitem heq

/-- The phrases that list words agree with those that have one of the words. A value is an element
of the list if and only if it equals the value of a word. A sequence that consists of the list has
as many items as there are words, it contains each of them, and its items are elements of the
list. -/
theorem lists_agree_with_single (hne : words ≠ [])
    (hs : Text.Spaced (words.map String.toList) text.toList) (hline : '\n' ∉ text.toList)
    (hok : ∀ w ∈ words, ∃ v, Literal.coerce w = .ok v) :
    ∃ p q, standard.compile ("be an element of " ++ text) = .ok p ∧
      standard.compile ("consist of " ++ text) = .ok q ∧
      ∀ c, (∃ b, p.test c = .ok b ∧ (b ↔ ∃ w ∈ words, Accepts ("equal " ++ w) c)) ∧
        (q.test c = .ok true → ∃ items, c = .sequence items ∧
          (words.length ≤ 4294967295 → Accepts ("have length " ++ toString words.length) c) ∧
          (∀ w ∈ words, Accepts ("contain " ++ w) c) ∧
          ∀ item ∈ items, p.test item = .ok true) := by
  obtain ⟨vs, hvs⟩ := exists_forall₂ hok
  have hmem {w : String} (hw : w ∈ words) : w.toList ∈ words.map String.toList :=
    List.mem_map_of_mem hw
  have hwordline : ∀ w ∈ words, '\n' ∉ w.toList :=
    fun w hw hc => hline (hs.subset _ (hmem hw) hc)
  have hwordne : ∀ w ∈ words, w.toList ≠ [] := fun w hw => (hs.solid _ (hmem hw)).1
  have htext : text ≠ "" := by
    rintro rfl
    have hnil : [] = words.map String.toList := hs.words_eq
    exact hne (List.map_eq_nil_iff.1 hnil.symm)
  have hcoerce : Literal.coerceWords text = .ok vs :=
    Literal.coerceWords_eq_ok_iff.2 ⟨words, hs, hvs⟩
  have hp := (compile_lists_iff .elementOf).2 ⟨text, vs, rfl, hline, htext, hcoerce, rfl⟩
  have hq := (compile_lists_iff .consistOf).2 ⟨text, vs, rfl, hline, htext, hcoerce, rfl⟩
  refine ⟨_, _, hp.1, hq.1, fun c =>
    ⟨⟨_, Predicate.test_of_elementOf rfl c, any_beq_iff_accepts hvs hwordline⟩, fun hc => ?_⟩⟩
  cases c with
  | sequence items =>
    rw [Predicate.test_of_consistOf rfl] at hc
    have hpairs : Value.Pairs items vs := Predicate.consistsOf_iff_pairs.1 (Except.ok.inj hc)
    refine ⟨items, rfl, fun hn => ?_, accepts_contain_of_pairs hvs hwordline hwordne hpairs,
      fun item hitem => ?_⟩
    · rw [hvs.length_eq, ← hpairs.length_eq] at hn ⊢
      exact accepts_length hn
    · obtain ⟨v, hv, heq⟩ := hpairs.exists_left hitem
      rw [Predicate.test_of_elementOf rfl]
      exact congrArg Except.ok (List.any_eq_true.2 ⟨v, hv, Value.beq_symm heq⟩)
  | _ => nomatch hc

end Words

theorem lists_agree_with_single_twice :
    let words := ["~", "a", "'a'"]
    let text := "\u2003~\t a\u00a0'a' "
    let c := Value.sequence [.string "a", .null, .string "a"]
    Text.Spaced (words.map String.toList) text.toList ∧
      (∀ w ∈ words, ∃ v, Literal.coerce w = .ok v) ∧
      ∃ p q, standard.compile ("be an element of " ++ text) = .ok p ∧
        standard.compile ("consist of " ++ text) = .ok q ∧
        p.test .null = .ok true ∧ Accepts "equal ~" .null ∧
        q.test c = .ok true ∧ Accepts "have length 3" c ∧ Accepts "contain 'a'" c ∧
        q.test (.sequence [.string "a", .null]) = .ok false := by
  intro words text c
  have hs : Text.Spaced (words.map String.toList) text.toList := Text.words_eq_iff.1 (by decide +kernel)
  have hok : ∀ w ∈ words, ∃ v, Literal.coerce w = .ok v :=
    List.forall_mem_cons.2 ⟨⟨.null, rfl⟩, List.forall_mem_cons.2 ⟨⟨.string "a", rfl⟩,
      List.forall_mem_singleton.2 ⟨.string "a", rfl⟩⟩⟩
  have hcoerce : Literal.coerceWords text = .ok [.null, .string "a", .string "a"] :=
    Literal.coerceWords_eq_ok_iff.2 ⟨words, hs, .cons rfl (.cons rfl (.cons rfl .nil))⟩
  have hcompile := (compile_lists_iff .consistOf).2
    ⟨text, _, rfl, by decide, by decide, hcoerce, rfl⟩
  obtain ⟨p, q, hp, hq, hagree⟩ := lists_agree_with_single (by decide) hs (by decide) hok
  obtain rfl := Except.ok.inj (hcompile.1.symm.trans hq)
  have hnull : Accepts "equal ~" .null := ⟨_, rfl, rfl⟩
  obtain ⟨b, hb, hiff⟩ := (hagree .null).1
  rw [hiff.2 ⟨"~", List.mem_cons_self, hnull⟩] at hb
  obtain ⟨_, _, hlength, hcontain, _⟩ := (hagree c).2 rfl
  have hthree : "have length " ++ toString words.length = "have length 3" := by decide +kernel
  exact ⟨hs, hok, p, _, hp, hq, hb, hnull, rfl, hthree ▸ hlength (by decide),
    hcontain "'a'" (by decide), rfl⟩

/-- The operands of a list are the values of its words. The list may be only white space, though,
and then it has no operands: no value is an element of it, and only the empty sequence consists of
it. That list is in no step, since the white space at the end of a step is dropped. -/
theorem operands_of_compile_lists {g : Grammar} (h : g.compile phrase = .ok p)
    (hk : p.kind = .elementOf ∨ p.kind = .consistOf) :
    ∃ text, phrase = p.kind.text ++ " " ++ text ∧ text ≠ "" ∧
      (∃ words : List String, Text.Spaced (words.map String.toList) text.toList ∧
        List.Forall₂ (Literal.coerce · = .ok ·) words p.operands) ∧
      (p.operands = [] ↔ Text.Blank text.toList) ∧
      (p.operands = [] → p.kind = .elementOf → ∀ c, p.negated.holds c = .ok true) ∧
      (p.operands = [] → p.kind = .consistOf → ∀ items,
        p.test (.sequence items) = .ok items.isEmpty) ∧
      ∀ s step, AssertionStep.parse s = .ok step → step.assertion.phrase = phrase →
        p.operands ≠ [] := by
  have hstandard := compile_standard_of_compile h
  obtain ⟨make, hlists⟩ := Comparator.Lists.exists_iff.2 hk
  obtain ⟨text, vs, hphrase, -, hne, hvs, hp⟩ := (compile_lists_iff hlists).1 ⟨hstandard, rfl⟩
  obtain ⟨words, hs, hwords⟩ := Literal.coerceWords_eq_ok_iff.1 hvs
  obtain rfl : p.operands = vs := congrArg Predicate.operands hp
  have hblank : p.operands = [] ↔ Text.Blank text.toList := by
    rw [← Text.spaced_nil_iff, ← Text.words_eq_iff, hs.words_eq, List.map_eq_nil_iff]
    constructor
    · intro hnil
      rw [hnil] at hwords
      exact List.forall₂_nil_right_iff.1 hwords
    · rintro rfl
      exact List.forall₂_nil_left_iff.1 hwords
  refine ⟨text, hphrase, hne, ⟨words, hs, hwords⟩, hblank, fun hnil hkind c => ?_,
    fun hnil hkind items => ?_, fun s step hstep hsame hnil => ?_⟩
  · rw [Predicate.holds, Predicate.test_negated, Predicate.test_of_elementOf hkind, hnil,
      Predicate.negate_negated, negate_of_compile h]
    rfl
  · rw [Predicate.test_of_consistOf hkind, hnil]
    cases items <;> rfl
  · have hlast := (AssertionStep.wellFormed_of_parse hstep).trimmed
    have htext : text.toList ≠ [] := by simpa using hne
    rw [hsame, hphrase, String.toList_append, List.getLast?_append_of_ne_nil _ htext] at hlast
    have hspace := hblank.1 hnil _ (List.getLast_mem htext)
    rw [hlast _ (List.getLast?_eq_some_getLast htext)] at hspace
    exact Bool.false_ne_true hspace

theorem operands_of_compile_lists_blank :
    let phrase := "consist of \u2003"
    let p := Predicate.plain .consistOf []
    standard.compile phrase = .ok p ∧ p.test (.sequence []) = .ok true ∧
      p.test (.sequence [.null]) = .ok false ∧
      ∀ s step, AssertionStep.parse s = .ok step → step.assertion.phrase ≠ phrase := by
  intro phrase p
  have hs : Text.Spaced [] "\u2003".toList := .blank (by decide) .nil
  obtain ⟨hcompile, _⟩ := (compile_lists_iff .consistOf).2 ⟨"\u2003", [], rfl, by decide, by decide,
    Literal.coerceWords_eq_ok_iff.2 ⟨[], hs, .nil⟩, rfl⟩
  obtain ⟨_, _, _, _, _, _, htest, hstep⟩ := operands_of_compile_lists hcompile (.inr rfl)
  exact ⟨hcompile, htest rfl rfl [], htest rfl rfl [.null],
    fun s step h hsame => hstep s step h hsame rfl⟩

theorem exists_compile_and_operands_eq_nil :
    ∃ p, standard.compile "be an element of  " = .ok p ∧ p.kind = .elementOf ∧ p.operands = [] :=
  ⟨_, rfl, rfl, rfl⟩

end Grammar

end LiveAssert
