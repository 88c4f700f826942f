import LiveAssert.Proofs.Phrase.Compiled
import LiveAssert.Proofs.Step.Stated
import LiveAssert.Proofs.Step.Written

/-!
The forms of phrases as languages. No phrase is in two of them, since phrases of different forms
begin differently, and so the order in which a grammar tries its forms has no meaning.
-/

namespace LiveAssert

theorem IsNumber.not_mem_newline {s : List Char} (h : IsNumber s) : '\n' ∉ s :=
  fun hm => nomatch h.2 _ hm

namespace Form

open Text (isDecimalDigit)

inductive IsUnsigned : List Char → Prop
  | whole : IsNumber digits → IsUnsigned digits
  | fraction : IsNumber digits → IsNumber places → IsUnsigned (digits ++ '.' :: places)

inductive IsSigned : List Char → Prop
  | plain : IsUnsigned s → IsSigned s
  | minus : IsUnsigned s → IsSigned ('-' :: s)

/-- The forms that are a beginning with a text behind it, which must not be empty. -/
def filledForms : List (Form × String) := [
  (.elementOf, "be an element of "), (.consistOf, "consist of "), (.contain, "contain "),
  (.hasPrefix, "have prefix "), (.hasSuffix, "have suffix "), (.regex, "match regex ")]

inductive Matches : Form → List Char → Prop
  | equal : '\n' ∉ s → Matches .equal ("equal ".toList ++ s)
  | filled : (f, start) ∈ filledForms → s ≠ [] → '\n' ∉ s → Matches f (start.toList ++ s)
  | numeric : be ∈ ["", "be "] → symbol ∈ ["=", "==", "!=", "<", "<=", ">", ">=", "~"] →
      IsSigned s → Matches .numeric (be.toList ++ (symbol.toList ++ ' ' :: s))
  | bool : word ∈ ["true", "false"] → Matches .bool ("be ".toList ++ word.toList)
  | length : IsNumber s → Matches .length ("have length ".toList ++ s)

def starts : Form → List String
  | .equal => ["equal "]
  | .numeric => ["", "be "].flatMap fun be => operators.map (be ++ ·)
  | .bool => ["be true", "be false"]
  | .length => ["have length "]
  | f => (filledForms.filter (·.1 = f)).map (·.2)

variable {f g : Form} {s rest : List Char} {start : String} {phrase : Phrase}

theorem mem_all (f : Form) : f ∈ all := by
  cases f <;> decide

theorem isDigits_iff : isDigits s ↔ IsNumber s := by
  simp [isDigits, IsNumber]

theorem IsUnsigned.exists_cons (h : IsUnsigned s) : ∃ c t, s = c :: t ∧ isDecimalDigit c := by
  cases h with
  | whole hd =>
    obtain ⟨c, t, rfl⟩ := List.exists_cons_of_ne_nil hd.1
    exact ⟨c, t, rfl, hd.2 c List.mem_cons_self⟩
  | fraction hd =>
    obtain ⟨c, t, rfl⟩ := List.exists_cons_of_ne_nil hd.1
    exact ⟨c, _, rfl, hd.2 c List.mem_cons_self⟩

theorem isUnsigned_iff : (!(s.takeWhile isDecimalDigit).isEmpty &&
    match s.dropWhile isDecimalDigit with
    | [] => true
    | '.' :: places => isDigits places
    | _ => false) ↔ IsUnsigned s := by
  constructor
  · intro h
    rw [Bool.and_eq_true, Bool.not_eq_true', List.isEmpty_eq_false_iff] at h
    have hd : IsNumber (s.takeWhile isDecimalDigit) :=
      ⟨h.1, fun c hc => List.all_eq_true.1 List.all_takeWhile c hc⟩
    rw [← List.takeWhile_append_dropWhile (p := isDecimalDigit) (l := s)]
    generalize s.takeWhile isDecimalDigit = digits at hd
    cases hs : s.dropWhile isDecimalDigit with
    | nil => rw [List.append_nil]; exact .whole hd
    | cons c places =>
      rw [hs] at h
      split at h
      · next heq => cases heq
      · next heq => cases heq; exact .fraction hd (isDigits_iff.1 h.2)
      · nomatch h.2
  · intro h
    cases h with
    | whole hd =>
      obtain ⟨htake, hdrop⟩ := Text.span_append (s := []) hd.2 nofun
      rw [List.append_nil] at htake hdrop
      simp [htake, hdrop, hd.1]
    | fraction hd hp =>
      obtain ⟨htake, hdrop⟩ := Text.span_append hd.2 (s := '.' :: _) (by rintro _ ⟨⟩; rfl)
      rw [htake, hdrop]
      simp [hd.1, isDigits_iff.2 hp]

theorem isNumber_iff : isNumber s ↔ IsSigned s := by
  unfold isNumber
  split
  · apply isUnsigned_iff.trans ⟨.minus, fun h => ?_⟩
    cases h with
    | minus h => exact h
    | plain h =>
      obtain ⟨_, _, ⟨⟩, hc⟩ := h.exists_cons
      nomatch hc
  · next hs =>
    apply isUnsigned_iff.trans ⟨.plain, fun h => ?_⟩
    cases h with
    | minus => exact absurd rfl (hs _)
    | plain h => exact h

theorem slot?_eq_some_iff : slot? start s = some rest ↔ s = start.toList ++ rest ∧ '\n' ∉ rest := by
  simp [slot?, Option.filter_eq_some_iff, Text.after?_eq_some_iff]

theorem filledSlot?_eq_some_iff :
    filledSlot? start s = some rest ↔ s = start.toList ++ rest ∧ '\n' ∉ rest ∧ rest ≠ [] := by
  simp [filledSlot?, Option.filter_eq_some_iff, slot?_eq_some_iff, and_assoc]

theorem mem_operators_iff {symbol : String} :
    symbol ∈ operators ↔ symbol ∈ ["=", "==", "!=", "<", "<=", ">", ">=", "~"] := by
  have hperm : operators.Perm ["=", "==", "!=", "<", "<=", ">", ">=", "~"] := by decide
  exact hperm.mem_iff

theorem blank_not_mem_of_mem_operators {symbol : String} (h : symbol ∈ operators) :
    ∀ c ∈ symbol.toList, (c != ' ') = true := by
  have hall : ∀ symbol ∈ operators, symbol.toList.all (· != ' ') := by decide
  exact List.all_eq_true.1 (hall _ h)

theorem comparison?_eq_some_iff : comparison? s = some phrase ↔
    ∃ symbol ∈ operators, ∃ number, s = symbol.toList ++ ' ' :: number ∧ IsSigned number ∧
      .numeric symbol number = phrase := by
  have hsound {phrase : Phrase} (h : comparison? s = some phrase) :
      ∃ symbol ∈ operators, ∃ number, s = symbol.toList ++ ' ' :: number ∧ IsSigned number ∧
        .numeric symbol number = phrase := by
    obtain ⟨symbol, hmem, h⟩ := List.exists_of_findSome?_eq_some h
    split at h
    · next number hn =>
      split at h
      · next hnumber =>
        exact ⟨symbol, hmem, number, Text.after?_eq_some_iff.1 hn, isNumber_iff.1 hnumber,
          Option.some.inj h⟩
      · nomatch h
    · nomatch h
  refine ⟨hsound, ?_⟩
  rintro ⟨symbol, hmem, number, rfl, hnumber, rfl⟩
  have hsome : (comparison? (symbol.toList ++ ' ' :: number)).isSome := by
    apply List.findSome?_isSome_iff.2 ⟨symbol, hmem, _⟩
    rw [Text.after?_append]
    simp [isNumber_iff.2 hnumber]
  obtain ⟨phrase, hphrase⟩ := Option.isSome_iff_exists.1 hsome
  -- the text before the blank is the operator, so no other one is recognised first
  obtain ⟨symbol', hmem', number', heq, _, rfl⟩ := hsound hphrase
  obtain ⟨hsymbol, hrest⟩ := Text.append_inj_of_head (p := (· != ' '))
    (blank_not_mem_of_mem_operators hmem) (by simp) (blank_not_mem_of_mem_operators hmem')
    (by simp) heq
  rw [hphrase, String.toList_inj.1 hsymbol, (List.cons.inj hrest).2]

theorem after?_be_eq_none {symbol : String} (h : symbol ∈ operators) (s : List Char) :
    Text.after? "be ".toList (symbol.toList ++ s) = none := by
  have hall : ∀ symbol ∈ operators, symbol.toList.head?.any (· != 'b') := by decide
  have hb := hall _ h
  rw [Option.eq_none_iff_forall_ne_some]
  intro rest hrest
  rw [Text.after?_eq_some_iff] at hrest
  cases hs : symbol.toList with
  | nil => rw [hs] at hb; nomatch hb
  | cons c t =>
    rw [hs] at hb hrest
    injection hrest with hc _
    rw [hc] at hb
    nomatch hb

theorem parse?_numeric_eq_some_iff : parse? s .numeric = some phrase ↔
    ∃ be ∈ ["", "be "], ∃ symbol ∈ operators, ∃ number,
      s = be.toList ++ (symbol.toList ++ ' ' :: number) ∧ IsSigned number ∧
      .numeric symbol number = phrase := by
  rw [parse?, comparison?_eq_some_iff]
  constructor
  · rintro ⟨symbol, hmem, number, hs, hnumber, rfl⟩
    rw [dropBe] at hs
    cases hbe : Text.after? "be ".toList s with
    | none =>
      rw [hbe] at hs
      exact ⟨"", by decide, symbol, hmem, number, hs, hnumber, rfl⟩
    | some t =>
      rw [hbe, Option.getD_some] at hs
      rw [Text.after?_eq_some_iff] at hbe
      exact ⟨"be ", by decide, symbol, hmem, number, by rw [hbe, hs], hnumber, rfl⟩
  · rintro ⟨be, hbe, symbol, hmem, number, rfl, hnumber, rfl⟩
    refine ⟨symbol, hmem, number, ?_, hnumber, rfl⟩
    simp only [List.mem_cons, List.not_mem_nil, or_false] at hbe
    obtain rfl | rfl := hbe
    · rw [dropBe, String.toList_empty, List.nil_append, after?_be_eq_none hmem, Option.getD_none]
    · rw [dropBe, Text.after?_append, Option.getD_some]

theorem isSome_numeric_iff : (parse? s .numeric).isSome ↔ Matches .numeric s := by
  simp only [Option.isSome_iff_exists, parse?_numeric_eq_some_iff]
  constructor
  · rintro ⟨_, be, hbe, symbol, hmem, number, rfl, hnumber, _⟩
    exact .numeric hbe (mem_operators_iff.1 hmem) hnumber
  · intro h
    cases h with
    | filled h => simp [filledForms] at h
    | numeric hbe hmem hnumber =>
      exact ⟨_, _, hbe, _, mem_operators_iff.2 hmem, _, rfl, hnumber, rfl⟩

theorem isSome_filledSlot?_iff (h : (f, start) ∈ filledForms) :
    (filledSlot? start s).isSome ↔ Matches f s := by
  rw [Option.isSome_iff_exists]
  constructor
  · rintro ⟨rest, hrest⟩
    obtain ⟨rfl, hline, hne⟩ := filledSlot?_eq_some_iff.1 hrest
    exact .filled h hne hline
  · intro hs
    cases hs with
    | @filled _ other rest ho hne hline =>
      have hall : ∀ x ∈ filledForms, ∀ y ∈ filledForms, x.1 = y.1 → x.2 = y.2 := by decide
      obtain rfl : start = other := hall _ h _ ho rfl
      exact ⟨rest, filledSlot?_eq_some_iff.2 ⟨rfl, hline, hne⟩⟩
    | _ => simp [filledForms] at h

theorem isSome_bool_iff : (parse? s .bool).isSome ↔ Matches .bool s := by
  have htrue : Matches .bool ("be ".toList ++ "true".toList) := .bool (by decide)
  have hfalse : Matches .bool ("be ".toList ++ "false".toList) := .bool (by decide)
  rw [parse?]
  constructor
  · intro h
    split at h
    · next hs => exact hs ▸ htrue
    · split at h
      · next hs => exact hs ▸ hfalse
      · nomatch h
  · intro h
    cases h with
    | filled h => simp [filledForms] at h
    | @bool word h =>
      revert word
      decide

theorem parse?_length_eq_some_iff : parse? s .length = some phrase ↔
    ∃ digits, s = "have length ".toList ++ digits ∧ IsNumber digits ∧ .length digits = phrase := by
  rw [parse?, Option.map_eq_some_iff]
  simp only [Option.filter_eq_some_iff, slot?_eq_some_iff, isDigits_iff]
  constructor
  · rintro ⟨digits, ⟨⟨hs, _⟩, hd⟩, hphrase⟩
    exact ⟨digits, hs, hd, hphrase⟩
  · rintro ⟨digits, hs, hd, hphrase⟩
    exact ⟨digits, ⟨⟨hs, hd.not_mem_newline⟩, hd⟩, hphrase⟩

theorem isSome_length_iff : (parse? s .length).isSome ↔ Matches .length s := by
  simp only [Option.isSome_iff_exists, parse?_length_eq_some_iff]
  constructor
  · rintro ⟨_, digits, rfl, hd, _⟩
    exact .length hd
  · intro h
    cases h with
    | filled h => simp [filledForms] at h
    | length h => exact ⟨_, _, rfl, h, rfl⟩

theorem isSome_parse?_iff : (parse? s f).isSome ↔ Matches f s := by
  cases f with
  | equal =>
    rw [parse?, Option.isSome_map, Option.isSome_iff_exists]
    simp only [slot?_eq_some_iff]
    constructor
    · rintro ⟨rest, rfl, hline⟩
      exact .equal hline
    · intro h
      cases h with
      | equal hline => exact ⟨_, rfl, hline⟩
      | filled h => simp [filledForms] at h
  | numeric => exact isSome_numeric_iff
  | bool => exact isSome_bool_iff
  | length => exact isSome_length_iff
  | _ =>
    rw [parse?, Option.isSome_map, isSome_filledSlot?_iff]
    decide

theorem form_of_parse? (h : f.parse? s = some phrase) : phrase.form = f := by
  cases f with
  | numeric => obtain ⟨_, _, _, _, _, _, _, _, rfl⟩ := parse?_numeric_eq_some_iff.1 h; rfl
  | bool =>
    rw [parse?] at h
    split at h
    · cases h; rfl
    · split at h
      · cases h; rfl
      · cases h
  | _ => obtain ⟨_, _, rfl⟩ := Option.map_eq_some_iff.1 h; rfl

theorem Matches.exists_start (h : Matches f s) : ∃ start ∈ f.starts, start.toList <+: s := by
  cases h with
  | equal => exact ⟨_, List.mem_cons_self, List.prefix_append ..⟩
  | filled h =>
    have hall : ∀ x ∈ filledForms, x.2 ∈ x.1.starts := by decide
    exact ⟨_, hall _ h, List.prefix_append ..⟩
  | @numeric be symbol number hbe hmem =>
    have hmem := List.mem_map_of_mem (f := (be ++ ·)) (mem_operators_iff.2 hmem)
    refine ⟨be ++ symbol, List.mem_flatMap.2 ⟨be, hbe, hmem⟩, ?_⟩
    rw [String.toList_append, ← List.append_assoc]
    exact List.prefix_append ..
  | @bool word hword =>
    refine ⟨"be " ++ word, ?_, ?_⟩
    · revert word
      decide
    · exact ⟨[], by rw [List.append_nil, String.toList_append]⟩
  | length => exact ⟨_, List.mem_cons_self, List.prefix_append ..⟩

theorem starts_disjoint : ∀ f ∈ all, ∀ g ∈ all, f ≠ g →
    ∀ start ∈ f.starts, ∀ other ∈ g.starts, ¬start.toList <+: other.toList := by
  decide +kernel

theorem Matches.eq_of_matches (hf : Matches f s) (hg : Matches g s) : f = g := by
  obtain ⟨start, hstart, hs⟩ := hf.exists_start
  obtain ⟨other, hother, ho⟩ := hg.exists_start
  apply Decidable.byContradiction
  intro hne
  cases List.prefix_or_prefix_of_prefix hs ho with
  | inl h => exact starts_disjoint f (mem_all f) g (mem_all g) hne start hstart other hother h
  | inr h =>
    exact starts_disjoint g (mem_all g) f (mem_all f) (Ne.symm hne) other hother start hstart h

theorem IsUnsigned.not_mem_newline (h : IsUnsigned s) : '\n' ∉ s := by
  cases h with
  | whole hd => exact hd.not_mem_newline
  | fraction hd hp => simp [hd.not_mem_newline, hp.not_mem_newline]

theorem IsSigned.not_mem_newline (h : IsSigned s) : '\n' ∉ s := by
  cases h with
  | plain h => exact h.not_mem_newline
  | minus h => simp [h.not_mem_newline]

theorem Matches.not_mem_newline (h : Matches f s) : '\n' ∉ s := by
  cases h with
  | equal hline => simp [hline]
  | @filled _ start _ h _ hline =>
    have hall : ∀ x ∈ filledForms, '\n' ∉ x.2.toList := by decide
    simp [hall _ h, hline]
  | @numeric be symbol number hbe hmem hnumber =>
    have hbe : '\n' ∉ be.toList := by revert be; decide
    have hsymbol : '\n' ∉ symbol.toList := by revert symbol; decide
    simp [hbe, hsymbol, hnumber.not_mem_newline]
  | @bool word h =>
    revert word
    decide
  | length hs => simp [hs.not_mem_newline]

theorem Matches.ne_nil (h : Matches f s) : s ≠ [] := by
  cases h with
  | equal => nofun
  | filled _ hne => exact fun hs => hne (List.append_eq_nil_iff.1 hs).2
  | numeric => simp
  | bool => nofun
  | length => nofun

theorem Matches.not_prefix (h : Matches f s) : ¬"not ".toList <+: s := by
  obtain ⟨start, hstart, hs⟩ := h.exists_start
  intro hnot
  have hall : ∀ f ∈ all, ∀ start ∈ f.starts,
      ¬start.toList <+: "not ".toList ∧ ¬"not ".toList <+: start.toList := by decide +kernel
  obtain ⟨hlong, hshort⟩ := hall f (mem_all f) start hstart
  exact (List.prefix_or_prefix_of_prefix hs hnot).elim hlong hshort

end Form

namespace Phrase

theorem coerced_ne_unrecognised {r : Except CoercionError α} {f : α → Predicate} {text : String} :
    (do return f (← coerced r)) ≠ Except.error (CompileError.unrecognised text) := by
  cases r <;> exact nofun

theorem compile_ne_unrecognised (p : Phrase) (whole text : String) :
    p.compile whole ≠ .error (.unrecognised text) := by
  cases p with
  | equal => exact coerced_ne_unrecognised
  | elementOf => exact coerced_ne_unrecognised
  | consistOf => exact coerced_ne_unrecognised
  | contain => exact coerced_ne_unrecognised
  | bool => simp [compile]
  | hasPrefix => simp [compile]
  | hasSuffix => simp [compile]
  | numeric =>
    rw [compile]
    split
    · simp
    · split <;> simp
  | regex => rw [compile]; split <;> simp
  | length => rw [compile]; split <;> simp

end Phrase

namespace Grammar

variable {g : Grammar} {phrase : String} {p : Phrase}

theorem mem_standard (f : Form) : f ∈ standard := Form.mem_all f

/-- In a grammar of all forms, whatever their order, the one form of a phrase recognises it. -/
theorem parse?_eq_some_iff (hg : ∀ f, f ∈ g) :
    g.parse? phrase = some p ↔ ∃ f : Form, f.parse? phrase.toList = some p := by
  constructor
  · intro h
    obtain ⟨f, _, hf⟩ := List.exists_of_findSome?_eq_some h
    exact ⟨f, hf⟩
  · rintro ⟨f, hf⟩
    have hsome : (g.parse? phrase).isSome :=
      List.findSome?_isSome_iff.2 ⟨f, hg f, Option.isSome_of_eq_some hf⟩
    obtain ⟨q, hq⟩ := Option.isSome_iff_exists.1 hsome
    obtain ⟨f', _, hf'⟩ := List.exists_of_findSome?_eq_some hq
    have hm := Form.isSome_parse?_iff.1 (Option.isSome_of_eq_some hf)
    have hm' := Form.isSome_parse?_iff.1 (Option.isSome_of_eq_some hf')
    obtain rfl := hm.eq_of_matches hm'
    rw [hq, ← hf', hf]

theorem parse?_eq_none_iff (hg : ∀ f, f ∈ g) :
    g.parse? phrase = none ↔ ∀ f : Form, ¬f.Matches phrase.toList := by
  rw [parse?, List.findSome?_eq_none_iff]
  constructor
  · intro h f hf
    rw [← Form.isSome_parse?_iff, h f (hg f)] at hf
    nomatch hf
  · intro h f _
    rw [← Option.not_isSome_iff_eq_none, Form.isSome_parse?_iff]
    exact h f

theorem exists_matches_of_compile {q : Predicate} (h : g.compile phrase = .ok q) :
    ∃ f : Form, f.Matches phrase.toList := by
  obtain ⟨r, hr, _⟩ := exists_parse?_of_compile h
  obtain ⟨f, _, hf⟩ := List.exists_of_findSome?_eq_some hr
  exact ⟨f, Form.isSome_parse?_iff.1 (Option.isSome_of_eq_some hf)⟩

theorem compile_eq_of_forall_mem (hg : ∀ f, f ∈ g) (phrase : String) :
    g.compile phrase = standard.compile phrase := by
  have hparse : g.parse? phrase = standard.parse? phrase := by
    apply Option.ext
    intro p
    rw [parse?_eq_some_iff hg, parse?_eq_some_iff mem_standard]
  rw [compile, compile, hparse]

theorem compile_eq_unrecognised_iff {text : String} :
    standard.compile phrase = .error (.unrecognised text) ↔
      text = phrase ∧ ∀ f : Form, ¬f.Matches phrase.toList := by
  rw [← parse?_eq_none_iff mem_standard, compile]
  cases standard.parse? phrase with
  | none => simp [eq_comm]
  | some p => simp [p.compile_ne_unrecognised phrase text]

/-- A phrase has at most one form, so that a grammar may try the forms in any order. It is
unrecognised if it has none, as if it has a line break or begins with `not `. -/
theorem compile_of_perm (phrase : String) :
    (∀ f : Form, (f.parse? phrase.toList).isSome ↔ f.Matches phrase.toList) ∧
    (∀ f f' : Form, f.Matches phrase.toList → f'.Matches phrase.toList → f = f') ∧
    (∀ g : Grammar, g.Perm standard → g.compile phrase = standard.compile phrase) ∧
    (∀ text, standard.compile phrase = .error (.unrecognised text) ↔
      text = phrase ∧ ∀ f : Form, ¬f.Matches phrase.toList) ∧
    ('\n' ∈ phrase.toList ∨ "not ".toList <+: phrase.toList →
      ∀ f : Form, ¬f.Matches phrase.toList) := by
  refine ⟨fun f => Form.isSome_parse?_iff, fun f f' => Form.Matches.eq_of_matches, fun g hg => ?_,
    fun text => compile_eq_unrecognised_iff, fun h f hf => ?_⟩
  · exact compile_eq_of_forall_mem (fun f => hg.mem_iff.2 (mem_standard f)) phrase
  · exact h.elim hf.not_mem_newline hf.not_prefix

theorem compile_of_perm_reverse :
    standard.reverse.Perm standard ∧ "not ".toList <+: "not be true".toList ∧
      Form.Matches .bool "be true".toList ∧
      Grammar.compile standard.reverse "be true" = .ok (.plain .boolIs [.bool true]) ∧
      Grammar.compile standard.reverse "not be true" = .error (.unrecognised "not be true") := by
  have hperm : standard.reverse.Perm standard := List.reverse_perm standard
  have hnot : "not ".toList <+: "not be true".toList := by decide
  obtain ⟨hmatches, _, htrue, _, _⟩ := compile_of_perm "be true"
  obtain ⟨_, _, hfalse, hunrecognised, hnone⟩ := compile_of_perm "not be true"
  refine ⟨hperm, hnot, (hmatches .bool).1 rfl, ?_, ?_⟩
  · rw [htrue _ hperm]
    rfl
  · rw [hfalse _ hperm]
    exact (hunrecognised _).2 ⟨rfl, hnone (.inr hnot)⟩

end Grammar

end LiveAssert
