import LiveAssert.Proofs.Step.Stated
import LiveAssert.Proofs.Step.Written

/-!
The forms of a step: what may stand before its assertion. A text has at most one discipline, and
where a separator follows the duration, it can be read in only one way.
-/

namespace LiveAssert

open Text (isDecimalDigit)

namespace Text

def isWordChar (c : Char) : Bool := c != ',' && c != ' ' && c != '\''

def IsWord (s : List Char) : Prop := ∀ c ∈ s, isWordChar c

variable {c c' : Char} {s s' word word' : List Char}

theorem isWordChar_of {p : Char → Bool} (hp : p ',' = false ∧ p ' ' = false ∧ p '\'' = false)
    (hc : p c) : isWordChar c := by
  simp only [isWordChar, Bool.and_eq_true, bne_iff_ne]
  refine ⟨⟨?_, ?_⟩, ?_⟩ <;> rintro rfl <;> simp_all

theorem IsWord.append (h : IsWord s) (h' : IsWord s') : IsWord (s ++ s') := by
  intro c hc
  cases List.mem_append.1 hc with
  | inl hc => exact h c hc
  | inr hc => exact h' c hc

theorem IsWord.append_inj (hw : IsWord word) (hc : isWordChar c = false) (hw' : IsWord word')
    (hc' : isWordChar c' = false) (h : word ++ c :: s = word' ++ c' :: s') :
    word = word' ∧ c = c' ∧ s = s' := by
  have hhead {c : Char} {s : List Char} (hc : isWordChar c = false) :
      ∀ d ∈ (c :: s).head?, isWordChar d = false := by
    rintro _ ⟨⟩
    exact hc
  obtain ⟨hword, hrest⟩ := append_inj_of_head hw (hhead hc) hw' (hhead hc') h
  obtain ⟨hc, hs⟩ := List.cons.inj hrest
  exact ⟨hword, hc, hs⟩

end Text

open Text (IsWord isWordChar)

theorem Assertion.IsReference.isWord {s : List Char} (h : IsReference s) : IsWord s :=
  fun c hc => Text.isWordChar_of (by decide) (h.forall_mem c hc)

theorem IsGroups.isWord {s : List Char} (h : IsGroups s) : IsWord s := by
  intro c hc
  cases h.forall_mem c hc with
  | inl hd => exact Text.isWordChar_of (by decide) hd
  | inr hl => exact Text.isWordChar_of (by decide) hl

theorem IsStated.exists_cons {s : List Char} (h : IsStated s) :
    ∃ c t, s = c :: t ∧ isDecimalDigit c := by
  obtain ⟨hne, hg⟩ := h
  cases s with
  | nil => exact absurd rfl hne
  | cons c t => exact ⟨c, t, rfl, (DurationPart.isGroups_cons_iff.1 hg).1⟩

namespace Discipline

variable {d d' : Discipline} {lead lead' separator separator' : String}
  {s stated stated' rest rest' : List Char} {a b : Assertion}

theorem isDecimalDigit_of_mem_leads (h : lead ∈ d.leads) :
    ∀ c ∈ lead.toList, (!isDecimalDigit c) = true := by
  have hall : ∀ lead ∈ d.leads, lead.toList.all (!isDecimalDigit ·) := by cases d <;> decide +kernel
  exact List.all_eq_true.1 (hall lead h)

theorem space_of_mem_leads (h : lead ∈ d.leads) :
    lead = "" ∨ ∃ word s, lead.toList = word ++ ' ' :: s ∧ IsWord word := by
  have hall : ∀ lead ∈ d.leads,
      lead = "" ∨ (lead.toList.dropWhile isWordChar).head? = some ' ' := by
    cases d <;> decide +kernel
  refine (hall lead h).imp_right fun hs => ?_
  obtain ⟨s, hs⟩ := List.head?_eq_some_iff.1 hs
  refine ⟨lead.toList.takeWhile isWordChar, s, ?_, List.all_eq_true.1 List.all_takeWhile⟩
  rw [← hs, List.takeWhile_append_dropWhile]

theorem isNameChar_of_mem_separators (h : separator ∈ d.separators) :
    ∀ c ∈ separator.toList, (!Assertion.isNameChar c) = true := by
  have hall : ∀ separator ∈ d.separators, separator.toList.all (!Assertion.isNameChar ·) := by
    cases d <;> decide +kernel
  exact List.all_eq_true.1 (hall separator h)

theorem exists_cons_of_mem_separators (h : separator ∈ d.separators) (hne : separator ≠ "") :
    ∃ c t, separator.toList = c :: t ∧ isWordChar c = false ∧ c ≠ '\'' := by
  have hall : ∀ separator ∈ d.separators, separator ≠ "" →
      separator.toList.head?.any fun c => !isWordChar c && c != '\'' := by
    cases d <;> decide +kernel
  have hs := hall separator h hne
  cases hl : separator.toList with
  | nil => rw [hl] at hs; nomatch hs
  | cons c t => exact ⟨c, t, rfl, by simpa [hl] using hs⟩

theorem leads_disjoint (h : lead ∈ leads .consistently) : lead ∉ leads .eventually := by
  revert lead
  decide

theorem exists_of_timed? (h : d.timed? s = some (stated, a)) :
    ∃ lead ∈ d.leads, ∃ separator ∈ d.separators, IsStated stated ∧ a.Readable ∧
      s = lead.toList ++ (stated ++ (separator.toList ++ a.text.toList)) := by
  obtain ⟨lead, hlead, h⟩ := List.exists_of_findSome?_eq_some h
  obtain ⟨t, ht, h⟩ := Option.bind_eq_some_iff.1 h
  obtain ⟨⟨taken, u⟩, hp, h⟩ := List.exists_of_findSome?_eq_some h
  obtain ⟨separator, hsep, h⟩ := List.exists_of_findSome?_eq_some h
  obtain ⟨v, hv, h⟩ := Option.bind_eq_some_iff.1 h
  obtain ⟨b, hb, h⟩ := Option.map_eq_some_iff.1 h
  obtain ⟨rfl, rfl⟩ := Prod.mk.inj h
  obtain ⟨hstated, rfl⟩ := DurationPart.mem_prefixes_iff.1 hp
  obtain ⟨rfl, hr⟩ := Assertion.read?_eq_some_iff.1 hb
  rw [Text.after?_eq_some_iff] at ht hv
  exact ⟨lead, hlead, separator, hsep, hstated, hr, by rw [ht, hv]⟩

theorem isSome_timed? (hlead : lead ∈ d.leads) (hstated : IsStated stated)
    (hsep : separator ∈ d.separators) (hrest : (Assertion.read? rest).isSome) :
    (d.timed? (lead.toList ++ (stated ++ (separator.toList ++ rest)))).isSome := by
  rw [timed?, List.findSome?_isSome_iff]
  refine ⟨lead, hlead, ?_⟩
  rw [Text.after?_append, Option.bind_some, List.findSome?_isSome_iff]
  refine ⟨(stated, separator.toList ++ rest), DurationPart.mem_prefixes_iff.2 ⟨hstated, rfl⟩, ?_⟩
  rw [List.findSome?_isSome_iff]
  refine ⟨separator, hsep, ?_⟩
  rw [Text.after?_append, Option.bind_some, Option.isSome_map]
  exact hrest

theorem append_inj_of_leads (hlead : lead ∈ d.leads) (hlead' : lead' ∈ d'.leads)
    (hstated : IsStated stated) (hstated' : IsStated stated')
    (h : lead.toList ++ (stated ++ rest) = lead'.toList ++ (stated' ++ rest')) :
    lead = lead' ∧ stated ++ rest = stated' ++ rest' := by
  have hhead {s t : List Char} (hs : IsStated s) :
      ∀ c ∈ (s ++ t).head?, (!isDecimalDigit c) = false := by
    obtain ⟨c, u, rfl, hc⟩ := hs.exists_cons
    rintro _ ⟨⟩
    simp [hc]
  obtain ⟨hl, hr⟩ := Text.append_inj_of_head (isDecimalDigit_of_mem_leads hlead) (hhead hstated)
    (isDecimalDigit_of_mem_leads hlead') (hhead hstated') h
  exact ⟨String.toList_inj.1 hl, hr⟩

theorem append_inj_of_separators (hsep : separator ∈ d.separators)
    (hsep' : separator' ∈ d'.separators) (ha : a.Readable) (hb : b.Readable)
    (h : separator.toList ++ a.text.toList = separator'.toList ++ b.text.toList) : a = b := by
  have hhead {a : Assertion} (ha : a.Readable) :
      ∀ c ∈ a.text.toList.head?, (!Assertion.isNameChar c) = false := by
    obtain ⟨c, hc, hedge⟩ := ha.head?_text
    rw [hc]
    rintro _ ⟨⟩
    simp [Assertion.isNameChar_of_isNameEdge hedge]
  exact ha.text_injective hb (Text.append_inj_of_head (isNameChar_of_mem_separators hsep) (hhead ha)
    (isNameChar_of_mem_separators hsep') (hhead hb) h).2

theorem append_inj_of_stated (hstated : IsStated stated) (hstated' : IsStated stated')
    (hsep : separator ∈ d.separators) (hne : separator ≠ "") (hsep' : separator' ∈ d'.separators)
    (ha : a.Readable) (hb : b.Readable)
    (h : stated ++ (separator.toList ++ a.text.toList) =
      stated' ++ (separator'.toList ++ b.text.toList)) : stated = stated' ∧ a = b := by
  obtain ⟨c, t, hct, hc, hquote⟩ := exists_cons_of_mem_separators hsep hne
  have hword := hstated.2.isWord
  have hword' := hstated'.2.isWord
  by_cases hne' : separator' = ""
  · -- the rest of the duration would belong to a name, and be followed by a quote
    obtain ⟨rest, hrest⟩ := b.exists_text
    rw [hct, hne', String.toList_empty, List.nil_append, hrest, ← List.append_assoc stated'] at h
    exact absurd (hword.append_inj hc (hword'.append hb.reference.isWord) rfl h).2.1 hquote
  · obtain ⟨c', t', hct', hc', _⟩ := exists_cons_of_mem_separators hsep' hne'
    have heq : stated = stated' := by
      rw [hct, hct'] at h
      exact (hword.append_inj hc hword' hc' h).1
    subst heq
    exact ⟨rfl, append_inj_of_separators hsep hsep' ha hb (List.append_cancel_left h)⟩

theorem timed?_append (hlead : lead ∈ d.leads) (hstated : IsStated stated)
    (hsep : separator ∈ d.separators) (hne : separator ≠ "") (ha : a.Readable) :
    d.timed? (lead.toList ++ (stated ++ (separator.toList ++ a.text.toList))) =
      some (stated, a) := by
  obtain ⟨⟨stated', b⟩, h⟩ := Option.isSome_iff_exists.1
    (isSome_timed? hlead hstated hsep (Option.isSome_of_eq_some ha.read?_text))
  obtain ⟨lead', hlead', separator', hsep', hstated', hb, heq⟩ := exists_of_timed? h
  obtain ⟨_, heq⟩ := append_inj_of_leads hlead hlead' hstated hstated' heq
  obtain ⟨rfl, rfl⟩ := append_inj_of_stated hstated hstated' hsep hne hsep' ha hb heq
  exact h

/-- The longest duration that leaves an assertion is taken. -/
theorem length_le_of_timed? (h : d.timed? s = some (stated, a)) (hlead : lead ∈ d.leads)
    (hstated : IsStated stated') (hsep : separator ∈ d.separators) (hb : b.Readable)
    (heq : s = lead.toList ++ (stated' ++ (separator.toList ++ b.text.toList))) :
    stated'.length ≤ stated.length := by
  subst heq
  obtain ⟨lead', hlead', h⟩ := List.exists_of_findSome?_eq_some h
  obtain ⟨t, ht, h⟩ := Option.bind_eq_some_iff.1 h
  obtain ⟨longer, ⟨taken, u⟩, shorter, hsplit, hread, hnone⟩ := List.findSome?_eq_some_iff.1 h
  obtain ⟨htaken, rfl⟩ := DurationPart.mem_prefixes_iff.1
    (hsplit ▸ List.mem_append_right _ List.mem_cons_self)
  rw [Text.after?_eq_some_iff] at ht
  obtain ⟨_, htail⟩ := append_inj_of_leads hlead hlead' hstated htaken ht
  obtain rfl : taken = stated := by
    obtain ⟨_, _, hread⟩ := List.exists_of_findSome?_eq_some hread
    obtain ⟨_, _, hread⟩ := Option.bind_eq_some_iff.1 hread
    obtain ⟨_, _, hread⟩ := Option.map_eq_some_iff.1 hread
    exact (Prod.mk.inj hread).1
  have hmem : (stated', separator.toList ++ b.text.toList) ∈ longer ++ (taken, u) :: shorter :=
    hsplit ▸ DurationPart.mem_prefixes_iff.2 ⟨hstated, htail⟩
  obtain hl | hs := List.mem_append.1 hmem
  · -- what stands before the prefix that was taken leaves no assertion
    have hread := List.findSome?_eq_none_iff.1 (hnone _ hl) separator hsep
    rw [Text.after?_append, Option.bind_some, hb.read?_text] at hread
    nomatch hread
  · have hsorted := DurationPart.prefixes_pairwise .start (taken ++ u)
    rw [hsplit, List.pairwise_append, List.pairwise_cons] at hsorted
    cases hs with
    | head => exact Nat.le_refl _
    | tail _ hs => exact Nat.le_of_lt (hsorted.2.1.1 _ hs)

theorem timed?_eq_none_of_consistently (h : (timed? .consistently s).isSome) :
    timed? .eventually s = none := by
  obtain ⟨⟨stated, a⟩, h⟩ := Option.isSome_iff_exists.1 h
  rw [Option.eq_none_iff_forall_ne_some]
  rintro ⟨stated', b⟩ h'
  obtain ⟨lead, hlead, _, _, hstated, _, heq⟩ := exists_of_timed? h
  obtain ⟨lead', hlead', _, _, hstated', _, heq'⟩ := exists_of_timed? h'
  obtain ⟨rfl, _⟩ := append_inj_of_leads hlead hlead' hstated hstated' (heq.symm.trans heq')
  exact leads_disjoint hlead hlead'

/-! Before an assertion that stands alone there is no lead; a duration can only begin its name. -/

theorem lead_eq_empty_of_append (hlead : lead ∈ d.leads) (ha : a.Readable)
    (h : lead.toList ++ rest = a.text.toList) : lead = "" := by
  cases space_of_mem_leads hlead with
  | inl he => exact he
  | inr hs =>
    obtain ⟨word, s, hl, hw⟩ := hs
    obtain ⟨t, ht⟩ := a.exists_text
    rw [hl, ht, List.append_assoc, List.cons_append] at h
    nomatch (hw.append_inj rfl ha.reference.isWord rfl h).2.1

def Splits (name stated rest : List Char) : Prop :=
  name = stated ++ rest ∧ IsStated stated ∧ Assertion.IsReference rest

theorem splits_iff_mem_prefixes {name : List Char} : Splits name stated rest ↔
    (stated, rest) ∈ DurationPart.start.prefixes name ∧ Assertion.IsReference rest := by
  rw [DurationPart.mem_prefixes_iff]
  constructor
  · rintro ⟨rfl, hstated, hrest⟩
    exact ⟨⟨hstated, rfl⟩, hrest⟩
  · rintro ⟨⟨hstated, rfl⟩, hrest⟩
    exact ⟨rfl, hstated, hrest⟩

theorem exists_text_of_splits (h : Splits a.reference.toList stated rest) :
    ∃ lead ∈ leads .eventually, ∃ separator ∈ separators .eventually, a.text.toList =
      lead.toList ++ (stated ++ (separator.toList ++ (a.rename rest).text.toList)) := by
  refine ⟨"", by decide, "", by decide, ?_⟩
  rw [String.toList_empty, List.nil_append, List.nil_append]
  exact Assertion.toList_text_rename h.1

theorem isSome_timed?_text (ha : a.Readable) (h : Splits a.reference.toList stated rest) :
    (timed? .eventually a.text.toList).isSome := by
  obtain ⟨lead, hlead, separator, hsep, heq⟩ := exists_text_of_splits h
  rw [heq]
  exact isSome_timed? hlead h.2.1 hsep (Option.isSome_of_eq_some (ha.rename h.2.2).read?_text)

theorem timed?_text (h : d.timed? a.text.toList = some (stated, b)) (ha : a.Readable) :
    d = .eventually ∧ ∃ rest, Splits a.reference.toList stated rest ∧ b = a.rename rest := by
  obtain ⟨lead, hlead, separator, hsep, hstated, hb, heq⟩ := exists_of_timed? h
  obtain rfl := lead_eq_empty_of_append hlead ha heq.symm
  refine ⟨?_, b.reference.toList, ?_⟩
  · cases d with
    | eventually => rfl
    | consistently => revert hlead; decide
  obtain ⟨rest, hrest⟩ := a.exists_text
  have hword := ha.reference.isWord
  rw [String.toList_empty, List.nil_append] at heq
  by_cases hne : separator = ""
  · rw [hne, String.toList_empty, List.nil_append] at heq
    have hr : a.reference.toList = stated ++ b.reference.toList := by
      obtain ⟨rest', hrest'⟩ := b.exists_text
      rw [hrest, hrest', ← List.append_assoc] at heq
      exact (hword.append_inj rfl (hstated.2.isWord.append hb.reference.isWord) rfl heq).1
    rw [Assertion.toList_text_rename hr] at heq
    exact ⟨⟨hr, hstated, hb.reference⟩,
      hb.text_injective (ha.rename hb.reference) (List.append_cancel_left heq).symm⟩
  · -- a separator would end the name, but a quote does
    obtain ⟨c, t, hct, hc, hquote⟩ := exists_cons_of_mem_separators hsep hne
    rw [hrest, hct] at heq
    exact absurd (hword.append_inj rfl hstated.2.isWord hc heq).2.1.symm hquote

theorem timed?_text_of_longest (ha : a.Readable) (h : Splits a.reference.toList stated rest)
    (hlongest : ∀ stated' rest', Splits a.reference.toList stated' rest' →
      stated'.length ≤ stated.length) :
    timed? .eventually a.text.toList = some (stated, a.rename rest) := by
  obtain ⟨⟨taken, b⟩, htimed⟩ := Option.isSome_iff_exists.1 (isSome_timed?_text ha h)
  obtain ⟨_, rest', hsplit, rfl⟩ := timed?_text htimed ha
  obtain ⟨lead, hlead, separator, hsep, heq⟩ := exists_text_of_splits h
  have hle := hlongest taken rest' hsplit
  have hge := length_le_of_timed? htimed hlead h.2.1 hsep (ha.rename h.2.2) heq
  obtain ⟨rfl, rfl⟩ := List.append_inj (hsplit.1.symm.trans h.1) (Nat.le_antisymm hle hge)
  exact htimed

end Discipline

end LiveAssert
