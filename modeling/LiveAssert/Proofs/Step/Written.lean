import LiveAssert.Assertion
import LiveAssert.Text.Blank

namespace LiveAssert

namespace Text

@[simp] theorem after?_eq_some_iff {start s rest : List Char} :
    after? start s = some rest ↔ s = start ++ rest := by
  constructor
  · exact eq_append_of_after?
  · rintro rfl
    exact after?_append start rest

theorem span_append {p : Char → Bool} {run s : List Char} (hrun : ∀ c ∈ run, p c)
    (hs : ∀ c ∈ s.head?, p c = false) :
    (run ++ s).takeWhile p = run ∧ (run ++ s).dropWhile p = s := by
  rw [List.takeWhile_append_of_pos hrun, List.dropWhile_append_of_pos hrun]
  cases s with
  | nil => simp
  | cons c s => simp [hs c rfl]

theorem append_inj_of_head {p : Char → Bool} {run run' s s' : List Char}
    (hrun : ∀ c ∈ run, p c) (hs : ∀ c ∈ s.head?, p c = false) (hrun' : ∀ c ∈ run', p c)
    (hs' : ∀ c ∈ s'.head?, p c = false) (h : run ++ s = run' ++ s') : run = run' ∧ s = s' := by
  obtain ⟨htake, hdrop⟩ := span_append hrun hs
  obtain ⟨htake', hdrop'⟩ := span_append hrun' hs'
  rw [h, htake'] at htake
  rw [h, hdrop'] at hdrop
  exact ⟨htake.symm, hdrop.symm⟩

end Text

namespace Assertion

def text (a : Assertion) : String :=
  a.reference ++ "'s '" ++ a.path ++ "' should " ++ (if a.negate then "not " else "") ++ a.phrase

def IsReference (s : List Char) : Prop :=
  ∃ first inner last, s = first :: (inner ++ [last]) ∧ isNameEdge first ∧
    (∀ c ∈ inner, isNameChar c) ∧ isNameEdge last

theorem isNameChar_of_isNameEdge {c : Char} (h : isNameEdge c) : isNameChar c := by
  simp [isNameChar, h]

theorem IsReference.forall_mem {s : List Char} (h : IsReference s) : ∀ c ∈ s, isNameChar c := by
  obtain ⟨first, inner, last, rfl, hf, hi, hl⟩ := h
  intro c hc
  simp only [List.mem_cons, List.mem_append, List.not_mem_nil, or_false] at hc
  obtain rfl | hc | rfl := hc
  · exact isNameChar_of_isNameEdge hf
  · exact hi c hc
  · exact isNameChar_of_isNameEdge hl

@[simp] theorem isName_iff {s : List Char} : isName s ↔ IsReference s := by
  constructor
  · intro h
    simp only [isName, Bool.and_eq_true, decide_eq_true_eq, List.all_eq_true] at h
    obtain ⟨⟨⟨hlen, hall⟩, hf⟩, hl⟩ := h
    cases s with
    | nil => nomatch hlen
    | cons first t =>
      cases List.eq_nil_or_concat t with
      | inl ht => subst ht; nomatch Nat.le_of_succ_le_succ hlen
      | inr ht =>
        obtain ⟨inner, last, rfl⟩ := ht
        rw [List.concat_eq_append] at hall hl ⊢
        refine ⟨first, inner, last, rfl, by simpa using hf, fun c hc => hall c (by simp [hc]), ?_⟩
        rw [← List.cons_append, List.getLast?_concat] at hl
        exact hl
  · intro h
    have hall := h.forall_mem
    obtain ⟨first, inner, last, rfl, hf, hi, hl⟩ := h
    simp only [isName, Bool.and_eq_true, decide_eq_true_eq, List.all_eq_true]
    refine ⟨⟨⟨by simp, hall⟩, by simpa using hf⟩, ?_⟩
    rw [← List.cons_append, List.getLast?_concat]
    exact hl

instance (s : List Char) : Decidable (IsReference s) := decidable_of_iff (isName s) isName_iff

/-- An assertion that can be found in its own text. A phrase that is not negated may begin with
`not ` only if nothing follows. -/
structure Readable (a : Assertion) : Prop where
  reference : IsReference a.reference.toList
  path : '\'' ∉ a.path.toList
  phrase_ne : a.phrase ≠ ""
  oneLine : '\n' ∉ a.phrase.toList
  polarity : a.negate = false → "not ".toList <+: a.phrase.toList → a.phrase = "not "

theorem Readable.toList_phrase_ne_nil {a : Assertion} (h : a.Readable) : a.phrase.toList ≠ [] :=
  fun he => h.phrase_ne (String.toList_eq_nil_iff.1 he)

theorem toList_text (a : Assertion) :
    a.text.toList = a.reference.toList ++ ("'s '".toList ++ (a.path.toList ++ ("' should ".toList ++
      ((if a.negate then "not ".toList else []) ++ a.phrase.toList)))) := by
  cases hn : a.negate <;> simp [text, hn]

theorem polarity?_cases {s : List Char} (hs : s ≠ []) (hline : '\n' ∉ s) :
    (∃ phrase, phrase ≠ [] ∧ s = "not ".toList ++ phrase ∧ polarity? s = some (true, phrase)) ∨
      (("not ".toList <+: s → s = "not ".toList) ∧ polarity? s = some (false, s)) := by
  have hif : (s.isEmpty || s.contains '\n') = false := by simp [hs, hline]
  rw [polarity?, hif]
  cases h : Text.after? "not ".toList s with
  | none =>
    right
    refine ⟨fun hp => ?_, rfl⟩
    obtain ⟨rest, rfl⟩ := hp
    rw [Text.after?_append] at h
    nomatch h
  | some phrase =>
    rw [Text.after?_eq_some_iff] at h
    cases phrase with
    | nil => exact .inr ⟨fun _ => h.trans (List.append_nil _), rfl⟩
    | cons c phrase => exact .inl ⟨c :: phrase, List.cons_ne_nil c phrase, h, rfl⟩

theorem polarity?_eq_some_iff {s : List Char} {negate : Bool} {phrase : List Char} :
    polarity? s = some (negate, phrase) ↔
      s = (if negate then "not ".toList else []) ++ phrase ∧ phrase ≠ [] ∧ '\n' ∉ phrase ∧
        (negate = false → "not ".toList <+: phrase → phrase = "not ".toList) := by
  constructor
  · intro h
    have hs : s ≠ [] := by rintro rfl; nomatch h
    have hline : '\n' ∉ s := by intro hm; simp [polarity?, hm] at h
    rcases polarity?_cases hs hline with ⟨rest, hne, rfl, hp⟩ | ⟨hnot, hp⟩
    · obtain ⟨rfl, rfl⟩ := Prod.mk.inj (Option.some.inj (h.symm.trans hp))
      exact ⟨rfl, hne, fun hm => hline (List.mem_append_right _ hm), nofun⟩
    · obtain ⟨rfl, rfl⟩ := Prod.mk.inj (Option.some.inj (h.symm.trans hp))
      exact ⟨rfl, hs, hline, fun _ => hnot⟩
  · rintro ⟨rfl, hne, hline, hnot⟩
    cases negate with
    | false =>
      rcases polarity?_cases hne hline with ⟨rest, hr, rfl, _⟩ | ⟨_, hp⟩
      · have := hnot rfl (List.prefix_append _ _)
        exact absurd (List.append_right_eq_self.1 this) hr
      · exact hp
    | true =>
      have hne' : "not ".toList ++ phrase ≠ [] := nofun
      have hline' : '\n' ∉ "not ".toList ++ phrase := by simpa using hline
      rcases polarity?_cases hne' hline' with ⟨rest, _, heq, hp⟩ | ⟨hself, _⟩
      · rw [← List.append_cancel_left heq] at hp
        exact hp
      · have := hself (List.prefix_append _ _)
        exact absurd (List.append_right_eq_self.1 this) hne

theorem read?_append {name path rest : List Char} (hname : IsReference name)
    (hpath : '\'' ∉ path) :
    read? (name ++ ("'s '".toList ++ (path ++ ("' should ".toList ++ rest)))) =
      (polarity? rest).map fun (negate, phrase) =>
        ⟨String.ofList name, String.ofList path, negate, String.ofList phrase⟩ := by
  have hquote : ∀ c ∈ path, (c != '\'') = true := by
    intro c hc
    rw [bne_iff_ne]
    rintro rfl
    exact hpath hc
  obtain ⟨htake, hdrop⟩ := Text.span_append
    (s := "'s '".toList ++ (path ++ ("' should ".toList ++ rest))) hname.forall_mem
    (by rintro c ⟨⟩; rfl)
  obtain ⟨htake', hdrop'⟩ := Text.span_append (s := "' should ".toList ++ rest) hquote
    (by rintro c ⟨⟩; rfl)
  rw [read?, htake, hdrop, if_pos (isName_iff.2 hname), Text.after?_append]
  simp only [Option.bind_eq_bind, Option.bind_some]
  rw [htake', hdrop', Text.after?_append, Option.bind_some]
  cases polarity? rest <;> rfl

theorem read?_eq_some_iff {s : List Char} {a : Assertion} :
    read? s = some a ↔ s = a.text.toList ∧ a.Readable := by
  constructor
  · intro h
    simp only [read?, Option.ite_none_right_eq_some] at h
    obtain ⟨hname, h⟩ := h
    obtain ⟨t, ht, h⟩ := Option.bind_eq_some_iff.1 h
    obtain ⟨u, hu, h⟩ := Option.bind_eq_some_iff.1 h
    obtain ⟨⟨negate, phrase⟩, hp, h⟩ := Option.bind_eq_some_iff.1 h
    rw [Text.after?_eq_some_iff] at ht hu
    obtain ⟨hs, hne, hline, hnot⟩ := polarity?_eq_some_iff.1 hp
    obtain rfl := Option.some.inj h
    have hphrase : (String.ofList phrase).toList = phrase := String.toList_ofList
    refine ⟨?_, ⟨by simpa using isName_iff.1 hname, ?_, ?_, by rwa [hphrase], ?_⟩⟩
    · rw [toList_text]
      simp only [String.toList_ofList]
      rw [← hs, ← hu, List.takeWhile_append_dropWhile, ← ht, List.takeWhile_append_dropWhile]
    · rw [String.toList_ofList]
      intro hm
      simpa using List.all_eq_true.1 List.all_takeWhile _ hm
    · intro he
      exact hne (hphrase ▸ String.toList_eq_nil_iff.2 he)
    · intro hneg hpre
      rw [← String.toList_inj, hphrase]
      exact hnot hneg (hphrase ▸ hpre)
  · rintro ⟨rfl, hr⟩
    rw [toList_text, read?_append hr.reference hr.path, polarity?_eq_some_iff.2 ⟨rfl,
      hr.toList_phrase_ne_nil, hr.oneLine,
      fun hneg hpre => congrArg String.toList (hr.polarity hneg hpre)⟩]
    simp only [Option.map_some, String.ofList_toList]

def Matches (s : List Char) : Prop :=
  ∃ name path words, IsReference name ∧ '\'' ∉ path ∧ words ≠ [] ∧ '\n' ∉ words ∧
    s = name ++ ("'s '".toList ++ (path ++ ("' should ".toList ++ words)))

@[simp] theorem isSome_read?_iff {s : List Char} : (read? s).isSome ↔ Matches s := by
  constructor
  · intro h
    obtain ⟨a, h⟩ := Option.isSome_iff_exists.1 h
    obtain ⟨rfl, hr⟩ := read?_eq_some_iff.1 h
    refine ⟨_, _, _, hr.reference, hr.path, ?_, ?_, toList_text a⟩
    · intro he
      exact hr.toList_phrase_ne_nil (List.append_eq_nil_iff.1 he).2
    · intro hm
      cases List.mem_append.1 hm with
      | inl hn => split at hn <;> simp at hn
      | inr hp => exact hr.oneLine hp
  · rintro ⟨name, path, words, hname, hpath, hne, hline, rfl⟩
    rw [read?_append hname hpath, Option.isSome_map]
    obtain ⟨_, _, _, hp⟩ | ⟨_, hp⟩ := polarity?_cases hne hline <;> rw [hp] <;> rfl

/-- An assertion that is found in its own text, also if white space around the text is dropped. -/
structure WellFormed (a : Assertion) : Prop where
  reference : IsReference a.reference.toList
  path : '\'' ∉ a.path.toList
  phrase_ne : a.phrase ≠ ""
  oneLine : '\n' ∉ a.phrase.toList
  trimmed : ∀ c ∈ a.phrase.toList.getLast?, Text.isBlank c = false
  polarity : a.negate = false → ¬"not ".toList <+: a.phrase.toList

variable {a : Assertion}

theorem wellFormed_iff : a.WellFormed ↔
    IsReference a.reference.toList ∧ '\'' ∉ a.path.toList ∧ a.phrase ≠ "" ∧
      '\n' ∉ a.phrase.toList ∧ a.phrase.toList.getLast?.all (!Text.isBlank ·) ∧
      (a.negate = false → ¬"not ".toList <+: a.phrase.toList) := by
  have hall : a.phrase.toList.getLast?.all (!Text.isBlank ·) ↔
      ∀ c ∈ a.phrase.toList.getLast?, Text.isBlank c = false := by
    simp [Option.all_eq_true]
  rw [hall]
  exact ⟨fun ⟨hr, hp, hne, ho, ht, hn⟩ => ⟨hr, hp, hne, ho, ht, hn⟩,
    fun ⟨hr, hp, hne, ho, ht, hn⟩ => ⟨hr, hp, hne, ho, ht, hn⟩⟩

instance : Decidable a.WellFormed := decidable_of_iff' _ wellFormed_iff

theorem WellFormed.readable (h : a.WellFormed) : a.Readable :=
  ⟨h.reference, h.path, h.phrase_ne, h.oneLine, fun hneg hpre => absurd hpre (h.polarity hneg)⟩

theorem Readable.wellFormed (h : a.Readable)
    (htrim : ∀ c ∈ a.phrase.toList.getLast?, Text.isBlank c = false) : a.WellFormed := by
  refine ⟨h.reference, h.path, h.phrase_ne, h.oneLine, htrim, ?_⟩
  intro hneg hpre
  rw [h.polarity hneg hpre] at htrim
  nomatch htrim ' ' rfl

theorem Readable.read?_text (h : a.Readable) : read? a.text.toList = some a :=
  read?_eq_some_iff.2 ⟨rfl, h⟩

theorem Readable.text_injective {b : Assertion} (ha : a.Readable) (hb : b.Readable)
    (h : a.text.toList = b.text.toList) : a = b := by
  have hread := ha.read?_text
  rw [h, hb.read?_text] at hread
  exact (Option.some.inj hread).symm

theorem exists_text (a : Assertion) :
    ∃ rest, a.text.toList = a.reference.toList ++ '\'' :: rest := by
  rw [toList_text]
  exact ⟨_, rfl⟩

theorem Readable.head?_text (h : a.Readable) :
    ∃ c, a.text.toList.head? = some c ∧ isNameEdge c := by
  obtain ⟨first, inner, last, hr, hfirst, _⟩ := h.reference
  rw [toList_text, hr]
  exact ⟨first, rfl, hfirst⟩

theorem Readable.getLast?_append_text (h : a.Readable) (s : List Char) :
    (s ++ a.text.toList).getLast? = a.phrase.toList.getLast? := by
  rw [toList_text]
  simp only [← List.append_assoc]
  rw [List.getLast?_append, List.getLast?_eq_some_getLast h.toList_phrase_ne_nil, Option.some_or]

def rename (a : Assertion) (name : List Char) : Assertion :=
  { a with reference := String.ofList name }

variable {name taken : List Char}

theorem toList_reference_rename : (a.rename name).reference.toList = name := String.toList_ofList

theorem Readable.rename (h : a.Readable) (hname : IsReference name) : (a.rename name).Readable :=
  ⟨by rwa [toList_reference_rename], h.path, h.phrase_ne, h.oneLine, h.polarity⟩

theorem toList_text_rename (h : a.reference.toList = taken ++ name) :
    a.text.toList = taken ++ (a.rename name).text.toList := by
  rw [toList_text a, toList_text (a.rename name), h, toList_reference_rename, List.append_assoc]
  rfl

end Assertion

end LiveAssert
