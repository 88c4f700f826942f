import LiveAssert.Path

namespace LiveAssert

def paddedDigits (zeros n : Nat) : List Char := List.replicate zeros '0' ++ Nat.toDigits 10 n

inductive Numeral : Int → List Char → Prop
  | plain (zeros n : Nat) : Numeral n (paddedDigits zeros n)
  | plus (zeros n : Nat) : Numeral n ('+' :: paddedDigits zeros n)
  | minus (zeros n : Nat) : 0 < n → Numeral (-(n : Int)) ('-' :: paddedDigits zeros n)

namespace Decimal

theorem isDigit_of_mem_paddedDigits {zeros n : Nat} {c : Char} (hc : c ∈ paddedDigits zeros n) :
    c.isDigit := by
  cases List.mem_append.1 hc with
  | inl hc => rw [List.eq_of_mem_replicate hc]; rfl
  | inr hc => exact Nat.isDigit_of_mem_toDigits (by decide) (by decide) hc

theorem paddedDigits_ne_nil (zeros n : Nat) : paddedDigits zeros n ≠ [] := by
  intro h
  exact Nat.toDigits_ne_nil (List.append_eq_nil_iff.1 h).2

@[simp]
theorem readNat?_paddedDigits (zeros n : Nat) : readNat? 10 (paddedDigits zeros n) = some n := by
  rw [readNat?_of_isDigit (paddedDigits_ne_nil zeros n) fun c hc => isDigit_of_mem_paddedDigits hc]
  induction zeros with
  | zero => exact congrArg some (Nat.ofDigitChars_toDigits (by decide) (by decide))
  | succ zeros ih => exact ih

@[simp] theorem readSign_paddedDigits (zeros n : Nat) :
    readSign (paddedDigits zeros n) = (false, paddedDigits zeros n) := by
  unfold readSign
  split
  · next h =>
    have hc : '-' ∈ paddedDigits zeros n := h ▸ List.mem_cons_self
    exact absurd (isDigit_of_mem_paddedDigits hc) (by decide)
  · next h =>
    have hc : '+' ∈ paddedDigits zeros n := h ▸ List.mem_cons_self
    exact absurd (isDigit_of_mem_paddedDigits hc) (by decide)
  · rfl

end Decimal

theorem Numeral.readInt? {i : Int} {s : List Char} (h : Numeral i s) :
    Decimal.readInt? s = some i := by
  cases h with
  | plain zeros n =>
    rw [Decimal.readInt?, Decimal.readSign_paddedDigits]
    dsimp only
    rw [Decimal.readNat?_paddedDigits]
    rfl
  | plus zeros n =>
    rw [Decimal.readInt?, Decimal.readSign]
    dsimp only
    rw [Decimal.readNat?_paddedDigits]
    rfl
  | minus zeros n =>
    rw [Decimal.readInt?, Decimal.readSign]
    dsimp only
    rw [Decimal.readNat?_paddedDigits]
    rfl

theorem Numeral.of_mem {i : Int} {s : List Char} (h : Numeral i s) :
    ∀ c ∈ s, c.isDigit ∨ c = '+' ∨ c = '-' := by
  intro c hc
  cases h with
  | plain => exact .inl (Decimal.isDigit_of_mem_paddedDigits hc)
  | plus =>
    cases hc with
    | head => exact .inr (.inl rfl)
    | tail _ hc => exact .inl (Decimal.isDigit_of_mem_paddedDigits hc)
  | minus =>
    cases hc with
    | head => exact .inr (.inr rfl)
    | tail _ hc => exact .inl (Decimal.isDigit_of_mem_paddedDigits hc)

theorem Numeral.isBlank_of_mem {i : Int} {s : List Char} (h : Numeral i s) :
    ∀ c ∈ s, Text.isBlank c = false := by
  intro c hc
  obtain hc | rfl | rfl := h.of_mem c hc
  · exact Text.isBlank_of_isDigit hc
  · rfl
  · rfl

/-- The spellings of a name after a dot. A backslash may stand before each character, and must
before one that would end the name and before another backslash. -/
inductive Escapes : List Char → List Char → Prop
  | nil : Escapes [] []
  | plain : c ≠ '.' → c ≠ '[' → c ≠ '\\' → Escapes name text → Escapes (c :: name) (c :: text)
  | escaped (c : Char) : Escapes name text → Escapes (c :: name) ('\\' :: c :: text)

inductive Segment.Bracketed : Segment → List Char → Prop
  | quoted : quote = '\'' ∨ quote = '"' → ']' ∉ name.toList →
      Bracketed (.field name) (quote :: (name.toList ++ [quote]))
  | index : Numeral i text → -2 ^ 63 ≤ i → i < 2 ^ 63 → Bracketed (.index i) text
  | star : Bracketed .wildcard ['*']

theorem Numeral.exists_text (i : Int) : ∃ s, Numeral i s := by
  cases i with
  | ofNat n => exact ⟨_, .plain 0 n⟩
  | negSucc n => exact ⟨_, .minus 0 (n + 1) (Nat.succ_pos n)⟩

theorem Escapes.exists_text (name : List Char) :
    ∃ text, Escapes name text ∧ text.head? ≠ some '*' ∧ ('\'' ∈ text → '\'' ∈ name) := by
  induction name with
  | nil => exact ⟨[], .nil, nofun, id⟩
  | cons c name ih =>
    obtain ⟨text, h, _, hquote⟩ := ih
    refine ⟨_, .escaped c h, by simp, fun hm => ?_⟩
    simp only [List.mem_cons, Char.reduceEq, false_or] at hm ⊢
    exact hm.imp_right hquote

namespace Segment.Bracketed

variable {segment : Segment} {text : List Char}

theorem not_mem (h : segment.Bracketed text) : ']' ∉ text := by
  cases h with
  | quoted hquote hname =>
    obtain rfl | rfl := hquote
    · simpa using hname
    · simpa using hname
  | index hnumeral =>
    intro hc
    exact absurd (hnumeral.of_mem _ hc) (by decide)
  | star => decide

theorem isBlank_ends (h : segment.Bracketed text) :
    (∀ c ∈ text.head?, Text.isBlank c = false) ∧ (∀ c ∈ text.getLast?, Text.isBlank c = false) := by
  cases h with
  | @quoted quote name hquote =>
    have hblank : Text.isBlank quote = false := by
      obtain rfl | rfl := hquote
      · rfl
      · rfl
    have hlast : (quote :: (name.toList ++ [quote])).getLast? = some quote := by
      rw [← List.cons_append]
      exact List.getLast?_concat
    refine ⟨fun c hc => ?_, fun c hc => ?_⟩
    · cases hc
      exact hblank
    · rw [hlast] at hc
      cases hc
      exact hblank
  | index hnumeral =>
    exact ⟨fun c hc => hnumeral.isBlank_of_mem c (List.mem_of_mem_head? hc),
      fun c hc => hnumeral.isBlank_of_mem c (List.mem_of_getLast? hc)⟩
  | star => exact ⟨fun c hc => by cases hc; rfl, fun c hc => by cases hc; rfl⟩

end Segment.Bracketed

inductive Segment.Spelled : Segment → List Char → Prop
  | dotted : name.toList ≠ [] → Escapes name.toList text → text.head? ≠ some '*' →
      Spelled (.field name) ('.' :: text)
  | star : Spelled .wildcard ['.', '*']
  | bracketed {segment : Segment} : segment.Bracketed text → Text.Blank before → Text.Blank after →
      Spelled segment ('[' :: (before ++ text ++ after ++ [']']))

theorem Segment.Spelled.unspaced {segment : Segment} {text : List Char}
    (h : segment.Bracketed text) : segment.Spelled ('[' :: (text ++ [']'])) := by
  have hspelled := bracketed h Text.blank_nil Text.blank_nil
  rwa [List.nil_append, List.append_nil] at hspelled

theorem Segment.Spelled.length_pos {segment : Segment} {text : List Char}
    (h : segment.Spelled text) : 0 < text.length := by
  cases h with
  | dotted => exact Nat.succ_pos _
  | star => exact Nat.succ_pos _
  | bracketed => exact Nat.succ_pos _

theorem Segment.exists_spelled (segment : Segment)
    (h : ∀ i, segment = .index i → -2 ^ 63 ≤ i ∧ i < 2 ^ 63) :
    ∃ text, segment.Spelled text ∧
      ('\'' ∈ text → ∃ name, segment = .field name ∧ '\'' ∈ name.toList) := by
  cases segment with
  | field name =>
    by_cases hname : name.toList = []
    · have hquoted : Segment.Bracketed (.field name) _ := .quoted (.inr rfl) (by rw [hname]; nofun)
      exact ⟨_, .unspaced hquoted, by simp [hname]⟩
    · obtain ⟨text, htext, hstar, hquote⟩ := Escapes.exists_text name.toList
      exact ⟨_, .dotted hname htext hstar, fun hm => ⟨name, rfl, hquote (by simpa using hm)⟩⟩
  | index i =>
    obtain ⟨text, htext⟩ := Numeral.exists_text i
    refine ⟨_, .unspaced (.index htext (h i rfl).1 (h i rfl).2), fun hm => ?_⟩
    simp only [List.mem_cons, List.mem_append, Char.reduceEq, List.not_mem_nil, false_or,
      or_false] at hm
    exact absurd (htext.of_mem _ hm) (by decide)
  | wildcard => exact ⟨_, .star, by simp⟩

namespace Path

inductive Joined : Path → List Char → Prop
  | nil : Joined [] []
  | cons {segment : Segment} : segment.Spelled text → Joined path rest →
      Joined (segment :: path) (text ++ rest)

inductive Body : Path → List Char → Prop
  | joined : Joined path text → Body path text
  | dot : Body [] ['.']
  | root : Joined path text → Body path ('$' :: text)
  | rootDot : Body [] ['$', '.']

/-- The spellings of a path. Without braces the last character must not be white space. -/
inductive Spelled : Path → List Char → Prop
  | bare : Body path text → (∀ c ∈ text.getLast?, Text.isBlank c = false) →
      Text.Blank before → Text.Blank after → Spelled path (before ++ text ++ after)
  | braced : Body path text → Text.Blank before → Text.Blank after →
      Spelled path (before ++ '\x7b' :: (text ++ ['\x7d']) ++ after)

variable {path : Path} {segment : Segment} {text rest : List Char}

theorem fieldName_append {name : List Char} (h : Escapes name text)
    (hrest : ∀ c ∈ rest.head?, c = '.' ∨ c = '[') : fieldName (text ++ rest) = (name, rest) := by
  induction h with
  | nil =>
    cases rest with
    | nil => rfl
    | cons c rest =>
      cases hrest c rfl with
      | inl hc => rw [hc]; rfl
      | inr hc => rw [hc]; rfl
  | plain hdot hbracket hslash _ ih =>
    rw [List.cons_append, fieldName, ih, if_neg (not_or.2 ⟨hdot, hbracket⟩)]
    intro c s hc
    exact absurd hc hslash
  | escaped c _ ih =>
    rw [List.cons_append, List.cons_append, fieldName, ih]

@[simp] theorem quotedKey_append (quote : Char) (name : String) :
    quotedKey quote (name.toList ++ [quote]) = .ok (.field name) := by
  rw [quotedKey, List.reverse_append, List.reverse_singleton]
  simp

theorem bracket_of_numeral {i : Int} (h : Numeral i text) (hlow : -2 ^ 63 ≤ i)
    (hhigh : i < 2 ^ 63) : bracket text = .ok (.index i) := by
  have hi : index? text = some i := by
    rw [index?, h.readInt?, Option.filter_some, if_pos (decide_eq_true ⟨hlow, hhigh⟩)]
  -- no numeral begins with a star or a quote
  unfold bracket
  split
  · exact absurd (h.of_mem '*' List.mem_cons_self) (by decide)
  · exact absurd (h.of_mem '\'' List.mem_cons_self) (by decide)
  · exact absurd (h.of_mem '"' List.mem_cons_self) (by decide)
  · rw [hi]

theorem bracket_of_bracketed (h : segment.Bracketed text) : bracket text = .ok segment := by
  cases h with
  | quoted hquote =>
    cases hquote with
    | inl hquote => rw [hquote]; exact quotedKey_append ..
    | inr hquote => rw [hquote]; exact quotedKey_append ..
  | index hnumeral hlow hhigh => exact bracket_of_numeral hnumeral hlow hhigh
  | star => rfl

theorem exists_joined (h : ∀ i, .index i ∈ path → -2 ^ 63 ≤ i ∧ i < 2 ^ 63) :
    ∃ text, Joined path text ∧
      ('\'' ∈ text → ∃ name, .field name ∈ path ∧ '\'' ∈ name.toList) := by
  induction path with
  | nil => exact ⟨[], .nil, nofun⟩
  | cons segment path ih =>
    obtain ⟨rest, hrest, hlater⟩ := ih fun i hi => h i (List.mem_cons_of_mem _ hi)
    obtain ⟨text, htext, hfirst⟩ :=
      segment.exists_spelled fun i hi => h i (hi ▸ List.mem_cons_self)
    refine ⟨_, .cons htext hrest, fun hm => ?_⟩
    cases List.mem_append.1 hm with
    | inl hm =>
      obtain ⟨name, rfl, hname⟩ := hfirst hm
      exact ⟨name, List.mem_cons_self, hname⟩
    | inr hm =>
      obtain ⟨name, hmem, hname⟩ := hlater hm
      exact ⟨name, List.mem_cons_of_mem _ hmem, hname⟩

theorem segments_bracketed {before after : List Char}
    (h : segment.Bracketed text) (hb : Text.Blank before) (ha : Text.Blank after)
    (fuel : Nat) (first : Bool) :
    segments (fuel + 1) first ('[' :: (before ++ text ++ after ++ [']'] ++ rest)) =
      (segments fuel false rest).map (segment :: ·) := by
  have hclose : Text.isBlank ']' = false := rfl
  have hinner : ∀ c ∈ before ++ text ++ after, (c != ']') = true := by
    intro c hc
    rw [bne_iff_ne]
    rintro rfl
    simp only [List.mem_append] at hc
    obtain (hc | hc) | hc := hc
    · rw [hb _ hc] at hclose; nomatch hclose
    · exact h.not_mem hc
    · rw [ha _ hc] at hclose; nomatch hclose
  have htrim := Text.trim_append hb ha h.isBlank_ends.1 h.isBlank_ends.2
  have hcontains : (before ++ text ++ after ++ ']' :: rest).contains ']' = true := by simp
  have htake : (before ++ text ++ after ++ ']' :: rest).takeWhile (· != ']') =
      before ++ text ++ after := by
    rw [List.takeWhile_append_of_pos hinner, List.takeWhile_cons_of_neg (by simp), List.append_nil]
  have hdrop : ((before ++ text ++ after ++ ']' :: rest).dropWhile (· != ']')).drop 1 = rest := by
    rw [List.dropWhile_append_of_pos hinner, List.dropWhile_cons_of_neg (by simp)]
    rfl
  rw [segments, List.append_assoc _ [']'] rest, List.singleton_append, if_pos hcontains, htake,
    hdrop, htrim, bracket_of_bracketed h]
  rfl

theorem segments_dotted {name : List Char} (hname : name ≠ []) (h : Escapes name text)
    (hstar : text.head? ≠ some '*') (hrest : ∀ c ∈ rest.head?, c = '.' ∨ c = '[') (fuel : Nat)
    (first : Bool) :
    segments (fuel + 1) first ('.' :: (text ++ rest)) =
      (segments fuel false rest).map (.field (String.ofList name) :: ·) := by
  have hempty : name.isEmpty = false := by simpa using hname
  rw [segments, fieldName_append h hrest]
  · simp only [hempty, Bool.false_eq_true, if_false]
    rfl
  · -- the dot is not that of a wildcard
    intro s hs
    cases h with
    | nil => exact hname rfl
    | plain => exact hstar (congrArg List.head? hs)
    | escaped => nomatch hs

theorem segments_of_spelled (h : segment.Spelled text)
    (hrest : ∀ c ∈ rest.head?, c = '.' ∨ c = '[') (fuel : Nat) (first : Bool) :
    segments (fuel + 1) first (text ++ rest) = (segments fuel false rest).map (segment :: ·) := by
  cases h with
  | dotted hname hescapes hstar =>
    rw [List.cons_append, segments_dotted hname hescapes hstar hrest, String.ofList_toList]
  | star => rfl
  | bracketed htext hb ha => exact segments_bracketed htext hb ha fuel first

theorem Joined.head? (h : Joined path text) :
    ∀ c ∈ text.head?, c = '.' ∨ c = '[' := by
  cases h with
  | nil => nofun
  | cons hsegment =>
    cases hsegment with
    | dotted => intro c hc; exact .inl (Option.some.inj hc).symm
    | star => intro c hc; exact .inl (Option.some.inj hc).symm
    | bracketed => intro c hc; exact .inr (Option.some.inj hc).symm

theorem segments_of_joined (h : Joined path text) {fuel : Nat} (hfuel : text.length < fuel)
    (first : Bool) : segments fuel first text = .ok path := by
  induction h generalizing fuel first with
  | nil =>
    cases fuel with
    | zero => nomatch hfuel
    | succ fuel => rfl
  | cons hsegment hrest ih =>
    cases fuel with
    | zero => nomatch hfuel
    | succ fuel =>
      rw [segments_of_spelled hsegment hrest.head? fuel first, ih]
      · rfl
      · have hne := hsegment.length_pos
        rw [List.length_append] at hfuel
        omega

theorem Body.head? (h : Body path text) :
    ∀ c ∈ text.head?, c = '.' ∨ c = '[' ∨ c = '$' := by
  cases h with
  | joined h =>
    intro c hc
    cases h.head? c hc with
    | inl hc => exact .inl hc
    | inr hc => exact .inr (.inl hc)
  | dot => intro c hc; exact .inl (Option.some.inj hc).symm
  | root => intro c hc; exact .inr (.inr (Option.some.inj hc).symm)
  | rootDot => intro c hc; exact .inr (.inr (Option.some.inj hc).symm)

theorem Joined.dropRoot_eq (h : Joined path text) : dropRoot text = text := by
  unfold dropRoot
  split
  · exact absurd (h.head? '$' rfl) (by decide)
  · rfl

theorem Body.segments_dropRoot (h : Body path text) :
    segments ((dropRoot text).length + 1) true (dropRoot text) = .ok path := by
  cases h with
  | joined h =>
    rw [h.dropRoot_eq]
    exact segments_of_joined h (Nat.lt_succ_self _) true
  | dot => rfl
  | root h => exact segments_of_joined h (Nat.lt_succ_self _) true
  | rootDot => rfl

theorem Body.insideBraces_eq (h : Body path text) : insideBraces text = .ok text := by
  unfold insideBraces
  split
  · exact absurd (h.head? '\x7b' rfl) (by decide)
  · rfl

theorem Body.isBlank_head? (h : Body path text) :
    ∀ c ∈ text.head?, Text.isBlank c = false := by
  intro c hc
  obtain rfl | rfl | rfl := h.head? c hc
  · rfl
  · rfl
  · rfl

@[simp] theorem insideBraces_append (s : List Char) :
    insideBraces ('\x7b' :: (s ++ ['\x7d'])) = .ok s := by
  rw [insideBraces, List.getLast?_concat, if_pos rfl, List.dropLast_concat]

theorem parse_of_joined (h : Joined path text) :
    parse (String.ofList ('\x7b' :: (text ++ ['\x7d']))) = .ok path := by
  have htrim : Text.trim ('\x7b' :: (text ++ ['\x7d'])) = '\x7b' :: (text ++ ['\x7d']) := by
    apply Text.trim_of_ends
    · rintro _ ⟨⟩
      rfl
    · rw [← List.cons_append, List.getLast?_concat]
      rintro _ ⟨⟩
      rfl
  rw [parse, parseChars, String.toList_ofList, htrim, insideBraces_append]
  dsimp only [bind, Except.bind]
  rw [(Body.joined h).segments_dropRoot]
  rfl

/-- Every spelling of a path is read as this path. -/
theorem parse_of_spelled {path : Path} {text : String} (h : path.Spelled text.toList) :
    parse text = .ok path := by
  rw [parse, parseChars]
  generalize text.toList = s at h
  cases h with
  | bare hbody hlast hb ha =>
    rw [Text.trim_append hb ha hbody.isBlank_head? hlast, hbody.insideBraces_eq]
    dsimp only [bind, Except.bind]
    rw [hbody.segments_dropRoot]
    rfl
  | @braced inner _ _ hbody hb ha =>
    have hlast : ('\x7b' :: (inner ++ ['\x7d'])).getLast? = some '\x7d' := by
      rw [← List.cons_append]
      exact List.getLast?_concat
    rw [Text.trim_append hb ha, insideBraces_append]
    · dsimp only [bind, Except.bind]
      rw [hbody.segments_dropRoot]
      rfl
    · intro c hc
      cases hc
      rfl
    · rw [hlast]
      intro c hc
      cases hc
      rfl

theorem parse_of_spelled_in_braces :
    let path : Path := [.field "a.b", .index (-7), .index 7, .wildcard, .field "*x", .field ""]
    let text := " \x7b$.a\\.b[ -07\t][+7].*.\\*\\x['']\x7d\n"
    path.Spelled text.toList ∧ parse text = .ok path := by
  intro path text
  have hname : Escapes "a.b".toList "a\\.b".toList :=
    .plain (by decide) (by decide) (by decide)
      (.escaped '.' (.plain (by decide) (by decide) (by decide) .nil))
  have hstar : Escapes "*x".toList "\\*\\x".toList := .escaped '*' (.escaped 'x' .nil)
  have hminus : Segment.Bracketed (.index (-7)) "-07".toList :=
    .index (.minus 1 7 (by decide)) (by decide) (by decide)
  have hplus : Segment.Bracketed (.index 7) "+7".toList :=
    .index (.plus 0 7) (by decide) (by decide)
  have hempty : Segment.Bracketed (.field "") "''".toList := .quoted (.inl rfl) (by decide)
  have hspace : Text.Blank [' '] := Text.blank_singleton rfl
  have htab : Text.Blank ['\t'] := Text.blank_singleton rfl
  have hnewline : Text.Blank ['\n'] := Text.blank_singleton rfl
  have hbody : Body path _ := .root
    (.cons (.dotted (by decide) hname (by decide))
      (.cons (.bracketed hminus hspace htab)
        (.cons (.unspaced hplus)
          (.cons .star
            (.cons (.dotted (by decide) hstar (by decide))
              (.cons (.unspaced hempty) .nil))))))
  obtain ⟨chars, hspelled, htext⟩ : ∃ chars, path.Spelled chars ∧ text.toList = chars :=
    ⟨_, .braced hbody hspace hnewline, by decide +kernel⟩
  rw [← htext] at hspelled
  exact ⟨hspelled, parse_of_spelled hspelled⟩

end Path

end LiveAssert
