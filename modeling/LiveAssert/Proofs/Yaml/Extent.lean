import LiveAssert.Yaml.Token

namespace LiveAssert.Yaml

variable {s t rest : List Char}

theorem length_takeWhile_add_dropWhile (p : Char → Bool) (s : List Char) :
    (s.takeWhile p).length + (s.dropWhile p).length = s.length := by
  rw [← List.length_append, List.takeWhile_append_dropWhile]

theorem length_dropWhile_le (p : Char → Bool) (s : List Char) :
    (s.dropWhile p).length ≤ s.length :=
  (List.dropWhile_suffix p).length_le

theorem length_breaks_le (s : List Char) : (breaks s).length ≤ s.length := by
  fun_induction breaks s <;> grind

theorem length_takeBreak_le (s : List Char) :
    (takeBreak s).1.length + (takeBreak s).2.length ≤ s.length := by
  fun_cases takeBreak s with
  | case1 s => simp only [List.length_cons, List.length_nil]; omega
  | case2 c s =>
    have h := length_breaks_le [c]
    simp only [List.length_cons, List.length_nil] at h ⊢
    omega
  | case3 c s => simp
  | case4 => simp

theorem length_fold_le (run : List Char) : (fold run).length ≤ run.length := by
  have h := length_breaks_le run
  rw [fold]
  split
  · exact Nat.le_refl _
  · next heq => rwa [heq] at h
  · next more _ heq =>
    rw [heq] at h
    exact Nat.le_of_succ_le h
  · exact h

theorem Plain.length_le_of_scan {place : Place} {fuel column : Nat} {r : Result}
    (h : scan place fuel column s = some r) : r.text.length + r.rest.length ≤ s.length := by
  induction fuel generalizing column s r with
  | zero => nomatch h
  | succ fuel ih =>
    cases s with
    | nil => cases h; exact Nat.le_refl 0
    | cons c s =>
      -- A run of spacing is no shorter than what it folds to; any other character is itself.
      have hrun := length_takeWhile_add_dropWhile isSpacing (c :: s)
      have hfold := length_fold_le ((c :: s).takeWhile isSpacing)
      simp only [scan] at h
      grind [Option.map_eq_some_iff]

namespace Quoted

variable {q : Quote} {c : Char}

theorem length_add_le_of_codePoint? {digits : Nat} (h : codePoint? digits s = some (c, rest)) :
    rest.length + digits ≤ s.length := by
  simp only [codePoint?] at h
  obtain ⟨n, _, h⟩ := Option.bind_eq_some_iff.1 h
  split at h
  · next hdigits =>
    have htake := hdigits.1
    rw [List.length_take] at htake
    cases h
    rw [List.length_drop]
    omega
  · nomatch h

theorem length_lt_of_escape? (h : escape? s = some (c, rest)) : rest.length < s.length := by
  fun_cases escape? s <;> grind [escape?, → length_add_le_of_codePoint?]

def Piece.extent : Piece → Nat
  | .close rest => rest.length
  | .text cs rest => cs.length + rest.length

theorem extent_le_of_spacing? {lineStarts : Bool} {folded : List Char → List Char} {p : Piece}
    (hf : ∀ run, (folded run).length ≤ run.length) (h : spacing? lineStarts folded s = some p) :
    p.extent ≤ s.length := by
  have hrun := length_takeWhile_add_dropWhile isSpacing s
  have hfolded := hf (s.takeWhile isSpacing)
  simp only [spacing?, Option.ite_none_left_eq_some] at h
  cases h.2
  simp only [Piece.extent]
  omega

theorem extent_le_of_piece? {p : Piece} (h : piece? q s = some p) : p.extent ≤ s.length := by
  revert h
  fun_cases piece? q s with
  | case1 => nofun
  | case2 c s => exact extent_le_of_spacing? length_fold_le
  | case3 s => rintro ⟨⟩; simp [Piece.extent]; omega
  | case4 s => rintro ⟨⟩; simp [Piece.extent]
  | case5 s => rintro ⟨⟩; simp [Piece.extent]
  | case6 s =>
    intro h
    have hline := extent_le_of_spacing? length_breaks_le h
    have hbreak := length_takeBreak_le s
    rw [List.length_cons]
    omega
  | case7 s =>
    intro h
    obtain ⟨⟨c, rest⟩, he, rfl⟩ := Option.map_eq_some_iff.1 h
    have hescape := length_lt_of_escape? he
    simp only [Piece.extent, List.length_cons, List.length_nil]
    omega
  | case8 c s => rintro ⟨⟩; simp [Piece.extent]; omega

theorem length_le_of_scan {fuel : Nat} (h : scan q fuel s = some (t, rest)) :
    t.length + rest.length ≤ s.length := by
  induction fuel generalizing s t rest with
  | zero => nomatch h
  | succ fuel ih =>
    rw [scan] at h
    split at h
    · nomatch h
    · next hp =>
      cases h
      simpa [Piece.extent] using extent_le_of_piece? hp
    · next cs more hp =>
      obtain ⟨⟨t', rest'⟩, hs, heq⟩ := Option.map_eq_some_iff.1 h
      cases heq
      have hpiece := extent_le_of_piece? hp
      have hmore := ih hs
      simp only [Piece.extent, List.length_append] at hpiece ⊢
      omega

end Quoted

namespace Block

@[grind →]
theorem length_le_of_chomp? {c : Chomp} (h : chomp? s = some (c, rest)) :
    rest.length ≤ s.length := by
  fun_cases chomp? s <;> grind [chomp?]

@[grind →]
theorem length_le_of_increment? {n : Nat} (h : increment? s = some (n, rest)) :
    rest.length ≤ s.length := by
  fun_cases increment? s <;> grind [increment?]

theorem length_indicators_le (s : List Char) : (indicators s).2.length ≤ s.length := by
  fun_cases indicators s <;> grind

theorem length_dropComment_le (s : List Char) : (dropComment s).length ≤ s.length := by
  fun_cases dropComment s with
  | case1 s => exact Nat.le_succ_of_le (length_dropWhile_le _ s)
  | case2 s => exact Nat.le_refl _

theorem length_le_of_header? {header : Header} (h : header? s = some (header, rest)) :
    rest.length ≤ s.length := by
  have hindicators := length_indicators_le s
  have hblanks := length_dropWhile_le isBlank (indicators s).2
  have hcomment := length_dropComment_le ((indicators s).2.dropWhile isBlank)
  have hbreak := length_takeBreak_le (dropComment ((indicators s).2.dropWhile isBlank))
  simp only [header?, Option.ite_none_left_eq_some] at h
  cases h.2
  omega

theorem length_le_of_gap? {indent : Option Nat} {fuel widest : Nat} {gap : Gap}
    (h : gap? indent fuel widest s = some gap) :
    gap.breaks.length + gap.rest.length ≤ s.length := by
  induction fuel generalizing widest s gap with
  | zero => nomatch h
  | succ fuel ih =>
    unfold gap? at h
    extract_lets spaces column s' widest' open? at h
    have hs : s'.length ≤ s.length := by simp [s']
    clear_value s'
    split at h
    · nomatch h
    · split at h
      · next c t _ =>
        have hbreak := length_takeBreak_le (c :: t)
        generalize takeBreak (c :: t) = b at h hbreak
        obtain ⟨b, rest⟩ := b
        split at h
        · dsimp only at h hbreak
          obtain ⟨gap', hgap, hg⟩ := Option.map_eq_some_iff.1 h
          have hrest := ih hgap
          simp only [← hg, List.length_append]
          omega
        · cases h
          simpa using hs
      · cases h
        simp

theorem length_le_of_lines {style : Style} {indent fuel : Nat} {lead text lead' trail : List Char}
    {spaced : Bool} {gap : Gap}
    (h : lines style indent fuel lead spaced gap = some (text, lead', trail, rest)) :
    text.length + lead'.length + trail.length + rest.length ≤
      lead.length + gap.breaks.length + gap.rest.length := by
  induction fuel generalizing lead text lead' trail spaced gap rest with
  | zero => nomatch h
  | succ fuel ih =>
    unfold lines at h
    split at h
    · cases h
      simp
    · next c s heq =>
      rw [heq]
      split at h
      · extract_lets blank joined line at h
        have hjoined : joined.length ≤ lead.length + gap.breaks.length := by grind
        have hline : line.length + _ = _ := length_takeWhile_add_dropWhile (!isBreak ·) (c :: s)
        have hbreak := length_takeBreak_le ((c :: s).dropWhile (!isBreak ·))
        generalize takeBreak ((c :: s).dropWhile (!isBreak ·)) = b at h hbreak
        obtain ⟨lead₁, rest₁⟩ := b
        dsimp only at h hbreak
        split at h
        · nomatch h
        · next gap₁ hgap =>
          obtain ⟨⟨text₁, tail⟩, hlines, heq⟩ := Option.map_eq_some_iff.1 h
          cases heq
          have hg := length_le_of_gap? hgap
          have hl := ih hlines
          simp only [List.length_append]
          omega
      · cases h
        simp

theorem length_le_of_scan {style : Style} {parent : Option Nat}
    (h : scan style parent s = some (t, rest)) : t.length + rest.length ≤ s.length := by
  obtain ⟨⟨header, s'⟩, hheader, h⟩ := Option.bind_eq_some_iff.1 h
  obtain ⟨gap, hgap, h⟩ := Option.bind_eq_some_iff.1 h
  obtain ⟨⟨text, lead, trail, rest'⟩, hlines, h⟩ := Option.bind_eq_some_iff.1 h
  have hs := length_le_of_header? hheader
  have hg := length_le_of_gap? hgap
  have hl := length_le_of_lines hlines
  rw [List.length_nil, Nat.zero_add] at hl
  cases hc : header.chomp with
  | strip =>
    rw [hc] at h
    cases h
    omega
  | clip =>
    rw [hc] at h
    cases h
    rw [List.length_append]
    omega
  | keep =>
    rw [hc] at h
    cases h
    rw [List.length_append, List.length_append]
    omega

end Block

namespace Tag

theorem length_le_of_anchorName? (h : anchorName? s = some (t, rest)) :
    rest.length ≤ s.length := by
  simp only [anchorName?, Option.ite_none_right_eq_some] at h
  cases h.2
  exact length_dropWhile_le isWordChar s

@[grind →]
theorem length_le_of_octet? {n : Nat} (h : octet? s = some (n, rest)) :
    rest.length ≤ s.length := by
  fun_cases octet? s <;> grind [octet?, Option.map_eq_some_iff]

@[grind →]
theorem length_le_of_trail? {k n m : Nat} (h : trail? k n s = some (m, rest)) :
    rest.length ≤ s.length := by
  fun_induction trail? k n s <;> grind

@[grind →]
theorem length_le_of_escaped? {c : Char} (h : escaped? s = some (c, rest)) :
    rest.length ≤ s.length := by
  obtain ⟨⟨n, s₁⟩, hoctet, h⟩ := Option.bind_eq_some_iff.1 h
  obtain ⟨⟨more, n'⟩, _, h⟩ := Option.bind_eq_some_iff.1 h
  obtain ⟨⟨m, s₂⟩, htrail, h⟩ := Option.bind_eq_some_iff.1 h
  cases h
  grind

@[grind →]
theorem length_le_of_uri? {whole : Bool} {fuel : Nat} (h : uri? whole fuel s = some (t, rest)) :
    rest.length ≤ s.length := by
  fun_induction uri? whole fuel s generalizing t rest <;> grind [Option.map_eq_some_iff]

@[grind →]
theorem length_le_of_handle? (h : handle? s = some (t, rest)) : rest.length ≤ s.length := by
  fun_cases handle? s <;> grind [handle?, length_dropWhile_le]

@[grind →]
theorem length_le_of_verbatim? {tag : Tag} (h : verbatim? s = some (tag, rest)) :
    rest.length ≤ s.length := by
  fun_cases verbatim? s <;> grind [verbatim?]

@[grind →]
theorem length_le_of_short? {tag : Tag} (h : short? s = some (tag, rest)) :
    rest.length ≤ s.length := by
  obtain ⟨⟨handle, s₁⟩, hhandle, h⟩ := Option.bind_eq_some_iff.1 h
  obtain ⟨⟨more, s₂⟩, huri, h⟩ := Option.bind_eq_some_iff.1 h
  grind

theorem length_le_of_read? {inFlow : Bool} {tag : Tag} (h : read? inFlow s = some (tag, rest)) :
    rest.length ≤ s.length := by
  simp only [read?] at h
  split at h <;> grind [Option.bind_eq_some_iff]

end Tag

namespace Directive

@[grind →]
theorem length_le_of_number? {n : Nat} (h : number? s = some (n, rest)) :
    rest.length ≤ s.length := by
  simp only [number?, Option.ite_none_right_eq_some] at h
  cases h.2
  exact length_dropWhile_le Char.isDigit s

@[grind →]
theorem length_le_of_version? {d : Directive} (h : version? s = some (d, rest)) :
    rest.length ≤ s.length := by
  have hblanks := length_dropWhile_le isBlank s
  obtain ⟨⟨major, s'⟩, hmajor, h⟩ := Option.bind_eq_some_iff.1 h
  grind [Option.map_eq_some_iff]

@[grind →]
theorem length_le_of_tag? {d : Directive} (h : tag? s = some (d, rest)) :
    rest.length ≤ s.length := by
  have hblanks := length_dropWhile_le isBlank
  obtain ⟨⟨handle, s'⟩, hhandle, h⟩ := Option.bind_eq_some_iff.1 h
  grind [Option.bind_eq_some_iff]

theorem length_le_of_read? {d : Directive} (h : read? s = some (d, rest)) :
    rest.length ≤ s.length := by
  have hend (s : List Char) : (takeBreak (if (s.dropWhile isBlank).head? = some '#'
      then (s.dropWhile isBlank).dropWhile (!isBreak ·) else s.dropWhile isBlank)).2.length ≤
        s.length := by
    grind [length_takeBreak_le, length_dropWhile_le]
  have hname := length_dropWhile_le isWordChar s
  simp only [read?, Option.bind_eq_bind, Option.bind_none] at h
  grind [Option.bind_eq_some_iff]

end Directive

end LiveAssert.Yaml
