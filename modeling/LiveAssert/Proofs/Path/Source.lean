import LiveAssert.Path

namespace LiveAssert

namespace Text

theorem trimLeft_subset (s : List Char) : trimLeft s ⊆ s := (List.dropWhile_suffix _).subset

theorem trim_subset (s : List Char) : trim s ⊆ s := by
  intro c hc
  rw [trim, trimRight, List.mem_reverse] at hc
  exact trimLeft_subset s (List.mem_reverse.1 (trimLeft_subset _ hc))

end Text

namespace Path

inductive Begins : Segment → List Char → Prop
  | star : Begins .wildcard ('.' :: '*' :: s)
  | dotted : Begins (.field (String.ofList (fieldName s).1)) ('.' :: s)
  | bracketed {segment : Segment} : bracket (Text.trim (s.takeWhile (· != ']'))) = .ok segment →
      Begins segment ('[' :: s)

variable {path : Path} {segment : Segment} {s t : List Char} {name : String}

theorem fieldName_subset (s : List Char) : (fieldName s).1 ⊆ s ∧ (fieldName s).2 ⊆ s := by
  fun_induction fieldName s with
  | case1 => exact ⟨List.Subset.refl _, List.Subset.refl _⟩
  | case2 c s name rest h ih =>
    rw [h] at ih
    exact ⟨by simp [ih.1], by simp [ih.2]⟩
  | case3 c s => exact ⟨List.nil_subset _, List.Subset.refl _⟩
  | case4 c s _ _ name rest h ih =>
    rw [h] at ih
    exact ⟨by simp [ih.1], by simp [ih.2]⟩

theorem exists_of_quotedKey {quote : Char} (h : quotedKey quote s = .ok segment) :
    ∃ name : String, segment = .field name ∧ name.toList ⊆ s := by
  unfold quotedKey at h
  split at h
  · next c key hs =>
    split at h
    · cases h
      refine ⟨_, rfl, fun d hd => ?_⟩
      rw [String.toList_ofList, List.mem_reverse] at hd
      exact List.mem_reverse.1 (hs ▸ List.mem_cons_of_mem c hd)
    · nomatch h
  · nomatch h

theorem bounds_of_index? {i : Int} (h : index? s = some i) : -2 ^ 63 ≤ i ∧ i < 2 ^ 63 := by
  obtain ⟨_, hi⟩ := Option.filter_eq_some_iff.1 h
  simpa using hi

theorem bracket_cases (h : bracket s = .ok segment) :
    segment = .wildcard ∨ (∃ name : String, segment = .field name ∧ name.toList ⊆ s) ∨
      ∃ i, segment = .index i ∧ -2 ^ 63 ≤ i ∧ i < 2 ^ 63 := by
  unfold bracket at h
  split at h
  · cases h
    exact .inl rfl
  · obtain ⟨name, rfl, hname⟩ := exists_of_quotedKey h
    exact .inr (.inl ⟨name, rfl, List.subset_cons_of_subset _ hname⟩)
  · obtain ⟨name, rfl, hname⟩ := exists_of_quotedKey h
    exact .inr (.inl ⟨name, rfl, List.subset_cons_of_subset _ hname⟩)
  · split at h
    · next i hi =>
      cases h
      exact .inr (.inr ⟨i, rfl, bounds_of_index? hi⟩)
    · nomatch h

theorem Begins.bounds {i : Int} (h : Begins (.index i) t) : -2 ^ 63 ≤ i ∧ i < 2 ^ 63 := by
  cases h with
  | bracketed h =>
    obtain h | ⟨_, h, _⟩ | ⟨_, h, hi⟩ := bracket_cases h
    · nomatch h
    · nomatch h
    · cases h
      exact hi

theorem Begins.name_subset (h : Begins (.field name) t) : name.toList ⊆ t := by
  cases h with
  | dotted =>
    rw [String.toList_ofList]
    exact List.subset_cons_of_subset _ (fieldName_subset _).1
  | @bracketed s _ h =>
    obtain h | ⟨_, h, hname⟩ | ⟨_, h, _⟩ := bracket_cases h
    · nomatch h
    · cases h
      have hinner : Text.trim (s.takeWhile (· != ']')) ⊆ s :=
        List.Subset.trans (Text.trim_subset _) (List.takeWhile_prefix _).subset
      exact List.subset_cons_of_subset _ (List.Subset.trans hname hinner)
    · nomatch h

theorem exists_of_cons_eq_ok {rest : Except PathFault Path}
    (h : (do return segment :: (← rest)) = .ok path) :
    ∃ after, rest = .ok after ∧ path = segment :: after := by
  cases rest with
  | error fault => nomatch h
  | ok after =>
    cases h
    exact ⟨after, rfl, rfl⟩

theorem exists_begins_of_segments {fuel : Nat} {first : Bool}
    (h : segments fuel first s = .ok path) (hmem : segment ∈ path) :
    ∃ t, t ⊆ s ∧ Begins segment t := by
  have hrest {s u : List Char} (hs : s ⊆ u) :
      (∃ t, t ⊆ s ∧ Begins segment t) → ∃ t, t ⊆ u ∧ Begins segment t :=
    fun ⟨t, ht, hb⟩ => ⟨t, List.Subset.trans ht hs, hb⟩
  fun_induction segments fuel first s generalizing path with
  | case1 => cases h; nomatch hmem
  | case2 => cases h; nomatch hmem
  | case3 _ _ s ih =>
    obtain ⟨after, hafter, rfl⟩ := exists_of_cons_eq_ok h
    cases List.mem_cons.1 hmem with
    | inl hs => exact ⟨_, List.Subset.refl _, hs ▸ .star⟩
    | inr hmem => exact hrest (by simp) (ih hafter hmem)
  | case4 => cases h; nomatch hmem
  | case5 => nomatch h
  | case6 _ _ s _ name rest hname _ ih =>
    obtain ⟨after, hafter, rfl⟩ := exists_of_cons_eq_ok h
    cases List.mem_cons.1 hmem with
    | inl hs =>
      refine ⟨_, List.Subset.refl _, ?_⟩
      rw [hs, show name = (fieldName s).1 by rw [hname]]
      exact .dotted
    | inr hmem =>
      have hsub := (fieldName_subset s).2
      rw [hname] at hsub
      exact hrest (List.subset_cons_of_subset _ hsub) (ih hafter hmem)
  | case7 _ _ s _ ih =>
    cases hs : bracket (Text.trim (s.takeWhile (· != ']'))) with
    | error fault => rw [hs] at h; nomatch h
    | ok key =>
      rw [hs] at h
      obtain ⟨after, hafter, rfl⟩ := exists_of_cons_eq_ok h
      cases List.mem_cons.1 hmem with
      | inl hkey => exact ⟨_, List.Subset.refl _, .bracketed (hkey ▸ hs)⟩
      | inr hmem =>
        have hsub : (s.dropWhile (· != ']')).drop 1 ⊆ s :=
          List.Subset.trans (List.drop_subset _ _) (List.dropWhile_suffix _).subset
        exact hrest (List.subset_cons_of_subset _ hsub) (ih hafter hmem)
  | case8 => nomatch h
  | case9 => nomatch h

theorem subset_of_insideBraces (h : insideBraces s = .ok t) : t ⊆ s := by
  unfold insideBraces at h
  split at h
  · split at h
    · cases h
      exact List.subset_cons_of_subset _ (List.dropLast_subset _)
    · nomatch h
  · cases h
    exact List.Subset.refl _

theorem dropRoot_subset (s : List Char) : dropRoot s ⊆ s := by
  unfold dropRoot
  split
  · exact List.subset_cons_self ..
  · exact List.Subset.refl _

theorem exists_begins_of_parse {text : String} (h : parse text = .ok path)
    (hmem : segment ∈ path) : ∃ t, t ⊆ text.toList ∧ Begins segment t := by
  rw [parse, parseChars] at h
  cases hs : insideBraces (Text.trim text.toList) with
  | error fault => rw [hs] at h; nomatch h
  | ok s =>
    rw [hs] at h
    dsimp only [bind, Except.bind] at h
    cases hp : segments ((dropRoot s).length + 1) true (dropRoot s) with
    | error fault => rw [hp] at h; nomatch h
    | ok path' =>
      rw [hp] at h
      cases h
      obtain ⟨t, ht, hb⟩ := exists_begins_of_segments hp hmem
      refine ⟨t, fun c hc => ?_, hb⟩
      exact Text.trim_subset _ (subset_of_insideBraces hs (dropRoot_subset s (ht hc)))

theorem bounds_of_parse {text : String} (h : parse text = .ok path) {i : Int}
    (hi : .index i ∈ path) : -2 ^ 63 ≤ i ∧ i < 2 ^ 63 := by
  obtain ⟨_, _, hb⟩ := exists_begins_of_parse h hi
  exact hb.bounds

theorem name_subset_of_parse {text : String} (h : parse text = .ok path)
    (hname : .field name ∈ path) : name.toList ⊆ text.toList := by
  obtain ⟨t, ht, hb⟩ := exists_begins_of_parse h hname
  exact List.Subset.trans hb.name_subset ht

end Path

end LiveAssert
