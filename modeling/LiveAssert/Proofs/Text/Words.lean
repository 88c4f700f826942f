import LiveAssert.Text.Blank

namespace LiveAssert.Text

def Solid (s : List Char) : Prop := s ≠ [] ∧ ∀ c ∈ s, isBlank c = false

inductive Spaced : List (List Char) → List Char → Prop
  | nil : Spaced [] []
  | blank : isBlank c = true → Spaced ws s → Spaced ws (c :: s)
  | word : Solid w → (∀ c ∈ s.head?, isBlank c = true) → Spaced ws s → Spaced (w :: ws) (w ++ s)

variable {ws : List (List Char)} {w s : List Char} {c : Char}

@[simp] theorem words_cons (h : isBlank c = true) (s : List Char) : words (c :: s) = words s := by
  simp [words, runs, h]

theorem runs_append (h : ∀ c ∈ w, isBlank c = false) (s : List Char) :
    runs (w ++ s) = (w ++ (runs s).1, (runs s).2) := by
  induction w with
  | nil => rfl
  | cons c w ih =>
    obtain ⟨hc, hw⟩ := List.forall_mem_cons.1 h
    simp [runs, ih hw, hc]

theorem words_append (hw : Solid w) (hs : ∀ c ∈ s.head?, isBlank c = true) :
    words (w ++ s) = w :: words s := by
  have hrun : (runs s).1 = [] := by
    cases s with
    | nil => rfl
    | cons c s => simp [runs, hs c rfl]
  simp [words, runs_append hw.2, hrun, hw.1]

theorem Spaced.words_eq (h : Spaced ws s) : words s = ws := by
  induction h with
  | nil => rfl
  | blank hc _ ih => rw [words_cons hc, ih]
  | word hw hs _ ih => rw [words_append hw hs, ih]

theorem Solid.concat (h : Solid w) (hc : isBlank c = false) : Solid (w ++ [c]) := by
  refine ⟨by simp, fun d hd => ?_⟩
  cases List.mem_append.1 hd with
  | inl hd => exact h.2 d hd
  | inr hd => rw [List.mem_singleton.1 hd, hc]

theorem spaced_words_append (s : List Char) :
    Spaced (words s) s ∧ ∀ w, Solid w → Spaced (words (w ++ s)) (w ++ s) := by
  induction s with
  | nil =>
    have hhead : ∀ d ∈ ([] : List Char).head?, isBlank d = true := nofun
    refine ⟨.nil, fun w hw => ?_⟩
    rw [words_append hw hhead]
    exact .word hw hhead .nil
  | cons c s ih =>
    cases hc : isBlank c with
    | true =>
      have hs : Spaced (words (c :: s)) (c :: s) := by
        rw [words_cons hc]
        exact .blank hc ih.1
      have hhead : ∀ d ∈ (c :: s).head?, isBlank d = true := by
        rintro _ ⟨⟩
        exact hc
      refine ⟨hs, fun w hw => ?_⟩
      rw [words_append hw hhead]
      exact .word hw hhead hs
    | false =>
      refine ⟨ih.2 [c] ⟨List.cons_ne_nil c [], by simpa using hc⟩, fun w hw => ?_⟩
      have hnext := ih.2 (w ++ [c]) (hw.concat hc)
      rwa [List.append_assoc] at hnext

theorem words_eq_iff : words s = ws ↔ Spaced ws s :=
  ⟨fun h => h ▸ (spaced_words_append s).1, Spaced.words_eq⟩

theorem spaced_nil_iff : Spaced [] s ↔ Blank s := by
  constructor
  · intro h
    generalize hws : ([] : List (List Char)) = ws at h
    induction h with
    | nil => exact blank_nil
    | blank hc _ ih => exact List.forall_mem_cons.2 ⟨hc, ih hws⟩
    | word => nomatch hws
  · intro h
    induction s with
    | nil => exact .nil
    | cons c s ih =>
      obtain ⟨hc, hs⟩ := List.forall_mem_cons.1 h
      exact .blank hc (ih hs)

theorem Spaced.solid (h : Spaced ws s) : ∀ w ∈ ws, Solid w := by
  induction h with
  | nil => nofun
  | blank _ _ ih => exact ih
  | word hw _ _ ih => exact List.forall_mem_cons.2 ⟨hw, ih⟩

theorem Spaced.subset (h : Spaced ws s) : ∀ w ∈ ws, w ⊆ s := by
  induction h with
  | nil => nofun
  | blank _ _ ih => exact fun w hw => List.subset_cons_of_subset _ (ih w hw)
  | word _ _ _ ih =>
    exact List.forall_mem_cons.2 ⟨List.subset_append_left .., fun w hw =>
      List.Subset.trans (ih w hw) (List.subset_append_right ..)⟩

end LiveAssert.Text
