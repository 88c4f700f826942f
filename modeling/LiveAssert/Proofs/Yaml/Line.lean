import LiveAssert.Proofs.Yaml.Length

namespace LiveAssert.Yaml

variable {c : Char} {s run : List Char}

theorem breaks_eq_nil (h : ∀ c ∈ run, isBreak c = false) : breaks run = [] := by
  fun_induction breaks run <;> simp_all [isBreak]

theorem fold_of_not_isBreak (h : ∀ c ∈ run, isBreak c = false) : fold run = run := by
  rw [fold, breaks_eq_nil h]

theorem Mark.after_of_not_isBreak {m : Mark} (h : ∀ c ∈ run, isBreak c = false) :
    m.after run = ⟨m.index + run.length, m.line, m.column + run.length⟩ := by
  fun_induction Mark.after m run with
  | case1 m => rfl
  | case2 m s ih => exact absurd (h '\r' List.mem_cons_self) (by decide)
  | case3 m c s _ hc => exact absurd hc (by simp [h c])
  | case4 m c s _ hc ih =>
    rw [ih fun d hd => h d (.tail _ hd), List.length_cons]
    congr 1 <;> exact Nat.add_right_comm ..

namespace Plain

/-- Text that a plain scalar takes in as it stands: no line break, no colon before spacing, no
comment, and no blank at the end. -/
def continues : List Char → Bool
  | [] => true
  | c :: s => !isBreak c && !(c == ':' && atSpacing s)
    && !(isBlank c && (s.isEmpty || s.head? == some '#')) && continues s

def begins : List Char → Bool
  | [] => false
  | c :: s => c != '\ufeff' && !isSpacing c && !atMarker (c :: s)
    && (!Token.State.isIndicator c || ['-', '?', ':'].contains c && !atSpacing s)

def isLine (s : List Char) : Bool := begins s && continues s

theorem begins_cons_iff :
    begins (c :: s) ↔ c ≠ '\ufeff' ∧ isSpacing c = false ∧ atMarker (c :: s) = false ∧
      (Token.State.isIndicator c = false ∨
        (c = '-' ∨ c = '?' ∨ c = ':') ∧ atSpacing s = false) := by
  simp [begins, and_assoc]

theorem not_mem_of_begins (h : begins (c :: s)) :
    c ∉ [',', '[', ']', '\x7b', '\x7d', '#', '&', '*', '!', '|', '>', '\'', '"', '%', '@',
      '\x60'] := by
  obtain ⟨_, _, _, h | ⟨rfl | rfl | rfl, _⟩⟩ := begins_cons_iff.1 h
  · simp_all [Token.State.isIndicator]
  · decide
  · decide
  · decide

theorem continues_cons_iff : continues (c :: s) ↔
    isBreak c = false ∧ (c = ':' → atSpacing s = false) ∧
      (isBlank c → s ≠ [] ∧ s.head? ≠ some '#') ∧ continues s := by
  simp only [continues, Bool.and_eq_true, Bool.not_eq_true', Bool.and_eq_false_iff]
  grind

theorem isBreak_of_continues (h : continues s) : ∀ c ∈ s, isBreak c = false := by
  induction s with
  | nil => nofun
  | cons c s ih =>
    obtain ⟨hc, _, _, hs⟩ := continues_cons_iff.1 h
    exact List.forall_mem_cons.2 ⟨hc, ih hs⟩

theorem exists_dropWhile_of_continues (h : continues (c :: s)) (hc : isSpacing c) :
    ∃ d t, (c :: s).dropWhile isSpacing = d :: t ∧ d ≠ '#' ∧ continues (d :: t) := by
  induction s generalizing c with
  | nil =>
    obtain ⟨hbreak, _, hblank, _⟩ := continues_cons_iff.1 h
    have hc' : isBlank c := by simpa [isSpacing, hbreak] using hc
    exact absurd rfl (hblank hc').1
  | cons d s ih =>
    obtain ⟨hbreak, _, hblank, hs⟩ := continues_cons_iff.1 h
    rw [List.dropWhile_cons_of_pos hc]
    by_cases hd : isSpacing d
    · exact ih hs hd
    · have hc' : isBlank c := by simpa [isSpacing, hbreak] using hc
      refine ⟨d, s, List.dropWhile_cons_of_neg hd, ?_, hs⟩
      rintro rfl
      exact (hblank hc').2 rfl

@[simp] theorem tabIndents_zero (b : Bool) (column : Nat) (run : List Char) :
    tabIndents 0 b column run = false := by
  fun_induction tabIndents 0 b column run <;> simp_all

@[simp] theorem badColon_false (s : List Char) : badColon false s = false := by
  fun_cases badColon false s <;> rfl

/-- Where nothing is indented, such a text is read to its end. -/
theorem scan_of_continues {fuel column : Nat} (h : continues s) (hfuel : s.length < fuel) :
    scan ⟨false, 0⟩ fuel column s = some ⟨s, [], false⟩ := by
  induction fuel generalizing column s with
  | zero => nomatch hfuel
  | succ fuel ih =>
    cases s with
    | nil => rfl
    | cons c s =>
      by_cases hc : isSpacing c
      · -- The run stays on the line, so it folds to itself, and it is not at the end.
        obtain ⟨d, t, hrest, hd, ht⟩ := exists_dropWhile_of_continues h hc
        have hrun : ∀ d ∈ (c :: s).takeWhile isSpacing, isBreak d = false :=
          fun d hd => isBreak_of_continues h d ((List.takeWhile_prefix isSpacing).subset hd)
        have hcolumn : columnAfter column ((c :: s).takeWhile isSpacing) ≠ 0 := by
          rw [columnAfter, Mark.after_of_not_isBreak hrun, List.takeWhile_cons_of_pos hc]
          simp
        have hlength : (d :: t).length < fuel := by
          have hle := length_dropWhile_le isSpacing s
          rw [List.dropWhile_cons_of_pos hc] at hrest
          rw [hrest] at hle
          exact Nat.lt_of_le_of_lt hle (Nat.lt_of_succ_lt_succ hfuel)
        have happend := (c :: s).takeWhile_append_dropWhile (p := isSpacing)
        rw [hrest] at happend
        simp only [scan, hc, if_true, hrest]
        generalize (c :: s).takeWhile isSpacing = run at hrun hcolumn happend ⊢
        simp [hcolumn, hd, ih ht hlength, fold_of_not_isBreak hrun, happend]
      · obtain ⟨_, hcolon, _, hs⟩ := continues_cons_iff.1 h
        have hends : endsBefore false (c :: s) = false := by simpa [endsBefore] using hcolon
        simp only [scan, hc, badColon_false, hends, ih hs (Nat.lt_of_succ_lt_succ hfuel)]
        rfl

end Plain

namespace Token.State

@[simp] theorem goTo_rest (st : State) : st.goTo st.rest = st := by simp [goTo, Mark.after]

theorem toNextToken_start {fuel : Nat} (h : Plain.begins s) :
    (start s).toNextToken (fuel + 1) = start s := by
  cases s with
  | nil => nomatch h
  | cons c s =>
    have hc := Plain.not_mem_of_begins h
    obtain ⟨_, hspacing, _, _⟩ := Plain.begins_cons_iff.1 h
    simp only [isSpacing, isBlank, Bool.or_eq_false_iff] at hspacing
    have hrest := goTo_rest (start (c :: s))
    unfold toNextToken
    simp_all [start]

theorem token?_of_begins {st : State} (h : Plain.begins (c :: s)) (hrest : st.rest = c :: s)
    (hflow : st.inFlow = false ∨ c ≠ '?' ∧ c ≠ ':') : st.token? = st.plain? := by
  have hc := Plain.not_mem_of_begins h
  obtain ⟨_, hspacing, hmarker, hi⟩ := Plain.begins_cons_iff.1 h
  unfold token?
  rcases hi with hi | ⟨rfl | rfl | rfl, hs⟩ <;> simp_all [isIndicator]

theorem token?_start (h : Plain.begins s) : (start s).token? = (start s).plain? := by
  cases s with
  | nil => nomatch h
  | cons c s => exact token?_of_begins h rfl (.inl rfl)

theorem plain?_start (h : Plain.continues s) :
    (start s).plain? = some
      { (start s).goTo [] with
        tokens := [.scalar s true]
        candidate := some ⟨false, 0, ⟨0, 0, 0⟩⟩
        keyAllowed := false } := by
  have hsave : (start s).saveCandidate? =
      some { start s with candidate := some ⟨false, 0, ⟨0, 0, 0⟩⟩ } := rfl
  rw [plain?, hsave]
  change Option.bind (Plain.scan ⟨false, 0⟩ (s.length + 1) 0 s) _ = _
  rw [Plain.scan_of_continues h (Nat.lt_succ_self s.length)]
  rfl

theorem step?_start (h : Plain.begins s) : (start s).step? = (start s).plain? := by
  rw [step?, toNextToken_start h]
  exact token?_start h

end Token.State

theorem Token.start_of_head? (h : s.head? ≠ some '\ufeff') : start s = .start s := by
  fun_cases start s with
  | case1 s => exact absurd rfl h
  | case2 => rfl

theorem Plain.head?_of_begins (h : begins s) : s.head? ≠ some '\ufeff' := by
  cases s with
  | nil => nofun
  | cons c s => exact fun hc => (begins_cons_iff.1 h).1 (Option.some.inj hc)

theorem Token.read?_of_isLine (h : Plain.isLine s) (ha : s.all isAllowed) :
    read? s = some [.scalar s true] := by
  obtain ⟨hb, hc⟩ := Bool.and_eq_true_iff.1 h
  rw [read?, if_pos ha, start_of_head? (Plain.head?_of_begins hb)]
  cases s with
  | nil => exact absurd hb (by decide)
  | cons c s =>
    change Option.bind (State.start (c :: s)).step? _ = _
    rw [State.step?_start hb, State.plain?_start hc]
    rfl

theorem Tree.read?_of_isLine (h : Plain.isLine s) (ha : s.all isAllowed) :
    read? s = some (some (.scalar none s true)) := by
  rw [read?, Token.read?_of_isLine h ha]
  rfl

theorem Data.read?_of_isLine {x : String} (h : Plain.isLine x.toList)
    (ha : x.toList.all isAllowed) : read? x = (Scalar.ofPlain? x.toList).map ofScalar := by
  rw [read?, Tree.read?_of_isLine h ha]
  rfl

theorem isAllowed_of_read? {x : String} {d : Data} (h : Data.read? x = some d) :
    x.toList.all isAllowed := by
  obtain ⟨tree?, ht, _⟩ := Option.bind_eq_some_iff.1 h
  obtain ⟨ts, hts, _⟩ := Option.bind_eq_some_iff.1 ht
  simp only [Token.read?, Option.ite_none_right_eq_some] at hts
  exact hts.1

end LiveAssert.Yaml

namespace LiveAssert

namespace Literal

variable {x s : String}

theorem coerce_of_isLine (hx : Yaml.Plain.isLine x.toList) (ha : x.toList.all Yaml.isAllowed)
    {scalar : Yaml.Scalar} (h : Yaml.Scalar.ofPlain? x.toList = some scalar) :
    coerce x = .ok (Yaml.Data.ofScalar scalar).toValue := by
  rw [coerce, Yaml.Data.read?_of_isLine hx ha, h]
  rfl

theorem eq_of_coerce_of_isLine (hx : Yaml.Plain.isLine x.toList)
    (h : coerce x = .ok (.string s)) : s = x := by
  rw [coerce] at h
  split at h
  · next d hd =>
    have hs : d.toValue = .string s := Except.ok.inj h
    rw [Yaml.Data.read?_of_isLine hx (Yaml.isAllowed_of_read? hd)] at hd
    obtain ⟨scalar, hscalar, rfl⟩ := Option.map_eq_some_iff.1 hd
    cases Yaml.Data.eq_of_toValue_ofScalar hs
    exact String.toList_inj.1 (Yaml.Scalar.eq_of_ofPlain? hscalar)
  · cases h

end Literal

end LiveAssert
