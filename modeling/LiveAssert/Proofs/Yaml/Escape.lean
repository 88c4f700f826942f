import LiveAssert.Json.Writer
import LiveAssert.Proofs.Step.Written
import LiveAssert.Proofs.Yaml.Line

namespace LiveAssert.Yaml

/-- The characters that stand for themselves inside quotes, and those that are always escaped
there. -/
def isPortable (c : Char) : Bool :=
  let n := c.toNat
  n ≤ 0x7E || (0xA0 ≤ n && n ≤ 0xD7FF && n != 0x2028 && n != 0x2029)
    || (0xE000 ≤ n && n ≤ 0xFFFD && n != 0xFEFF) || 0x10000 ≤ n

def isPrinted (c : Char) : Bool := 0x20 ≤ c.toNat && isPortable c

variable {c : Char} {cs rest : List Char}

theorem isAllowed_of_isPrinted (h : isPrinted c) : isAllowed c := by
  simp only [isPrinted, isPortable, isAllowed, Bool.and_eq_true, Bool.or_eq_true, decide_eq_true_eq,
    bne_iff_ne, beq_iff_eq] at h ⊢
  omega

theorem isSpacing_of_isPrinted (h : isPrinted c) (hc : c ≠ ' ') : isSpacing c = false := by
  have hspacing : ['\t', '\r', '\n', '\x85', '\u2028', '\u2029'].all (!isPrinted ·) := by decide
  have hne : c ∉ ['\t', '\r', '\n', '\x85', '\u2028', '\u2029'] := by
    intro hmem
    have hnot := List.all_eq_true.1 hspacing c hmem
    rw [h] at hnot
    nomatch hnot
  simp_all [isSpacing, isBlank, isBreak]

theorem isBreak_of_isPrinted (h : isPrinted c) : isBreak c = false := by
  by_cases hc : c = ' '
  · rw [hc]
    rfl
  · exact (Bool.or_eq_false_iff.1 (isSpacing_of_isPrinted h hc)).2

theorem isPrinted_of_isPortable (h : isPortable c) (hlow : ¬c.toNat < 0x20) : isPrinted c := by
  simp [isPrinted, h, Nat.le_of_not_lt hlow]

theorem toNat_of_isAlphanum {c : Char} (h : c.isAlphanum) : 48 ≤ c.toNat ∧ c.toNat ≤ 122 := by
  obtain hletter | hdigit := (Bool.or_eq_true _ _).mp h
  · obtain hupper | hlower := (Bool.or_eq_true _ _).mp hletter
    · have ⟨hA, hZ⟩ := of_decide_eq_true hupper
      exact ⟨Nat.le_trans (by decide) (UInt32.le_iff_toNat_le.1 hA),
        Nat.le_trans (UInt32.le_iff_toNat_le.1 hZ) (by decide)⟩
    · have ⟨ha, hz⟩ := Bool.and_eq_true_iff.1 hlower
      exact ⟨Nat.le_trans (by decide) (UInt32.le_iff_toNat_le.1 (of_decide_eq_true ha)),
        UInt32.le_iff_toNat_le.1 (of_decide_eq_true hz)⟩
  · have ⟨hzero, hnine⟩ := Bool.and_eq_true_iff.1 hdigit
    exact ⟨UInt32.le_iff_toNat_le.1 (of_decide_eq_true hzero),
      Nat.le_trans (UInt32.le_iff_toNat_le.1 (of_decide_eq_true hnine)) (by decide)⟩

theorem isPrinted_of_isAlphanum (h : c.isAlphanum ∨ c = '-') : isPrinted c := by
  cases h with
  | inl h =>
    have := toNat_of_isAlphanum h
    simp only [isPrinted, isPortable, Bool.and_eq_true, Bool.or_eq_true, decide_eq_true_eq]
    omega
  | inr h =>
    rw [h]
    rfl

theorem isPrinted_hexDigit : ∀ n < 16, isPrinted (Json.hexDigit n) := by decide

theorem isPrinted_of_mem_escape (h : isPortable c) : ∀ d ∈ Json.escape c, isPrinted d := by
  fun_cases Json.escape c with
  | case8 c _ _ _ _ _ _ _ hlow =>
    have hhigh := isPrinted_hexDigit (c.toNat / 16) (by omega)
    have hdigit := isPrinted_hexDigit (c.toNat % 16) (Nat.mod_lt _ (by decide))
    have hzero : isPrinted '0' ∧ isPrinted 'u' ∧ isPrinted '\\' := by decide
    simp [hhigh, hdigit, hzero]
  | case9 c _ _ _ _ _ _ _ hlow =>
    exact List.forall_mem_singleton.2 (isPrinted_of_isPortable h hlow)
  | _ => exact List.all_eq_true.1 (by decide)

theorem isPrinted_of_mem_writeString {s : String} (h : ∀ c ∈ s.toList, isPortable c) :
    ∀ d ∈ Json.writeString s, isPrinted d := by
  have hquote : isPrinted '"' := by decide
  have hescape : ∀ d ∈ s.toList.flatMap Json.escape, isPrinted d := by
    intro d hd
    obtain ⟨c, hc, hd⟩ := List.mem_flatMap.1 hd
    exact isPrinted_of_mem_escape (h c hc) d hd
  simp only [Json.writeString, List.forall_mem_cons, List.forall_mem_append]
  exact ⟨hquote, hescape, hquote, nofun⟩

theorem exists_escape (h : isPortable c) (hc : c ≠ ' ') :
    ∃ d s, Json.escape c = d :: s ∧ isSpacing d = false := by
  fun_cases Json.escape c with
  | case9 c _ _ _ _ _ _ _ hlow =>
    exact ⟨c, [], rfl, isSpacing_of_isPrinted (isPrinted_of_isPortable h hlow) hc⟩
  | _ => exact ⟨'\\', _, rfl, rfl⟩

namespace Quoted

theorem readNat?_control : ∀ n < 0x20,
    Decimal.readNat? 16 ['0', '0', Json.hexDigit (n / 16), Json.hexDigit (n % 16)] = some n := by
  decide

/-- What is written for a character other than a space is one piece of the scalar. -/
theorem piece?_escape (h : isPortable c) (hc : c ≠ ' ') (s : List Char) :
    piece? .double (Json.escape c ++ s) = some (.text [c] s) := by
  fun_cases Json.escape c with
  | case8 c _ _ _ _ _ _ _ hlow =>
    have hread := readNat?_control c.toNat hlow
    have hvalid : c.toNat ≤ 0x10FFFF ∧ ¬(0xD800 ≤ c.toNat ∧ c.toNat ≤ 0xDFFF) := by omega
    have hescape : escape? ('u' :: '0' :: '0' :: Json.hexDigit (c.toNat / 16) ::
        Json.hexDigit (c.toNat % 16) :: s) = some (c, s) := by
      simp [escape?, codePoint?, hread, hvalid]
    simp [piece?, hescape, isSpacing, isBlank, isBreak, atBreak]
  | case9 c hquote hbackslash _ _ _ _ _ hlow =>
    have hspacing := isSpacing_of_isPrinted (isPrinted_of_isPortable h hlow) hc
    rw [List.singleton_append, piece?, if_neg (by simp [hspacing])] <;> simp_all
  | _ => rfl

theorem piece?_spaces {q : Quote} {run : List Char} (hrun : ∀ c ∈ run, (c == ' ') = true)
    (hne : run ≠ []) (hrest : ∀ c ∈ rest.head?, isSpacing c = false) :
    piece? q (run ++ rest) = some (.text run rest) := by
  have hspacing : ∀ c ∈ run, isSpacing c = true := fun c hc => by rw [beq_iff_eq.1 (hrun c hc)]; rfl
  have hbreak : ∀ c ∈ run, isBreak c = false := fun c hc => by rw [beq_iff_eq.1 (hrun c hc)]; rfl
  have hends : endsLine run = false := by
    rw [endsLine]
    cases hlast : run.getLast? with
    | none => rfl
    | some c => exact hbreak c (List.mem_of_getLast? hlast)
  obtain ⟨htake, hdrop⟩ := Text.span_append hspacing hrest
  obtain ⟨c, run, rfl⟩ := List.exists_cons_of_ne_nil hne
  have hspaces : spacing? false fold (c :: (run ++ rest)) = some (.text (c :: run) rest) := by
    rw [← List.cons_append, spacing?, htake, hdrop, hends, fold_of_not_isBreak hbreak]
    rfl
  simp only [List.cons_append, piece?, hspacing c List.mem_cons_self, if_true, hspaces]

theorem flatMap_escape_of_spaces {run : List Char} (h : ∀ c ∈ run, (c == ' ') = true) :
    run.flatMap Json.escape = run := by
  induction run with
  | nil => rfl
  | cons c run ih =>
    obtain ⟨hc, hrun⟩ := List.forall_mem_cons.1 h
    rw [List.flatMap_cons, ih hrun, beq_iff_eq.1 hc]
    rfl

theorem isSpacing_of_mem_head? (h : ∀ c ∈ cs, isPortable c) (hc : ∀ c ∈ cs.head?, c ≠ ' ') :
    ∀ d ∈ (cs.flatMap Json.escape ++ '"' :: rest).head?, isSpacing d = false := by
  cases cs with
  | nil => simp [isSpacing, isBlank, isBreak]
  | cons c cs =>
    obtain ⟨d, s, hd, hspacing⟩ := exists_escape (h c List.mem_cons_self) (hc c rfl)
    rw [List.flatMap_cons, hd]
    simpa using hspacing

theorem scan_escape {fuel : Nat} (h : ∀ c ∈ cs, isPortable c) (hfuel : cs.length < fuel) :
    scan .double fuel (cs.flatMap Json.escape ++ '"' :: rest) = some (cs, rest) := by
  induction fuel generalizing cs with
  | zero => nomatch hfuel
  | succ fuel ih =>
    cases cs with
    | nil => rfl
    | cons c cs =>
      by_cases hc : c = ' '
      · -- All spaces here are one piece, so that more than one character may be read.
        subst hc
        have hrun : ∀ c ∈ (' ' :: cs).takeWhile (· == ' '), (c == ' ') = true :=
          List.all_eq_true.1 List.all_takeWhile
        have htail : ∀ c ∈ (' ' :: cs).dropWhile (· == ' '), isPortable c :=
          fun c hc => h c ((List.dropWhile_suffix _).subset hc)
        have hlength : ((' ' :: cs).dropWhile (· == ' ')).length < fuel :=
          Nat.lt_of_le_of_lt (length_dropWhile_le _ cs) (Nat.lt_of_succ_lt_succ hfuel)
        have hhead : ∀ c ∈ ((' ' :: cs).dropWhile (· == ' ')).head?, c ≠ ' ' := by
          intro c hc
          have hnot := List.head?_dropWhile_not (· == ' ') (' ' :: cs)
          rw [Option.mem_def.1 hc] at hnot
          exact beq_eq_false_iff_ne.1 hnot
        have hsplit := (' ' :: cs).takeWhile_append_dropWhile (p := (· == ' '))
        have hne : (' ' :: cs).takeWhile (· == ' ') ≠ [] := by simp
        rw [← hsplit]
        generalize (' ' :: cs).takeWhile (· == ' ') = run at hrun hne
        generalize (' ' :: cs).dropWhile (· == ' ') = tail at htail hlength hhead
        rw [List.flatMap_append, flatMap_escape_of_spaces hrun, List.append_assoc, scan,
          piece?_spaces hrun hne (isSpacing_of_mem_head? htail hhead)]
        simp only [ih htail hlength, Option.map_some]
      · rw [List.forall_mem_cons] at h
        rw [scan, List.flatMap_cons, List.append_assoc, piece?_escape h.1 hc]
        simp [ih h.2 (Nat.lt_of_succ_lt_succ hfuel)]

theorem length_le_length_escape (cs : List Char) : cs.length ≤ (cs.flatMap Json.escape).length := by
  induction cs with
  | nil => exact Nat.le_refl 0
  | cons c cs ih =>
    have hc : 0 < (Json.escape c).length := by fun_cases Json.escape c <;> simp
    rw [List.flatMap_cons, List.length_append, List.length_cons]
    omega

theorem scan_writeString {s : String} (h : ∀ c ∈ s.toList, isPortable c) (rest : List Char) :
    scan .double ((Json.writeString s ++ rest).length + 1) ((Json.writeString s ++ rest).drop 1) =
      some (s.toList, rest) := by
  have hlength := length_le_length_escape s.toList
  have hfuel : s.toList.length < (Json.writeString s ++ rest).length + 1 := by
    simp only [Json.writeString, List.length_append, List.length_cons]
    omega
  rw [← scan_escape h hfuel]
  simp [Json.writeString]

end Quoted

end LiveAssert.Yaml
