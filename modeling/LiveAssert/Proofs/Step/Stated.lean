import LiveAssert.Step

namespace LiveAssert

namespace Text

theorem forall_isDecimalDigit (P : Char → Prop)
    (h : ∀ z ∈ zeros, ∀ k < 10, P (Char.ofNat (z + k))) {c : Char} (hc : isDecimalDigit c) :
    P c := by
  simp only [isDecimalDigit, List.any_eq_true, Bool.and_eq_true, decide_eq_true_eq] at hc
  obtain ⟨z, hz, hle, hlt⟩ := hc
  have hp := h z hz (c.toNat - z) (by omega)
  rwa [Nat.add_sub_cancel' hle, Char.ofNat_toNat] at hp

theorem isBlank_of_isDecimalDigit {c : Char} (h : isDecimalDigit c) : isBlank c = false :=
  forall_isDecimalDigit (isBlank · = false) (by decide +kernel) h

end Text

open Text (isDecimalDigit)

namespace DurationPart

theorem isUnitLetter_of_isDecimalDigit {c : Char} (h : isDecimalDigit c) :
    isUnitLetter c = false :=
  Text.forall_isDecimalDigit (isUnitLetter · = false) (by decide +kernel) h

end DurationPart

open DurationPart (isUnitLetter)

def IsNumber (s : List Char) : Prop := s ≠ [] ∧ ∀ c ∈ s, isDecimalDigit c

def IsUnit (s : List Char) : Prop := s ≠ [] ∧ s.length ≤ 3 ∧ ∀ c ∈ s, isUnitLetter c

inductive IsGroups : List Char → Prop
  | nil : IsGroups []
  | cons : IsNumber number → IsUnit unit → IsGroups s → IsGroups (number ++ (unit ++ s))

def IsStated (s : List Char) : Prop := s ≠ [] ∧ IsGroups s

theorem IsGroups.forall_mem {s : List Char} (h : IsGroups s) :
    ∀ c ∈ s, isDecimalDigit c ∨ isUnitLetter c := by
  induction h with
  | nil => simp
  | cons hn hu _ ih =>
    intro c hc
    simp only [List.mem_append] at hc
    obtain hc | hc | hc := hc
    · exact .inl (hn.2 c hc)
    · exact .inr (hu.2.2 c hc)
    · exact ih c hc

namespace DurationPart

/-- What completes a duration of which a part has been read. -/
def Completes : DurationPart → List Char → Prop
  | .start, s => IsStated s
  | .number, s => ∃ digits letters rest, (∀ c ∈ digits, isDecimalDigit c) ∧ IsUnit letters ∧
      IsGroups rest ∧ digits ++ (letters ++ rest) = s
  | .unit room, s => ∃ letters rest, letters.length ≤ room ∧ (∀ c ∈ letters, isUnitLetter c) ∧
      IsGroups rest ∧ letters ++ rest = s

variable {part : DurationPart} {room : Nat} {c : Char} {s taken rest : List Char}

theorem completes_nil_iff : part.Completes [] ↔ part.isEnd := by
  cases part with
  | start => simp [Completes, IsStated, isEnd]
  | number =>
    simp only [Completes, IsUnit, isEnd, List.append_eq_nil_iff]
    constructor
    · rintro ⟨_, letters, _, _, ⟨hne, _⟩, _, _, hl, _⟩
      exact absurd hl hne
    · nofun
  | unit room =>
    simp only [Completes, isEnd, iff_true]
    exact ⟨[], [], Nat.zero_le _, nofun, .nil, rfl⟩

theorem isGroups_cons_iff : IsGroups (c :: s) ↔ isDecimalDigit c ∧ Completes .number s := by
  constructor
  · intro h
    generalize ht : c :: s = t at h
    cases h with
    | nil => nomatch ht
    | @cons number unit rest hn hu hr =>
      obtain ⟨hne, hall⟩ := hn
      cases number with
      | nil => exact absurd rfl hne
      | cons d digits =>
        obtain ⟨rfl, rfl⟩ := List.cons.inj ht
        simp only [List.forall_mem_cons] at hall
        exact ⟨hall.1, digits, unit, rest, hall.2, hu, hr, rfl⟩
  · rintro ⟨hc, digits, letters, rest, hd, hu, hr, rfl⟩
    exact .cons ⟨List.cons_ne_nil c digits, List.forall_mem_cons.2 ⟨hc, hd⟩⟩ hu hr

theorem completes_start_cons_iff :
    Completes .start (c :: s) ↔ isDecimalDigit c ∧ Completes .number s := by
  rw [← isGroups_cons_iff, Completes, IsStated]
  simp

theorem completes_number_cons_iff : Completes .number (c :: s) ↔
    (isDecimalDigit c ∧ Completes .number s) ∨ (isUnitLetter c ∧ Completes (.unit 2) s) := by
  constructor
  · rintro ⟨digits, letters, rest, hd, ⟨hne, hlen, hall⟩, hr, heq⟩
    cases digits with
    | cons d digits =>
      obtain ⟨rfl, rfl⟩ := List.cons.inj heq
      rw [List.forall_mem_cons] at hd
      exact .inl ⟨hd.1, digits, letters, rest, hd.2, ⟨hne, hlen, hall⟩, hr, rfl⟩
    | nil =>
      cases letters with
      | nil => exact absurd rfl hne
      | cons l letters =>
        obtain ⟨rfl, rfl⟩ := List.cons.inj heq
        rw [List.forall_mem_cons] at hall
        exact .inr ⟨hall.1, letters, rest, Nat.le_of_succ_le_succ hlen, hall.2, hr, rfl⟩
  · rintro (⟨hc, digits, letters, rest, hd, hu, hr, rfl⟩ | ⟨hc, letters, rest, hlen, hall, hr, rfl⟩)
    · exact ⟨c :: digits, letters, rest, List.forall_mem_cons.2 ⟨hc, hd⟩, hu, hr, rfl⟩
    · exact ⟨[], c :: letters, rest, nofun, ⟨List.cons_ne_nil c letters, Nat.succ_le_succ hlen,
        List.forall_mem_cons.2 ⟨hc, hall⟩⟩, hr, rfl⟩

theorem completes_unit_cons_iff : Completes (.unit room) (c :: s) ↔
    (isDecimalDigit c ∧ Completes .number s) ∨
      (isUnitLetter c ∧ ∃ less, room = less + 1 ∧ Completes (.unit less) s) := by
  constructor
  · rintro ⟨letters, rest, hlen, hall, hr, heq⟩
    cases letters with
    | nil =>
      rw [List.nil_append] at heq
      subst heq
      exact .inl (isGroups_cons_iff.1 hr)
    | cons l letters =>
      obtain ⟨rfl, rfl⟩ := List.cons.inj heq
      rw [List.forall_mem_cons] at hall
      cases room with
      | zero => nomatch hlen
      | succ less =>
        exact .inr ⟨hall.1, less, rfl, letters, rest, Nat.le_of_succ_le_succ hlen, hall.2, hr, rfl⟩
  · rintro (h | ⟨hc, less, rfl, letters, rest, hlen, hall, hr, rfl⟩)
    · exact ⟨[], c :: s, Nat.zero_le _, nofun, isGroups_cons_iff.2 h, rfl⟩
    · exact ⟨c :: letters, rest, Nat.succ_le_succ hlen, List.forall_mem_cons.2 ⟨hc, hall⟩, hr, rfl⟩

theorem completes_cons_iff :
    part.Completes (c :: s) ↔ ∃ part', part.next? c = some part' ∧ part'.Completes s := by
  cases part with
  | start =>
    rw [completes_start_cons_iff, next?]
    cases isDecimalDigit c <;> simp
  | number =>
    rw [completes_number_cons_iff, next?]
    cases hd : isDecimalDigit c with
    | true => simp [isUnitLetter_of_isDecimalDigit hd]
    | false => cases isUnitLetter c <;> simp
  | unit room =>
    rw [completes_unit_cons_iff]
    cases hd : isDecimalDigit c with
    | true => simp [next?, hd, isUnitLetter_of_isDecimalDigit hd]
    | false => cases room <;> cases hl : isUnitLetter c <;> simp [next?, hd, hl]

theorem mem_prefixes_iff :
    (taken, rest) ∈ part.prefixes s ↔ part.Completes taken ∧ taken ++ rest = s := by
  induction s generalizing part taken with
  | nil =>
    cases taken with
    | nil => cases he : part.isEnd <;> simp [prefixes, completes_nil_iff, he]
    | cons d taken => cases he : part.isEnd <;> simp [prefixes, he]
  | cons c s ih =>
    cases taken with
    | nil =>
      rw [completes_nil_iff, prefixes]
      cases part.next? c <;> cases part.isEnd <;> simp
    | cons d taken =>
      rw [completes_cons_iff, prefixes]
      by_cases hdc : d = c
      · subst hdc
        cases part.next? d <;> cases part.isEnd <;> simp [ih]
      · cases part.next? c <;> cases part.isEnd <;> simp [hdc, Ne.symm hdc]

instance (s : List Char) : Decidable (IsStated s) :=
  decidable_of_iff ((s, []) ∈ DurationPart.start.prefixes s)
    (mem_prefixes_iff.trans (and_iff_left (List.append_nil s)))

theorem prefixes_pairwise (part : DurationPart) (s : List Char) :
    (part.prefixes s).Pairwise fun x y => y.1.length < x.1.length := by
  induction s generalizing part with
  | nil => cases he : part.isEnd <;> simp [prefixes, he]
  | cons c s ih =>
    rw [prefixes, List.pairwise_append]
    refine ⟨?_, by split <;> simp, ?_⟩
    · cases part.next? c with
      | none => exact .nil
      | some part' => exact List.pairwise_map.2 ((ih part').imp Nat.succ_lt_succ)
    · intro x hx y hy
      cases hn : part.next? c with
      | none => simp [hn] at hx
      | some part' =>
        rw [hn] at hx
        obtain ⟨z, _, rfl⟩ := List.mem_map.1 hx
        cases he : part.isEnd with
        | false => simp [he] at hy
        | true =>
          rw [he, if_pos rfl, List.mem_singleton] at hy
          subst hy
          exact Nat.succ_pos _

end DurationPart

end LiveAssert
