import LiveAssert.Fields
import LiveAssert.Proofs.Value.Equality
import Mathlib.Data.List.Forall2

namespace LiveAssert

namespace Fields

variable {α β : Type} {R : α → β → Prop} {es : Fields α} {fs : Fields β} {name other : String}
  {x : α}

theorem Sorted.le_of_isSome (h : Sorted ((name, x) :: es))
    (hget : (get? other ((name, x) :: es)).isSome) : name ≤ other := by
  obtain ⟨y, hy⟩ := Option.isSome_iff_exists.1 hget
  cases List.mem_cons.1 (mem_of_get? hy) with
  | inl hm => cases hm; exact String.le_refl _
  | inr hm => exact Std.le_of_lt ((List.pairwise_cons.1 h).1 _ hm)

theorem Sorted.get?_tail_eq_none (h : Sorted ((name, x) :: es)) : get? name es = none :=
  get?_eq_none fun y hm => String.lt_irrefl _ ((List.pairwise_cons.1 h).1 (name, y) hm)

theorem isSome_eq_of_rel {x? : Option α} {y? : Option β} (h : Option.Rel R x? y?) :
    x?.isSome = y?.isSome := by
  cases h <;> rfl

theorem rel_get?_of_forall₂ (h : List.Forall₂ (fun e f => e.1 = f.1 ∧ R e.2 f.2) es fs)
    (name : String) : Option.Rel R (get? name es) (get? name fs) := by
  induction h with
  | nil => exact .none
  | cons hef _ ih =>
    rw [get?, get?, ← hef.1]
    split
    · exact .some hef.2
    · exact ih

/-- Sorted fields with related entries under the same names are related entry by entry: each first
name is found in the other fields, so neither is less than the other. -/
theorem forall₂_of_rel_get? (he : Sorted es) (hf : Sorted fs)
    (h : ∀ name, Option.Rel R (get? name es) (get? name fs)) :
    List.Forall₂ (fun e f => e.1 = f.1 ∧ R e.2 f.2) es fs := by
  have hfirst {γ : Type} (name : String) (z : γ) (gs : Fields γ) :
      get? name ((name, z) :: gs) = some z := if_pos rfl
  induction es generalizing fs with
  | nil =>
    cases fs with
    | nil => exact .nil
    | cons f fs =>
      have hnone := h f.1
      rw [hfirst] at hnone
      nomatch hnone
  | cons e es ih =>
    obtain ⟨name, x⟩ := e
    cases fs with
    | nil =>
      have hnone := h name
      rw [hfirst] at hnone
      nomatch hnone
    | cons f fs =>
      obtain ⟨other, y⟩ := f
      have hle : other ≤ name :=
        hf.le_of_isSome (by rw [← isSome_eq_of_rel (h name), hfirst]; rfl)
      have hge : name ≤ other :=
        he.le_of_isSome (by rw [isSome_eq_of_rel (h other), hfirst]; rfl)
      obtain rfl := String.le_antisymm hge hle
      have hxy : R x y := by
        have hrel := h name
        rw [hfirst, hfirst] at hrel
        cases hrel
        assumption
      refine .cons ⟨rfl, hxy⟩ (ih (List.pairwise_cons.1 he).2 (List.pairwise_cons.1 hf).2 ?_)
      intro third
      by_cases hthird : third = name
      · rw [hthird, he.get?_tail_eq_none, hf.get?_tail_eq_none]
        exact .none
      · have hrel := h third
        rwa [get?, get?, if_neg hthird, if_neg hthird] at hrel

end Fields

namespace Binary64

variable {x y : Binary64}

theorem eq_iff : x.eq y ↔ ¬x.isNaN ∧ (x = y ∨ ∃ a b, x = ⟨a, 0⟩ ∧ y = ⟨b, 0⟩) := by
  constructor
  · intro h
    have hnan : ¬x.isNaN := fun hx => by simp [eq, hx] at h
    exact ⟨hnan, eq_or_zero_of_eq h⟩
  · rintro ⟨hnan, rfl | ⟨a, b, rfl, rfl⟩⟩
    · exact (eq_self_iff x).2 hnan
    · simp [eq]

end Binary64

namespace Value

variable {x y : Value} {xs ys : List Value} {es fs : Fields Value}

theorem eqItems_iff_forall₂ : eqItems xs ys ↔ List.Forall₂ (· == ·) xs ys := by
  induction xs generalizing ys with
  | nil => cases ys <;> simp [eqItems]
  | cons x xs ih => cases ys <;> simp [eqItems, ih, beq_eq_eq]

theorem eqEntries_iff_forall₂ :
    eqEntries es fs ↔ List.Forall₂ (fun e f => e.1 = f.1 ∧ e.2 == f.2) es fs := by
  induction es generalizing fs with
  | nil => cases fs <;> simp [eqEntries]
  | cons e es ih => cases fs <;> simp [eqEntries, ih, beq_eq_eq, and_assoc]

theorem mapping_beq_iff (he : Fields.Sorted es) (hf : Fields.Sorted fs) :
    Value.mapping es == .mapping fs ↔
      ∀ name, Option.Rel (· == ·) (Fields.get? name es) (Fields.get? name fs) := by
  rw [beq_eq_eq, eq, eqEntries_iff_forall₂]
  exact ⟨fun h => Fields.rel_get?_of_forall₂ h, fun h => Fields.forall₂_of_rel_get? he hf h⟩

theorem typeName_eq_of_beq (h : x == y) : x.typeName = y.typeName := by
  obtain rfl | ⟨_, _, rfl, rfl, _⟩ | ⟨_, _, rfl, rfl, _⟩ | ⟨_, _, rfl, rfl, _⟩ := eq_cases h <;> rfl

theorem length?_eq_of_beq (h : x == y) : x.length? = y.length? := by
  obtain rfl | ⟨_, _, rfl, rfl, _⟩ | ⟨_, _, rfl, rfl, h⟩ | ⟨_, _, rfl, rfl, h⟩ := eq_cases h
  · rfl
  · rfl
  · exact congrArg some (eqItems_iff_forall₂.1 h).length_eq
  · exact congrArg some (eqEntries_iff_forall₂.1 h).length_eq

/-- Equality of values is symmetric and transitive, and a value equals itself if and only if there
is no NaN in it. Equal values are of one type and one length, and are one text if they are strings.
Numbers are equal as numbers, and mappings if they have the same names with equal values. -/
theorem beq_partialEquivalence (x y z : Value) :
    (x == y → y == x) ∧ (x == y → y == z → x == z) ∧ (x == x ↔ ¬x.HasNaN) ∧
      (x == y → x.typeName = y.typeName ∧ x.length? = y.length? ∧
        ∀ s, x = .string s → y = .string s) ∧
      (∀ a b, Value.number a == .number b ↔
        ¬a.isNaN ∧ (a = b ∨ ∃ s t, a = ⟨s, 0⟩ ∧ b = ⟨t, 0⟩)) ∧
      ∀ es fs, Fields.Sorted es → Fields.Sorted fs → (Value.mapping es == .mapping fs ↔
        ∀ name, Option.Rel (· == ·) (Fields.get? name es) (Fields.get? name fs)) := by
  refine ⟨beq_symm, beq_trans, eq_self_iff x, fun h => ?_, fun a b => Binary64.eq_iff,
    fun es fs => mapping_beq_iff⟩
  refine ⟨typeName_eq_of_beq h, length?_eq_of_beq h, fun s hs => ?_⟩
  exact eq_of_string_beq (hs ▸ h)

theorem beq_partialEquivalence_nested :
    let deep (a : Binary64) : Value := .sequence [.mapping [("a", .null), ("b", .number a)]]
    let zero := deep .zero
    let minusZero := deep ⟨true, 0⟩
    let es : Fields Value := [("a", .null), ("b", .null)]
    let fs : Fields Value := [("a", .null)]
    zero ≠ minusZero ∧ zero == minusZero ∧ minusZero == zero ∧ zero == zero ∧
      zero.length? = minusZero.length? ∧ (deep .nan).HasNaN ∧ ¬deep .nan == deep .nan ∧
      Fields.Sorted es ∧ Fields.Sorted fs ∧ ¬Value.mapping es == .mapping fs := by
  intro deep zero minusZero es fs
  have hne : zero ≠ minusZero := by simp [zero, minusZero, deep, Binary64.zero]
  have hzero : zero == minusZero := rfl
  have hnan : (deep .nan).HasNaN :=
    .sequence List.mem_cons_self
      (.mapping (List.mem_cons_of_mem _ List.mem_cons_self) (.number rfl))
  have hfs : Fields.Sorted fs := List.pairwise_singleton _ _
  have hes : Fields.Sorted es := List.pairwise_pair.2 (by decide)
  obtain ⟨hsymm, htrans, _, halike, _, hmapping⟩ := beq_partialEquivalence zero minusZero zero
  obtain ⟨_, _, hself, _⟩ := beq_partialEquivalence (deep .nan) zero zero
  refine ⟨hne, hzero, hsymm hzero, htrans hzero (hsymm hzero), (halike hzero).2.1, hnan,
    fun h => hself.1 h hnan, hes, hfs, fun h => ?_⟩
  nomatch (hmapping es fs hes hfs).1 h "b"

end Value

end LiveAssert
