import LiveAssert.Predicate
import LiveAssert.Proofs.Value.Equality
import Mathlib.Data.List.FinRange
import Mathlib.Data.List.Perm.Basic

namespace LiveAssert

theorem exists_equiv_of_perm {α : Type} {xs ys : List α} (h : xs.Perm ys) :
    ∃ σ : Fin xs.length ≃ Fin ys.length, ∀ i, ys[σ i] = xs[i] := by
  classical
  exact ⟨⟨h.idxBij, h.symm.idxBij, h.idxBij_rightInverse_idxBij_symm,
    h.idxBij_leftInverse_idxBij_symm⟩, h.getElem_idxBij_eq_getElem⟩

namespace Value

variable {x y : Value} {xs ys zs items items' expected expected' : List Value}

def Pairs (items expected : List Value) : Prop :=
  ∃ zs, List.Forall₂ (· == ·) items zs ∧ zs.Perm expected

theorem pairs_nil_iff : Pairs [] expected ↔ expected = [] := by
  simp [Pairs]

theorem Pairs.of_perm (h : Pairs items expected) (hi : items.Perm items')
    (he : expected.Perm expected') : Pairs items' expected' := by
  obtain ⟨zs, hzs, hp⟩ := h
  obtain ⟨ws, hws, hw⟩ := List.perm_comp_forall₂ hi.symm hzs
  exact ⟨ws, hws, hw.trans (hp.trans he)⟩

theorem Pairs.cons (h : Pairs xs ys) (hxy : x == y) : Pairs (x :: xs) (y :: ys) := by
  obtain ⟨zs, hzs, hp⟩ := h
  exact ⟨y :: zs, .cons hxy hzs, hp.cons y⟩

theorem Pairs.exists_mem (h : Pairs (x :: xs) expected) : ∃ y ∈ expected, x == y := by
  obtain ⟨zs, hzs, hp⟩ := h
  obtain ⟨y, ys, hxy, _, rfl⟩ := List.forall₂_cons_left_iff.1 hzs
  exact ⟨y, hp.mem_iff.1 List.mem_cons_self, hxy⟩

/-- Equal values may be paired with each other whatever their partners are: these are equal, too,
and become partners. -/
theorem Pairs.of_cons (h : Pairs (x :: xs) (y :: ys)) (hxy : x == y) : Pairs xs ys := by
  obtain ⟨zs, hzs, hp⟩ := h
  obtain ⟨b, bs, hxb, hbs, rfl⟩ := List.forall₂_cons_left_iff.1 hzs
  cases List.mem_cons.1 (hp.mem_iff.2 List.mem_cons_self) with
  | inl hyb => exact ⟨bs, hbs, (hyb ▸ hp).cons_inv⟩
  | inr hy =>
    -- the item that is paired with `y` takes over `b`
    obtain ⟨front, back, rfl⟩ := List.append_of_mem hy
    have hmiddle : (front ++ y :: back).Perm (y :: (front ++ back)) := List.perm_middle
    have hys : (b :: (front ++ back)).Perm ys :=
      ((hmiddle.cons b).trans (.swap y b _)).symm.trans hp |>.cons_inv
    have hcomp : Relation.Comp (List.Forall₂ (· == ·)) List.Perm xs (y :: (front ++ back)) :=
      ⟨_, hbs, hmiddle⟩
    rw [List.forall₂_comp_perm_eq_perm_comp_forall₂] at hcomp
    obtain ⟨ws, hws, hf⟩ := hcomp
    obtain ⟨a, as, hay, has, rfl⟩ := List.forall₂_cons_right_iff.1 hf
    have hab : a == b := beq_trans hay (beq_trans (beq_symm hxy) hxb)
    exact Pairs.of_perm ⟨b :: (front ++ back), .cons hab has, hys⟩ hws.symm (.refl ys)

theorem pairs_iff_exists_equiv :
    Pairs items expected ↔
      ∃ σ : Fin items.length ≃ Fin expected.length, ∀ i, items[i] == expected[σ i] := by
  constructor
  · rintro ⟨zs, hzs, hp⟩
    obtain ⟨hlength, hget⟩ := List.forall₂_iff_get.1 hzs
    obtain ⟨σ, hσ⟩ := exists_equiv_of_perm hp
    refine ⟨(finCongr hlength).trans σ, fun i => ?_⟩
    have hi : items[i] == zs[finCongr hlength i] := hget i i.2 (hlength ▸ i.2)
    rw [← hσ] at hi
    exact hi
  · rintro ⟨σ, hσ⟩
    have hlength : items.length = expected.length := Fin.equiv_iff_eq.1 ⟨σ⟩
    let τ : Equiv.Perm (Fin expected.length) := (finCongr hlength.symm).trans σ
    refine ⟨List.ofFn (expected.get ∘ τ), ?_, ?_⟩
    · rw [List.forall₂_iff_get]
      refine ⟨by rw [List.length_ofFn, hlength], fun i hi _ => ?_⟩
      rw [List.get_ofFn]
      exact hσ ⟨i, hi⟩
    · have hp := τ.ofFn_comp_perm expected.get
      rwa [List.ofFn_get] at hp

end Value

namespace Predicate

open Value (Pairs)

variable {x : Value} {items expected rest : List Value}

theorem removeFirst?_eq_none_iff : removeFirst? x expected = none ↔ ∀ y ∈ expected, ¬y == x := by
  induction expected with
  | nil => simp [removeFirst?]
  | cons y ys ih => by_cases hy : y == x <;> simp [removeFirst?, hy, ih]

theorem exists_perm_of_removeFirst? (h : removeFirst? x expected = some rest) :
    ∃ y, y == x ∧ expected.Perm (y :: rest) := by
  induction expected generalizing rest with
  | nil => nomatch h
  | cons z zs ih =>
    rw [removeFirst?] at h
    split at h
    · next hz =>
      cases h
      exact ⟨z, hz, .refl _⟩
    · obtain ⟨zs', hzs, rfl⟩ := Option.map_eq_some_iff.1 h
      obtain ⟨y, hy, hp⟩ := ih hzs
      exact ⟨y, hy, (hp.cons z).trans (.swap y z zs')⟩

theorem consistsOf_iff_pairs : consistsOf items expected ↔ Pairs items expected := by
  induction items generalizing expected with
  | nil => rw [consistsOf, List.isEmpty_iff, Value.pairs_nil_iff]
  | cons x xs ih =>
    rw [consistsOf]
    cases hr : removeFirst? x expected with
    | none =>
      rw [removeFirst?_eq_none_iff] at hr
      refine iff_of_false Bool.false_ne_true fun h => ?_
      obtain ⟨y, hy, hxy⟩ := h.exists_mem
      exact hr y hy (Value.beq_symm hxy)
    | some rest =>
      obtain ⟨y, hy, hp⟩ := exists_perm_of_removeFirst? hr
      have hxy := Value.beq_symm hy
      exact ih.trans ⟨fun h => (h.cons hxy).of_perm (.refl _) hp.symm,
        fun h => (h.of_perm (.refl _) hp).of_cons hxy⟩

theorem test_of_consistOf {p : Predicate} (h : p.kind = .consistOf) (items : List Value) :
    p.test (.sequence items) = .ok (consistsOf items p.operands) := by
  simp only [test, h]

/-- A sequence consists of the operands if and only if a bijection of the positions pairs equal
values. So the order does not matter, of the sequence nor of the operands. -/
theorem consistOf_iff_exists_pairing {p : Predicate} (hp : p.kind = .consistOf)
    (items : List Value) :
    (∃ b, p.test (.sequence items) = .ok b ∧
      (b ↔ ∃ σ : Fin items.length ≃ Fin p.operands.length, ∀ i, items[i] == p.operands[σ i])) ∧
    ∀ (q : Predicate) (items' : List Value), q.kind = .consistOf → p.operands.Perm q.operands →
      items.Perm items' → q.test (.sequence items') = p.test (.sequence items) := by
  constructor
  · refine ⟨_, test_of_consistOf hp items, ?_⟩
    rw [consistsOf_iff_pairs, Value.pairs_iff_exists_equiv]
  · intro q items' hq ho hi
    rw [test_of_consistOf hp, test_of_consistOf hq]
    congr 1
    rw [Bool.eq_iff_iff, consistsOf_iff_pairs, consistsOf_iff_pairs]
    exact ⟨fun h => h.of_perm hi.symm ho.symm, fun h => h.of_perm hi ho⟩

theorem consistOf_iff_exists_pairing_zeros :
    let zero : Value := .number .zero
    let minusZero : Value := .number ⟨true, 0⟩
    let nan : Value := .number .nan
    let p := plain .consistOf [.sequence [zero], zero, minusZero]
    let q := plain .consistOf [zero, .sequence [zero], minusZero]
    let r := plain .consistOf [nan]
    let items := [minusZero, minusZero, .sequence [minusZero]]
    p.kind = .consistOf ∧ q.kind = .consistOf ∧ p.operands.Perm q.operands ∧
      (∃ σ : Fin 3 ≃ Fin 3, ∀ i, items[i] == p.operands[σ i]) ∧
      q.test (.sequence items.reverse) = .ok true ∧ r.kind = .consistOf ∧
      ¬∃ σ : Fin 1 ≃ Fin 1, ∀ i, [nan][i] == r.operands[σ i] := by
  intro zero minusZero nan p q r items
  have hp : p.kind = .consistOf := rfl
  have hq : q.kind = .consistOf := rfl
  have hr : r.kind = .consistOf := rfl
  have ho : p.operands.Perm q.operands := .swap ..
  have hi : items.Perm items.reverse := (List.reverse_perm items).symm
  have htest : p.test (.sequence items) = .ok true := rfl
  have hnan : r.test (.sequence [nan]) = .ok false := rfl
  obtain ⟨⟨b, hb, hpairing⟩, hperm⟩ := consistOf_iff_exists_pairing hp items
  obtain ⟨⟨b', hb', hnone⟩, _⟩ := consistOf_iff_exists_pairing hr [nan]
  obtain rfl := Except.ok.inj (htest.symm.trans hb)
  obtain rfl := Except.ok.inj (hnan.symm.trans hb')
  exact ⟨hp, hq, ho, hpairing.1 rfl, (hperm q _ hq ho hi).trans htest, hr,
    fun h => Bool.false_ne_true (hnone.2 h)⟩

end Predicate

end LiveAssert
