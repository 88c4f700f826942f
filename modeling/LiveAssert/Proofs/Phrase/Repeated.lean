import LiveAssert.Proofs.Phrase.Compiled
import LiveAssert.Proofs.Phrase.Forms
import LiveAssert.Proofs.Value.Equality

namespace LiveAssert

namespace Binary64

@[simp] theorem isNaN_toBinary64 (d : Decimal) : d.toBinary64.isNaN = false := by
  rw [Decimal.toBinary64]
  split
  · rfl
  · split
    · rfl
    · split
      · exact isNaN_ofUnits ..
      · exact isNaN_ofUnits ..

theorem isNaN_of_read? {s : List Char} {x : Binary64} (h : read? s = some x) :
    x.isNaN = false := by
  obtain ⟨d, _, rfl⟩ := Option.map_eq_some_iff.1 h
  exact isNaN_toBinary64 d

end Binary64

theorem Predicate.beq_self_iff (p : Predicate) : p == p ↔ ∀ v ∈ p.operands, ¬v.HasNaN := by
  rw [← Value.eqItems_self_iff]
  change p.eq p ↔ _
  simp [Predicate.eq]

def Comparator.takesLiterals : Comparator → Bool
  | .equal => true
  | .elementOf => true
  | .consistOf => true
  | .contains => true
  | _ => false

theorem Phrase.not_hasNaN_of_compile {whole : String} {r : Phrase} {p : Predicate}
    (h : r.compile whole = .ok p) (hk : p.kind.takesLiterals = false) :
    ∀ v ∈ p.operands, ¬v.HasNaN := by
  have hone {v : Value} (hv : ¬v.HasNaN) : ∀ u ∈ [v], ¬u.HasNaN := by simpa using hv
  have hbool (b : Bool) : ¬(Value.bool b).HasNaN := by rintro ⟨⟩
  have hstring (s : String) : ¬(Value.string s).HasNaN := by rintro ⟨⟩
  cases r with
  | equal s => obtain ⟨_, _, ⟨⟩⟩ := exists_of_bind_eq_ok h; nomatch hk
  | elementOf s => obtain ⟨_, _, ⟨⟩⟩ := exists_of_bind_eq_ok h; nomatch hk
  | consistOf s => obtain ⟨_, _, ⟨⟩⟩ := exists_of_bind_eq_ok h; nomatch hk
  | contain s => obtain ⟨_, _, ⟨⟩⟩ := exists_of_bind_eq_ok h; nomatch hk
  | numeric symbol s =>
    obtain ⟨op, x, _, hx, rfl⟩ := compile_numeric_eq_ok_iff.1 h
    apply hone
    rw [Value.hasNaN_number_iff, Binary64.isNaN_of_read? hx]
    exact Bool.false_ne_true
  | length s =>
    simp only [compile] at h
    split at h
    · next n _ =>
      cases h
      apply hone
      rw [Value.hasNaN_number_iff, Binary64.isNaN_ofNat]
      exact Bool.false_ne_true
    · cases h
  | regex s =>
    simp only [compile] at h
    split at h
    · cases h; exact hone (hstring _)
    · cases h
  | bool b => cases h; exact hone (hbool b)
  | hasPrefix s => cases h; exact hone (hstring _)
  | hasSuffix s => cases h; exact hone (hstring _)

namespace Grammar

variable {g g' : Grammar} {phrase : String} {p q : Predicate}

theorem parse?_unique {r r' : Phrase} (h : g.parse? phrase = some r)
    (h' : g'.parse? phrase = some r') : r' = r := by
  obtain ⟨f, _, hf⟩ := List.exists_of_findSome?_eq_some h
  obtain ⟨f', _, hf'⟩ := List.exists_of_findSome?_eq_some h'
  have hm := Form.isSome_parse?_iff.1 (Option.isSome_of_eq_some hf)
  have hm' := Form.isSome_parse?_iff.1 (Option.isSome_of_eq_some hf')
  obtain rfl := hm.eq_of_matches hm'
  exact Option.some.inj (hf'.symm.trans hf)

theorem compile_unique (hp : g.compile phrase = .ok p) (hq : g'.compile phrase = .ok q) :
    q = p := by
  obtain ⟨r, hr, hp⟩ := exists_parse?_of_compile hp
  obtain ⟨r', hr', hq⟩ := exists_parse?_of_compile hq
  rw [parse?_unique hr hr'] at hq
  exact Except.ok.inj (hq.symm.trans hp)

/-- A phrase makes the same predicate each time, but that is equal to itself only if no operand
holds a NaN. None does if the operands are not written as literals. -/
theorem beq_iff_of_compile (hp : g.compile phrase = .ok p) (hq : g'.compile phrase = .ok q) :
    q = p ∧ (p == q ↔ ∀ v ∈ p.operands, ¬v.HasNaN) ∧
      (p.kind.takesLiterals = false → p == q) := by
  obtain rfl := compile_unique hp hq
  refine ⟨rfl, q.beq_self_iff, fun hk => ?_⟩
  obtain ⟨r, _, hr⟩ := exists_parse?_of_compile hq
  exact q.beq_self_iff.2 (Phrase.not_hasNaN_of_compile hr hk)

theorem beq_iff_of_compile_nan_key :
    ∃ p, standard.compile "contain \x7b.nan: [-.inf, 1]\x7d" = .ok p ∧
      compile standard.reverse "contain \x7b.nan: [-.inf, 1]\x7d" = .ok p ∧ p == p ∧
      ∀ v ∈ p.operands, ¬v.HasNaN := by
  have hself : (standard.compile "contain \x7b.nan: [-.inf, 1]\x7d").toOption.map
      (fun p => p == p) = some true := by decide +kernel
  cases hp : standard.compile "contain \x7b.nan: [-.inf, 1]\x7d" with
  | error e => rw [hp] at hself; nomatch hself
  | ok p =>
    rw [hp] at hself
    have hq : compile standard.reverse "contain \x7b.nan: [-.inf, 1]\x7d" = .ok p := by
      rw [compile_eq_of_forall_mem fun f => List.mem_reverse.2 (mem_standard f), hp]
    obtain ⟨_, hiff, _⟩ := beq_iff_of_compile hp hq
    have hpp : p == p := Option.some.inj hself
    exact ⟨p, rfl, hq, hpp, hiff.1 hpp⟩

theorem exists_compile_and_beq_eq_false :
    ∃ p, standard.compile "equal .nan" = .ok p ∧ (p == p) = false :=
  ⟨_, rfl, rfl⟩

end Grammar

end LiveAssert
