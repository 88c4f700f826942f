import LiveAssert.Value

namespace LiveAssert

namespace Binary64

variable {x y : Binary64}

@[simp] theorem isNaN_zero (negative : Bool) : isNaN ⟨negative, 0⟩ = false := rfl

@[simp] theorem isFinite_zero (negative : Bool) : isFinite ⟨negative, 0⟩ = true := rfl

@[simp] theorem rank_zero (negative : Bool) : rank ⟨negative, 0⟩ = 0 := by
  cases negative <;> rfl

@[simp] theorem signedUnits_zero (negative : Bool) : signedUnits ⟨negative, 0⟩ = 0 := by
  simp [signedUnits, units, lastPlace]

@[simp] theorem toInt?_zero (negative : Bool) : toInt? ⟨negative, 0⟩ = some 0 := by
  simp only [toInt?, isFinite_zero, signedUnits_zero, Int.zero_emod, Int.zero_ediv]
  rfl

@[simp] theorem isNaN_ofUnits (negative : Bool) (num den : Nat) :
    isNaN (ofUnits negative num den) = false :=
  decide_eq_false (Nat.not_lt.2 (Nat.min_le_left ..))

@[simp] theorem isNaN_ofNat (n : Nat) : isNaN (ofNat n) = false := isNaN_ofUnits ..

@[simp] theorem rank_positive (m : Fin (2 ^ 63)) : rank ⟨false, m⟩ = m.val := rfl

@[simp] theorem rank_negative (m : Fin (2 ^ 63)) : rank ⟨true, m⟩ = -m.val := rfl

theorem eq_or_zero_of_eq (h : x.eq y) : x = y ∨ ∃ a b, x = ⟨a, 0⟩ ∧ y = ⟨b, 0⟩ := by
  obtain ⟨a, m⟩ := x
  obtain ⟨b, n⟩ := y
  have hr : rank ⟨a, m⟩ = rank ⟨b, n⟩ := by simp_all [eq]
  have hzero (hm : m.val = 0) (hn : n.val = 0) : ∃ a' b' : Bool,
      (⟨a, m⟩ : Binary64) = ⟨a', 0⟩ ∧ (⟨b, n⟩ : Binary64) = ⟨b', 0⟩ :=
    ⟨a, b, by rw [Fin.val_eq_zero_iff.1 hm], by rw [Fin.val_eq_zero_iff.1 hn]⟩
  cases a <;> cases b <;> simp only [rank_positive, rank_negative] at hr
  · exact .inl (by rw [Fin.ext (by omega : m.val = n.val)])
  · exact .inr (hzero (by omega) (by omega))
  · exact .inr (hzero (by omega) (by omega))
  · exact .inl (by rw [Fin.ext (by omega : m.val = n.val)])

/-- What does not tell the two zeros apart tells no equal numbers apart. -/
theorem congr_of_eq (f : Binary64 → α) (hf : ∀ a b, f ⟨a, 0⟩ = f ⟨b, 0⟩) (h : x.eq y) :
    f x = f y := by
  cases eq_or_zero_of_eq h with
  | inl h => rw [h]
  | inr h =>
    obtain ⟨a, b, rfl, rfl⟩ := h
    exact hf a b

end Binary64

namespace Value

mutual

theorem eq_comm : (x y : Value) → x.eq y = y.eq x
  | .null, y => by cases y <;> rfl
  | .bool a, y => by cases y <;> simp [eq, Bool.beq_comm]
  | .number a, y => by cases y <;> simp [eq, Binary64.eq_comm a]
  | .string s, y => by cases y <;> simp [eq, Bool.beq_comm]
  | .sequence xs, y => by
    cases y with
    | sequence ys => exact eqItems_comm xs ys
    | _ => rfl
  | .mapping es, y => by
    cases y with
    | mapping fs => exact eqEntries_comm es fs
    | _ => rfl

theorem eqItems_comm : (xs ys : List Value) → eqItems xs ys = eqItems ys xs
  | [], ys => by cases ys <;> rfl
  | x :: xs, ys => by
    cases ys with
    | nil => rfl
    | cons y ys => simp only [eqItems, eq_comm x y, eqItems_comm xs ys]

theorem eqEntries_comm : (es fs : List (String × Value)) → eqEntries es fs = eqEntries fs es
  | [], fs => by cases fs <;> rfl
  | (k, x) :: es, fs => by
    cases fs with
    | nil => rfl
    | cons f fs =>
      simp only [eqEntries, Bool.beq_comm (a := k), eq_comm x f.2, eqEntries_comm es fs]

end

mutual

theorem eq_trans : {x y z : Value} → x.eq y → y.eq z → x.eq z
  | .null, .null, _, _, h => h
  | .bool _, .bool _, .bool _, h, h' => by simp_all [eq]
  | .number _, .number _, .number _, h, h' => Binary64.eq_trans h h'
  | .string _, .string _, .string _, h, h' => by simp_all [eq]
  | .sequence _, .sequence _, .sequence _, h, h' => eqItems_trans h h'
  | .mapping _, .mapping _, .mapping _, h, h' => eqEntries_trans h h'

theorem eqItems_trans : {xs ys zs : List Value} → eqItems xs ys → eqItems ys zs → eqItems xs zs
  | [], [], _, _, h => h
  | _ :: _, _ :: _, _ :: _, h, h' => by
    simp only [eqItems, Bool.and_eq_true] at h h' ⊢
    exact ⟨eq_trans h.1 h'.1, eqItems_trans h.2 h'.2⟩

theorem eqEntries_trans : {es fs gs : List (String × Value)} →
    eqEntries es fs → eqEntries fs gs → eqEntries es gs
  | [], [], _, _, h => h
  | (_, _) :: _, (_, _) :: _, (_, _) :: _, h, h' => by
    simp only [eqEntries, Bool.and_eq_true, beq_iff_eq] at h h' ⊢
    exact ⟨h.1.trans h'.1, eq_trans h.2.1 h'.2.1, eqEntries_trans h.2.2 h'.2.2⟩

end

inductive HasNaN : Value → Prop
  | number : x.isNaN → HasNaN (.number x)
  | sequence : v ∈ items → HasNaN v → HasNaN (.sequence items)
  | mapping : (k, v) ∈ entries → HasNaN v → HasNaN (.mapping entries)

@[simp] theorem hasNaN_number_iff {x : Binary64} : HasNaN (.number x) ↔ x.isNaN :=
  ⟨fun h => by cases h; assumption, .number⟩

@[simp] theorem hasNaN_sequence_iff {items : List Value} :
    HasNaN (.sequence items) ↔ ∃ v ∈ items, v.HasNaN :=
  ⟨fun h => by cases h with | sequence hm hv => exact ⟨_, hm, hv⟩, fun ⟨_, hm, hv⟩ => .sequence hm hv⟩

@[simp] theorem hasNaN_mapping_iff {entries : List (String × Value)} :
    HasNaN (.mapping entries) ↔ ∃ entry ∈ entries, entry.2.HasNaN :=
  ⟨fun h => by cases h with | mapping hm hv => exact ⟨_, hm, hv⟩, fun ⟨_, hm, hv⟩ => .mapping hm hv⟩

mutual

theorem eq_self_iff : (v : Value) → (v.eq v ↔ ¬v.HasNaN)
  | .null => iff_of_true rfl nofun
  | .bool b => iff_of_true (beq_self_eq_true b) nofun
  | .number x => by rw [eq, Binary64.eq_self_iff, hasNaN_number_iff]
  | .string s => iff_of_true (beq_self_eq_true s) nofun
  | .sequence items => by
    rw [eq, eqItems_self_iff items, hasNaN_sequence_iff]
    simp
  | .mapping entries => by
    rw [eq, eqEntries_self_iff entries, hasNaN_mapping_iff]
    simp

theorem eqItems_self_iff : (vs : List Value) → (eqItems vs vs ↔ ∀ v ∈ vs, ¬v.HasNaN)
  | [] => iff_of_true rfl nofun
  | v :: vs => by
    rw [eqItems, Bool.and_eq_true, eq_self_iff v, eqItems_self_iff vs, List.forall_mem_cons]

theorem eqEntries_self_iff : (es : List (String × Value)) →
    (eqEntries es es ↔ ∀ entry ∈ es, ¬entry.2.HasNaN)
  | [] => iff_of_true rfl nofun
  | (k, v) :: es => by
    rw [eqEntries, Bool.and_eq_true, Bool.and_eq_true, eq_self_iff v, eqEntries_self_iff es,
      List.forall_mem_cons]
    simp

end

theorem beq_eq_eq (x y : Value) : (x == y) = x.eq y := rfl

theorem beq_symm {x y : Value} (h : x == y) : y == x := by
  rwa [beq_eq_eq, eq_comm]

theorem beq_trans {x y z : Value} (hxy : x == y) (hyz : y == z) : x == z := eq_trans hxy hyz

theorem beq_congr_right (x : Value) {y z : Value} (h : y.eq z) : (x == y) = (x == z) := by
  rw [Bool.eq_iff_iff]
  exact ⟨fun hy => eq_trans hy h, fun hz => eq_trans hz (eq_comm y z ▸ h)⟩

theorem beq_congr_left {x y : Value} (h : x.eq y) (z : Value) : (x == z) = (y == z) := by
  rw [beq_eq_eq, beq_eq_eq, eq_comm x, eq_comm y]
  exact beq_congr_right z h

theorem eq_cases {x y : Value} (h : x.eq y) :
    x = y ∨ (∃ a b, x = .number a ∧ y = .number b ∧ a.eq b) ∨
      (∃ xs ys, x = .sequence xs ∧ y = .sequence ys ∧ eqItems xs ys) ∨
      ∃ es fs, x = .mapping es ∧ y = .mapping fs ∧ eqEntries es fs := by
  cases x <;> cases y <;> simp_all [eq]

theorem eq_of_string_beq {s : String} {v : Value} (h : Value.string s == v) : v = .string s := by
  obtain rfl | ⟨_, _, ⟨⟩, _⟩ | ⟨_, _, ⟨⟩, _⟩ | ⟨_, _, ⟨⟩, _⟩ := eq_cases h
  rfl

mutual

theorem toJson_congr : {x y : Value} → x.eq y → x.toJson = y.toJson
  | .null, .null, _ => rfl
  | .bool _, .bool _, h => by simp_all [eq, toJson]
  | .number _, .number _, h =>
    Binary64.congr_of_eq numberToJson (fun a b => by simp [numberToJson, wholeBound]) h
  | .string _, .string _, h => by simp_all [eq, toJson]
  | .sequence _, .sequence _, h => congrArg Json.array (itemsToJson_congr h)
  | .mapping _, .mapping _, h => congrArg Json.object (entriesToJson_congr h)

theorem itemsToJson_congr : {xs ys : List Value} → eqItems xs ys → itemsToJson xs = itemsToJson ys
  | [], [], _ => rfl
  | _ :: _, _ :: _, h => by
    simp only [eqItems, Bool.and_eq_true] at h
    simp only [itemsToJson, toJson_congr h.1, itemsToJson_congr h.2]

theorem entriesToJson_congr : {es fs : List (String × Value)} → eqEntries es fs →
    entriesToJson es = entriesToJson fs
  | [], [], _ => rfl
  | (_, _) :: _, (_, _) :: _, h => by
    simp only [eqEntries, Bool.and_eq_true, beq_iff_eq] at h
    simp only [entriesToJson, h.1, toJson_congr h.2.1, entriesToJson_congr h.2.2]

end

theorem display_congr {x y : Value} (h : x.eq y) : x.display = y.display :=
  congrArg Json.text (toJson_congr h)

theorem asText_congr {x y : Value} (h : x.eq y) : x.asText = y.asText := by
  cases eq_cases h with
  | inl h => rw [h]
  | inr hcases =>
    obtain ⟨_, _, rfl, rfl, _⟩ | ⟨_, _, rfl, rfl, _⟩ | ⟨_, _, rfl, rfl, _⟩ := hcases
    · exact display_congr h
    · exact display_congr h
    · exact display_congr h

end Value

end LiveAssert
