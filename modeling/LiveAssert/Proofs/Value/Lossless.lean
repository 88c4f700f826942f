import LiveAssert.Proofs.Value.Exact

namespace LiveAssert.Value

inductive IsFinite : Value → Prop
  | null : IsFinite .null
  | bool : IsFinite (.bool b)
  | number : x.isFinite → IsFinite (.number x)
  | string : IsFinite (.string s)
  | sequence : (∀ v ∈ items, IsFinite v) → IsFinite (.sequence items)
  | mapping : (∀ entry ∈ entries, IsFinite entry.2) → IsFinite (.mapping entries)

variable {x : Binary64}

@[simp] theorem isFinite_number_iff : IsFinite (.number x) ↔ x.isFinite :=
  ⟨fun h => by cases h; assumption, .number⟩

@[simp] theorem isFinite_sequence_iff {items : List Value} :
    IsFinite (.sequence items) ↔ ∀ v ∈ items, v.IsFinite :=
  ⟨fun h => by cases h; assumption, .sequence⟩

@[simp] theorem isFinite_mapping_iff {entries : List (String × Value)} :
    IsFinite (.mapping entries) ↔ ∀ entry ∈ entries, entry.2.IsFinite :=
  ⟨fun h => by cases h; assumption, .mapping⟩

mutual

def finitePart : Value → Value
  | .number x => if x.isFinite then .number x else .null
  | .sequence items => .sequence (finiteItems items)
  | .mapping entries => .mapping (finiteEntries entries)
  | v => v

def finiteItems : List Value → List Value
  | [] => []
  | v :: vs => v.finitePart :: finiteItems vs

def finiteEntries : List (String × Value) → List (String × Value)
  | [] => []
  | (k, v) :: es => (k, v.finitePart) :: finiteEntries es

end

mutual

theorem isFinite_finitePart : (v : Value) → v.finitePart.IsFinite
  | .null => .null
  | .bool _ => .bool
  | .number x => by
    rw [finitePart]
    split
    · next h => exact .number h
    · exact .null
  | .string _ => .string
  | .sequence items => .sequence (isFinite_of_mem_finiteItems items)
  | .mapping entries => .mapping (isFinite_of_mem_finiteEntries entries)

theorem isFinite_of_mem_finiteItems : (vs : List Value) → ∀ v ∈ finiteItems vs, v.IsFinite
  | [] => nofun
  | v :: vs => List.forall_mem_cons.2 ⟨isFinite_finitePart v, isFinite_of_mem_finiteItems vs⟩

theorem isFinite_of_mem_finiteEntries : (es : List (String × Value)) →
    ∀ entry ∈ finiteEntries es, entry.2.IsFinite
  | [] => nofun
  | (_, v) :: es => List.forall_mem_cons.2 ⟨isFinite_finitePart v, isFinite_of_mem_finiteEntries es⟩

end

theorem toInt?_eq_none_of_not_isFinite (h : ¬x.isFinite) : x.toInt? = none :=
  if_neg fun hx => h (Bool.and_eq_true_iff.1 hx).1

mutual

theorem toJson_finitePart : (v : Value) → v.finitePart.toJson = v.toJson
  | .null => rfl
  | .bool _ => rfl
  | .number x => by
    rw [finitePart]
    split
    · rfl
    · next h => simp [toJson, numberToJson, toInt?_eq_none_of_not_isFinite h, h]
  | .string _ => rfl
  | .sequence items => congrArg Json.array (itemsToJson_finiteItems items)
  | .mapping entries => congrArg Json.object (entriesToJson_finiteEntries entries)

theorem itemsToJson_finiteItems : (vs : List Value) →
    itemsToJson (finiteItems vs) = itemsToJson vs
  | [] => rfl
  | v :: vs => by
    rw [finiteItems, itemsToJson, itemsToJson, toJson_finitePart v, itemsToJson_finiteItems vs]

theorem entriesToJson_finiteEntries : (es : List (String × Value)) →
    entriesToJson (finiteEntries es) = entriesToJson es
  | [] => rfl
  | (_, v) :: es => by
    rw [finiteEntries, entriesToJson, entriesToJson, toJson_finitePart v,
      entriesToJson_finiteEntries es]

end

theorem ofJson_numberToJson_iff : ofJson (numberToJson x) == .number x ↔ x.isFinite := by
  by_cases h : x.isFinite
  · apply iff_of_true _ h
    have hself : x.eq x := (Binary64.eq_self_iff x).2 (by simp [Binary64.isNaN_of_isFinite h])
    rw [numberToJson]
    split
    · next n hn =>
      split
      · next hbound =>
        have hle : n.natAbs ≤ 2 ^ 53 := Nat.le_of_lt (Nat.lt_trans hbound (by decide))
        exact Binary64.eq_ofInt_of_toInt? hn hle
      · exact hself
    · rw [if_pos h]
      exact hself
  · apply iff_of_false _ h
    rw [numberToJson, toInt?_eq_none_of_not_isFinite h, if_neg h]
    exact Bool.false_ne_true

mutual

theorem eq_ofJson_toJson_iff : (v : Value) → ((ofJson v.toJson).eq v ↔ v.IsFinite)
  | .null => iff_of_true rfl .null
  | .bool b => iff_of_true (beq_self_eq_true b) .bool
  | .number x => ofJson_numberToJson_iff.trans isFinite_number_iff.symm
  | .string s => iff_of_true (beq_self_eq_true s) .string
  | .sequence items => by
    rw [toJson, ofJson, eq, eqItems_ofJsonItems_iff items, isFinite_sequence_iff]
  | .mapping entries => by
    rw [toJson, ofJson, eq, eqEntries_ofJsonMembers_iff entries, isFinite_mapping_iff]

theorem eqItems_ofJsonItems_iff : (vs : List Value) →
    (eqItems (ofJsonItems (itemsToJson vs)) vs ↔ ∀ v ∈ vs, v.IsFinite)
  | [] => iff_of_true rfl nofun
  | v :: vs => by
    rw [itemsToJson, ofJsonItems, eqItems, Bool.and_eq_true, eq_ofJson_toJson_iff v,
      eqItems_ofJsonItems_iff vs, List.forall_mem_cons]

theorem eqEntries_ofJsonMembers_iff : (es : List (String × Value)) →
    (eqEntries (ofJsonMembers (entriesToJson es)) es ↔ ∀ entry ∈ es, entry.2.IsFinite)
  | [] => iff_of_true rfl nofun
  | (k, v) :: es => by
    rw [entriesToJson, ofJsonMembers, eqEntries, Bool.and_eq_true, Bool.and_eq_true,
      eq_ofJson_toJson_iff v, eqEntries_ofJsonMembers_iff es, List.forall_mem_cons]
    simp

end

/-- What comes back of a value is its finite part, so it is the value if and only if all numbers in
it are finite. -/
theorem ofJson_toJson (v : Value) :
    ofJson v.toJson == v.finitePart ∧ (ofJson v.toJson == v ↔ v.IsFinite) := by
  refine ⟨?_, eq_ofJson_toJson_iff v⟩
  rw [← toJson_finitePart v]
  exact (eq_ofJson_toJson_iff v.finitePart).2 (isFinite_finitePart v)

end LiveAssert.Value
