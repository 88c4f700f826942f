import LiveAssert.Proofs.Phrase.Verbatim
import LiveAssert.Proofs.Value.Lossless
import LiveAssert.Proofs.Yaml.Inclusion

namespace LiveAssert

namespace Value

/-- The values that can be pasted from a message, with collections nested at most `n` deep. Their
numbers are whole and shown as integers, and their texts and keys have portable characters only. -/
inductive Pastable : Nat → Value → Prop
  | null {n} : Pastable n .null
  | bool {n} (b : Bool) : Pastable n (.bool b)
  | number {n} (x : Binary64) (k : Int) :
    x.toInt? = some k → k.natAbs < wholeBound → Pastable n (.number x)
  | string {n} (s : String) : (∀ c ∈ s.toList, Yaml.isPortable c) → Pastable n (.string s)
  | sequence {n} (items : List Value) :
    (∀ v ∈ items, Pastable n v) → Pastable (n + 1) (.sequence items)
  | mapping {n} (entries : Fields Value) : entries.Sorted →
    (∀ entry ∈ entries, (∀ c ∈ entry.1.toList, Yaml.isPortable c) ∧
      (Json.writeString entry.1).length < 1000) →
    (∀ entry ∈ entries, Pastable n entry.2) → Pastable (n + 1) (.mapping entries)

variable {v : Value} {n : Nat}

@[simp] theorem itemsToJson_eq (items : List Value) : itemsToJson items = items.map toJson := by
  induction items with
  | nil => rfl
  | cons v items ih => rw [itemsToJson, ih, List.map_cons]

@[simp] theorem entriesToJson_eq (entries : List (String × Value)) :
    entriesToJson entries = entries.map fun entry => (entry.1, entry.2.toJson) := by
  induction entries with
  | nil => rfl
  | cons entry entries ih => rw [entriesToJson, ih, List.map_cons]

theorem Pastable.isFinite (h : v.Pastable n) : v.IsFinite := by
  induction h with
  | null => exact .null
  | bool b => exact .bool
  | number x k hk _ =>
    refine .number ?_
    by_contra hx
    rw [toInt?_eq_none_of_not_isFinite hx] at hk
    nomatch hk
  | string s _ => exact .string
  | sequence items _ ih => exact .sequence ih
  | mapping entries _ _ _ ih => exact .mapping ih

theorem Pastable.portable_toJson (h : v.Pastable n) : v.toJson.Portable n := by
  induction h with
  | null => exact .null
  | bool b => exact .bool b
  | number x k hk hbound =>
    rw [toJson, numberToJson, hk]
    simp only [hbound, if_true]
    exact .integer k (Nat.lt_trans hbound (by decide))
  | string s hs => exact .string s hs
  | sequence items _ ih =>
    rw [toJson, itemsToJson_eq]
    exact .array _ (List.forall_mem_map.2 ih)
  | mapping entries hsorted hkeys _ ih =>
    rw [toJson, entriesToJson_eq]
    exact .object _ (List.pairwise_map.2 hsorted) (List.forall_mem_map.2 hkeys)
      (List.forall_mem_map.2 ih)

end Value

namespace Grammar

variable {v : Value} {n : Nat}

theorem coerce_display (h : v.Pastable n) (hn : n ≤ Yaml.Node.depthLimit) :
    Literal.coerce v.display = .ok (.ofJson v.toJson) :=
  h.portable_toJson.coerce_text hn

theorem not_mem_display (h : v.Pastable n) : '\n' ∉ v.display.toList := by
  rw [Value.display, Json.text, String.toList_ofList]
  exact fun hmem => absurd (h.portable_toJson.isPrinted_of_mem _ hmem) (by decide)

/-- The text that messages show for a value makes a phrase that the value satisfies. -/
theorem compile_equal_display (h : v.Pastable n) (hn : n ≤ Yaml.Node.depthLimit) :
    ∃ p, standard.compile ("equal " ++ v.display) = .ok p ∧ p.test v = .ok true := by
  refine ⟨.plain .equal [.ofJson v.toJson], ?_, ?_⟩
  · rw [compile_equal (not_mem_display h), coerce_display h hn]
    rfl
  · have heq := (Value.eq_ofJson_toJson_iff v).2 h.isFinite
    exact congrArg Except.ok ((Value.eq_comm ..).trans heq)

theorem compile_equal_display_lookalikes :
    let v : Value := .mapping
      [("", .sequence [.null, .number (.ofInt (-7)), .string "- #1: [~]\n"]), ("true", .mapping [])]
    v.Pastable 2 ∧ ∃ p, standard.compile ("equal " ++ v.display) = .ok p ∧ p.test v = .ok true := by
  intro v
  have hitems :
      (Value.sequence [.null, .number (.ofInt (-7)), .string "- #1: [~]\n"]).Pastable 1 := by
    refine .sequence _ ?_
    simp only [List.forall_mem_cons]
    exact ⟨.null, .number _ (-7) (Binary64.toInt?_ofInt (by decide)) (by decide),
      .string _ (List.all_eq_true.1 (by decide)), List.forall_mem_nil _⟩
  have hv : v.Pastable 2 := by
    refine .mapping _ (List.pairwise_pair.2 (by decide)) ?_ ?_ <;>
      simp only [List.forall_mem_cons]
    · exact ⟨⟨List.forall_mem_nil _, by decide⟩,
        ⟨List.all_eq_true.1 (by decide), by decide⟩, List.forall_mem_nil _⟩
    · exact ⟨hitems, .mapping [] .nil (List.forall_mem_nil _) (List.forall_mem_nil _),
        List.forall_mem_nil _⟩
  exact ⟨hv, compile_equal_display hv (by decide)⟩

end Grammar

end LiveAssert
