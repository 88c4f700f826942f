import LiveAssert.Json.Reader

namespace LiveAssert

namespace Json

inductive Ordered : Json → Prop
  | scalar : j.array? = none → j.object? = none → Ordered j
  | array : (∀ item ∈ items, Ordered item) → Ordered (.array items)
  | object : Fields.Sorted members → (∀ name value, (name, value) ∈ members → Ordered value) →
      Ordered (.object members)

theorem Ordered.of_mem_array {items : List Json} {item : Json} (h : Ordered (.array items))
    (hm : item ∈ items) : item.Ordered := by
  cases h with
  | scalar h => nomatch h
  | array h => exact h item hm

theorem Ordered.sorted_members {members : List (String × Json)} (h : Ordered (.object members)) :
    Fields.Sorted members := by
  cases h with
  | scalar _ h => nomatch h
  | object h => exact h

theorem Ordered.of_mem_object {members : List (String × Json)} {name : String} {value : Json}
    (h : Ordered (.object members)) (hm : (name, value) ∈ members) : value.Ordered := by
  cases h with
  | scalar _ h => nomatch h
  | object _ h => exact h name value hm

mutual

theorem ordered_sorted : ∀ j : Json, j.sorted.Ordered
  | .null => .scalar rfl rfl
  | .bool _ => .scalar rfl rfl
  | .integer _ => .scalar rfl rfl
  | .float _ => .scalar rfl rfl
  | .string _ => .scalar rfl rfl
  | .array items => .array (ordered_of_mem_sortedItems items)
  | .object members =>
    .object (Fields.sorted_ofList _) fun name value hm =>
      ordered_of_mem_sortedMembers members name value (Fields.mem_ofList hm)

theorem ordered_of_mem_sortedItems : ∀ items : List Json, ∀ item ∈ sortedItems items, item.Ordered
  | [] => nofun
  | item :: items => by
    intro item' hm
    cases List.mem_cons.1 hm with
    | inl hm => rw [hm]; exact ordered_sorted item
    | inr hm => exact ordered_of_mem_sortedItems items item' hm

theorem ordered_of_mem_sortedMembers : ∀ members : List (String × Json),
    ∀ name value, (name, value) ∈ sortedMembers members → value.Ordered
  | [] => nofun
  | (first, value) :: members => by
    intro name value' hm
    cases List.mem_cons.1 hm with
    | inl hm => cases hm; exact ordered_sorted value
    | inr hm => exact ordered_of_mem_sortedMembers members name value' hm

end

theorem ordered_of_read? {text : String} {j : Json} (h : read? text = some j) : j.Ordered := by
  obtain ⟨j', _, rfl⟩ := Option.map_eq_some_iff.1 h
  exact ordered_sorted j'

end Json

end LiveAssert
