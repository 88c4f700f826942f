namespace LiveAssert

abbrev Fields (α : Type) := List (String × α)

namespace Fields

def insert (name : String) (x : α) : Fields α → Fields α
  | [] => [(name, x)]
  | (other, y) :: fs =>
    if name < other then (name, x) :: (other, y) :: fs
    else if name = other then (name, x) :: fs
    else (other, y) :: insert name x fs

def get? (name : String) : Fields α → Option α
  | [] => none
  | (other, y) :: fs => if name = other then some y else get? name fs

def erase (name : String) : Fields α → Fields α
  | [] => []
  | (other, y) :: fs => if name = other then fs else (other, y) :: erase name fs

def ofList (entries : List (String × α)) : Fields α :=
  entries.foldl (fun fs entry => insert entry.1 entry.2 fs) []

def Sorted (fs : Fields α) : Prop := fs.Pairwise (fun a b => a.1 < b.1)

@[simp] theorem get?_insert_self (name : String) (x : α) (fs : Fields α) :
    get? name (insert name x fs) = some x := by
  induction fs with
  | nil => simp [insert, get?]
  | cons f fs ih =>
    obtain ⟨other, y⟩ := f
    simp only [insert]
    split
    · simp [get?]
    · split
      · simp [get?]
      · next h => simp [get?, h, ih]

@[simp] theorem get?_insert_of_ne {name other : String} (h : other ≠ name) (x : α) (fs : Fields α) :
    get? other (insert name x fs) = get? other fs := by
  induction fs with
  | nil => simp [insert, get?, h]
  | cons f fs ih =>
    obtain ⟨third, y⟩ := f
    simp only [insert]
    split
    · simp [get?, h]
    · split
      · next heq => subst heq; simp [get?, h]
      · simp only [get?, ih]

variable {fs : Fields α} {name : String} {x y : α}

theorem mem_insert {entry : String × α} (h : entry ∈ insert name x fs) :
    entry = (name, x) ∨ entry ∈ fs := by
  induction fs with
  | nil => exact .inl (List.mem_singleton.1 h)
  | cons f fs ih =>
    obtain ⟨other, y⟩ := f
    simp only [insert] at h
    split at h
    · exact List.mem_cons.1 h
    · split at h
      · cases List.mem_cons.1 h with
        | inl h => exact .inl h
        | inr h => exact .inr (List.mem_cons_of_mem _ h)
      · cases List.mem_cons.1 h with
        | inl h => exact .inr (h ▸ List.mem_cons_self)
        | inr h =>
          cases ih h with
          | inl h => exact .inl h
          | inr h => exact .inr (List.mem_cons_of_mem _ h)

theorem Sorted.insert (h : Sorted fs) (name : String) (x : α) : Sorted (fs.insert name x) := by
  induction fs with
  | nil => exact List.pairwise_singleton _ _
  | cons f fs ih =>
    obtain ⟨other, y⟩ := f
    obtain ⟨hhead, htail⟩ := List.pairwise_cons.1 h
    simp only [Fields.insert]
    split
    · next hlt =>
      refine List.pairwise_cons.2 ⟨fun entry he => ?_, h⟩
      cases List.mem_cons.1 he with
      | inl he => rw [he]; exact hlt
      | inr he => exact String.lt_trans hlt (hhead entry he)
    · next hlt =>
      split
      · next heq =>
        rw [heq]
        exact List.pairwise_cons.2 ⟨hhead, htail⟩
      · next hne =>
        have hlt' : other < name := Std.lt_of_le_of_ne (String.not_lt.1 hlt) (Ne.symm hne)
        refine List.pairwise_cons.2 ⟨fun entry he => ?_, ih htail⟩
        cases mem_insert he with
        | inl he => rw [he]; exact hlt'
        | inr he => exact hhead entry he

@[simp] theorem sorted_ofList (entries : List (String × α)) : Sorted (ofList entries) := by
  suffices h : ∀ fs : Fields α, Sorted fs →
      Sorted (entries.foldl (fun fs entry => insert entry.1 entry.2 fs) fs) from h [] .nil
  induction entries with
  | nil => exact fun fs h => h
  | cons entry entries ih => exact fun fs h => ih _ (h.insert entry.1 entry.2)

theorem mem_ofList {entries : List (String × α)} {entry : String × α}
    (h : entry ∈ ofList entries) : entry ∈ entries := by
  suffices hfrom : ∀ fs : Fields α,
      entry ∈ entries.foldl (fun fs entry => insert entry.1 entry.2 fs) fs →
        entry ∈ fs ∨ entry ∈ entries from (hfrom [] h).resolve_left (List.not_mem_nil)
  clear h
  induction entries with
  | nil => exact fun fs h => .inl h
  | cons first entries ih =>
    intro fs h
    cases ih _ h with
    | inl h =>
      cases mem_insert h with
      | inl h => exact .inr (h ▸ List.mem_cons_self)
      | inr h => exact .inl h
    | inr h => exact .inr (List.mem_cons_of_mem _ h)

theorem Sorted.get?_of_mem (h : Sorted fs) (hm : (name, x) ∈ fs) : get? name fs = some x := by
  induction fs with
  | nil => nomatch hm
  | cons f fs ih =>
    obtain ⟨other, y⟩ := f
    obtain ⟨hhead, htail⟩ := List.pairwise_cons.1 h
    cases List.mem_cons.1 hm with
    | inl hm =>
      cases hm
      rw [get?, if_pos rfl]
    | inr hm =>
      have hlt : other < name := hhead _ hm
      rw [get?, if_neg fun heq => String.lt_irrefl _ (heq ▸ hlt), ih htail hm]

theorem mem_of_get? (h : get? name fs = some x) : (name, x) ∈ fs := by
  induction fs with
  | nil => nomatch h
  | cons f fs ih =>
    obtain ⟨other, y⟩ := f
    rw [get?] at h
    split at h
    · next heq =>
      cases h
      rw [heq]
      exact List.mem_cons_self
    · exact List.mem_cons_of_mem _ (ih h)

theorem get?_eq_none (h : ∀ x, (name, x) ∉ fs) : get? name fs = none :=
  Option.eq_none_iff_forall_ne_some.2 fun x hx => h x (mem_of_get? hx)

end Fields

end LiveAssert
