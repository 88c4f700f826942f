namespace LiveAssert.Text

def occurs (part : List Char) : List Char → Bool
  | [] => part.isEmpty
  | c :: s => part.isPrefixOf (c :: s) || occurs part s

theorem occurs_self (s : List Char) : occurs s s := by
  cases s with
  | nil => rfl
  | cons c s => simp [occurs]

def after? (start : List Char) (s : List Char) : Option (List Char) :=
  if start.isPrefixOf s then some (s.drop start.length) else none

@[simp] theorem after?_append (start s : List Char) : after? start (start ++ s) = some s := by
  simp [after?]

theorem eq_append_of_after? {start s rest : List Char} (h : after? start s = some rest) :
    s = start ++ rest := by
  simp only [after?] at h
  split at h
  · next hp =>
    obtain ⟨t, rfl⟩ := List.isPrefixOf_iff_prefix.1 hp
    simp_all
  · simp at h

end LiveAssert.Text
