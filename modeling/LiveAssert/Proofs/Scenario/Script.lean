import LiveAssert.Script

namespace LiveAssert

open Documents (get? get?_remove_self get?_remove_of_ne get?_set_self get?_set_of_ne)

variable {o : ObjectRef} {ds ds' : Documents} {t : Token} {c : Change}

namespace Change

def IsEdit : Change → Prop
  | .set _ _ => True
  | .remove _ => True
  | .cancel => False
  | .cancelParent => False

def object? : Change → Option ObjectRef
  | .set o _ => some o
  | .remove o => some o
  | .cancel => none
  | .cancelParent => none

def Stops (t : Token) : Change → Prop
  | .cancel => True
  | .cancelParent => t.isChild
  | _ => False

theorem isEdit_iff : c.IsEdit ↔ c.object? ≠ none := by
  cases c <;> simp [IsEdit, object?]

@[simp] theorem onToken_of_isEdit (h : c.IsEdit) (t : Token) : c.onToken t = t := by
  cases c with
  | set => rfl
  | remove => rfl
  | cancel => exact h.elim
  | cancelParent => exact h.elim

theorem cancelled_onToken_iff : (c.onToken t).cancelled ↔ t.cancelled ∨ c.Stops t := by
  cases c with
  | set => exact (or_iff_left id).symm
  | remove => exact (or_iff_left id).symm
  | cancel => exact iff_of_true rfl (.inr trivial)
  | cancelParent => exact Bool.or_eq_true_iff

theorem onToken_of_not_cancelled (h : ¬(c.onToken t).cancelled) : c.onToken t = t := by
  cases c with
  | set => rfl
  | remove => rfl
  | cancel => exact absurd rfl h
  | cancelParent =>
    obtain ⟨isChild, cancelled⟩ := t
    simp only [onToken, Token.cancelParent, Bool.or_eq_true, not_or, Bool.not_eq_true] at h ⊢
    simp [h.1, h.2]

theorem cancelled_foldl_onToken_iff (cs : List Change) (t : Token) :
    (cs.foldl onToken t).cancelled ↔ t.cancelled ∨ ∃ c ∈ cs, (c.onToken t).cancelled := by
  induction cs generalizing t with
  | nil => simp
  | cons c cs ih =>
    rw [List.foldl_cons, ih]
    by_cases hc : (c.onToken t).cancelled
    · simp [hc]
    · rw [onToken_of_not_cancelled hc]
      simp [hc]

theorem foldl_onToken (cs : List Change) (t : Token) :
    cs.foldl onToken t = (cs.filter (·.object? = none)).foldl onToken t := by
  induction cs generalizing t with
  | nil => rfl
  | cons c cs ih =>
    by_cases hc : c.object? = none
    · rw [List.filter_cons_of_pos (by simpa using hc)]
      exact ih (c.onToken t)
    · rw [List.filter_cons_of_neg (by simpa using hc), List.foldl_cons,
        onToken_of_isEdit (isEdit_iff.2 hc)]
      exact ih t

@[simp] theorem get?_onDocuments_of_ne (h : c.object? ≠ some o) (ds : Documents) :
    get? o (c.onDocuments ds) = get? o ds := by
  cases c with
  | set other document => exact get?_set_of_ne (fun he => h (congrArg some he.symm)) ds document
  | remove other => exact get?_remove_of_ne (fun he => h (congrArg some he.symm)) ds
  | cancel => rfl
  | cancelParent => rfl

theorem get?_onDocuments_of_eq (h : c.object? = some o) (ds ds' : Documents) :
    get? o (c.onDocuments ds) = get? o (c.onDocuments ds') := by
  cases c with
  | set other document =>
    obtain rfl := Option.some.inj h
    simp only [onDocuments, get?_set_self]
  | remove other =>
    obtain rfl := Option.some.inj h
    simp only [onDocuments, get?_remove_self]
  | cancel => nomatch h
  | cancelParent => nomatch h

theorem get?_foldl_onDocuments (h : get? o ds = get? o ds') (cs : List Change) :
    get? o (cs.foldl onDocuments ds) =
      get? o ((cs.filter (·.object? = some o)).foldl onDocuments ds') := by
  induction cs generalizing ds ds' with
  | nil => exact h
  | cons c cs ih =>
    by_cases hc : c.object? = some o
    · rw [List.filter_cons_of_pos (by simpa using hc)]
      exact ih (get?_onDocuments_of_eq hc ds ds')
    · rw [List.filter_cons_of_neg (by simpa using hc)]
      exact ih ((get?_onDocuments_of_ne hc ds).trans h)

end Change

namespace Script

variable {script : Script} {time : Nat}

theorem mem_happened_iff :
    c ∈ script.happened time ↔ ∃ ev ∈ script, ev.time ≤ time ∧ ev.change = c := by
  simp [happened, and_assoc]

theorem filter_happened (p : Change → Bool) (script : Script) (time : Nat) :
    (script.happened time).filter p = Script.happened (script.filter (p ·.change)) time := by
  rw [happened, happened, List.filter_map, List.filter_filter, List.filter_filter]
  congr 2
  funext ev
  exact Bool.and_comm ..

theorem cancelAt_eq_none (ht : t.cancelled = false) (h : ∀ ev ∈ script, ev.change.IsEdit) :
    script.cancelAt t = none := by
  have hnone : script.filter (fun ev => (ev.change.onToken t).cancelled) = [] := by
    apply List.filter_eq_nil_iff.2
    intro ev hev
    rw [Change.onToken_of_isEdit (h ev hev), ht]
    exact Bool.false_ne_true
  simp [cancelAt, ht, hnone]

theorem cancelled_token_iff (script : Script) (t : Token) (time : Nat) :
    (script.token t time).cancelled ↔ ∃ k, script.cancelAt t = some k ∧ k ≤ time := by
  rw [token, Change.cancelled_foldl_onToken_iff, cancelAt]
  by_cases ht : t.cancelled
  · simp [ht]
  · simp only [if_neg ht, or_iff_right ht, mem_happened_iff]
    constructor
    · rintro ⟨_, ⟨ev, hev, htime, rfl⟩, hc⟩
      have hmem : ev.time ∈
          (script.filter fun ev => (ev.change.onToken t).cancelled).map (·.time) :=
        List.mem_map.2 ⟨ev, List.mem_filter.2 ⟨hev, hc⟩, rfl⟩
      obtain ⟨k, hk⟩ := Option.isSome_iff_exists.1 (List.isSome_min?_of_mem hmem)
      exact ⟨k, hk, Nat.le_trans ((List.min?_eq_some_iff.1 hk).2 _ hmem) htime⟩
    · rintro ⟨k, hk, hle⟩
      obtain ⟨ev, hev, rfl⟩ := List.mem_map.1 (List.min?_eq_some_iff.1 hk).1
      obtain ⟨hev, hc⟩ := List.mem_filter.1 hev
      exact ⟨_, ⟨ev, hev, hle, rfl⟩, hc⟩

theorem get?_documents (script : Script) (h : get? o ds = get? o ds') (time : Nat) :
    get? o (script.documents ds time) =
      get? o (Script.documents (script.filter (·.change.object? = some o)) ds' time) := by
  rw [documents, documents, ← filter_happened (·.object? = some o)]
  exact Change.get?_foldl_onDocuments h _

theorem token_eq_filter (script : Script) (t : Token) (time : Nat) :
    script.token t time = Script.token (script.filter (·.change.object? = none)) t time := by
  rw [token, token, ← filter_happened (·.object? = none)]
  exact Change.foldl_onToken _ t

theorem cancelAt_eq_filter (script : Script) (t : Token) :
    script.cancelAt t = Script.cancelAt (script.filter (·.change.object? = none)) t := by
  rw [cancelAt, cancelAt]
  split
  · rfl
  · next ht =>
    have hfilter : script.filter (fun ev => (ev.change.onToken t).cancelled) =
        (script.filter (·.change.object? = none)).filter
          (fun ev => (ev.change.onToken t).cancelled) := by
      rw [List.filter_filter]
      apply List.filter_congr
      intro ev _
      by_cases hc : ev.change.object? = none
      · simp [hc]
      · simp [Change.onToken_of_isEdit (Change.isEdit_iff.2 hc), ht, hc]
    rw [hfilter]

structure AgreesOn (o : ObjectRef) (a b : Script) : Prop where
  edits : a.filter (·.change.object? = some o) = b.filter (·.change.object? = some o)
  cancellations : a.filter (·.change.object? = none) = b.filter (·.change.object? = none)

namespace AgreesOn

variable {a b : Script} (h : a.AgreesOn o b)
include h

theorem get?_documents (hds : get? o ds = get? o ds') (time : Nat) :
    get? o (a.documents ds time) = get? o (b.documents ds' time) := by
  rw [a.get?_documents hds, h.edits]
  exact (b.get?_documents rfl time).symm

theorem token_eq (t : Token) (time : Nat) : a.token t time = b.token t time := by
  rw [a.token_eq_filter, h.cancellations, ← b.token_eq_filter]

theorem cancelAt_eq (t : Token) : a.cancelAt t = b.cancelAt t := by
  rw [a.cancelAt_eq_filter, h.cancellations, ← b.cancelAt_eq_filter]

end AgreesOn

end Script

end LiveAssert
