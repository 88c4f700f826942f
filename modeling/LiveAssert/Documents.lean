import LiveAssert.Json.Basic
import LiveAssert.Object
import LiveAssert.Poll.Fetch

namespace LiveAssert

abbrev Documents := List (ObjectRef × Json)

namespace Documents

def get? (o : ObjectRef) : Documents → Option Json
  | [] => none
  | (other, document) :: ds => if other = o then some document else get? o ds

def remove (o : ObjectRef) : Documents → Documents
  | [] => []
  | (other, document) :: ds => if other = o then remove o ds else (other, document) :: remove o ds

def set (ds : Documents) (o : ObjectRef) (document : Json) : Documents :=
  (o, document) :: remove o ds

def resolve (ds : Documents) (o : ObjectRef) : Except FetchError Json :=
  match get? o ds with
  | some document => .ok document
  | none => .error (.notFound o.display)

@[simp]
theorem get?_remove_self (ds : Documents) (o : ObjectRef) : get? o (remove o ds) = none := by
  induction ds with
  | nil => rfl
  | cons d ds ih =>
    by_cases hd : d.1 = o
    · simp [remove, hd, ih]
    · simp [remove, hd, get?, ih]

@[simp] theorem get?_remove_of_ne {o other : ObjectRef} (h : other ≠ o) (ds : Documents) :
    get? other (remove o ds) = get? other ds := by
  induction ds with
  | nil => rfl
  | cons d ds ih =>
    by_cases hd : d.1 = o
    · simp [remove, hd, get?, ih, h.symm]
    · simp [remove, hd, get?, ih]

@[simp] theorem get?_set_self (ds : Documents) (o : ObjectRef) (document : Json) :
    get? o (ds.set o document) = some document := by
  simp [get?, set]

@[simp]
theorem get?_set_of_ne {o other : ObjectRef} (h : other ≠ o) (ds : Documents) (document : Json) :
    get? other (ds.set o document) = get? other ds := by
  simp [get?, set, h, h.symm]

end Documents

end LiveAssert
