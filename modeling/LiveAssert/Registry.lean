import LiveAssert.Fields
import LiveAssert.Object.Manifest

namespace LiveAssert

abbrev Registry := Fields ObjectRef

namespace Registry

def empty : Registry := []

def register (r : Registry) (name : String) (o : ObjectRef) : Registry := Fields.insert name o r

def registerManifest (r : Registry) (name manifest : String) :
    Except ManifestError (Registry × ObjectRef) :=
  (Manifest.read manifest).map fun o => (r.register name o, o)

def get? (r : Registry) (name : String) : Option ObjectRef := Fields.get? name r

def size (r : Registry) : Nat := r.length

def isEmpty (r : Registry) : Bool := List.isEmpty r

@[simp] theorem get?_register_self (r : Registry) (name : String) (o : ObjectRef) :
    (r.register name o).get? name = some o :=
  Fields.get?_insert_self name o r

@[simp] theorem get?_register_of_ne {name other : String} (h : other ≠ name) (r : Registry)
    (o : ObjectRef) : (r.register name o).get? other = r.get? other :=
  Fields.get?_insert_of_ne h o r

end Registry

end LiveAssert
