import LiveAssert.Unicode.LowerCase

namespace LiveAssert

/-- The identity of a live object; `ns` is its namespace. An absent namespace differs from an empty
one. -/
structure ObjectRef where
  apiVersion : String
  kind : String
  name : String
  ns : Option String
deriving DecidableEq

namespace ObjectRef

def groupVersion (o : ObjectRef) : String × String :=
  let s := o.apiVersion.toList
  match s.dropWhile (· != '/') with
  | [] => ("", o.apiVersion)
  | _ :: version => (String.ofList (s.takeWhile (· != '/')), String.ofList version)

def display (o : ObjectRef) : String :=
  Unicode.lower o.kind ++ "/" ++ o.name ++
    match o.ns with
    | some ns => " (" ++ ns ++ ")"
    | none => ""

end ObjectRef

end LiveAssert
