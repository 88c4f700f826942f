import LiveAssert.Object

namespace LiveAssert.Cluster

def clusterScoped : List String := [
  "Namespace", "Node", "PersistentVolume", "StorageClass", "ClusterRole", "ClusterRoleBinding",
  "CustomResourceDefinition", "PriorityClass", "IngressClass"]

def irregular : List (String × String) := [
  ("endpoints", "endpoints"), ("endpointslices", "endpointslices"), ("nodemetrics", "nodes"),
  ("podmetrics", "pods")]

def hisses (word : List Char) : Bool :=
  [['s'], ['x'], ['z'], ['c', 'h'], ['s', 'h']].any (·.isSuffixOf word)

def isVowel (c : Char) : Bool := ['a', 'e', 'i', 'o', 'u'].contains c

/-- Whether a final `y` becomes `ies`. The letter that decides is the one before it; it is counted
off in bytes of UTF-8, so after other letters than ASCII it may be a later one. -/
def softens (word : List Char) : Bool :=
  word.getLast? == some 'y' &&
    match word[(String.ofList word).utf8ByteSize - 2]? with
    | some c => 2 ≤ word.length && !isVowel c
    | none => false

def plural (word : String) : String :=
  match irregular.lookup word with
  | some other => other
  | none =>
    let s := word.toList
    if hisses s then word ++ "es"
    else if softens s then String.ofList s.dropLast ++ "ies"
    else word ++ "s"

def resource (kind : String) : String := plural (String.ofList (kind.toList.map Char.toLower))

def root (o : ObjectRef) : String :=
  match o.groupVersion with
  | ("", version) => "/api/" ++ version
  | (group, version) => "/apis/" ++ group ++ "/" ++ version

def effectiveNamespace? (fallback : String) (o : ObjectRef) : Option String :=
  if clusterScoped.contains o.kind then none else some (o.ns.getD fallback)

def path (fallback : String) (o : ObjectRef) : String :=
  root o ++ (match effectiveNamespace? fallback o with
    | some ns => "/namespaces/" ++ ns
    | none => "") ++ "/" ++ resource o.kind ++ "/" ++ o.name

def isPathChar (c : Char) : Bool := 0x20 < c.toNat && c ∉ ['#', '<', '>', '?', '\x60']

def isQueryChar (c : Char) : Bool := 0x20 < c.toNat && c ∉ ['"', '#', '<', '>']

/-- The part of a request target that is its path, if the target is well formed. A question mark
begins a query, and a number sign ends the target. -/
def targetPath? (target : List Char) : Option (List Char) :=
  let target := target.takeWhile (· != '#')
  let path := target.takeWhile (· != '?')
  let query := (target.dropWhile (· != '?')).drop 1
  if path.all isPathChar && query.all isQueryChar then some path else none

def requestPath? (fallback : String) (o : ObjectRef) : Option String :=
  if o.name.isEmpty then none
  else (targetPath? (path fallback o).toList).map String.ofList

end LiveAssert.Cluster
