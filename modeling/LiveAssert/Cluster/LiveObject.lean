import LiveAssert.Json.Basic

namespace LiveAssert.Cluster

inductive Shape
  | text
  | whole
  | texts
  | labels
  | other
deriving DecidableEq

namespace Shape

def isText (j : Json) : Bool := j.string?.isSome

def fits (j : Json) : Shape → Bool
  | .text => isText j
  | .whole =>
    match j with
    | .integer n => -2 ^ 63 ≤ n && n < 2 ^ 63
    | _ => false
  | .texts => j.array?.any (·.all isText)
  | .labels => j.object?.any (·.all fun member => isText member.2)
  | .other => j.array?.isSome

end Shape

def metadataShapes : List (String × Shape) := [
  ("annotations", .labels), ("creationTimestamp", .text), ("deletionGracePeriodSeconds", .whole),
  ("deletionTimestamp", .text), ("finalizers", .texts), ("generateName", .text),
  ("generation", .whole), ("labels", .labels), ("managedFields", .other), ("name", .text),
  ("namespace", .text), ("ownerReferences", .other), ("resourceVersion", .text),
  ("selfLink", .text), ("uid", .text)]

def isNull : Json → Bool
  | .null => true
  | _ => false

def knownMembers? : List (String × Json) → Option (List (String × Json))
  | [] => some []
  | (name, j) :: ms =>
    match metadataShapes.lookup name with
    | none => knownMembers? ms
    | some shape => if isNull j || shape.fits j then (knownMembers? ms).map ((name, j) :: ·) else none

def metadata? (j : Json) : Option Json := do
  let members ← knownMembers? (← j.object?)
  some (.object ((Fields.ofList members).filter fun member => !isNull member.2))

def isTypeName (name : String) : Bool := name = "apiVersion" || name = "kind"

/-- The API version and the kind among members, and the other members. If they are not both there,
once each and as strings, the members that were looked at before that was known are left out. -/
def splitTypes (seen : List (String × Json)) :
    List (String × Json) → List (String × Json) × List (String × Json)
  | [] => (if seen.length = 2 then seen else [], [])
  | (name, j) :: ms =>
    if isTypeName name then
      if (seen.lookup name).isSome || !Shape.isText j then ([], ms)
      else splitTypes ((name, j) :: seen) ms
    else
      let (types, rest) := splitTypes seen ms
      (types, (name, j) :: rest)

def splitMetadata? (ms : List (String × Json)) : Option (Json × List (String × Json)) :=
  let rest := ms.filter (·.1 ≠ "metadata")
  match ms.filter (·.1 = "metadata") with
  | [] => some (.empty, rest)
  | [(_, j)] => (metadata? j).map (·, rest)
  | _ => none

def liveObject? (j : Json) : Option Json := do
  let (metadata, rest) ← splitMetadata? (← j.object?)
  let (types, rest) := splitTypes [] rest
  some (Json.sorted (.object (types ++ ("metadata", metadata) :: rest)))

end LiveAssert.Cluster
