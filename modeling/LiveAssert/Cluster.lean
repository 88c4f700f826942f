import LiveAssert.Cluster.LiveObject
import LiveAssert.Cluster.Request
import LiveAssert.Json.Reader
import LiveAssert.Literal
import LiveAssert.Poll.Fetch

/-!
Reading objects from a cluster: one request for each, and what its response says.
-/

namespace LiveAssert.Cluster

structure Response where
  status : Nat
  body : String

def isFailure (status : Nat) : Bool := 400 ≤ status && status < 600

def statusNames : List String := ["status", "message", "reason", "code"]

def isCode (j : Json) : Bool := j.nat?.any (· < 2 ^ 16)

def fitsStatus (name : String) (j : Json) : Bool :=
  if name = "code" then isCode j else j.string?.isSome

def statusCode? (members : List (String × Json)) : Option Nat :=
  let known := members.filter (statusNames.contains ·.1)
  if (known.map (·.1)).Nodup ∧ known.all (fun (name, j) => fitsStatus name j) ∧
      (known.lookup "status").isSome then
    (known.lookup "code").bind Json.nat?
  else none

def errorCode? (body : String) : Option Nat :=
  match Json.readUnsorted? body.toList with
  | some (.object members) => statusCode? members
  | some (.array items) =>
    if items.length = statusNames.length then statusCode? (statusNames.zip items) else none
  | _ => none

def unavailable (o : ObjectRef) : FetchError := .resolve (o.display ++ ": " ++ undisclosed)

/-- The object in a response. The code of a status in the body comes before that of the response. -/
def receive (o : ObjectRef) (r : Response) : Except FetchError Json :=
  if isFailure r.status then
    .error (if (errorCode? r.body).getD r.status = 404 then .notFound o.display else unavailable o)
  else
    match (Json.readUnsorted? r.body.toList).bind liveObject? with
    | some j => .ok j
    | none => .error (unavailable o)

def resolve (fallback : String) (response : Response) (o : ObjectRef) :
    List String × Except FetchError Json :=
  match requestPath? fallback o with
  | some path => ([path], receive o response)
  | none => ([], .error (unavailable o))

end LiveAssert.Cluster
